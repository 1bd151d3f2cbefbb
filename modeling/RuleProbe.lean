import RuleProbe.Rule.Dialect
import RuleProbe.Rule.Operator
import RuleProbe.Rule.Replace
import RuleProbe.Rule.Index
import RuleProbe.Rule.Directive
import RuleProbe.Chain.Evaluate
import RuleProbe.Charset.Bytes
import RuleProbe.Charset.Big5Table
import RuleProbe.Charset.ByteTable
import RuleProbe.Charset.Codec
import RuleProbe.Charset.TextCodec
import RuleProbe.CommandLine
import RuleProbe.Main
import RuleProbe.Proofs.Evaluation.Joined
import RuleProbe.Proofs.Evaluation.Values
import RuleProbe.Proofs.Stage.Histories
import RuleProbe.Proofs.Http
import RuleProbe.Proofs.Evaluation.Unmarked
import RuleProbe.Proofs.Stage.Keyword
import RuleProbe.Proofs.Evaluation.FailedScript
import RuleProbe.Proofs.Stage.Journey
import RuleProbe.Proofs.Stage.Handover
import RuleProbe.Proofs.Script.Deposits
import RuleProbe.Proofs.Stage.Calls
import RuleProbe.Proofs.Stage.ChapterPage
import RuleProbe.Proofs.Stage.Items
import RuleProbe.Proofs.Evaluation.Variables
import RuleProbe.Proofs.Index.Recognised
import RuleProbe.Proofs.ScriptLayout
import RuleProbe.Proofs.Chain.Order
import RuleProbe.Proofs.Chain.Spelling
import RuleProbe.Proofs.Evaluation.Modes
import RuleProbe.Proofs.Evaluation.EmptyTexts
import RuleProbe.Proofs.Evaluation.Lines
import RuleProbe.Proofs.Evaluation.JsonText
import RuleProbe.Proofs.FlatRule
import RuleProbe.Proofs.Stage.SearchAddress
import RuleProbe.Proofs.RoundRobin
import RuleProbe.Proofs.JsonBalance
import RuleProbe.Proofs.Template.Options
import RuleProbe.Proofs.Filter
import RuleProbe.Proofs.Paragraph
import RuleProbe.Proofs.Resolution
import RuleProbe.Proofs.Stage.Parameters
import RuleProbe.Proofs.Image
import RuleProbe.Proofs.Script.TextCodec
import RuleProbe.Proofs.Script.Digest
import RuleProbe.Proofs.Http.DataAddress
import RuleProbe.Proofs.Http.PageCharset
