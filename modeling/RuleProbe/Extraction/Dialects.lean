import RuleProbe.Chain.Evaluate
import RuleProbe.Extraction.Context
import RuleProbe.JsonPath.Evaluate
import RuleProbe.Rule.Replace
import RuleProbe.Url
import RuleProbe.XPath.Evaluate

/-!
# Evaluating single rules

A rule of one dialect is evaluated on what is at hand: in the view of its document that
the dialect reads, or, for a handle of another kind, on the markup of the handle read
anew.  Asked for a list, a rule gives handles; otherwise it gives values.
-/

namespace RuleProbe

namespace Extraction

/-- Texts as results. -/
def texts (items : List Text) : List Found := items.map fun text => .plain (.str text)

/-! ## Chains -/

/-- The tree on which a chain works, the node from which it starts, and whether the node
is an element at hand. -/
def chainStart (context : Context) : Except Fault (Markup.Tree × Nat × Bool) :=
  match context.handle? with
  | none => context.document.tree.map fun tree => (tree, 0, false)
  | some handle =>
      match handle.target with
      | .node tree i => .ok (tree, i, true)
      | .mended document i => do
          let tree ← Markup.read (document.markup i)
          match tree.elements 0 with
          | first :: _ => .ok (tree, first, true)
          | [] => .ok (tree, 0, false)
      | _ => (Markup.read handle.markup).map fun tree => (tree, 0, false)

/-- Evaluate a chain. -/
def evaluateChain (context : Context) (chain : Text) (asList : Bool) :
    Except Fault (List Found) := do
  let (tree, start, fromElement) ← chainStart context
  match ← Chain.evaluate tree [start] chain ⟨context.baseUrl, !asList, fromElement⟩ with
  | .nodes nodes =>
      .ok (nodes.map fun i => .handle ⟨context.document.serial, .node tree i⟩)
  | .texts found =>
      .ok (if asList then Found.wrap context.document.serial (texts found) else texts found)

/-! ## Paths into documents -/

/-- The text of a place, an address completed. -/
def placeText (context : Context) (document : Mended.Document) (place : XPath.Place) :
    Except Fault Text :=
  let text := Text.trim (place.text document)
  match place.attribute? document with
  | some (name, _) =>
      if name == "href".toList || name == "src".toList then Url.resolve text context.baseUrl
      else .ok text
  | none => .ok text

/-- A place is a node of its own, and not text. -/
def isNode (document : Mended.Document) (place : XPath.Place) : Bool :=
  place.entry.isNone &&
    match document.tree.text? place.node with
    | some (kind, _) => kind == .comment
    | none => true

/-- The results at a place: a handle for a node in a list, or else its text unless it is
empty.  The document itself gives nothing. -/
def placeFound (context : Context) (document : Mended.Document) (asList : Bool)
    (place : XPath.Place) : Except Fault (List Found) :=
  if place == .ofNode 0 then .ok []
  else if isNode document place then
    if asList then .ok [.handle ⟨context.document.serial, .mended document place.node⟩]
    else
      let text := Text.trim (document.textOf place.node)
      .ok (if text.isEmpty then [] else texts [text])
  else do
    let text ← placeText context document place
    .ok (if text.isEmpty then [] else texts [text])

/-- The results at places. -/
def placesFound (context : Context) (document : Mended.Document) (asList : Bool) :
    List XPath.Place → Except Fault (List Found)
  | [] => .ok []
  | place :: rest => do
      let first ← placeFound context document asList place
      let others ← placesFound context document asList rest
      .ok (first ++ others)

/-- The results of a value that is no set of places. -/
def scalarFound (value : XPath.Value) : List Found :=
  let written : Json :=
    match value with
    | .number value => .float value
    | .truth value => .bool value
    | .text value => .str value
    | .places _ => .null
  let text := Text.trim written.fieldText
  if text.isEmpty then [] else texts [text]

/-- A character that a document can hold. -/
def isDocumentChar (c : Char) : Bool :=
  c == '\t' || c == '\n' || c == '\r' ||
    (32 ≤ c.toNat && c.toNat != 0xfffe && c.toNat != 0xffff)

/-- Evaluate a path into a document. -/
def evaluateXPath (context : Context) (expression : Text) (asList : Bool) :
    Except Fault (List Found) :=
  let page? :=
    match context.handle? with
    | none => context.document.page
    | some handle => Mended.Page.read? handle.markup
  match page? with
  | none => .ok []
  | some page =>
      if !expression.all isDocumentChar then .error (.defect (.strayCharacter expression))
      else
        let document := page.document
        let value? :=
          (XPath.read? expression).bind fun path =>
            XPath.evaluate path ⟨document, .ofNode page.start, 1, 1⟩
        match value? with
        | none => .error (.rule (.xpath expression))
        | some (.places places) => do
            let found ← placesFound context document asList places
            .ok (if asList then Found.wrap context.document.serial found else found)
        | some value =>
            let found := scalarFound value
            .ok (if asList then Found.wrap context.document.serial found else found)

/-! ## Paths into JSON values -/

/-- The value that has been read of a text, or the text itself when it is not JSON. -/
def valueOrText (text : Text) (read : Except Defect (Option Json)) : Except Fault Json :=
  match read with
  | .ok (some value) => .ok value
  | .ok none => .ok (.str text)
  | .error defect => .error (.defect defect)

/-- The value into which paths lead: JSON when what is at hand is JSON, or else its
text. -/
def jsonContent (context : Context) : Except Fault Json :=
  match context.handle? with
  | none => valueOrText context.document.body context.document.json
  | some handle =>
      match handle.target with
      | .value (.str text) => valueOrText text (readJson text)
      | .value value => .ok value
      | _ => valueOrText handle.markup (readJson handle.markup)

/-- A value counts as a result. -/
def isResult : Json → Bool
  | .null => false
  | .str [] => false
  | _ => true

/-- Evaluate a path into a JSON value. -/
def evaluateJsonPath (context : Context) (path : Text) (asList : Bool) :
    Except Fault (List Found) := do
  let content ← jsonContent context
  match JsonPath.read? path with
  | none => .error (.rule (.jsonPath path))
  | some parsed =>
      match JsonPath.find parsed content with
      | none => .error (.rule (.jsonPathFailed path))
      | some values =>
          let values :=
            match values with
            | [.arr items] => items
            | values => values
          let found := (values.filter isResult).map Found.plain
          .ok (if asList then Found.wrap context.document.serial found else found)

/-! ## Regular expressions -/

/-- The text that a match gives: its first group, or the whole match when there is
none. -/
def matchText (pattern : Pattern) (subject : Pattern.Subject) (found : Pattern.Match) : Text :=
  if pattern.groupCount == 0 then found.text subject else (found.group? subject 1).getD []

/-- Evaluate a regular expression. -/
def evaluateRegex (context : Context) (notation_ : Text) (asList : Bool) :
    Except Fault (List Found) := do
  let pattern ← RuleRegex.compile {} notation_
  let subject := Pattern.subjectOf context.content
  let found := Pattern.matchesIn pattern subject
  if asList then
    .ok (found.map fun found =>
      .handle ⟨context.document.serial, .groups (found.groups subject)⟩)
  else
    .ok (texts ((found.map (matchText pattern subject)).filter fun text => !text.isEmpty))

/-! ## Filters -/

/-- Filter results: texts that become empty are dropped, and what has no text of its own
is left alone. -/
def filterFound (serial : Nat) (filter : Option ReplaceFilter) :
    List Found → Except Fault (List Found)
  | [] => .ok []
  | found :: rest => do
      let kept : List Found ←
        match found with
        | .handle handle => do
            if handle.isOpaque then pure [.handle handle]
            else
              let text ← ReplaceFilter.applyOptional filter handle.text
              pure (if text.isEmpty then [] else [.handle ⟨serial, .value (.str text)⟩])
        | .plain value => do
            let text ← ReplaceFilter.applyOptional filter value.fieldText
            pure (if text.isEmpty then [] else [.plain (.str text)])
      let others ← filterFound serial filter rest
      .ok (kept ++ others)

/-- Filter the texts of results. -/
def filterTexts (filter : Option ReplaceFilter) : List Found → Except Fault (List Found)
  | [] => .ok []
  | found :: rest => do
      let text ← ReplaceFilter.applyOptional filter found.text
      let others ← filterTexts filter rest
      .ok (if text.isEmpty then others else .plain (.str text) :: others)

end Extraction

end RuleProbe
