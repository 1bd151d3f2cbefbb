import RuleProbe.Fault
import RuleProbe.Json.Reader
import RuleProbe.Json.Value
import RuleProbe.Json.Writer
import RuleProbe.Rule.Directive
import RuleProbe.Text.Basic
import RuleProbe.Text.Blank

/-!
# Sources

A source is a JSON object whose texts are rules, templates of addresses and lists of pages to
explore.  This module reads the files in which definitions of sources stand, and takes apart what
stands in a definition before it is evaluated.
-/

namespace RuleProbe

/-!
## Entries of a catalogue

A source lists pages to explore as entries `title::address`, one a line, or joined by
`&&`.  An entry without a title is an address.
-/

/-- A page to explore. -/
structure Entry where
  /-- The title, which may be empty. -/
  title : Text
  /-- The address. -/
  url : Text
  deriving DecidableEq, Inhabited

namespace Entry

/-- What stands between a title and an address. -/
def divider : Text := "::"

/-- The entry of a text, blanks around it dropped; none when nothing is left. -/
def ofText? (text : Text) : Option Entry :=
  let text := text.trim
  if text.isEmpty then none
  else
    match Text.cut? divider text with
    | some (title, url) => some ⟨title.trim, url.trim⟩
    | none => some ⟨[], text⟩

/-- The entries of a text. -/
def ofTexts (text : Text) : List Entry :=
  ((Text.splitWhere (· == '\n') [] text).flatMap (Text.splitOn "&&")).filterMap ofText?

end Entry

/-!
## Rules of sources

Some rules of a source are changed before they are evaluated: a rule for markup that
finds nothing is tried again for text, and a rule of a manga source loses the headers it
ends in and all its lines but the first.
-/

namespace SourceRule

/-! ### Rules for text -/

/-- The names under which a rule asks for markup, in small letters. -/
def markupNames : List Text :=
  ["html".toList, "innerhtml".toList, "textnodes".toList, "owntext".toList]

/-- A rule may end here, but for a filter. -/
def endsHere (text : Text) : Bool := text.startsWith "##" || text.isBlankText

/-- The length of a request for markup at the beginning of a text. -/
def markupLength? (text : Text) : Option Nat :=
  match text with
  | '@' :: rest =>
      (markupNames.find? fun name =>
        Text.beginsFolded rest name && endsHere (rest.drop name.length)).map fun name =>
          name.length + 1
  | _ => none

/-- A rule that asks for text instead of markup; nothing when it does so already. -/
def forText? (rule : Text) : Option Text :=
  let changed :=
    Text.rewrite (fun text => (markupLength? text).map fun n => ("@text".toList, n)) rule
  if changed == rule then none else some changed

/-! ### Answers -/

/-- The texts that deny. -/
def denials : List Text :=
  [[], "false".toList, "0".toList, "null".toList, "undefined".toList]

/-- A text affirms. -/
def affirms : Option Text → Bool
  | some text => !denials.elem (Text.lower text.trim)
  | none => false

/-! ### Flat rules -/

/-- A rule without the headers it ends in, cut to its first line, and the headers. -/
def withoutHeaders (rule : Text) : Text × Keyed Text :=
  let (rule, headers) := Directive.splitHeaders rule
  (Directive.firstLine rule, headers)

end SourceRule

/-!
## Templates of addresses

The template of an address may offer one text for each page, `<first,second,…>`, end in
options that are written as a JSON object behind a comma, and name the key and the page
between doubled braces.
-/

namespace AddressTemplate

/-! ### Texts for pages -/

/-- The texts of `<…,…>` at the beginning of a text, and the length of the whole; there
are at least two of them, and no angle bracket stands inside. -/
def choices? (text : Text) : Option (List Text × Nat) :=
  match text with
  | '<' :: rest =>
      let inside := rest.takeWhile fun c => c != '<' && c != '>'
      match rest.drop inside.length with
      | '>' :: _ =>
          if inside.elem ',' then
            some ((Text.splitWhere (· == ',') [] inside).map Text.trim, inside.length + 2)
          else none
      | _ => none
  | _ => none

/-- The text for a page: the last one stands for all pages behind it. -/
def choose (page : Int) (texts : List Text) : Text :=
  (texts[(min (max page 1) texts.length - 1).toNat]?).getD []

/-- The template for a page. -/
def forPage (page : Int) (template : Text) : Text :=
  Text.rewrite
    (fun text => (choices? text).map fun found => (choose page found.1, found.2)) template

/-! ### Options -/

/-- Options begin like an object, but not like a placeholder. -/
def beginsOptions (text : Text) : Bool :=
  text.startsWith ['\x7b'] && !text.startsWith ['\x7b', '\x7b']

/-- The options, with all that follows, when nothing but blanks stands before them. -/
def optionsAfter? (text : Text) : Option Text :=
  let rest := text.trimLeft
  if beginsOptions rest then some rest else none

/-- The members of a text that is a JSON object; nothing when it is none. -/
def object? (text : Text) : Except Fault (Option Json.Members) :=
  match Json.read text with
  | .ok (.obj members) => .ok (some members)
  | .ok _ => .ok none
  | .error .malformed => .ok none
  | .error .integerTooLong => .error (.defect (.longInteger text))
  | .error .tooDeep => .error (.defect (.deepNesting text))

/-- The address before the first comma that options follow, given what stands before in
reverse order, and the options. -/
def findOptions : Text → Text → Except Fault (Option (Text × Json.Members))
  | _, [] => .ok none
  | before, c :: rest => do
      let found ←
        if c == ',' then
          match optionsAfter? rest with
          | some text => object? text.trim
          | none => .ok none
        else .ok none
      match found with
      | some options => .ok (some (Text.trim before.reverse, options))
      | none => findOptions (c :: before) rest

/-- A template without its options, and the options. -/
def splitOptions (template : Text) : Except Fault (Text × Json.Members) :=
  (findOptions [] template).map fun found => found.getD (template, [])

/-! ### Placeholders -/

/-- The length of a placeholder for a name at the beginning of a text. -/
def placeholderLength? (name text : Text) : Option Nat := do
  let rest ← Text.dropStart? text ['\x7b', '\x7b']
  let rest ← Text.dropStart? rest.trimLeft name
  let rest ← Text.dropStart? (Text.trimLeft rest) ['\x7d', '\x7d']
  pure (text.length - rest.length)

/-- A text with a value in place of every placeholder for a name. -/
def fill (name value text : Text) : Text :=
  Text.rewrite (fun text => (placeholderLength? name text).map fun n => (value, n)) text

end AddressTemplate

/-!
## Files of definitions

A file holds the definition of a source, or an array of definitions, one of which is
picked by its position.
-/

namespace Definition

/-- Why a definition cannot be read. -/
inductive LoadError where
  /-- There is no such file. -/
  | noFile
  /-- The file does not hold JSON. -/
  | notJson
  /-- A number of the file is too long, or its values are nested too deeply. -/
  | tooLarge (kind : Defect)
  /-- The file holds an empty array. -/
  | emptyList
  /-- There is no definition at the position, but positions up to `last`. -/
  | outOfRange (index : Int) (last : Nat)
  /-- The file holds something else. -/
  | noDefinition
  deriving DecidableEq, Inhabited

namespace LoadError

/-- The name under which an error is reported. -/
def name : LoadError → Text
  | noFile => "FileNotFoundError"
  | notJson => "JSONDecodeError"
  | tooLarge kind => kind.name
  | emptyList => "ValueError"
  | outOfRange _ _ => "ValueError"
  | noDefinition => "ValueError"

/-- The wording of an error about the file at a path, where it has one. -/
def message? (path : Text) : LoadError → Option Text
  | emptyList => some (path ++ " holds an empty list".toList)
  | outOfRange index last =>
      some ("--index ".toList ++ Integer.write index ++ " is out of range (0-".toList ++
        Integer.writeNat last ++ ")".toList)
  | noDefinition => some (path ++ " does not hold a source definition".toList)
  | _ => none

end LoadError

/-- The item at a position of an array; any other value is itself. -/
def pick (index : Int) (value : Json) : Except LoadError Json :=
  match value with
  | .arr [] => .error .emptyList
  | .arr items =>
      if index < 0 then .error (.outOfRange index (items.length - 1))
      else
        match items[index.toNat]? with
        | some item => .ok item
        | none => .error (.outOfRange index (items.length - 1))
  | value => .ok value

/-- The definition in the text of a file, which may be missing. -/
def load (content : Option Text) (index : Int) : Except LoadError Json.Members := do
  match content with
  | none => throw .noFile
  | some text =>
      let value ←
        match Json.read text with
        | .ok value => pure value
        | .error .malformed => throw .notJson
        | .error .integerTooLong => throw (.tooLarge (.longInteger text))
        | .error .tooDeep => throw (.tooLarge (.deepNesting text))
      match ← pick index value with
      | .obj members => return members
      | _ => throw .noDefinition

end Definition

/-!
### Kinds of sources

A definition describes a source of books or one of manga.  Which of the two it is can be
told from the entries that only one kind has.
-/

/-- The kinds of sources. -/
inductive SourceKind where
  /-- A source of books, with nested groups of rules. -/
  | book
  /-- A source of manga, with flat rules. -/
  | manga
  deriving DecidableEq, Inhabited

namespace SourceKind

/-- The name of a kind. -/
def name : SourceKind → Text
  | book => "book"
  | manga => "manga"

/-- The entries that only sources of books have. -/
def bookEntries : List Text :=
  ["ruleSearch".toList, "ruleExplore".toList, "ruleBookInfo".toList, "ruleToc".toList,
    "ruleContent".toList, "searchUrl".toList, "exploreUrl".toList]

/-- The entries that only sources of manga have. -/
def mangaEntries : List Text :=
  ["ruleSearchUrl".toList, "ruleSearchList".toList, "ruleSearchName".toList,
    "ruleSearchNoteUrl".toList, "ruleBookContent".toList, "ruleFindUrl".toList,
    "ruleChapterUrl".toList, "ruleIntroduce".toList, "bookSingleThread".toList,
    "httpUserAgent".toList]

/-- A value says something: it is neither null nor an empty text, array or object. -/
def isSet : Json → Bool
  | .null => false
  | .str text => !text.isEmpty
  | .arr items => !items.isEmpty
  | .obj members => !members.isEmpty
  | _ => true

/-- The number of entries among some names that a definition sets. -/
def hits (definition : Json.Members) (names : List Text) : Nat :=
  names.countP fun name => ((Keyed.get? definition name).map isSet).getD false

/-- The kind of a definition; one that speaks for both kinds alike is taken for a source
of books. -/
def ofDefinition (definition : Json.Members) : SourceKind :=
  if hits definition bookEntries < hits definition mangaEntries then manga else book

end SourceKind

end RuleProbe
