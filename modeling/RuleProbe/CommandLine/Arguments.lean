import RuleProbe.Numeral.Written
import RuleProbe.Stage.Task
import RuleProbe.Text.Basic

/-!
# Arguments

The arguments of a command are words and options in any order.  An option is known by its
full name or by a beginning that no other option shares; behind `--` all arguments are
words.  The words fill the slots of the command, and a slot may take all that follows.
-/

namespace RuleProbe

/-!
## Help pages

The pages that explain the command line and each of its stages.
-/

namespace Help

/-- A page of lines. -/
def page (lines : List String) : Text := lines.flatMap fun line => line.toList ++ ['\n']

/-- The page about the whole command line. -/
def overview : Text := page
  [
    "usage: rule-debug [-h] [--index INDEX]",
    "                  source \x7bsearch,detail,toc,content,explore,run\x7d ...",
    "",
    "Debug book and manga source rules",
    "",
    "positional arguments:",
    "  source                JSON file with one source definition or a list of them",
    "  \x7bsearch,detail,toc,content,explore,run\x7d",
    "    search              run the search stage",
    "    detail              run the detail stage on URL",
    "    toc                 run the toc stage on URL",
    "    content             run the content stage on URL",
    "    explore             run the explore stage (first entry when URL is",
    "                        omitted)",
    "    run                 search, then follow the first result down to its first",
    "                        chapter",
    "",
    "options:",
    "  -h, --help            show this help message and exit",
    "  --index INDEX         entry to use when the file holds a list"]

/-- The page about searching. -/
def search : Text := page
  [
    "usage: rule-debug source search [-h] [--page PAGE] keyword",
    "",
    "positional arguments:",
    "  keyword",
    "",
    "options:",
    "  -h, --help   show this help message and exit",
    "  --page PAGE"]

/-- The page about the details of a book. -/
def detail : Text := page
  [
    "usage: rule-debug source detail [-h] url",
    "",
    "positional arguments:",
    "  url",
    "",
    "options:",
    "  -h, --help  show this help message and exit"]

/-- The page about chapters. -/
def toc : Text := page
  [
    "usage: rule-debug source toc [-h] url",
    "",
    "positional arguments:",
    "  url",
    "",
    "options:",
    "  -h, --help  show this help message and exit"]

/-- The page about the content of a chapter. -/
def content : Text := page
  [
    "usage: rule-debug source content [-h] [--webview] url",
    "",
    "positional arguments:",
    "  url",
    "",
    "options:",
    "  -h, --help  show this help message and exit",
    "  --webview   render the page in a browser first"]

/-- The page about exploring. -/
def explore : Text := page
  [
    "usage: rule-debug source explore [-h] [url]",
    "",
    "positional arguments:",
    "  url",
    "",
    "options:",
    "  -h, --help  show this help message and exit"]

/-- The page about walking from a search to a chapter. -/
def run : Text := page
  [
    "usage: rule-debug source run [-h] [--webview] keyword",
    "",
    "positional arguments:",
    "  keyword",
    "",
    "options:",
    "  -h, --help  show this help message and exit",
    "  --webview"]

end Help

/-- What an option asks for. -/
inductive OptionUse where
  /-- The help page. -/
  | help
  /-- A number, which is the next argument. -/
  | number
  /-- Nothing further. -/
  | switch
  deriving DecidableEq, Inhabited

/-- What words fill. -/
inductive Slot where
  /-- One word. -/
  | one
  /-- A word that may be missing. -/
  | optional
  /-- A word and all arguments behind it. -/
  | rest
  deriving DecidableEq, Inhabited

/-- The form of a command. -/
structure CommandForm where
  /-- The options with what they ask for. -/
  options : Keyed OptionUse
  /-- The slots for words, in order. -/
  slots : List Slot
  deriving Inhabited

/-- Why a command is not carried out. -/
inductive Refusal where
  /-- It asks for its help page. -/
  | helpWanted (page : Text)
  /-- Its arguments are wrong. -/
  | wrong
  deriving DecidableEq, Inhabited

namespace CommandForm

variable (form : CommandForm)

/-! ## Classes of arguments -/

/-- The class of an argument. -/
inductive Class where
  /-- A word. -/
  | word
  /-- The mark behind which all arguments are words. -/
  | divider
  /-- An option with a value that is joined to it by an equals sign, if there is one. -/
  | option (use : OptionUse) (joined : Option Text)
  /-- An option of one letter with letters behind it. -/
  | letters (use : OptionUse) (rest : Text)
  /-- An option that is not known. -/
  | unknown
  deriving DecidableEq, Inhabited

/-- The mark behind which all arguments are words. -/
def dividerMark : Text := "--"

/-- The argument is a negative number. -/
def isNegativeNumber (argument : Text) : Bool :=
  match argument with
  | '-' :: number =>
      let isDigit := fun c : Char => Letter.isDecimal c.toNat
      let whole := number.takeWhile isDigit
      match number.drop whole.length with
      | [] => !whole.isEmpty
      | ['\n'] => !whole.isEmpty
      | '.' :: fraction =>
          let digits := fraction.takeWhile isDigit
          !digits.isEmpty &&
            (digits.length == fraction.length || fraction.drop digits.length == ['\n'])
      | _ => false
  | _ => false

/-- A name before an equals sign, and the value behind it, if there is one. -/
def cutValue (argument : Text) : Text × Option Text :=
  match Text.cut? ['='] argument with
  | some (name, value) => (name, some value)
  | none => (argument, none)

/-- The options that an argument may mean by the beginning of their names. -/
def candidates (argument : Text) : List Class :=
  if argument.startsWith dividerMark then
    let (name, value) := cutValue argument
    (form.options.filter fun entry => Text.startsWith entry.1 name).map fun entry =>
      .option entry.2 value
  else
    form.options.filterMap fun entry =>
      if entry.1 == argument.take 2 then some (.letters entry.2 (argument.drop 2))
      else if Text.startsWith entry.1 argument then some (.option entry.2 none)
      else none

/-- The class of an argument that is no known option by its full name. -/
def classOfOther (argument : Text) : Except Refusal Class :=
  match candidates form argument with
  | [found] => .ok found
  | [] =>
      if isNegativeNumber argument || argument.elem ' ' then .ok .word else .ok .unknown
  | _ => .error .wrong

/-- The class of an argument. -/
def classOf (argument : Text) : Except Refusal Class :=
  if !argument.startsWith ['-'] then .ok .word
  else
    match Keyed.get? form.options argument with
    | some use => .ok (.option use none)
    | none =>
        if argument.length == 1 then .ok .word
        else
          let (name, value) := cutValue argument
          match value, Keyed.get? form.options name with
          | some value, some use => .ok (.option use (some value))
          | _, _ => classOfOther form argument

/-- An argument with its class. -/
structure Argument where
  /-- The argument. -/
  text : Text
  /-- Its class. -/
  kind : Class
  deriving Inhabited

namespace Argument

/-- The argument is a word. -/
def isWord (argument : Argument) : Bool := argument.kind == .word

/-- The argument is the divider. -/
def isDivider (argument : Argument) : Bool := argument.kind == .divider

/-- The argument is an option. -/
def isOption (argument : Argument) : Bool := !argument.isWord && !argument.isDivider

end Argument

/-- The arguments with their classes. -/
def classify : List Text → Except Refusal (List Argument)
  | [] => .ok []
  | argument :: rest =>
      if argument == dividerMark then
        .ok (⟨argument, .divider⟩ :: rest.map fun word => ⟨word, .word⟩)
      else do
        let kind ← classOf form argument
        return ⟨argument, kind⟩ :: (← classify rest)

/-! ## Filling slots -/

/-- What the arguments of a command say. -/
structure Reading where
  /-- The number that was asked for last. -/
  number : Option Int := none
  /-- The switch is on. -/
  switched : Bool := false
  /-- The words in the slots for one word. -/
  words : List Text := []
  /-- The word and the arguments in the slot for all of them. -/
  command : Option (List Text) := none
  /-- The slots that are still empty. -/
  empty : List Slot
  /-- Some arguments have no use. -/
  surplus : Bool := false
  deriving Inhabited

/-- The number of dividers at the beginning of some arguments. -/
def dividers (arguments : List Argument) : Nat :=
  (arguments.takeWhile Argument.isDivider).length

/-- The number of arguments that a slot takes; nothing when they do not suit it. -/
def taken? (slot : Slot) (arguments : List Argument) : Option Nat :=
  let before := dividers arguments
  match slot, arguments.drop before with
  | .one, word :: rest => if word.isWord then some (before + 1 + dividers rest) else none
  | .one, [] => none
  | .rest, word :: rest => if word.isWord then some (before + 1 + rest.length) else none
  | .rest, [] => none
  | .optional, word :: rest =>
      some (if word.isWord then before + 1 + dividers rest else before)
  | .optional, [] => some before

/-- Fill some slots, each with the arguments behind those of the one before. -/
def takeAll? : List Slot → List Argument → Option (List (Slot × List Argument))
  | [], _ => some []
  | slot :: slots, arguments => do
      let count ← taken? slot arguments
      let others ← takeAll? slots (arguments.drop count)
      pure ((slot, arguments.take count) :: others)

/-- Fill as many slots as can be filled together. -/
def takeMost (slots : List Slot) : Nat → List Argument → List (Slot × List Argument)
  | 0, _ => []
  | count + 1, arguments =>
      match takeAll? (slots.take (count + 1)) arguments with
      | some found => found
      | none => takeMost slots count arguments

/-- Note what fills a slot. -/
def fillSlot (reading : Reading) (filled : Slot × List Argument) : Reading :=
  let texts := filled.2.map Argument.text
  match filled.1 with
  | .rest => { reading with command := some texts }
  | _ => { reading with words := reading.words ++ texts.erase dividerMark }

/-- Fill slots with the arguments at the beginning: what is then known, and the arguments
that are left. -/
def fillSlots (reading : Reading) (arguments : List Argument) : Reading × List Argument :=
  let filled := takeMost reading.empty reading.empty.length arguments
  let reading := { filled.foldl fillSlot reading with empty := reading.empty.drop filled.length }
  (reading, arguments.drop (filled.flatMap fun entry => entry.2).length)

/-! ## Following options -/

variable (helpPage : Text)

/-- Note a number. -/
def readNumber (reading : Reading) (text : Text) : Except Refusal Reading :=
  match Integer.read? text with
  | some n => .ok { reading with number := some n }
  | none => .error .wrong

/-- Follow an option, given the arguments behind it: what is then known, and the arguments
that are left. -/
def follow (reading : Reading) (use : OptionUse) (joined : Option Text)
    (arguments : List Argument) : Except Refusal (Reading × List Argument) :=
  match use, joined with
  | .help, none => .error (.helpWanted helpPage)
  | .switch, none => .ok ({ reading with switched := true }, arguments)
  | .number, some text => (readNumber reading text).map fun reading => (reading, arguments)
  | .number, none =>
      match arguments with
      | next :: rest =>
          if next.isWord then (readNumber reading next.text).map fun reading => (reading, rest)
          else .error .wrong
      | [] => .error .wrong
  | _, some _ => .error .wrong

/-- Follow an option of one letter with more letters behind it. -/
def followLetters (reading : Reading) (use : OptionUse) (rest : Text)
    (arguments : List Argument) : Except Refusal (Reading × List Argument) :=
  if use == .number then follow helpPage reading use (some rest) arguments
  else if rest.startsWith ['-'] then .error .wrong
  else follow helpPage reading use none arguments

/-- Follow an argument that is an option. -/
def followOption (reading : Reading) (argument : Argument) (arguments : List Argument) :
    Except Refusal (Reading × List Argument) :=
  match argument.kind with
  | .option use joined => follow helpPage reading use joined arguments
  | .letters use rest => followLetters helpPage reading use rest arguments
  | _ => .ok ({ reading with surplus := true }, arguments)

/-- Read arguments; `fuel` bounds the number of steps. -/
def readFrom : Nat → Reading → List Argument → Except Refusal Reading
  | 0, reading, _ => .ok reading
  | fuel + 1, reading, arguments =>
      if !arguments.any Argument.isOption then
        let (reading, left) := fillSlots reading arguments
        .ok { reading with surplus := reading.surplus || !left.isEmpty }
      else
        match arguments with
        | [] => .ok reading
        | argument :: rest =>
            if argument.isOption then
              (followOption helpPage reading argument rest).bind fun (reading, left) =>
                readFrom fuel reading left
            else
              let (filled, left) := fillSlots reading arguments
              if left.length < arguments.length then readFrom fuel filled left
              else
                -- No slot takes these words.
                readFrom fuel { filled with surplus := true }
                  (arguments.dropWhile fun argument => !argument.isOption)

/-- Read the arguments of a command. -/
def read (arguments : List Text) : Except Refusal Reading := do
  let classified ← classify form arguments
  let reading ← readFrom helpPage (2 * arguments.length + 1) { empty := form.slots } classified
  if reading.empty.all (· == .optional) then return reading else throw .wrong

end CommandForm

/-! ## The command line -/

/-- What the command line asks for. -/
inductive Errand where
  /-- One task. -/
  | task (task : Task)
  /-- A walk from a search to the content of a chapter. -/
  | walk (keyword : Text) (rendered : Bool)
  deriving Inhabited

/-- A command line. -/
structure Invocation where
  /-- The path of the file with the definition. -/
  path : Text
  /-- The position of the definition, when the file holds several. -/
  index : Int
  /-- What is asked for. -/
  errand : Errand
  deriving Inhabited

namespace Invocation

/-- Options with the one for help before them. -/
def withHelp (options : Keyed OptionUse) : Keyed OptionUse :=
  [("-h".toList, .help), ("--help".toList, .help)] ++ options

/-- The form of the command line. -/
def form : CommandForm := ⟨withHelp [("--index", .number)], [.one, .rest]⟩

/-- The form of a search. -/
def searchForm : CommandForm := ⟨withHelp [("--page", .number)], [.one]⟩

/-- The form of a stage that needs only an address. -/
def addressForm : CommandForm := ⟨withHelp [], [.one]⟩

/-- The form of a stage that needs a word and may use a browser. -/
def browserForm : CommandForm := ⟨withHelp [("--webview", .switch)], [.one]⟩

/-- The form of exploring. -/
def exploreForm : CommandForm := ⟨withHelp [], [.optional]⟩

/-- The only word of a stage, empty when there is none. -/
def word (reading : CommandForm.Reading) : Text := reading.words.headD []

/-- What a stage and its arguments ask for, and whether some of them have no use. -/
def errandOf (stage : Text) (arguments : List Text) : Except Refusal (Errand × Bool) := do
  match String.ofList stage with
  | "search" =>
      let reading ← searchForm.read Help.search arguments
      return (.task (.search (word reading) (reading.number.getD 1)), reading.surplus)
  | "detail" =>
      let reading ← addressForm.read Help.detail arguments
      return (.task (.detail (word reading) .null), reading.surplus)
  | "toc" =>
      let reading ← addressForm.read Help.toc arguments
      return (.task (.chapters (word reading) .null), reading.surplus)
  | "content" =>
      let reading ← browserForm.read Help.content arguments
      return (.task (.content (word reading) .null .null reading.switched), reading.surplus)
  | "explore" =>
      let reading ← exploreForm.read Help.explore arguments
      return (.task (.explore (word reading)), reading.surplus)
  | "run" =>
      let reading ← browserForm.read Help.run arguments
      return (.walk (word reading) reading.switched, reading.surplus)
  | _ => throw .wrong

/-- Read a command line. -/
def ofArguments (arguments : List Text) : Except Refusal Invocation := do
  let reading ← form.read Help.overview arguments
  match reading.words, reading.command with
  | [path], some (stage :: rest) =>
      let (errand, surplus) ← errandOf stage rest
      if surplus || reading.surplus then throw .wrong
      return ⟨path, reading.number.getD 0, errand⟩
  | _, _ => throw .wrong

end Invocation

end RuleProbe
