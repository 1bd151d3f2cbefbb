import RuleProbe.Text.Blank

/-!
# Elements that close each other

In a mended document some start tags end the open element before they begin their own:
an item of a list ends the item before it, and a block ends a paragraph.  An end tag
closes the elements inside the one that it names, unless one of these outranks it.
-/

namespace RuleProbe

namespace Mended

/-- The words of a list of names. -/
def names (list : String) : List Text := Text.words list.toList

/-- The start tags that end a heading. -/
def headingClosers : List Text := names "fieldset form li p table"

/-- The start tags that end text that keeps its blanks. -/
def preformattedClosers : List Text := names "dd dl dt fieldset form li table ul"

/-- The start tags that end the columns of a table. -/
def columnClosers : List Text := names "col colgroup tbody tfoot thead tr"

/-- The start tags that end a cell. -/
def cellClosers : List Text := names "tbody td tfoot th tr"

/-- The start tags that end the head of a document. -/
def headClosers : List Text :=
  names ("a abbr acronym address b bdo big blockquote body br center cite code dd dfn dir "
    ++ "div dl dt em fieldset font form frameset h1 h2 h3 h4 h5 h6 hr i iframe img kbd li "
    ++ "listing map menu ol p pre q s samp small span strike strong sub sup table tt u ul "
    ++ "var xmp")

/-- The start tags that end a paragraph. -/
def paragraphClosers : List Text :=
  names ("address blockquote body caption center col colgroup dd dir div dl dt frameset "
    ++ "h1 h2 h3 h4 h5 h6 head hr li listing menu ol p pre table tbody td tfoot th title "
    ++ "tr ul xmp")

/-- The start tags that end an open element, by its name. -/
def closers : List (Text × List Text) :=
  [ ("a".toList, names "a fieldset table td th"),
    ("address".toList, names "dd dl dt form li ul"),
    ("b".toList, names "center p td th"),
    ("big".toList, names "p"),
    ("caption".toList, columnClosers),
    ("col".toList, columnClosers),
    ("colgroup".toList, names "colgroup tbody tfoot thead tr"),
    ("dd".toList, names "dt"),
    ("dir".toList, names "dd dl dt form ul"),
    ("dl".toList, names "form li"),
    ("dt".toList, names "dd dl"),
    ("font".toList, names "center td th"),
    ("form".toList, names "form"),
    ("h1".toList, headingClosers),
    ("h2".toList, headingClosers),
    ("h3".toList, headingClosers),
    ("h4".toList, headingClosers),
    ("h5".toList, headingClosers),
    ("h6".toList, headingClosers),
    ("head".toList, headClosers),
    ("hr".toList, names "form"),
    ("i".toList, names "center"),
    ("li".toList, names "li"),
    ("legend".toList, names "fieldset"),
    ("link".toList, names "body frameset"),
    ("listing".toList, preformattedClosers),
    ("menu".toList, names "dd dl dt form ul"),
    ("ol".toList, names "form"),
    ("option".toList, names "optgroup option"),
    ("p".toList, paragraphClosers),
    ("pre".toList, preformattedClosers),
    ("s".toList, names "p"),
    ("script".toList, names "noscript"),
    ("small".toList, names "p"),
    ("span".toList, names "td th"),
    ("strike".toList, names "p"),
    ("style".toList, names "body frameset"),
    ("tbody".toList, names "tbody tfoot"),
    ("td".toList, cellClosers),
    ("tfoot".toList, names "tbody"),
    ("th".toList, cellClosers),
    ("thead".toList, names "tbody tfoot"),
    ("title".toList, names "body frameset"),
    ("tr".toList, names "tbody tfoot tr"),
    ("tt".toList, names "p"),
    ("u".toList, names "p td th"),
    ("ul".toList, names "address form menu pre"),
    ("xmp".toList, preformattedClosers) ]

/-- A start tag ends an open element. -/
def closes (start opened : Text) : Bool :=
  match closers.lookup opened with
  | some starts => starts.elem start
  | none => false

/-- The number of innermost open elements that a start tag ends. -/
def closedBy (start : Text) (opened : List Text) : Nat :=
  (opened.takeWhile (closes start)).length

/-- The rank of an element against end tags of elements around it. -/
def rank (name : Text) : Nat :=
  match String.ofList name with
  | "div" => 150
  | "td" => 160
  | "th" => 160
  | "tr" => 170
  | "thead" => 180
  | "tbody" => 180
  | "tfoot" => 180
  | "table" => 190
  | "head" => 200
  | "body" => 200
  | "html" => 220
  | _ => 100

/-- The number of innermost open elements that an end tag ends: nothing when the
element is not open, or when one inside it outranks it. -/
def endedBy (stop : Text) (opened : List Text) : Nat :=
  let inside := opened.takeWhile fun name => name != stop
  if inside.length < opened.length && inside.all fun name => rank name ≤ rank stop then
    inside.length + 1
  else 0

/-- The elements that have no content. -/
def voidNames : List Text :=
  names "area base basefont br col frame hr img input isindex link meta param"

/-- The attributes that are either there or not, and are written without a value. -/
def flagNames : List Text :=
  names ("checked compact declare defer disabled ismap multiple nohref noresize noshade "
    ++ "nowrap readonly selected")

/-- The elements that a document keeps in its head. -/
def headNames : List Text := names "script style meta link title base"

/-- The elements whose content is taken as it stands. -/
def rawNames : List Text := names "style script xmp iframe noembed noframes"

/-- The elements whose content is text with references. -/
def plainNames : List Text := names "title textarea"

end Mended

end RuleProbe
