import RuleProbe.Charset.Bytes
import RuleProbe.Fault
import RuleProbe.Numeral.Written
import RuleProbe.Text.Case

/-!
# Addresses and where they lead

An address is read in its parts, and an address that was found on a page is resolved at that of the
page.
-/

namespace RuleProbe

/-!
## Addresses

An address falls into a scheme, an authority, a path with parameters, a query and a
fragment.  An authority whose brackets do not enclose a numeric address is refused, and
so is one whose letters stand for a separator in disguise.
-/

/-- An address in its parts; a part that is missing is empty. -/
structure Url where
  /-- The scheme, in lower case. -/
  scheme : Text
  /-- The host, with what stands around it. -/
  authority : Text
  /-- The path. -/
  path : Text
  /-- The parameters of the last part of the path. -/
  params : Text
  /-- The query. -/
  query : Text
  /-- The fragment. -/
  fragment : Text
  deriving DecidableEq, Inhabited

namespace Url

/-! ### Schemes -/

/-- A letter of the basic alphabet. -/
def isLetter (c : Char) : Bool := Letter.isAsciiLetter c.toNat

/-- A digit in base ten. -/
def isDigit (c : Char) : Bool := Letter.isAsciiDigit c.toNat

/-- A digit in base sixteen. -/
def isHexDigit (c : Char) : Bool :=
  isDigit c || (97 ≤ c.toNat && c.toNat ≤ 102) || (65 ≤ c.toNat && c.toNat ≤ 70)

/-- A character that may stand in a scheme. -/
def isSchemeChar (c : Char) : Bool :=
  isLetter c || isDigit c || c == '+' || c == '-' || c == '.'

/-- The scheme of an address, in lower case, and what follows the colon. -/
def splitScheme (text : Text) : Text × Text :=
  match text with
  | c :: _ =>
      if isLetter c then
        match text.dropWhile isSchemeChar with
        | ':' :: rest => (Text.lower (text.takeWhile isSchemeChar), rest)
        | _ => ([], text)
      else ([], text)
  | [] => ([], text)

/-- Schemes under which addresses are joined. -/
def joiningSchemes : List Text := Text.words
  ("ftp http gopher nntp imap wais file https shttp mms prospero rtsp rtsps rtspu sftp svn "
    ++ "svn+ssh ws wss").toList

/-- Schemes that have an authority. -/
def authoritySchemes : List Text := Text.words
  ("ftp http gopher nntp telnet imap wais file mms https shttp snews prospero rtsp rtsps "
    ++ "rtspu rsync svn svn+ssh sftp nfs git git+ssh ws wss").toList

/-- Schemes that have parameters. -/
def paramSchemes : List Text := Text.words
  "ftp hdl prospero http imap https shttp rtsp rtsps rtspu sip sips mms sftp tel".toList

/-- Addresses of a scheme, or without one, are joined. -/
def joins (scheme : Text) : Bool := scheme.isEmpty || joiningSchemes.elem scheme

/-- Addresses of a scheme, or without one, have an authority. -/
def hasAuthority (scheme : Text) : Bool := scheme.isEmpty || authoritySchemes.elem scheme

/-- Addresses of a scheme, or without one, have parameters. -/
def hasParams (scheme : Text) : Bool := scheme.isEmpty || paramSchemes.elem scheme

/-! ### Authorities -/

/-- A number of a dotted address. -/
def isOctet (text : Text) : Bool :=
  !text.isEmpty && text.all isDigit && text.length ≤ 3 &&
    (text.length == 1 || !text.startsWith ['0']) && Integer.readAscii text ≤ 255

/-- A dotted address of four numbers. -/
def isDotted (text : Text) : Bool :=
  let parts := Text.splitWhere (· == '.') [] text
  parts.length == 4 && parts.all isOctet

/-- A group of a numeric address. -/
def isGroup (text : Text) : Bool := text.length ≤ 4 && text.all isHexDigit && !text.isEmpty

/-- Groups of a numeric address, at most one run of groups being left out. -/
def areGroups (parts : List Text) : Bool :=
  let inner := (parts.drop 1).dropLast
  let gaps := (inner.filter List.isEmpty).length
  let first := parts.headD []
  let last := parts.getLastD []
  if parts.length < 3 || 9 < parts.length || 1 < gaps then false
  else if gaps == 0 then parts.length == 8 && parts.all isGroup
  else
    let gap := 1 + inner.findIdx List.isEmpty
    let high := if first.isEmpty then gap - 1 else gap
    let low := if last.isEmpty then parts.length - gap - 2 else parts.length - gap - 1
    (!first.isEmpty || high == 0) && (!last.isEmpty || low == 0) && high + low ≤ 7 &&
      (parts.take high).all isGroup && (parts.drop (parts.length - low)).all isGroup

/-- A numeric address, perhaps with a zone. -/
def isNumericAddress (text : Text) : Bool :=
  let zoneFits :=
    match Text.cut? ['%'] text with
    | some (_, zone) => !zone.isEmpty && !zone.elem '%'
    | none => true
  let address := text.takeWhile (· != '%')
  let parts := Text.splitWhere (· == ':') [] address
  let last := parts.getLastD []
  let groups :=
    if last.elem '.' then parts.dropLast ++ [['0'], ['0']] else parts
  zoneFits && 3 ≤ parts.length && (!last.elem '.' || isDotted last) && areGroups groups

/-- What may stand between the brackets of an authority. -/
def isBracketed (text : Text) : Bool :=
  match text with
  | 'v' :: rest =>
      match Text.cut? ['.'] rest with
      | some (version, tail) =>
          !version.isEmpty && version.all isHexDigit && !tail.isEmpty && !tail.elem '\n'
      | none => false
  | _ => isNumericAddress text

/-- Characters that are equivalent to a text with a separator in it. -/
def disguises : List Nat :=
  [0x2047, 0x2048, 0x2049, 0x2100, 0x2101, 0x2105, 0x2106, 0x2a74, 0xfe13, 0xfe16, 0xfe55,
    0xfe56, 0xfe5f, 0xfe6b, 0xff03, 0xff0f, 0xff1a, 0xff1f, 0xff20]

/-- An authority can be used. -/
def isAuthority (text : Text) : Bool :=
  (text.elem '[' == text.elem ']') &&
    (match Text.cut? ['['] text with
      | some (_, rest) => isBracketed (rest.takeWhile (· != ']'))
      | none => true) &&
    !text.any fun c => disguises.elem c.toNat

/-! ### Reading and writing -/

/-- A control character or a space. -/
def isControlOrSpace (c : Char) : Bool := c.toNat ≤ 32

/-- What an address is once control characters are gone from it. -/
def clean (text : Text) : Text :=
  (text.dropWhile isControlOrSpace).filter fun c => !(c == '\t' || c == '\r' || c == '\n')

/-- Cut a text at the first occurrence of a character; the second part is empty when
there is none. -/
def cutAt (mark : Char) (text : Text) : Text × Text :=
  (text.takeWhile (· != mark), (text.dropWhile (· != mark)).drop 1)

/-- The parameters of the last part of a path, and the path without them. -/
def splitParams (path : Text) : Text × Text :=
  let last := (path.reverse.takeWhile (· != '/')).reverse
  let before := path.take (path.length - last.length)
  let (name, params) := cutAt ';' last
  (before ++ name, params)

/-- Read an address; `scheme` is the one it has when it names none. -/
def read (scheme text : Text) : Except Fault Url :=
  let (found, rest) := splitScheme (clean text)
  let scheme := if found.isEmpty then scheme else found
  let (authority, rest) :=
    if Text.startsWith rest ['/', '/'] then
      let isEnd := fun c => c == '/' || c == '?' || c == '#'
      ((rest.drop 2).takeWhile fun c => !isEnd c, (rest.drop 2).dropWhile fun c => !isEnd c)
    else ([], rest)
  if !isAuthority authority then .error (.defect (.brokenAddress text))
  else
    let (rest, fragment) := cutAt '#' rest
    let (path, query) := cutAt '?' rest
    let (path, params) := if hasParams scheme then splitParams path else (path, [])
    .ok ⟨scheme, authority, path, params, query, fragment⟩

/-- An optional part with the mark before it. -/
def marked (mark : Char) (part : Text) : Text := if part.isEmpty then [] else mark :: part

/-- Write an address. -/
def write (url : Url) : Text :=
  let path := url.path ++ marked ';' url.params
  let needsAuthority := !url.authority.isEmpty ||
    (!url.scheme.isEmpty && authoritySchemes.elem url.scheme) || path.startsWith ['/', '/']
  let path :=
    if needsAuthority then
      let path := if path.isEmpty || path.startsWith ['/'] then path else '/' :: path
      ['/', '/'] ++ url.authority ++ path
    else path
  (if url.scheme.isEmpty then [] else url.scheme ++ [':']) ++ path ++
    marked '?' url.query ++ marked '#' url.fragment

end Url

/-!
### Queries

The query of an address holds parameters `name=value`, joined by `&`.  In both, a plus
sign stands for a blank, and characters may be written as percent codes.
-/

namespace Query

/-- The text that a part of a query stands for. -/
def unescape (part : Text) : Text :=
  Utf8.decodeLossy
    (Percent.decode (Utf8.encode (part.map fun c => if c == '+' then ' ' else c)))

/-- The parameter of a part of a query; nothing when it has no value. -/
def parameter? (part : Text) : Option (Text × Text) :=
  match Text.cut? ['='] part with
  | some (name, value) => if value.isEmpty then none else some (unescape name, unescape value)
  | none => none

/-- The parameters of a query that have a value. -/
def parameters (query : Text) : List (Text × Text) :=
  (Text.splitWhere (· == '&') [] query).filterMap parameter?

end Query

/-!
## Resolving addresses

An address found on a page is relative to the address of the page: one with a scheme of
its own stands as it is, one that begins with two slashes takes the scheme of the page,
and any other is joined to it.
-/

namespace Url

/-- Follow the parts of a path: a double dot takes the part before it back.  `done` are
the parts so far, last first. -/
def walk : List Text → List Text → List Text
  | done, [] => done.reverse
  | done, part :: rest =>
      if part == ['.', '.'] then walk (done.drop 1) rest
      else if part == ['.'] then walk done rest
      else walk (part :: done) rest

/-- Leave out the empty parts of a path, but for the first and the last. -/
def dropEmptyParts : List Text → List Text
  | [] => []
  | [part] => [part]
  | first :: rest => first :: (rest.dropLast.filter fun part => !part.isEmpty) ++ [rest.getLastD []]

/-- The path that a relative path means below a base path. -/
def joinPath (base path : Text) : Text :=
  let split := Text.splitWhere (· == '/') []
  let parts :=
    if path.startsWith ['/'] then split path
    else
      let parts := split base
      let parts := if (parts.getLastD []).isEmpty then parts else parts.dropLast
      dropEmptyParts (parts ++ split path)
  let last := parts.getLastD []
  let walked := walk [] parts
  let walked := if last == ['.'] || last == ['.', '.'] then walked ++ [[]] else walked
  let joined := Text.join ['/'] walked
  if joined.isEmpty then ['/'] else joined

/-- The address that a relative address means at a base address. -/
def join (base text : Text) : Except Fault Text :=
  if base.isEmpty then .ok text
  else if text.isEmpty then .ok base
  else do
    let from_ ← read [] base
    let target ← read from_.scheme text
    if target.scheme != from_.scheme || !joins target.scheme then .ok text
    else if hasAuthority target.scheme && !target.authority.isEmpty then .ok target.write
    else
      let authority := if hasAuthority target.scheme then from_.authority else target.authority
      if target.path.isEmpty && target.params.isEmpty then
        let query := if target.query.isEmpty then from_.query else target.query
        .ok (write { target with authority, path := from_.path, params := from_.params, query })
      else .ok (write { target with authority, path := joinPath from_.path target.path })

/-- The address begins with a scheme. -/
def beginsWithScheme (text : Text) : Bool :=
  match text with
  | c :: rest =>
      isLetter c &&
        match rest.dropWhile isSchemeChar with
        | ':' :: _ => true
        | _ => false
  | [] => false

/-- The absolute address of an address found at a base address. -/
def resolve (text base : Text) : Except Fault Text :=
  let text := text.trim
  if text.isEmpty then .ok []
  else if text.startsWith ['/', '/'] then
    (read [] base).map fun base =>
      (if base.scheme.isEmpty then "https".toList else base.scheme) ++ ':' :: text
  else if beginsWithScheme text then .ok text
  else if base.isEmpty then .ok text
  else join base text

/-- The scheme and the authority of an address, or nothing when one is missing. -/
def originOf (text : Text) : Except Fault Text :=
  (read [] text).map fun url =>
    if url.scheme.isEmpty || url.authority.isEmpty then []
    else url.scheme ++ "://".toList ++ url.authority

end Url

end RuleProbe
