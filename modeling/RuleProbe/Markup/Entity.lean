import RuleProbe.Fault
import RuleProbe.Markup.EntityTable
import RuleProbe.Numeral.Written

/-!
# Character references

A character may be written by its name, as in `&amp;`, or by its number, as in `&#38;`
and `&#x26;`.  `Entity.decode` reads references as the standard asks for: numbers of the
bytes 128 to 159 mean the characters that an old Western charset put there, and a name
that needs no semicolon may be followed directly by other letters.  A decimal number has a
limit on its digits: `Entity.check` refuses a text that goes beyond it.
-/

namespace RuleProbe

namespace Entity

/-- A named character. -/
structure Named where
  /-- The name, without a semicolon. -/
  name : Text
  /-- The name counts without a semicolon as well. -/
  bare : Bool
  /-- The characters that are named. -/
  value : Text
  deriving Inhabited

/-- The value of a digit in base sixteen. -/
def hexValue (c : Char) : Nat :=
  if 48 ≤ c.toNat && c.toNat ≤ 57 then c.toNat - 48
  else if 97 ≤ c.toNat && c.toNat ≤ 102 then c.toNat - 87
  else c.toNat - 55

/-- A digit in base sixteen. -/
def isHexDigit (c : Char) : Bool :=
  (48 ≤ c.toNat && c.toNat ≤ 57) || (97 ≤ c.toNat && c.toNat ≤ 102) ||
    (65 ≤ c.toNat && c.toNat ≤ 70)

/-- A digit in base ten. -/
def isDigit (c : Char) : Bool := 48 ≤ c.toNat && c.toNat ≤ 57

/-- The number that digits in base sixteen write. -/
def hexNumber (digits : Text) : Nat :=
  digits.foldl (fun value c => value * 16 + hexValue c) 0

/-- Read one entry of the table. -/
def readEntry (entry : Text) : Named :=
  let name := entry.takeWhile fun c => c != '=' && c != '~'
  let rest := entry.drop name.length
  { name := name
    bare := Text.startsWith rest ['~']
    value := (Text.splitWhere (· == '+') [] (rest.drop 1)).map fun code =>
      Char.ofNat (hexNumber code) }

/-- The named characters. -/
def named : List Named := (Text.words namedCharacters.toList).map readEntry

/-- The named character of a name without a semicolon. -/
def find? (name : Text) : Option Named := named.find? fun entry => entry.name == name

/-- The characters of a name, which ends in a semicolon unless it needs none. -/
def lookup? (reference : Text) : Option Text :=
  if reference.endsWith [';'] then (find? reference.dropLast).map (·.value)
  else ((find? reference).filter (·.bare)).map (·.value)

/-- The characters that an old Western charset puts at the numbers 128 to 159. -/
def westernCodes : List Nat :=
  [0x20ac, 0x81, 0x201a, 0x192, 0x201e, 0x2026, 0x2020, 0x2021, 0x2c6, 0x2030, 0x160,
    0x2039, 0x152, 0x8d, 0x17d, 0x8f, 0x90, 0x2018, 0x2019, 0x201c, 0x201d, 0x2022,
    0x2013, 0x2014, 0x2dc, 0x2122, 0x161, 0x203a, 0x153, 0x9d, 0x17e, 0x178]

/-- The code that a number of a reference means, the Western ones replaced. -/
def westernCode (number : Nat) : Nat :=
  if 0x80 ≤ number && number ≤ 0x9f then westernCodes[number - 0x80]?.getD number
  else number

/-- A number that is no character at all. -/
def isOutside (number : Nat) : Bool :=
  (0xd800 ≤ number && number ≤ 0xdfff) || 0x10ffff < number

/-- A number that stands for nothing: a control or a reserved code. -/
def isReserved (number : Nat) : Bool :=
  (1 ≤ number && number ≤ 8) || number == 0xb || (0xe ≤ number && number ≤ 0x1f) ||
    number == 0x7f || (0xfdd0 ≤ number && number ≤ 0xfdef) || 0xfffe ≤ number % 0x10000

/-- The characters of a numeric reference. -/
def numeric (number : Nat) : Text :=
  if number == 0 || isOutside number then ['\uFFFD']
  else if 0x80 ≤ number && number ≤ 0x9f then [Char.ofNat (westernCode number)]
  else if isReserved number then []
  else [Char.ofNat number]

/-- Read a named reference by its longest beginning, of at least two characters, that
is a name; `length` bounds the beginnings still to be tried. -/
def longest (reference : Text) : Nat → Text
  | 0 => '&' :: reference
  | length + 1 =>
      if length < 1 then '&' :: reference
      else
        match lookup? (reference.take (length + 1)) with
        | some value => value ++ reference.drop (length + 1)
        | none => longest reference length

/-- A character that may belong to the name of a reference. -/
def isNameChar (c : Char) : Bool :=
  !(c == '\t' || c == '\n' || c == '\x0c' || c == ' ' || c == '<' || c == '&' ||
    c == '#' || c == ';')

/-- A text with the semicolon that may stand next, and what follows. -/
def withSemicolon (part rest : Text) : Text × Text :=
  match rest with
  | ';' :: after => (part ++ [';'], after)
  | _ => (part, rest)

/-- Read what follows an ampersand: the characters it gives and the number of
characters it takes. -/
def reference? (rest : Text) : Option (Text × Nat) :=
  match rest with
  | '#' :: after =>
      let digits := after.takeWhile isDigit
      if !digits.isEmpty then
        let (whole, _) := withSemicolon digits (after.drop digits.length)
        some (numeric (Integer.readAscii digits), whole.length + 1)
      else
        match after with
        | x :: more =>
            let hex := more.takeWhile isHexDigit
            if (x == 'x' || x == 'X') && !hex.isEmpty then
              let (whole, _) := withSemicolon hex (more.drop hex.length)
              some (numeric (hexNumber hex), whole.length + 2)
            else none
        | [] => none
  | _ =>
      let name := (rest.takeWhile isNameChar).take 32
      if name.isEmpty then none
      else
        let (whole, _) := withSemicolon name (rest.drop name.length)
        let value :=
          match lookup? whole with
          | some value => value
          | none => longest whole (whole.length - 1)
        some (value, whole.length)

/-- Decode references, skipping `skip` characters that belong to the last one. -/
def decodeAux : Nat → Text → Text
  | _, [] => []
  | skip + 1, _ :: rest => decodeAux skip rest
  | 0, c :: rest =>
      if c == '&' then
        match reference? rest with
        | some (value, length) => value ++ decodeAux length rest
        | none => c :: decodeAux 0 rest
      else c :: decodeAux 0 rest

/-- A text with its character references replaced by the characters. -/
def decode (text : Text) : Text := decodeAux 0 text

/-- A text begins with a reference by a decimal number of too many digits. -/
def isOverlong (text : Text) : Bool :=
  match text with
  | '&' :: '#' :: rest => Integer.digitLimit < (rest.takeWhile isDigit).length
  | _ => false

/-- Such a reference stands somewhere in a text. -/
def hasOverlong : Text → Bool
  | [] => false
  | c :: rest => isOverlong (c :: rest) || hasOverlong rest

/-- The references of a text can be read. -/
def check (text : Text) : Except Fault Unit :=
  if hasOverlong text then .error (.defect (.longReference text)) else .ok ()

end Entity

end RuleProbe
