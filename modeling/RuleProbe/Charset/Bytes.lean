import RuleProbe.Text.Basic

/-!
# Texts as bytes

Characters are written as bytes, and bytes as characters that stand for them.
-/

namespace RuleProbe

/-!
## UTF-8

Characters as bytes.  Reading takes bytes that are no character apart: each longest
beginning of a character that is broken off counts as one error.
-/

/-- A sequence of bytes. -/
abbrev Bytes := List UInt8

namespace Utf8

/-- The bytes of a character. -/
def encodeChar (c : Char) : Bytes :=
  let n := c.toNat
  let tail (shift : Nat) : UInt8 := UInt8.ofNat (0x80 + n / Nat.pow 2 shift % 64)
  if n < 0x80 then [UInt8.ofNat n]
  else if n < 0x800 then [UInt8.ofNat (0xc0 + n / 64), tail 0]
  else if n < 0x10000 then [UInt8.ofNat (0xe0 + n / 4096), tail 6, tail 0]
  else [UInt8.ofNat (0xf0 + n / 262144), tail 12, tail 6, tail 0]

/-- The bytes of a text. -/
def encode (text : Text) : Bytes := text.flatMap encodeChar

/-- What has been read of a character. -/
inductive State where
  /-- Nothing. -/
  | ready
  /-- Some bytes: the number of bytes to come, the bits so far, and the bounds of the next
  byte. -/
  | within (missing : Nat) (bits : Nat) (low high : UInt8)
  deriving DecidableEq, Inhabited

/-- Begin a character at a byte: what is finished by it, and the state afterwards. -/
def start (b : UInt8) : List (Option Char) × State :=
  if b < 0x80 then ([some (Char.ofNat b.toNat)], .ready)
  else if b < 0xc2 then ([none], .ready)
  else if b < 0xe0 then ([], .within 1 (b.toNat - 0xc0) 0x80 0xbf)
  else if b < 0xf0 then
    ([], .within 2 (b.toNat - 0xe0) (if b == 0xe0 then 0xa0 else 0x80)
      (if b == 0xed then 0x9f else 0xbf))
  else if b < 0xf5 then
    ([], .within 3 (b.toNat - 0xf0) (if b == 0xf0 then 0x90 else 0x80)
      (if b == 0xf4 then 0x8f else 0xbf))
  else ([none], .ready)

/-- Read a byte: what is finished by it, and the state afterwards. -/
def step : State → UInt8 → List (Option Char) × State
  | .ready, b => start b
  | .within missing bits low high, b =>
      if low ≤ b && b ≤ high then
        let bits := bits * 64 + (b.toNat - 0x80)
        if missing ≤ 1 then ([some (Char.ofNat bits)], .ready)
        else ([], .within (missing - 1) bits 0x80 0xbf)
      else
        let (found, state) := start b
        (none :: found, state)

/-- The characters of bytes from a state on; nothing stands for an error. -/
def unitsFrom : State → Bytes → List (Option Char)
  | .ready, [] => []
  | .within _ _ _ _, [] => [none]
  | state, b :: rest => (step state b).1 ++ unitsFrom (step state b).2 rest

/-- The characters of bytes; nothing stands for an error. -/
def units (bytes : Bytes) : List (Option Char) := unitsFrom .ready bytes

/-- The text of bytes without errors. -/
def decode? (bytes : Bytes) : Option Text := (units bytes).mapM id

/-- The text of bytes, with a replacement character for each error. -/
def decodeLossy (bytes : Bytes) : Text := (units bytes).map fun unit => unit.getD '\uFFFD'

end Utf8

/-!
## Percent signs

A byte may be written as a percent sign and two digits in base sixteen.  A percent sign
without two digits behind it stands for itself.
-/

namespace Percent

/-- The value of a digit in base sixteen, given as a byte. -/
def hexValue? (b : UInt8) : Option Nat :=
  if 48 ≤ b && b ≤ 57 then some (b.toNat - 48)
  else if 97 ≤ b && b ≤ 102 then some (b.toNat - 87)
  else if 65 ≤ b && b ≤ 70 then some (b.toNat - 55)
  else none

/-- Read bytes with escapes among them. -/
def decode : Bytes → Bytes
  | 37 :: a :: b :: rest =>
      match hexValue? a, hexValue? b with
      | some high, some low => UInt8.ofNat (high * 16 + low) :: decode rest
      | _, _ => 37 :: decode (a :: b :: rest)
  | b :: rest => b :: decode rest
  | [] => []

/-- The digit of a number below sixteen. -/
def digit (n : Nat) : Char := if n < 10 then Char.ofNat (48 + n) else Char.ofNat (55 + n)

/-- A byte as an escape. -/
def escape (b : UInt8) : Text := ['%', digit (b.toNat / 16), digit (b.toNat % 16)]

/-- A letter, a digit or one of four signs, which need no escape. -/
def isUnreserved (c : Char) : Bool :=
  let n := c.toNat
  (48 ≤ n && n ≤ 57) || (65 ≤ n && n ≤ 90) || (97 ≤ n && n ≤ 122) ||
    c == '-' || c == '.' || c == '_' || c == '~'

/-- Write bytes, with escapes for all that need one and are not `safe`. -/
def encode (safe : Text) (bytes : Bytes) : Text :=
  bytes.flatMap fun b =>
    let c := Char.ofNat b.toNat
    if b < 128 && (isUnreserved c || safe.elem c) then [c] else escape b

end Percent

/-!
## Base64

Three bytes in four characters.  Reading skips characters outside the alphabet, and
ends where enough padding stands.
-/

namespace Base64

/-- The digit of a number below 64. -/
def digit (n : Nat) : Char :=
  if n < 26 then Char.ofNat (65 + n)
  else if n < 52 then Char.ofNat (71 + n)
  else if n < 62 then Char.ofNat (n - 4)
  else if n == 62 then '+'
  else '/'

/-- The number of a digit. -/
def value? (c : Char) : Option Nat :=
  let n := c.toNat
  if 65 ≤ n && n ≤ 90 then some (n - 65)
  else if 97 ≤ n && n ≤ 122 then some (n - 71)
  else if 48 ≤ n && n ≤ 57 then some (n + 4)
  else if c == '+' then some 62
  else if c == '/' then some 63
  else none

/-- Write bytes. -/
def encode : Bytes → Text
  | [] => []
  | [a] =>
      let n := a.toNat * 65536
      [digit (n / 262144), digit (n / 4096 % 64), '=', '=']
  | [a, b] =>
      let n := a.toNat * 65536 + b.toNat * 256
      [digit (n / 262144), digit (n / 4096 % 64), digit (n / 64 % 64), '=']
  | a :: b :: c :: rest =>
      let n := a.toNat * 65536 + b.toNat * 256 + c.toNat
      digit (n / 262144) :: digit (n / 4096 % 64) :: digit (n / 64 % 64) :: digit (n % 64) ::
        encode rest

/-- The state of reading a group of four digits. -/
structure State where
  /-- The number of digits of the group so far. -/
  count : Nat
  /-- The bits that have not made a byte yet. -/
  left : Nat
  /-- The number of padding characters since the last digit. -/
  pads : Nat
  deriving Inhabited

/-- Read digits into bytes; nothing when the last group is broken off. -/
def decodeFrom : State → Text → Option Bytes
  | state, [] => if state.count == 0 then some [] else none
  | state, c :: rest =>
      if c == '=' then
        if 2 ≤ state.count then
          if 4 ≤ state.count + state.pads + 1 then some []
          else decodeFrom { state with pads := state.pads + 1 } rest
        else decodeFrom state rest
      else
        match value? c with
        | none => decodeFrom state rest
        | some n =>
            match state.count with
            | 0 => decodeFrom ⟨1, n, 0⟩ rest
            | 1 =>
                (decodeFrom ⟨2, n % 16, 0⟩ rest).map
                  (UInt8.ofNat (state.left * 4 + n / 16) :: ·)
            | 2 =>
                (decodeFrom ⟨3, n % 4, 0⟩ rest).map
                  (UInt8.ofNat (state.left * 16 + n / 4) :: ·)
            | _ => (decodeFrom ⟨0, 0, 0⟩ rest).map (UInt8.ofNat (state.left * 64 + n) :: ·)

/-- The bytes of a text; nothing for a text outside the basic alphabet, or one that is
broken off. -/
def decode? (text : Text) : Option Bytes :=
  if text.all fun c => c.toNat < 128 then decodeFrom ⟨0, 0, 0⟩ text else none

end Base64

end RuleProbe
