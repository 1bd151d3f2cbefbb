import RuleProbe.Charset.Big5Table
import RuleProbe.Charset.ByteTable
import RuleProbe.Charset.GbkTable
import RuleProbe.Charset.JapaneseTable
import RuleProbe.Charset.KoreanTable
import RuleProbe.Charset.LabelTable
import RuleProbe.Charset.Bytes
import RuleProbe.Fault
import RuleProbe.Markup.Entity
import RuleProbe.Text.Case

/-!
# Charsets

A charset has a label, which is free text: case, punctuation and a number of old names
do not matter.  Bytes that a charset does not assign cannot be read in it, and a text
with characters that it does not have cannot be written.
-/

namespace RuleProbe

/-- A charset. -/
inductive Charset where
  /-- UTF-8. -/
  | utf8
  /-- UTF-8 with a mark at the beginning. -/
  | markedUtf8
  /-- The basic alphabet alone. -/
  | ascii
  /-- The first 256 characters. -/
  | latin1
  /-- Units of two bytes, after a mark that tells their order. -/
  | utf16
  /-- Units of two bytes, the lower one first. -/
  | utf16Little
  /-- Units of two bytes, the higher one first. -/
  | utf16Big
  /-- Simplified Chinese in its first extent. -/
  | gb2312
  /-- Simplified Chinese. -/
  | gbk
  /-- All characters, as an extension of simplified Chinese. -/
  | gb18030
  /-- Traditional Chinese. -/
  | big5
  /-- Korean. -/
  | korean
  /-- Japanese. -/
  | japanese
  /-- Japanese, with first bytes moved out of the way of the old half-width letters. -/
  | shiftedJapanese
  /-- A charset of single bytes, by its name. -/
  | byteTable (name : Text)
  /-- The notation of labels in host names. -/
  | punycode
  /-- The notation of host names. -/
  | hostName
  /-- A charset that refuses everything. -/
  | undefined
  deriving DecidableEq, Inhabited

namespace Charset

/-! ## Labels -/

/-- Reduce a label: runs of anything but letters, digits and points become one
underscore, and what is not of the basic alphabet goes.  `gap` tells that such a run
stands directly before. -/
def reduceLabel : Bool → Bool → Text → Text
  | _, _, [] => []
  | begun, gap, c :: rest =>
      if (Letter.isWord c.toNat && c != '_') || c == '.' then
        let separator := if gap && begun then ['_'] else []
        let kept := if c.toNat < 128 then [c] else []
        separator ++ kept ++ reduceLabel (begun || !(separator ++ kept).isEmpty) false rest
      else reduceLabel begun true rest

/-- The names of the charsets, those of one charset together. -/
def labelGroups : List (List Text) :=
  (Text.splitOn [';'] labelRows.toList).map Text.words

/-- The first name of the charset with a name. -/
def canonicalName? (name : Text) : Option Text :=
  let group (name : Text) : Option Text :=
    (labelGroups.find? fun group => group.elem name).bind List.head?
  (group name).or (group (name.map fun c => if c == '.' then '_' else c))

/-- The charset of its first name. -/
def ofName (name : Text) : Charset :=
  match String.ofList name with
  | "utf_8" => .utf8
  | "utf_8_sig" => .markedUtf8
  | "ascii" => .ascii
  | "latin_1" => .latin1
  | "utf_16" => .utf16
  | "utf_16_le" => .utf16Little
  | "utf_16_be" => .utf16Big
  | "gb2312" => .gb2312
  | "gbk" => .gbk
  | "gb18030" => .gb18030
  | "big5" => .big5
  | "euc_kr" => .korean
  | "euc_jp" => .japanese
  | "shift_jis" => .shiftedJapanese
  | "punycode" => .punycode
  | "idna" => .hostName
  | "undefined" => .undefined
  | _ => .byteTable name

/-- The charset of a label. -/
def ofLabel (label : Text) : Except Defect Charset :=
  if label.elem '\x00' then .error .value
  else
    match canonicalName? (Text.lower (reduceLabel false false label)) with
    | some name => .ok (ofName name)
    | none => .error .lookup

/-! ## Tables -/

/-- A character that stands for a place without one. -/
def isGap (c : Char) : Bool := c == '\uFFFD'

/-- The characters of the rows of a table. -/
def readRows (rows : String) : Array Char := (rows.toList.filter (· != '\n')).toArray

/-- The characters of GBK. -/
def gbkTable : Array Char := readRows gbkRows

/-- The characters of Big5. -/
def big5Table : Array Char := readRows big5Rows

/-- The characters of the Korean standard. -/
def koreanTable : Array Char := readRows koreanRows

/-- The characters of the Japanese standard. -/
def japaneseTable : Array Char := readRows japaneseRows

/-- Groups of three numbers. -/
def triples : List Nat → List (Nat × Nat × Nat)
  | a :: b :: c :: rest => (a, b, c) :: triples rest
  | _ => []

/-- The numbers of a table. -/
def readNumbers (rows : String) : List Nat := (Text.words rows.toList).map Entity.hexNumber

/-- Where GB 18030 differs from GBK. -/
def gb18030Changes : List (Nat × Nat × Nat) := triples (readNumbers gb18030Runs)

/-- The four-byte area of GB 18030. -/
def gb18030Area : List (Nat × Nat × Nat) := triples (readNumbers gb18030Ranges)

/-- The characters of the upper bytes of the charsets of single bytes. -/
def byteTables : List (Text × List Nat) :=
  (Text.splitOn [';'] byteRows.toList).filterMap fun row =>
    match Text.words row with
    | name :: codes => some (name, codes.map Entity.hexNumber)
    | [] => none

/-- The character in a run of a table at a position. -/
def inRuns? (runs : List (Nat × Nat × Nat)) (i : Nat) : Option Char :=
  (runs.find? fun run => run.1 ≤ i && i < run.1 + run.2.2).map fun run =>
    Char.ofNat (run.2.1 + (i - run.1))

/-- The position of a character in the runs of a table. -/
def inRunsIndex? (runs : List (Nat × Nat × Nat)) (c : Char) : Option Nat :=
  (runs.find? fun run => run.2.1 ≤ c.toNat && c.toNat < run.2.1 + run.2.2).map fun run =>
    run.1 + (c.toNat - run.2.1)

/-- The character of a table at a position. -/
def inTable? (table : Array Char) (i : Nat) : Option Char :=
  (table[i]?).filter fun c => !isGap c

/-- The last position of a character in a table. -/
def inTableIndex? (table : Array Char) (c : Char) : Option Nat :=
  if isGap c then none
  else (table.reverse.findIdx? (· == c)).map fun i => table.size - 1 - i

/-- The character of a table whose codes begin at the byte `256 - codes.length`. -/
def inBytes? (codes : List Nat) (b : Nat) : Option Char :=
  if b < 256 - codes.length then some (Char.ofNat b)
  else
    ((codes[b - (256 - codes.length)]?).map Char.ofNat).filter fun c => !isGap c

/-! ## Double bytes -/

/-- The position of a double byte of GBK. -/
def gbkIndex? (a b : Nat) : Option Nat :=
  if 0x81 ≤ a && a ≤ 0xfe && 0x40 ≤ b && b ≤ 0xfe && b != 0x7f then
    some ((a - 0x81) * 190 + (if 0x7f < b then b - 0x41 else b - 0x40))
  else none

/-- The double byte of GBK at a position. -/
def gbkBytes (i : Nat) : Bytes :=
  let b := i % 190 + 0x40
  [UInt8.ofNat (0x81 + i / 190), UInt8.ofNat (if 0x7f ≤ b then b + 1 else b)]

/-- The positions in a square that GBK fills and its first extent leaves open. -/
def isLaterPosition (i : Nat) : Bool :=
  (94 ≤ i && i ≤ 103) || (533 ≤ i && i ≤ 544) || (547 ≤ i && i ≤ 551) ||
    (553 ≤ i && i ≤ 554) || i == 684 || (686 ≤ i && i ≤ 687) || i == 689

/-- The positions of the first extent that GBK fills with other characters. -/
def formerChars : List (Nat × Char) := [(3, '\u30fb'), (9, '\u2015')]

/-- The position of a double byte of Big5. -/
def big5Index? (a b : Nat) : Option Nat :=
  if 0xa1 ≤ a && a ≤ 0xf9 then
    if 0x40 ≤ b && b ≤ 0x7e then some ((a - 0xa1) * 157 + (b - 0x40))
    else if 0xa1 ≤ b && b ≤ 0xfe then some ((a - 0xa1) * 157 + (b - 0x62))
    else none
  else none

/-- The double byte of Big5 at a position. -/
def big5Bytes (i : Nat) : Bytes :=
  let b := i % 157
  [UInt8.ofNat (0xa1 + i / 157), UInt8.ofNat (if b < 63 then b + 0x40 else b + 0x62)]

/-- The position of a double byte in a square of 94 rows. -/
def squareIndex? (a b : Nat) : Option Nat :=
  if 0xa1 ≤ a && a ≤ 0xfe && 0xa1 ≤ b && b ≤ 0xfe then some ((a - 0xa1) * 94 + (b - 0xa1))
  else none

/-- The double byte of a square at a position. -/
def squareBytes (i : Nat) : Bytes :=
  [UInt8.ofNat (0xa1 + i / 94), UInt8.ofNat (0xa1 + i % 94)]

/-- The position in a square of a double byte whose first byte is shifted. -/
def shiftedIndex? (a b : Nat) : Option Nat :=
  let isFirst := (0x81 ≤ a && a ≤ 0x9f) || (0xe0 ≤ a && a ≤ 0xef)
  let isSecond := 0x40 ≤ b && b ≤ 0xfc && b != 0x7f
  if isFirst && isSecond then
    let row := (if a < 0xa0 then a - 0x81 else a - 0xc1) * 2
    let column := if 0x7f < b then b - 0x41 else b - 0x40
    some (row * 94 + column)
  else none

/-- The shifted double byte at a position of a square. -/
def shiftedBytes (i : Nat) : Bytes :=
  let row := i / 188
  let column := i % 188 + 0x40
  [UInt8.ofNat (if row < 31 then row + 0x81 else row + 0xc1),
    UInt8.ofNat (if 0x7f ≤ column then column + 1 else column)]

/-- The character of a double byte of the first extent of simplified Chinese. -/
def formerPair? (a b : Nat) : Option Char := do
  let i ← squareIndex? a b
  if isLaterPosition i then none
  else
    (formerChars.lookup i).or ((gbkIndex? a b).bind (inTable? gbkTable))

/-- The double byte of a character in the first extent of simplified Chinese. -/
def formerBytes? (c : Char) : Option Bytes :=
  match formerChars.find? fun entry => entry.2 == c with
  | some (i, _) => some (squareBytes i)
  | none => do
      let bytes := gbkBytes (← inTableIndex? gbkTable c)
      match bytes with
      | [a, b] => if formerPair? a.toNat b.toNat == some c then some bytes else none
      | _ => none

/-- The character of a double byte. -/
def pair? (charset : Charset) (a b : Nat) : Option Char :=
  match charset with
  | .gb2312 => formerPair? a b
  | .gbk => (gbkIndex? a b).bind (inTable? gbkTable)
  | .gb18030 => (gbkIndex? a b).bind fun i => (inRuns? gb18030Changes i).or (inTable? gbkTable i)
  | .big5 => (big5Index? a b).bind (inTable? big5Table)
  | .korean => (squareIndex? a b).bind (inTable? koreanTable)
  | .japanese =>
      if a == 0x8e && 0xa1 ≤ b && b ≤ 0xdf then some (Char.ofNat (b + 0xfec0))
      else (squareIndex? a b).bind (inTable? japaneseTable)
  | .shiftedJapanese => (shiftedIndex? a b).bind (inTable? japaneseTable)
  | _ => none

/-- The character of four bytes of GB 18030. -/
def quadruple? (a b c d : Nat) : Option Char :=
  if 0x81 ≤ a && a ≤ 0xfe && 0x30 ≤ b && b ≤ 0x39 && 0x81 ≤ c && c ≤ 0xfe && 0x30 ≤ d &&
      d ≤ 0x39 then
    let i := (((a - 0x81) * 10 + (b - 0x30)) * 126 + (c - 0x81)) * 10 + (d - 0x30)
    if i < 39420 then inRuns? gb18030Area i
    else if 189000 ≤ i && i < 189000 + 0x100000 then some (Char.ofNat (i - 189000 + 0x10000))
    else none
  else none

/-- The four bytes of GB 18030 of a number. -/
def quadrupleBytes (i : Nat) : Bytes :=
  [UInt8.ofNat (0x81 + i / 12600), UInt8.ofNat (0x30 + i / 1260 % 10),
    UInt8.ofNat (0x81 + i / 10 % 126), UInt8.ofNat (0x30 + i % 10)]

/-- Read bytes of a charset with double bytes. -/
def decodePairs (charset : Charset) : Bytes → Option Text
  | [] => some []
  | a :: rest =>
      if a < 0x80 then (decodePairs charset rest).map (Char.ofNat a.toNat :: ·)
      else if charset == .shiftedJapanese && 0xa1 ≤ a && a ≤ 0xdf then
        (decodePairs charset rest).map (Char.ofNat (a.toNat + 0xfec0) :: ·)
      else
        match rest with
        | [] => none
        | b :: rest =>
            match pair? charset a.toNat b.toNat with
            | some found => (decodePairs charset rest).map (found :: ·)
            | none =>
                match rest with
                | c :: d :: rest =>
                    if charset == .gb18030 then
                      match quadruple? a.toNat b.toNat c.toNat d.toNat with
                      | some found => (decodePairs charset rest).map (found :: ·)
                      | none => none
                    else none
                | _ => none

/-- The bytes of a character in a charset with double bytes. -/
def encodePair? (charset : Charset) (c : Char) : Option Bytes :=
  if c.toNat < 128 then some [UInt8.ofNat c.toNat]
  else
    let isHalfWidth := 0xff61 ≤ c.toNat && c.toNat ≤ 0xff9f
    match charset with
    | .gb2312 => formerBytes? c
    | .gbk => (inTableIndex? gbkTable c).map gbkBytes
    | .gb18030 =>
        if 0x10000 ≤ c.toNat then some (quadrupleBytes (c.toNat - 0x10000 + 189000))
        else
          let index := (inRunsIndex? gb18030Changes c).or
            ((inTableIndex? gbkTable c).filter fun i => (inRuns? gb18030Changes i).isNone)
          (index.map gbkBytes).or ((inRunsIndex? gb18030Area c).map quadrupleBytes)
    | .big5 => (inTableIndex? big5Table c).map big5Bytes
    | .korean => (inTableIndex? koreanTable c).map squareBytes
    | .japanese =>
        if isHalfWidth then some [0x8e, UInt8.ofNat (c.toNat - 0xfec0)]
        else (inTableIndex? japaneseTable c).map squareBytes
    | .shiftedJapanese =>
        if isHalfWidth then some [UInt8.ofNat (c.toNat - 0xfec0)]
        else (inTableIndex? japaneseTable c).map shiftedBytes
    | _ => none

/-! ## Units of two bytes -/

/-- The units of bytes, the lower byte first if `little`. -/
def unitsOf (little : Bool) : Bytes → Option (List Nat)
  | [] => some []
  | [_] => none
  | a :: b :: rest =>
      let unit := if little then a.toNat + 256 * b.toNat else 256 * a.toNat + b.toNat
      (unitsOf little rest).map (unit :: ·)

/-- The characters of units; halves of a pair alone are none. -/
def ofUnits : List Nat → Option Text
  | [] => some []
  | a :: rest =>
      if 0xd800 ≤ a && a < 0xdc00 then
        match rest with
        | b :: rest =>
            if 0xdc00 ≤ b && b < 0xe000 then
              (ofUnits rest).map
                (Char.ofNat (0x10000 + (a - 0xd800) * 0x400 + (b - 0xdc00)) :: ·)
            else none
        | [] => none
      else if 0xdc00 ≤ a && a < 0xe000 then none
      else (ofUnits rest).map (Char.ofNat a :: ·)

/-- The units of a character. -/
def toUnits (c : Char) : List Nat :=
  if c.toNat < 0x10000 then [c.toNat]
  else [0xd800 + (c.toNat - 0x10000) / 0x400, 0xdc00 + (c.toNat - 0x10000) % 0x400]

/-- The bytes of a unit. -/
def unitBytes (little : Bool) (unit : Nat) : Bytes :=
  if little then [UInt8.ofNat unit, UInt8.ofNat (unit / 256)]
  else [UInt8.ofNat (unit / 256), UInt8.ofNat unit]

/-- Read units of two bytes. -/
def decodeUnits (little : Bool) (bytes : Bytes) : Option Text :=
  (unitsOf little bytes).bind ofUnits

/-- Write units of two bytes. -/
def encodeUnits (little : Bool) (text : Text) : Bytes :=
  text.flatMap fun c => (toUnits c).flatMap (unitBytes little)

/-! ## Reading and writing -/

/-- Read bytes below a limit as the characters of the same number. -/
def decodeBelow (limit : Nat) (bytes : Bytes) : Option Text :=
  if bytes.all fun b => b.toNat < limit then some (bytes.map fun b => Char.ofNat b.toNat)
  else none

/-- Write characters below a limit as the bytes of the same number. -/
def encodeBelow (limit : Nat) (text : Text) : Option Bytes :=
  if text.all fun c => c.toNat < limit then some (text.map fun c => UInt8.ofNat c.toNat)
  else none

/-- The codes of the upper bytes of a charset of single bytes. -/
def byteCodes (name : Text) : List Nat :=
  ((byteTables.find? fun table => table.1 == name).map (·.2)).getD []

/-- The labels of a host name that have a notation of their own begin so. -/
def hasHostMark (bytes : Bytes) : Bool :=
  (Text.splitWhere (· == '.') [] (bytes.map fun b => Char.ofNat b.toNat)).any fun label =>
    Text.startsWith label "xn--"

/-- The error of bytes that cannot be read, or their text. -/
def readable : Option Text → Except Defect Text
  | some text => .ok text
  | none => .error .undecodable

/-- The text of bytes in a charset. -/
def decode (charset : Charset) (bytes : Bytes) : Except Defect Text :=
  if bytes.isEmpty then .ok []
  else
    match charset with
    | .utf8 => readable (Utf8.decode? bytes)
    | .markedUtf8 =>
        let mark : Bytes := [0xef, 0xbb, 0xbf]
        readable (Utf8.decode? (if mark.isPrefixOf bytes then bytes.drop 3 else bytes))
    | .ascii => readable (decodeBelow 128 bytes)
    | .latin1 => readable (decodeBelow 256 bytes)
    | .utf16 =>
        match bytes with
        | 0xff :: 0xfe :: rest => readable (decodeUnits true rest)
        | 0xfe :: 0xff :: rest => readable (decodeUnits false rest)
        | _ => readable (decodeUnits true bytes)
    | .utf16Little => readable (decodeUnits true bytes)
    | .utf16Big => readable (decodeUnits false bytes)
    | .byteTable name => readable (bytes.mapM fun b => inBytes? (byteCodes name) b.toNat)
    | .punycode =>
        match decodeBelow 128 bytes with
        | none => .error .undecodable
        | some text => if text.endsWith ['-'] then .ok text.dropLast else .error .unicode
    | .hostName =>
        if hasHostMark bytes then .error .unicode else readable (decodeBelow 128 bytes)
    | .undefined => .error .unicode
    | pairs => readable (decodePairs pairs bytes)

/-- The error of a text that cannot be written, or its bytes. -/
def writable : Option Bytes → Except Defect Bytes
  | some bytes => .ok bytes
  | none => .error .unencodable

/-- The bytes of a text in a charset. -/
def encode (charset : Charset) (text : Text) : Except Defect Bytes :=
  match charset with
  | .utf8 => .ok (Utf8.encode text)
  | .markedUtf8 => .ok ([0xef, 0xbb, 0xbf] ++ Utf8.encode text)
  | .ascii => writable (encodeBelow 128 text)
  | .latin1 => writable (encodeBelow 256 text)
  | .utf16 => .ok ([0xff, 0xfe] ++ encodeUnits true text)
  | .utf16Little => .ok (encodeUnits true text)
  | .utf16Big => .ok (encodeUnits false text)
  | .byteTable name =>
      writable (text.mapM fun c =>
        ((List.range 256).find? fun b => inBytes? (byteCodes name) b == some c).map UInt8.ofNat)
  | .punycode =>
      match encodeBelow 128 text with
      | some bytes => .ok (bytes ++ [45])
      | none => .error .unicode
  | .hostName =>
      match encodeBelow 128 text with
      | some bytes => .ok bytes
      | none => .error .unicode
  | .undefined => .error .unicode
  | pairs => writable ((text.mapM (encodePair? pairs)).map List.flatten)

end Charset

end RuleProbe
