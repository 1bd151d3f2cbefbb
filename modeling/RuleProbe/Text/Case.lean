import RuleProbe.Text.Letter

/-!
# Small letters and capitals

How characters and texts change their case, by tables of runs of code points.
-/

namespace RuleProbe

/-!
## Tables of case mappings

A case mapping moves runs of code points by a constant.  A run is written as
three base-36 numbers: the distance of its start from the start of the previous
run, twice its length plus one when only every second code point belongs to it,
and twice the distance moved, plus one when it moves downward.
-/

/-- A run of code points that a mapping moves by the same distance. -/
structure CaseRun where
  /-- The first code point. -/
  start : Nat
  /-- The number of code points. -/
  length : Nat
  /-- The distance between neighbouring code points of the run. -/
  step : Nat
  /-- How far the mapping moves each. -/
  shift : Int

/-- A mapping of code points, by runs. -/
structure CaseTable where
  /-- The runs, by increasing start. -/
  runs : List CaseRun

namespace CaseTable

/-- Read runs after the one that starts at `start`. -/
def readRuns : Nat → List Nat → List CaseRun
  | start, gap :: size :: move :: rest =>
      { start := start + gap
        length := size / 2
        step := size % 2 + 1
        shift := if move % 2 == 0 then (move / 2 : Nat) else -((move / 2 : Nat) : Int) } ::
        readRuns (start + gap) rest
  | _, _ => []

/-- Read a table from its written form. -/
def ofCode (code : String) : CaseTable := ⟨readRuns 0 (readBase36 none code.toList)⟩

/-- The run moves `code`. -/
def covers (run : CaseRun) (code : Nat) : Bool :=
  run.start ≤ code && (code - run.start) % run.step == 0 &&
    (code - run.start) / run.step < run.length

/-- The code point that the mapping gives for `code`. -/
def apply (table : CaseTable) (code : Nat) : Nat :=
  match table.runs.find? fun run => covers run code with
  | some run => ((code : Int) + run.shift).toNat
  | none => code

/-- Cut numbers at each zero, the first of a piece being the mapped code point. -/
def expansions (code : String) : Array (Nat × List Nat) :=
  let pieces := (readBase36 none code.toList).splitOnP (· == 0)
  (pieces.filterMap fun piece =>
    match piece with
    | [] => none
    | source :: target => some (source, target)).toArray

end CaseTable

/-!
## Letter case

Lower and upper case of characters and texts by the Unicode 14 mappings.  A
text may grow: `ß` has the upper case `SS`, and `İ` the lower case `i` with a
combining dot.  A capital sigma that ends a word becomes the final form.
-/

namespace Case

/-- Single-character lower case above U+007F. -/
def lowerRuns : CaseTable := .ofCode
  "5c 1a 1s o e 1s 14 1d 2 1e 7 2 7 h 2 h 1b 2 1a 2 6r 1 7 2 8 2 bo 1 5 2 4 2 bg 1 2 2 2 4 be 2 2 2
3 2 4e 1 2 b8 1 2 ba 1 2 2 2 2 be 1 2 bi 2 2 bq 1 2 bm 1 2 2 4 2 bq 1 2 bu 2 2 bw 1 7 2 6 2 c4 1
2 2 2 2 c4 3 2 2 2 2 c4 1 2 2 2 4 c2 2 5 2 4 2 c6 1 2 2 4 2 2 8 2 4 1 2 2 2 2 4 1 2 2 2 2 4 1 j
2 j j 2 j 2 4 1 5 2 4 2 5f 1 2 35 1 15 2 14 2 79 2 j 2 o 2 gnq 1 2 2 2 2 93 1 2 gnk 3 2 2 2 2 av
1 2 3u 1 2 3y 1 b 2 8a 5 2 6 2 2 9 2 6g 7 2 24 2 6 22 4 2 3k 2 4 3i 3 y 1s i i 1s 18 2 g 9 p 2 s
2 3d 3 2 2 2 2 f 1 2 2 3 6 79 3 w 4g g 1s 1s 28 z 2 16 1j 2 1i 2 u 1 f 2 f 2p 2 2p 24 2o 29b 24
b7k 13 2 b7k 6 2 b7k k3 4g 1nz4 28 c g 1pc 2e 4n5 19 6 4n5 8z 47 2 4e 2 br3 2 2p 2 2w g h g c h
g g h g g h g c h h 9 h f g h w g h g g h g g h g 4 h 2 4 45 2 2 j c 8 4t 4 2 j c 4 h 2 4 5l e 4
h 2 4 69 2 2 f c 4 75 2 4 71 2 2 j 8a 2 bln 4 2 cxr 1 2 cr1 7 2 1k 1a w w z 2 2 mr 1g 1g 1fu 2o
2o 2o 2 2 2 2 gkv 1 2 5vx 1 2 gjz 3 7 2 6 2 gmx 1 2 gl7 1 2 gn3 1 2 gn1 2 2 2 3 2 2 9 4 gov 2 2t
2 2z 5 2 7 2 2 nym 1b 2 1s t 2 4i f 2 g 1r 2 1z 5 2 4 2 1iix 1 b 2 d 2 2 2 2 1t8x 3 5 2 6 l 2 k
2 1tah 1 2 1tb3 1 2 1tav 1 2 1tab 1 2 1tah 2 2 1t7p 1 2 1t91 1 2 1t7v 1 2 1fk 1 h 2 g 2 2p 1 2
1taf 1 2 1ilt 1 5 2 9 2 2 6 5 2 v 2 2 h7w 1g 1s yn 28 28 4w 20 28 5c 13 26 1 b 26 c f 26 g 7 26
8 2 26 1d7 2u 3k 2e8 1s 1s gww 1s 1s o8w 1w 1w"

/-- Single-character upper case above U+007F. -/
def upperRuns : CaseTable := .ofCode
  "51 2 15a 17 1a 1t o e 1t 7 2 6q 2 1d 3 1c 2 cx 2 7 3 7 h 3 h 1b 3 1b 7 3 5 2 gp 1 2 au 3 5 3 5 2
3 4 2 3 6 2 3 3 2 5e 4 2 3 1 2 92 4 2 78 3 7 3 7 2 3 5 2 3 3 2 3 4 5 3 5 2 3 4 2 3 2 2 34 6 2 3
1 2 5 2 2 3 1 2 5 2 2 3 1 2 5 2 h 3 f 2 4f 2 j 3 j 2 3 1 2 5 2 2 3 4 15 3 16 j 3 p 2 3 3 4 gou 3
2 3 5 b 3 9 2 gn2 1 2 gmw 1 2 gn0 1 2 bp 1 2 bh 2 4 bf 3 2 b9 2 2 bb 1 2 1tb2 4 2 bf 1 2 1tau 2
2 bj 2 2 1t8w 1 2 1tag 2 2 bn 1 2 br 1 2 1tag 1 2 gku 1 2 1taa 3 2 br 2 2 gl6 1 2 bv 3 2 bx 8 2
gjy 3 2 c5 2 2 1tae 1 2 c5 4 2 1t90 1 2 c5 1 2 3v 1 4 c3 2 2 3z 6 2 c7 b 2 1t7u 1 2 1t7o 4n 2 4o
18 5 3 6 2 3 4 6 78 1d 2 25 1 6 23 4 y 1t h 2 1r 1 i 1t 9 2 3l 1 4 3j 3 2 3h 1 2 37 4 2 2n 1 2
31 1 2 h 2 p 3 n 2 4t 1 2 4h 1 2 e 1 2 6h 2 2 5d 3 2 3 3 2 3 1h 1s 1t w w 4h h z 3 16 1j 3 1j f
3 d 2 v 2 2p 3 40 24 2p 29b 2e 4n4 19 6 4n4 l7 c h 1oo 2 9nh 1 2 9nf 1 2 9mx 1 4 9mt 2 2 9mv 1 2
9mh 1 2 9jf 1 2 1if8 6p 2 1iiw 4 2 5vw h 2 1ils 37 47 3 4a 2 3b 6 2p 3 2n g g g c g g g g g g g
g c g h 9 g f g g g 4 44 2 8 4s 4 4 5k 2 4 74 2 4 68 2 4 70 1g 4 g e 2 b4b i 4 g g 4 g 5 2 e a1
2 1l y w x k 2 3 ng 1g 1h 1gg 2o 2p 1d 2 3 4 2 gnr 1 2 gnl 2 7 3 b 2 3 3 2 3 b 2t 3 2z 5 3 7 2 3
d 24 b7l 13 2 b7l 6 2 b7l nx0 1b 3 1s t 3 4i f 3 g 1r 3 1z 5 3 5 b 3 d 2 3 5 5 3 3 2 2o 3 l 3 u
h 3 j 5 3 9 2 3 6 5 3 v 2 3 nx 2 1fl t 4g 1nz5 gk1 1g 1t yv 28 29 4w 20 29 5b 13 27 1 b 27 c f
27 g 7 27 8 2 27 1dw 2u 3l 2dc 1s 1t gww 1s 1t o8y 1w 1x"

/-- Characters whose upper case has several characters: the character, its
upper case, and a zero. -/
def upperExpansions : Array (Nat × List Nat) := CaseTable.expansions
  "67 2b 2b 0 95 jg 26 0 ds 22 lo 0 pc pl lk ld 0 q8 px lk ld 0 13b 111 11u 0 61i 20 mp 0 61j 2c lk
0 61k 2f lm 0 61l 2h lm 0 61m 1t ji 0 66o px lv 0 66q px lv lc 0 66s px lv ld 0 66u px lv n6 0
680 64o pl 0 681 64p pl 0 682 64q pl 0 683 64r pl 0 684 64s pl 0 685 64t pl 0 686 64u pl 0 687
64v pl 0 688 64o pl 0 689 64p pl 0 68a 64q pl 0 68b 64r pl 0 68c 64s pl 0 68d 64t pl 0 68e 64u
pl 0 68f 64v pl 0 68g 65k pl 0 68h 65l pl 0 68i 65m pl 0 68j 65n pl 0 68k 65o pl 0 68l 65p pl 0
68m 65q pl 0 68n 65r pl 0 68o 65k pl 0 68p 65l pl 0 68q 65m pl 0 68r 65n pl 0 68s 65o pl 0 68t
65p pl 0 68u 65q pl 0 68v 65r pl 0 68w 67c pl 0 68x 67d pl 0 68y 67e pl 0 68z 67f pl 0 690 67g
pl 0 691 67h pl 0 692 67i pl 0 693 67j pl 0 694 67c pl 0 695 67d pl 0 696 67e pl 0 697 67f pl 0
698 67g pl 0 699 67h pl 0 69a 67i pl 0 69b 67j pl 0 69e 69m pl 0 69f pd pl 0 69g p2 pl 0 69i pd
n6 0 69j pd n6 pl 0 69o pd pl 0 69u 6a2 pl 0 69v pj pl 0 69w p5 pl 0 69y pj n6 0 69z pj n6 pl 0
6a4 pj pl 0 6aa pl lk lc 0 6ab pl lk ld 0 6ae pl n6 0 6af pl lk n6 0 6aq px lk lc 0 6ar px lk ld
0 6as pt lv 0 6au px n6 0 6av px lk n6 0 6b6 6be pl 0 6b7 q1 pl 0 6b8 pb pl 0 6ba q1 n6 0 6bb q1
n6 pl 0 6bg q1 pl 0 1dkw 1y 1y 0 1dkx 1y 21 0 1dky 1y 24 0 1dkz 1y 1y 21 0 1dl0 1y 1y 24 0 1dl1
2b 2c 0 1dl2 2b 2c 0 1dlf 11g 11i 0 1dlg 11g 111 0 1dlh 11g 117 0 1dli 11q 11i 0 1dlj 11g 119 0"

/-- The single-character lower case of a code point, or the code point itself. -/
def lowerCode (code : Nat) : Nat :=
  if code < 128 then
    if 65 ≤ code && code ≤ 90 then code + 32 else code
  else if code == 0x130 then 0x69
  else lowerRuns.apply code

/-- The single-character upper case of a code point, or the code point itself. -/
def upperCode (code : Nat) : Nat :=
  if code < 128 then
    if 97 ≤ code && code ≤ 122 then code - 32 else code
  else upperRuns.apply code

/-- The upper case of a code point, of any length. -/
def upperCodes (code : Nat) : List Nat :=
  if code < 128 then [upperCode code]
  else
    match upperExpansions.find? (fun entry => entry.1 == code) with
    | some entry => entry.2
    | none => [upperCode code]

/-- A code point that has a case: one of the mappings changes it. -/
def isCased (code : Nat) : Bool :=
  lowerCode code != code || upperCodes code != [code]

/-- Marks that do not separate a sigma from the letters around it. -/
def isCaseIgnorable (code : Nat) : Bool :=
  code == 0x27 || code == 0x2e || code == 0x3a || code == 0xad || code == 0xb7 ||
    (0x300 ≤ code && code ≤ 0x36f) || code == 0x2019

/-- A capital sigma is final when a cased letter stands before it and none after it. -/
def isFinalSigma (before after : List Nat) : Bool :=
  ((before.dropWhile isCaseIgnorable).head?.any isCased) &&
    !((after.dropWhile isCaseIgnorable).head?.any isCased)

/-- The lower case of code points, `before` being those already read, last first. -/
def lowerCodesAfter : List Nat → List Nat → List Nat
  | _, [] => []
  | before, code :: rest =>
      let lowered :=
        if code == 0x3a3 then [if isFinalSigma before rest then 0x3c2 else 0x3c3]
        else if code == 0x130 then [0x69, 0x307]
        else [lowerCode code]
      lowered ++ lowerCodesAfter (code :: before) rest

end Case

namespace Text

/-- The lower case of a text. -/
def lower (text : Text) : Text :=
  (Case.lowerCodesAfter [] (text.map Char.toNat)).map Char.ofNat

/-- The upper case of a text. -/
def upper (text : Text) : Text :=
  (text.flatMap fun c => Case.upperCodes c.toNat).map Char.ofNat

end Text

end RuleProbe
