import TokenPattern.Unicode.Property

/-!
# Lower case

`lowercase` gives the lower-case form of one character, which is a list because one character has
a form of two; `lowercaseText` maps a whole text, where the form of a sigma depends on the letters
around it.  `ShiftTable` stores a map of characters as stretches moved by a common distance.
-/

namespace TokenPattern.Unicode

open Text (readHex)

/-! ## Maps of characters -/

/-- A stretch of code points, every `stride`-th from `lo` to `hi`, each moved by `shift`. -/
structure Shift where
  lo : Nat
  hi : Nat
  stride : Nat
  shift : Int
deriving Inhabited

/-- A map of characters, as disjoint stretches in increasing order. -/
structure ShiftTable where
  shifts : Array Shift

namespace ShiftTable

/-- One stretch, written `lo-hi/stride+shift` or `lo-hi/stride-shift` in hexadecimal. -/
def shiftOfText (item : String) : Shift :=
  let (lo, rest) := readHex 0 item.toList
  let (hi, rest) := readHex 0 (rest.drop 1)
  let (stride, rest) := readHex 0 (rest.drop 1)
  let distance := Int.ofNat (readHex 0 (rest.drop 1)).1
  ⟨lo, hi, stride, if rest.head? = some '-' then -distance else distance⟩

/-- Reads a table from blank-separated stretches. -/
def ofText (text : String) : ShiftTable :=
  ⟨((items text).map shiftOfText).toArray⟩

/-- The image of a code point, if the table moves it. -/
def image? (t : ShiftTable) (x : Nat) : Option Nat :=
  match lastAtMost? Shift.lo t.shifts x with
  | some s =>
    if x ≤ s.hi && (x - s.lo) % s.stride == 0 then some (Int.toNat (x + s.shift)) else none
  | none => none

/-- All code points that the table moves to `y`. -/
def preimages (t : ShiftTable) (y : Nat) : List Nat :=
  t.shifts.toList.filterMap fun s =>
    let x := Int.toNat (y - s.shift)
    if s.lo ≤ x && x ≤ s.hi && (x - s.lo) % s.stride == 0 then some x else none

end ShiftTable

/-! ## Characters -/

/-- The characters whose lower-case form is one other character. -/
def lowercaseShifts : ShiftTable := ShiftTable.ofText
    "41-5a/1+20 c0-d6/1+20 d8-de/1+20 100-12e/2+1 132-136/2+1 139-147/2+1 14a-176/2+1 178-178/1-79
    179-17d/2+1 181-181/1+d2 182-184/2+1 186-186/1+ce 187-187/1+1 189-18a/1+cd 18b-18b/1+1
    18e-18e/1+4f 18f-18f/1+ca 190-190/1+cb 191-191/1+1 193-193/1+cd 194-194/1+cf 196-196/1+d3
    197-197/1+d1 198-198/1+1 19c-19c/1+d3 19d-19d/1+d5 19f-19f/1+d6 1a0-1a4/2+1 1a6-1a6/1+da
    1a7-1a7/1+1 1a9-1a9/1+da 1ac-1ac/1+1 1ae-1ae/1+da 1af-1af/1+1 1b1-1b2/1+d9 1b3-1b5/2+1
    1b7-1b7/1+db 1b8-1b8/1+1 1bc-1bc/1+1 1c4-1c4/1+2 1c5-1c5/1+1 1c7-1c7/1+2 1c8-1c8/1+1 1ca-1ca/1+2
    1cb-1db/2+1 1de-1ee/2+1 1f1-1f1/1+2 1f2-1f4/2+1 1f6-1f6/1-61 1f7-1f7/1-38 1f8-21e/2+1
    220-220/1-82 222-232/2+1 23a-23a/1+2a2b 23b-23b/1+1 23d-23d/1-a3 23e-23e/1+2a28 241-241/1+1
    243-243/1-c3 244-244/1+45 245-245/1+47 246-24e/2+1 370-372/2+1 376-376/1+1 37f-37f/1+74
    386-386/1+26 388-38a/1+25 38c-38c/1+40 38e-38f/1+3f 391-3a1/1+20 3a3-3ab/1+20 3cf-3cf/1+8
    3d8-3ee/2+1 3f4-3f4/1-3c 3f7-3f7/1+1 3f9-3f9/1-7 3fa-3fa/1+1 3fd-3ff/1-82 400-40f/1+50
    410-42f/1+20 460-480/2+1 48a-4be/2+1 4c0-4c0/1+f 4c1-4cd/2+1 4d0-52e/2+1 531-556/1+30
    10a0-10c5/1+1c60 10c7-10c7/1+1c60 10cd-10cd/1+1c60 13a0-13ef/1+97d0 13f0-13f5/1+8 1c89-1c89/1+1
    1c90-1cba/1-bc0 1cbd-1cbf/1-bc0 1e00-1e94/2+1 1e9e-1e9e/1-1dbf 1ea0-1efe/2+1 1f08-1f0f/1-8
    1f18-1f1d/1-8 1f28-1f2f/1-8 1f38-1f3f/1-8 1f48-1f4d/1-8 1f59-1f5f/2-8 1f68-1f6f/1-8
    1f88-1f8f/1-8 1f98-1f9f/1-8 1fa8-1faf/1-8 1fb8-1fb9/1-8 1fba-1fbb/1-4a 1fbc-1fbc/1-9
    1fc8-1fcb/1-56 1fcc-1fcc/1-9 1fd8-1fd9/1-8 1fda-1fdb/1-64 1fe8-1fe9/1-8 1fea-1feb/1-70
    1fec-1fec/1-7 1ff8-1ff9/1-80 1ffa-1ffb/1-7e 1ffc-1ffc/1-9 2126-2126/1-1d5d 212a-212a/1-20bf
    212b-212b/1-2046 2132-2132/1+1c 2160-216f/1+10 2183-2183/1+1 24b6-24cf/1+1a 2c00-2c2f/1+30
    2c60-2c60/1+1 2c62-2c62/1-29f7 2c63-2c63/1-ee6 2c64-2c64/1-29e7 2c67-2c6b/2+1 2c6d-2c6d/1-2a1c
    2c6e-2c6e/1-29fd 2c6f-2c6f/1-2a1f 2c70-2c70/1-2a1e 2c72-2c72/1+1 2c75-2c75/1+1 2c7e-2c7f/1-2a3f
    2c80-2ce2/2+1 2ceb-2ced/2+1 2cf2-2cf2/1+1 a640-a66c/2+1 a680-a69a/2+1 a722-a72e/2+1
    a732-a76e/2+1 a779-a77b/2+1 a77d-a77d/1-8a04 a77e-a786/2+1 a78b-a78b/1+1 a78d-a78d/1-a528
    a790-a792/2+1 a796-a7a8/2+1 a7aa-a7aa/1-a544 a7ab-a7ab/1-a54f a7ac-a7ac/1-a54b a7ad-a7ad/1-a541
    a7ae-a7ae/1-a544 a7b0-a7b0/1-a512 a7b1-a7b1/1-a52a a7b2-a7b2/1-a515 a7b3-a7b3/1+3a0
    a7b4-a7c2/2+1 a7c4-a7c4/1-30 a7c5-a7c5/1-a543 a7c6-a7c6/1-8a38 a7c7-a7c9/2+1 a7cb-a7cb/1-a567
    a7cc-a7da/2+1 a7dc-a7dc/1-a641 a7f5-a7f5/1+1 ff21-ff3a/1+20 10400-10427/1+28 104b0-104d3/1+28
    10570-1057a/1+27 1057c-1058a/1+27 1058c-10592/1+27 10594-10595/1+27 10c80-10cb2/1+40
    10d50-10d65/1+20 118a0-118bf/1+20 16e40-16e5f/1+20 16ea0-16eb8/1+1b 1e900-1e921/1+22"

/-- The lower-case form of a character.  Only the dotted capital I has a form of two characters:
a small i and a combining dot. -/
def lowercase (c : Char) : List Char :=
  if c.toNat < 0x80 then [c.toLower]
  else if c.toNat = 0x130 then ['i', Char.ofNat 0x307]
  else match lowercaseShifts.image? c.toNat with
    | some x => [Char.ofNat x]
    | none => [c]

/-! ## Texts -/

/-- Whether the first character that casing does not look through is a cased one. -/
def startsCased (cs : List Char) : Bool :=
  ((cs.dropWhile (isCaseIgnorable .seventeenth)).head?.map (isCased .seventeenth)).getD false

/-- The lower-case form of a text, given the characters before it, nearest first.  A capital sigma
is final when a cased character comes before it and none after it. -/
def lowercaseAfter : List Char → List Char → List Char
  | _, [] => []
  | before, c :: rest =>
    let form :=
      if c = 'Σ' then
        if startsCased before && !startsCased rest then ['ς'] else ['σ']
      else lowercase c
    form ++ lowercaseAfter (c :: before) rest

/-- The lower-case form of a text. -/
def lowercaseText (text : String) : String :=
  String.ofList (lowercaseAfter [] text.toList)

end TokenPattern.Unicode
