/-!
# Sets of characters as sequences of bytes

An automaton that reads bytes needs a set of characters in their encoding.  `Utf8.sequences` divides
an interval of code points into parts whose encodings are products: one interval of bytes for every
place.
-/

namespace TokenPattern.Utf8

/-- A closed interval of bytes. -/
abbrev ByteRange := Nat × Nat

/-! ## Encoding -/

/-- The bytes of a code point. -/
def encode (x : Nat) : List Nat :=
  if x < 0x80 then [x]
  else if x < 0x800 then [0xc0 + x / 64, 0x80 + x % 64]
  else if x < 0x10000 then [0xe0 + x / 4096, 0x80 + x / 64 % 64, 0x80 + x % 64]
  else [0xf0 + x / 262144, 0x80 + x / 4096 % 64, 0x80 + x / 64 % 64, 0x80 + x % 64]

/-! ## Division -/

/-- The end of the first part of an interval with encodings of different lengths. -/
def lengthCut? (lo hi : Nat) : Option Nat :=
  [0x7f, 0x7ff, 0xffff].find? fun last => lo ≤ last && last < hi

/-- The end of the first part of an interval that takes some, but not all of the last bytes behind a
byte that varies; `block` is how many code points these bytes distinguish. -/
def blockCut? (lo hi block : Nat) : Option Nat :=
  if lo / block = hi / block then none
  else if lo % block ≠ 0 then some (lo / block * block + block - 1)
  else if hi % block ≠ block - 1 then some (hi / block * block - 1)
  else none

/-- The end of the first part of an interval whose encodings are no product. -/
def cut? (lo hi : Nat) : Option Nat :=
  lengthCut? lo hi <|>
    if hi < 0x80 then none else [64, 4096, 262144].findSome? (blockCut? lo hi)

/-- The sequences of byte intervals for an interval of code points, in increasing order. -/
def sequences (lo hi : Nat) : List (List ByteRange) :=
  match cut? lo hi with
  | some last =>
    if _h : lo ≤ last ∧ last < hi then sequences lo last ++ sequences (last + 1) hi
    else [(encode lo).zip (encode hi)]
  | none => [(encode lo).zip (encode hi)]
termination_by hi - lo

/-! ## Lengths -/

/-- A code point takes one to four bytes. -/
theorem length_encode (x : Nat) : 1 ≤ (encode x).length ∧ (encode x).length ≤ 4 := by
  unfold encode
  split
  · simp
  · split
    · simp
    · split <;> simp

end TokenPattern.Utf8
