import TokenPattern.Unicode.PropertyName

/-!
# Where a set of characters may begin or end

A set that is described by properties of characters is constant between the places where some table
has an entry.  `boundaries` lists these places, so that the intervals of such a set are found by
asking once for each place.
-/

namespace TokenPattern.Unicode

/-! ## The places of a table -/

/-- Where some intervals begin, and where they have ended. -/
def intervalCuts (intervals : List (Nat × Nat)) : List Nat :=
  intervals.flatMap fun interval => [interval.1, interval.2 + 1]

/-- Where the members of a table begin, and where they have ended. -/
def RangeTable.cuts (t : RangeTable) : List Nat := intervalCuts t.ranges.toList

/-- Where the values of a table change. -/
def RunTable.cuts {α : Type} (t : RunTable α) : List Nat := t.runs.toList.map Prod.fst

/-- All code points of a stretch. -/
def Shift.members (s : Shift) : List Nat :=
  (List.range ((s.hi - s.lo) / s.stride + 1)).map fun k => s.lo + k * s.stride

/-- Every code point that a table moves and every one that it moves to, and those behind them. -/
def ShiftTable.cuts (t : ShiftTable) : List Nat :=
  t.shifts.toList.flatMap fun s => s.members.flatMap fun x : Nat =>
    let image := Int.toNat (x + s.shift)
    [x, x + 1, image, image + 1]

/-! ## All places -/

/-- The intervals that properties name by themselves, without a table. -/
def namedIntervals : List (Nat × Nat) := List.map RangeTable.rangeOfText <| items
    "0-7f 9-d a b-c d 20 22 27 2e 30-39 41-46 41-5a 61-66 61-7a 85 a0 1c4 1c7 1ca 1f1 295 345 5f3
    66b 66c 70f e33 eb3 10d0-10fa 10fd-10ff 1100-115f 1160-11a7 11a8-11ff 13a0-13f5 1680 19da
    1c90-1cba 1cbd-1cbf 2000-200a 200b-200d 200c-200d 200d 2024 2028-2029 202f 205f 2e2f 3000
    a960-a97c ac00-d7a3 d7b0-d7c6 d7cb-d7fb fe52 ff02 ff07 ff0e ff10-ff19 ff21-ff26 ff41-ff46 16d63
    16d67-16d6a 1f1e6-1f1ff e0020-e007f"

/-- The tables of sets. -/
def setTables : List RangeTable :=
  [newcomers, otherLowercase, otherUppercase, otherAlphabetic, otherGraphemeExtend,
    otherCaseIgnorable, decomposingStart, decomposingContinue, foldsFurther, raisesFurther,
    keepsTitle, Segmentation.prepending, Segmentation.nonSpacing, Segmentation.midLetter,
    Segmentation.midNumber, Segmentation.midEither, Segmentation.connecting,
    Segmentation.wordSpace, Segmentation.katakanaSigns, Segmentation.unspacedLetters,
    Segmentation.letterSigns, Segmentation.sentenceContinue, Segmentation.closingSigns] ++
    tabulatedProperties.map Prod.snd

/-- The syllables of Hangul without a final consonant, and those behind them. -/
def syllableCuts : List Nat :=
  (List.range 399).flatMap fun k => [0xac00 + 28 * k, 0xac01 + 28 * k]

/-- Drops what equals its successor. -/
def dropRepeated : List Nat → List Nat
  | x :: y :: rest => if x = y then dropRepeated (y :: rest) else x :: dropRepeated (y :: rest)
  | xs => xs

/-- All places, in increasing order. -/
def boundaries : List Nat :=
  dropRepeated ((intervalCuts namedIntervals ++ setTables.flatMap RangeTable.cuts ++
    GeneralCategory.table.cuts ++ scriptTable.cuts ++ extensionTable.cuts ++ ageTable.cuts ++
    lowercaseShifts.cuts ++ foldShifts.cuts ++ syllableCuts).mergeSort)

/-- Dropping repetitions drops no place. -/
theorem mem_dropRepeated {x : Nat} {places : List Nat} : x ∈ dropRepeated places ↔ x ∈ places := by
  induction places with
  | nil => rfl
  | cons y rest ih =>
    cases rest with
    | nil => rfl
    | cons z rest =>
      simp only [dropRepeated]
      split
      · rename_i h
        subst h
        simp [ih]
      · simp [ih]

end TokenPattern.Unicode
