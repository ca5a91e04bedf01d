import TokenPattern.Text.Hexadecimal

/-!
# Sorted tables of code points

A property of characters is stored as a sorted table of code points and looked up by bisection.
Two shapes occur:

* `RangeTable` — the members of a set, as closed intervals in increasing order;
* `RunTable` — a value for every code point, as the places where the value changes.

Both are written in the source as text, in hexadecimal, and decoded once by
`RangeTable.ofText` and `RunTable.ofText`.  `countAtMost` is the bisection they share.
-/

namespace TokenPattern.Unicode

open Text (readHex)

/-! ## Bisection -/

/-- How many entries of `entries[lo:hi]`, counted from the front of the array, have a key of at
most `x`.  The entries must be sorted by `key`. -/
def countAtMost {α : Type} [Inhabited α] (key : α → Nat) (entries : Array α) (x lo hi : Nat) :
    Nat :=
  if lo < hi then
    let mid := (lo + hi) / 2
    if key entries[mid]! ≤ x then countAtMost key entries x (mid + 1) hi
    else countAtMost key entries x lo mid
  else lo
termination_by hi - lo

/-- The last entry of a sorted array whose key is at most `x`. -/
def lastAtMost? {α : Type} [Inhabited α] (key : α → Nat) (entries : Array α) (x : Nat) : Option α :=
  match countAtMost key entries x 0 entries.size with
  | 0 => none
  | n + 1 => entries[n]?

/-! ## Text -/

/-- The items of a table: what stands between blanks and line ends. -/
def items (text : String) : List String :=
  ((text.splitOn "\n").flatMap (·.splitOn " ")).filter (! ·.isEmpty)

/-! ## Sets of characters -/

/-- A set of code points, as closed intervals in increasing order. -/
structure RangeTable where
  ranges : Array (Nat × Nat)

namespace RangeTable

/-- One interval: `41-5a`, or `aa` for a single code point. -/
def rangeOfText (item : String) : Nat × Nat :=
  match readHex 0 item.toList with
  | (lo, '-' :: rest) => (lo, (readHex 0 rest).1)
  | (lo, _) => (lo, lo)

/-- Reads a table from blank-separated intervals. -/
def ofText (text : String) : RangeTable :=
  ⟨((items text).map rangeOfText).toArray⟩

/-- Whether a code point lies in one of the intervals. -/
def contains (t : RangeTable) (x : Nat) : Bool :=
  match lastAtMost? Prod.fst t.ranges x with
  | some (_, hi) => x ≤ hi
  | none => false

end RangeTable

/-! ## Functions on characters -/

/-- A function on code points that is constant on long stretches: each entry gives the first code
point of a stretch and the value there. -/
structure RunTable (α : Type) where
  runs : Array (Nat × α)

namespace RunTable

variable {α : Type} [Inhabited α]

/-- Reads a table from blank-separated entries, each a lower-case hexadecimal code point followed
by the name of the value, whose first letter is upper case. -/
def ofText (value : String → α) (text : String) : RunTable α :=
  ⟨((items text).map fun item =>
    let name := item.toList.dropWhile (! ·.isUpper)
    ((readHex 0 (item.toList.takeWhile (! ·.isUpper))).1, value (String.ofList name))).toArray⟩

/-- The value at a code point. -/
def lookup (t : RunTable α) (x : Nat) : α :=
  match lastAtMost? Prod.fst t.runs x with
  | some (_, value) => value
  | none => default

end RunTable

end TokenPattern.Unicode
