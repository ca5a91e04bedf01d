import TokenPattern.Regex

/-!
# The outline of a regular expression

Expressions that are written differently may need the same automaton.  `Regex.outline` brings an
expression into a form without such differences:

* parentheses that capture nothing are gone, nested sequences and choices are joined;
* characters in a row are one literal, a choice between characters or sets is one set, and a set of
  one character is that character;
* what all branches of a choice begin with stands in front of it;
* what matches only the empty text is taken at most once, and what is taken never is empty.

Outlines are built by `Outline.ofIntervals`, `Outline.sequence`, `Outline.alternation` and
`Outline.repeated`, which keep this form.
-/

namespace TokenPattern

/-- The form of an expression. -/
inductive Outline where
  | empty
  /-- Characters in a row, at least one. -/
  | literal (chars : List Char)
  /-- One character out of some intervals of code points. -/
  | set (intervals : List (Nat × Nat))
  | assert (assertion : Assertion) (unicode : Bool)
  | capture (inner : Outline)
  | repetition (inner : Outline) (min : Nat) (max : Option Nat) (isLazy : Bool)
  | concat (items : List Outline)
  | choice (branches : List Outline)

namespace Outline

/-! ## Lengths -/

mutual

/-- Whether only the empty text can match. -/
def isEmptyOnly : Outline → Bool
  | empty | assert _ _ => true
  | literal _ | set _ => false
  | capture inner => inner.isEmptyOnly
  | repetition inner _ max _ => max.isSome && inner.isEmptyOnly
  | concat items => areEmptyOnly items
  | choice branches => areEmptyOnly branches

/-- Whether only the empty text can match any of some outlines. -/
def areEmptyOnly : List Outline → Bool
  | [] => true
  | o :: rest => o.isEmptyOnly && areEmptyOnly rest

end

mutual

/-- The least number of characters that can match.  A set without members has none, and neither has
what contains such a set. -/
def leastLength : Outline → Option Nat
  | empty | assert _ _ => some 0
  | literal chars => some chars.length
  | set [] => none
  | set _ => some 1
  | capture inner => inner.leastLength
  | repetition inner min _ _ => inner.leastLength.map (· * min)
  | concat items => totalLength items
  | choice branches => shortest branches

/-- The least number of characters that can match some outlines one after the other. -/
def totalLength : List Outline → Option Nat
  | [] => some 0
  | o :: rest =>
    match o.leastLength, totalLength rest with
    | some n, some m => some (n + m)
    | _, _ => none

/-- The least number of characters that can match one of some outlines. -/
def shortest : List Outline → Option Nat
  | [] => none
  | [o] => o.leastLength
  | o :: rest =>
    match o.leastLength, shortest rest with
    | some n, some m => some (min n m)
    | _, _ => none

end

/-- Whether every match takes a character. -/
def needsInput (o : Outline) : Bool := o.leastLength.any (0 < ·)

/-! ## Equality -/

mutual

/-- Whether two outlines are the same.  What is captured is never the same as something else. -/
def same : Outline → Outline → Bool
  | empty, empty => true
  | literal a, literal b => a == b
  | set a, set b => a == b
  | assert a u, assert b v => decide (a = b) && (u == v || !a.isAboutWords)
  | repetition o min max l, repetition o' min' max' l' =>
    min == min' && max == max' && l == l' && same o o'
  | concat items, concat items' => sameAll items items'
  | choice branches, choice branches' => sameAll branches branches'
  | _, _ => false

/-- Whether two lists of outlines are the same. -/
def sameAll : List Outline → List Outline → Bool
  | [], [] => true
  | o :: rest, o' :: rest' => same o o' && sameAll rest rest'
  | _, _ => false

end

/-! ## Sets -/

/-- Joins an interval with those behind it, in the order of their lower ends, as long as they
overlap or touch. -/
def joinIntervals (lo hi : Nat) : List (Nat × Nat) → List (Nat × Nat)
  | [] => [(lo, hi)]
  | (lo', hi') :: rest =>
    if lo' ≤ hi + 1 then joinIntervals lo (max hi hi') rest
    else (lo, hi) :: joinIntervals lo' hi' rest

/-- The intervals of a union. -/
def unionIntervals (intervals : List (Nat × Nat)) : List (Nat × Nat) :=
  match intervals.mergeSort fun a b => a.1 ≤ b.1 with
  | [] => []
  | (lo, hi) :: rest => joinIntervals lo hi rest

/-- One character out of some intervals. -/
def ofIntervals : List (Nat × Nat) → Outline
  | [(lo, hi)] => if lo = hi then literal [Char.ofNat lo] else set [(lo, hi)]
  | intervals => set intervals

/-! ## Sequences -/

/-- Joins nested sequences and drops what is empty. -/
def flattenItems : List Outline → List Outline
  | [] => []
  | empty :: rest => flattenItems rest
  | concat items :: rest => items ++ flattenItems rest
  | o :: rest => o :: flattenItems rest

/-- Joins literals that follow each other. -/
def joinLiterals : List Outline → List Outline
  | [] => []
  | literal chars :: rest =>
    match joinLiterals rest with
    | literal more :: others => literal (chars ++ more) :: others
    | others => literal chars :: others
  | o :: rest => o :: joinLiterals rest

/-- One after the other. -/
def sequence (items : List Outline) : Outline :=
  match joinLiterals (flattenItems items) with
  | [] => empty
  | [o] => o
  | items => concat items

/-! ## Choices -/

/-- Joins nested choices. -/
def flattenBranches : List Outline → List Outline
  | [] => []
  | choice branches :: rest => branches ++ flattenBranches rest
  | o :: rest => o :: flattenBranches rest

/-- The interval of a single character. -/
def singleton? : Outline → Option (List (Nat × Nat))
  | literal [c] => some [(c.toNat, c.toNat)]
  | _ => none

/-- The intervals of a set. -/
def intervals? : Outline → Option (List (Nat × Nat))
  | set intervals => some intervals
  | _ => none

/-- One of some outlines, as a set if they are all single characters or all sets. -/
def choose (branches : List Outline) : Outline :=
  match flattenBranches branches with
  | [] => set []
  | [o] => o
  | branches =>
    match branches.mapM singleton? <|> branches.mapM intervals? with
    | some intervals => ofIntervals (unionIntervals intervals.flatten)
    | none => choice branches

/-- The items of a sequence. -/
def items? : Outline → Option (List Outline)
  | concat items => some items
  | _ => none

/-- What two lists of items begin with. -/
def commonFront : List Outline → List Outline → List Outline
  | o :: rest, o' :: rest' => if same o o' then o :: commonFront rest rest' else []
  | _, _ => []

/-- What some sequences begin with, if there are several. -/
def commonItems : List (List Outline) → List Outline
  | [] => []
  | first :: others => others.foldl commonFront first

/-- One of some outlines, with what they have in common in front.  Behind a longest common front
there is no further one. -/
def alternation (branches : List Outline) : Outline :=
  match choose branches with
  | choice branches =>
    match branches.mapM items? with
    | some sequences =>
      match commonItems sequences with
      | [] => choice branches
      | front =>
        sequence (front ++ [choose (sequences.map fun s => sequence (s.drop front.length))])
    | none => choice branches
  | o => o

/-! ## Repetitions -/

/-- At least `min` times, and at most `max` times. -/
def repeated (o : Outline) (min : Nat) (max : Option Nat) (isLazy : Bool) : Outline :=
  let (min, max) := if o.isEmptyOnly then (Nat.min min 1, some ((max.map (Nat.min 1)).getD 1))
    else (min, max)
  if min = 0 && max == some 0 then empty
  else if min = 1 && max == some 1 then o
  else repetition o min max isLazy

end Outline

namespace Regex

/-! ## The outline of an expression -/

/-- What an outline becomes a part of. -/
inductive Surrounding where
  | items
  | branches

/-- Puts the outlines of the items or branches of an expression in front of others. -/
def outlines : Regex → Surrounding → List Outline → List Outline
  | concat left right, .items, rest => left.outlines .items (right.outlines .items rest)
  | alt left right, .branches, rest => left.outlines .branches (right.outlines .branches rest)
  | concat left right, .branches, rest =>
    .sequence (left.outlines .items (right.outlines .items [])) :: rest
  | alt left right, .items, rest =>
    .alternation (left.outlines .branches (right.outlines .branches [])) :: rest
  | empty, _, rest => .empty :: rest
  | one set, _, rest => .ofIntervals set.intervals :: rest
  | assert a unicode, _, rest => .assert a unicode :: rest
  | group captures inner, _, rest =>
    let o := Outline.sequence (inner.outlines .items [])
    (if captures then .capture o else o) :: rest
  | repetition inner min max isLazy, _, rest =>
    .repeated (.sequence (inner.outlines .items [])) min max isLazy :: rest

/-- The form of an expression. -/
def outline (r : Regex) : Outline := .sequence (r.outlines .items [])

end Regex

end TokenPattern
