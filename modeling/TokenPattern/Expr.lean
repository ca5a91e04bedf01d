import TokenPattern.Error
import TokenPattern.Marker
import TokenPattern.Word

/-!
# Pattern expressions

`Expr α` is the syntax of patterns whose leaves are of type `α`: regular expressions with named
groups.  This file has the type, its size measures, the derived operators and their diagnostic text.

* `chain?` — the left fold of concatenation, on which `seq?`, `unroll` and `between` rest;
* `times`, `between`, `atLeast` — bounded repetition, which is unrolled into copies;
* `captured` — a group with a checked name.

A repetition bound comes as a natural number of at most 64 bits; where an error reports it, it is
shown as a signed word (`Word.signed`).
-/

namespace TokenPattern

universe u v

/-- A pattern over leaves of type `α`. -/
inductive Expr (α : Type u) where
  /-- One token that the leaf accepts. -/
  | leaf (matcher : α)
  /-- The left pattern, then the right one. -/
  | concat (left right : Expr α)
  /-- Either pattern. -/
  | alt (left right : Expr α)
  /-- The pattern or nothing. -/
  | maybe (inner : Expr α)
  /-- Any number of repetitions. -/
  | star (inner : Expr α)
  /-- The pattern as a named group. -/
  | capture (name : String) (inner : Expr α)
deriving DecidableEq

namespace Expr

variable {α : Type u} {β : Type v}

/-! ## Measures -/

/-- The number of leaves. -/
def leafCount : Expr α → Nat
  | leaf _ => 1
  | concat l r | alt l r => l.leafCount + r.leafCount
  | maybe x | star x | capture _ x => x.leafCount

/-- The number of nodes that are not leaves. -/
def compositeCount : Expr α → Nat
  | leaf _ => 0
  | concat l r | alt l r => l.compositeCount + r.compositeCount + 1
  | maybe x | star x | capture _ x => x.compositeCount + 1

/-- The number of nodes on the longest way down; a leaf has depth one. -/
def depth : Expr α → Nat
  | leaf _ => 1
  | concat l r | alt l r => 1 + max l.depth r.depth
  | maybe x | star x | capture _ x => 1 + x.depth

/-- The expression with its leaves renamed. -/
def map (f : α → β) : Expr α → Expr β
  | leaf m => leaf (f m)
  | concat l r => concat (l.map f) (r.map f)
  | alt l r => alt (l.map f) (r.map f)
  | maybe x => maybe (x.map f)
  | star x => star (x.map f)
  | capture n x => capture n (x.map f)

/-! ## Sequences -/

/-- Continues a concatenation to the left. -/
def chainFrom (first : Expr α) (rest : List (Expr α)) : Expr α := rest.foldl concat first

/-- The concatenation of a nonempty list, to the left. -/
def chain? : List (Expr α) → Option (Expr α)
  | [] => none
  | first :: rest => some (chainFrom first rest)

/-- A choice from a nonempty list, to the left. -/
def choice? : List (Expr α) → Option (Expr α)
  | [] => none
  | first :: rest => some (rest.foldl alt first)

/-- One leaf after the other. -/
def seq? (matchers : List α) : Option (Expr α) := chain? (matchers.map leaf)

/-- `n + 1` copies of an expression. -/
def unroll (a : Expr α) (n : Nat) : Expr α := chainFrom a (List.replicate n a)

instance : Add (Expr α) := ⟨concat⟩

instance : OrOp (Expr α) := ⟨alt⟩

/-! ## Bounded repetition -/

/-- Exactly `n` repetitions; there must be some. -/
def times (a : Expr α) : Nat → Except PatternError (Expr α)
  | 0 => .error (.invalidRepeatBound 0 (some 0))
  | n + 1 => .ok (unroll a n)

/-- At least `lo` and at most `hi` repetitions: `lo` copies, and optional copies up to `hi`. -/
def between (a : Expr α) (lo hi : Nat) : Except PatternError (Expr α) :=
  let invalid := PatternError.invalidRepeatBound (Word.signed lo) (some (Word.signed hi))
  if hi < lo ∨ hi = 0 then .error invalid
  else
    match chain? (List.replicate lo a ++ List.replicate (hi - lo) (maybe a)) with
    | some e => .ok e
    | none => .error invalid

/-- At least `lo` repetitions. -/
def atLeast (a : Expr α) : Nat → Expr α
  | 0 => star a
  | n + 1 => concat (unroll a n) (star a)

/-! ## Named groups -/

/-- A letter or underscore, then letters, digits and underscores, all of them ASCII. -/
def isIdentifier (name : String) : Bool :=
  match name.toList with
  | [] => false
  | c :: cs => (c.isAlpha || c == '_') && cs.all fun c => c.isAlphanum || c == '_'

/-- A group whose name must be an identifier. -/
def captured (name : String) (a : Expr α) : Except PatternError (Expr α) :=
  if isIdentifier name then .ok (capture name a) else .error (.invalidCaptureName name)

/-! ## Diagnostic text -/

/-- The text of an expression, given the texts of its leaves. -/
def text (leafText : α → String) : Expr α → String
  | leaf m => Diagnostic.applied "Leaf" [leafText m]
  | concat l r => Diagnostic.applied "Concat" [l.text leafText, r.text leafText]
  | alt l r => Diagnostic.applied "Alt" [l.text leafText, r.text leafText]
  | maybe x => Diagnostic.applied "Maybe" [x.text leafText]
  | star x => Diagnostic.applied "Repeat" [x.text leafText]
  | capture n x =>
    Diagnostic.record "Capture" [("name", diagnostic n), ("inner", x.text leafText)]

/-! ## Size of the derived operators -/

/-- Every expression has a leaf. -/
theorem leafCount_pos (e : Expr α) : 0 < e.leafCount := by
  induction e with
  | leaf => exact Nat.one_pos
  | concat l r ihl _ => exact Nat.lt_of_lt_of_le ihl (Nat.le_add_right _ _)
  | alt l r ihl _ => exact Nat.lt_of_lt_of_le ihl (Nat.le_add_right _ _)
  | maybe x ih => exact ih
  | star x ih => exact ih
  | capture n x ih => exact ih

/-- A concatenation has the leaves of its parts. -/
theorem leafCount_chainFrom (first : Expr α) (rest : List (Expr α)) :
    (chainFrom first rest).leafCount = first.leafCount + (rest.map leafCount).foldr (· + ·) 0 := by
  induction rest generalizing first with
  | nil => simp [chainFrom]
  | cons a rest ih =>
    rw [show chainFrom first (a :: rest) = chainFrom (concat first a) rest from rfl, ih]
    simp only [leafCount, List.map_cons, List.foldr_cons]
    omega

/-- Unrolling multiplies the leaves. -/
theorem leafCount_unroll (a : Expr α) (n : Nat) :
    (unroll a n).leafCount = (n + 1) * a.leafCount := by
  rw [unroll, leafCount_chainFrom]
  induction n with
  | zero => simp
  | succ n ih =>
    rw [List.replicate_succ, List.map_cons, List.foldr_cons, Nat.add_mul (n + 1) 1, Nat.one_mul,
      ← ih]
    omega

end Expr

end TokenPattern
