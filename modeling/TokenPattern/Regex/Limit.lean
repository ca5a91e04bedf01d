import TokenPattern.Regex.Usage

/-!
# Expressions that are too large

An expression is accepted if both of its automata, the one that reads forward and the one that reads
backward, stay within `memoryLimit`.  Most expressions are far below it, which `Regex.bound` shows
without counting.
-/

namespace TokenPattern

namespace Outline

mutual

/-- Whether an assertion about an end of the text holds wherever an outline begins, or, if
`fromEnd`, wherever it ends. -/
def isAnchored (a : Assertion) (fromEnd : Bool) : Outline → Bool
  | empty | literal _ | set _ => false
  | assert other _ => other = a
  | capture inner => inner.isAnchored a fromEnd
  | repetition inner min _ _ => 0 < min && inner.isAnchored a fromEnd
  | concat items => if fromEnd then isLastAnchored a items else isFirstAnchored a items
  | choice branches => areAnchored a fromEnd branches

/-- Whether an item is anchored with nothing but empty texts in front of it. -/
def isFirstAnchored (a : Assertion) : List Outline → Bool
  | [] => false
  | o :: rest => o.isAnchored a false || (o.isEmptyOnly && isFirstAnchored a rest)

/-- Whether an item is anchored with nothing but empty texts behind it. -/
def isLastAnchored (a : Assertion) : List Outline → Bool
  | [] => false
  | o :: rest => isLastAnchored a rest || (areEmptyOnly rest && o.isAnchored a true)

/-- Whether all of some outlines are anchored. -/
def areAnchored (a : Assertion) (fromEnd : Bool) : List Outline → Bool
  | [] => true
  | o :: rest => o.isAnchored a fromEnd && areAnchored a fromEnd rest

end

/-- Counts what an automaton needs that may start anywhere in the text, unless the expression is
anchored. -/
def countStart (isAnchored : Bool) : Count Unit :=
  if isAnchored then Count.addStates 1
  else do
    let _ ← Count.addState 8
    let _ ← Count.addState 0
    let _ ← Count.addState 8
    pure ()

/-- Counts the automaton that reads forward; it remembers the whole match, too. -/
def countForward (o : Outline) : Count Unit := do
  countStart (o.isAnchored .textStart false)
  let _ ← (capture o).count true
  Count.addStates 1

/-- Counts the automaton that reads backward. -/
def countBackward (o : Outline) : Count Unit := do
  countStart (o.isAnchored .textEnd true)
  Count.leave (← o.count false)
  Count.addStates 1

/-- Whether both automata stay within the limit. -/
def fits (o : Outline) : Bool :=
  (o.countForward .initial).isSome && (o.countBackward .initial).isSome

end Outline

namespace Regex

/-- A number of bytes that is enough for either automaton of an expression. -/
def bound : Regex → Nat
  | empty | assert _ _ => 64
  | one set => if set.tabulated then 0x80000 else 0x1000 * (set.cuts.length + 1)
  | concat left right => left.bound + right.bound + 64
  | alt left right => left.bound + right.bound + 128
  | group _ inner => inner.bound + 128
  | repetition inner min max _ => (inner.bound + 64) * (max.getD min + 1) + 256

/-- Whether an expression is small enough. -/
def fits (r : Regex) : Bool := r.bound + 1024 ≤ memoryLimit || r.outline.fits

end Regex

end TokenPattern
