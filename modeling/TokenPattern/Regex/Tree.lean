import TokenPattern.Regex.Limit
import TokenPattern.Regex.Token

/-!
# From elements to an expression

The engine that stands in for a library of regular expressions (`Regex.Engine`) reads a text as that
library is documented to.

A `Frame` holds what was read of one group: the branches before the last bar, and the items behind
it.  The elements are folded over a stack of frames, the innermost group first; the last frame is
the whole expression.

**Depth.**  A group, a repetition, a branch of several items and a choice of several branches are
each one level above what they hold.  An expression of more than `maxDepth` levels is refused, and
so is one that is too large (`Regex.fits`).
-/

namespace TokenPattern.Regex

/-- The largest number of levels. -/
def maxDepth : Nat := 250

/-- An expression with its depth. -/
structure Part where
  regex : Regex
  depth : Nat

/-- What stands in a branch; a change of flags is an item without an expression. -/
inductive Item where
  | flags
  | part (p : Part)

/-- A group while it is read, the last branch and the last item first. -/
structure Frame where
  captures : Bool
  branches : List Part
  items : List Item

namespace Frame

/-- Nothing read yet. -/
def empty (captures : Bool) : Frame := ⟨captures, [], []⟩

/-- The depth of an item. -/
def itemDepth : Item → Nat
  | .flags => 0
  | .part p => p.depth

/-- The expression of the items of a branch, given last first. -/
def concatItems : List Item → Regex
  | [] => .empty
  | [.part p] => p.regex
  | .part p :: rest => .concat (concatItems rest) p.regex
  | .flags :: rest => concatItems rest

/-- The branch that is being read. -/
def branch (f : Frame) : Part :=
  match f.items with
  | [item] => ⟨concatItems [item], itemDepth item⟩
  | [] => ⟨.empty, 0⟩
  | items => ⟨concatItems items, 1 + (items.map itemDepth).foldl max 0⟩

/-- The choice between a branch and those before it. -/
def choice : Regex → List Part → Regex
  | r, [] => r
  | r, p :: rest => choice (.alt p.regex r) rest

/-- The expression of the whole group. -/
def whole (f : Frame) : Part :=
  let last := f.branch
  match f.branches with
  | [] => last
  | branches =>
    ⟨choice last.regex branches, 1 + (branches.map Part.depth).foldl max last.depth⟩

/-- Adds an item. -/
def add (f : Frame) (item : Item) : Frame := { f with items := item :: f.items }

/-- Starts the next branch. -/
def nextBranch (f : Frame) : Frame := { f with branches := f.branch :: f.branches, items := [] }

/-- Repeats the last item. -/
def repeatLast (f : Frame) (min : Nat) (max : Option Nat) (isLazy : Bool) : Except Fault Frame :=
  match f.items with
  | .part p :: rest =>
    .ok { f with items := .part ⟨.repetition p.regex min max isLazy, 1 + p.depth⟩ :: rest }
  | _ => .error .nothingToRepeat

/-- The group as an item of the one around it. -/
def close (f : Frame) : Item :=
  .part ⟨.group f.captures f.whole.regex, 1 + f.whole.depth⟩

end Frame

/-- Takes one element into the innermost of the open frames. -/
def step (token : Token) (inner : Frame) (outer : List Frame) :
    Except Fault (Frame × List Frame) :=
  match token with
  | .step r depth => .ok (inner.add (.part ⟨r, depth⟩), outer)
  | .flags => .ok (inner.add .flags, outer)
  | .opening captures => .ok (.empty captures, inner :: outer)
  | .closing =>
    match outer with
    | [] => .error .unopenedGroup
    | parent :: outer => .ok (parent.add inner.close, outer)
  | .bar => .ok (inner.nextBranch, outer)
  | .repetition min max isLazy => (inner.repeatLast min max isLazy).map fun f => (f, outer)

/-- Takes all elements. -/
def steps : List Token → Frame → List Frame → Except Fault (Frame × List Frame)
  | [], inner, outer => .ok (inner, outer)
  | token :: rest, inner, outer => do
    let (inner, outer) ← step token inner outer
    steps rest inner outer

/-- Builds the expression of some elements. -/
def ofTokens (tokens : List Token) : Except Fault Regex := do
  let (frame, outer) ← steps tokens (.empty false) []
  if !outer.isEmpty then .error .unclosedGroup
  else if maxDepth < frame.whole.depth then .error .nestedTooDeeply
  else if !frame.whole.regex.fits then .error .tooLarge
  else pure frame.whole.regex

/-- Reads a regular expression. -/
def parse (text : String) : Except Fault Regex := do
  let tokens ← scan text
  ofTokens tokens

/-- Elements are taken one after the other. -/
theorem steps_append (first second : List Token) (inner : Frame) (outer : List Frame) :
    steps (first ++ second) inner outer =
      (steps first inner outer).bind fun state => steps second state.1 state.2 := by
  induction first generalizing inner outer with
  | nil => rfl
  | cons token rest ih =>
    simp only [List.cons_append, steps, bind, Except.bind]
    cases step token inner outer with
    | error e => rfl
    | ok state => exact ih state.1 state.2

end TokenPattern.Regex
