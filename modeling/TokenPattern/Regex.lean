import TokenPattern.Regex.CharSet
import TokenPattern.Regex.Places

/-!
# Regular expressions over the characters of a text

`Regex` is a regular expression with assertions about the place between two characters.  Only the
fact of a match is asked for, so what a group captures and how often a repetition prefers to step
have no influence on its meaning.

This module and those under `Regex` are an engine that stands in for a library of regular expressions,
which is not part of this project; `Regex.Engine` says what is used of it.

**Meaning.**  `Regex.image` takes a set of places in a text and gives the places that the expression
reaches from them.  An expression matches somewhere (`Regex.matchesIn`) when it reaches any place
from the set of all places.

**Motions.**  What an expression does with sets of places depends on the text only through the
places at which its characters and assertions fit.  These are found once; what remains is a
`Motion`.

**Repetition.**  A repetition first takes its required steps, then as many optional ones as it may.
Both stop early when a step changes nothing, and an unbounded repetition needs no more optional
steps than there are places, since each must reach a new one.
-/

namespace TokenPattern

/-- Assertions about a place in a text. -/
inductive Assertion where
  | textStart
  | textEnd
  | lineStart
  | lineEnd
  /-- After a line feed, or after a carriage return that no line feed follows. -/
  | anyLineStart
  /-- Before a carriage return, or before a line feed that follows none. -/
  | anyLineEnd
  /-- Between a word character and another character. -/
  | wordEdge
  | noWordEdge
  | wordStart
  | wordEnd
  /-- No word character before. -/
  | noWordBefore
  /-- No word character after. -/
  | noWordAfter
deriving DecidableEq

/-- Whether an assertion is about the words on either side. -/
def Assertion.isAboutWords : Assertion → Bool
  | textStart | textEnd | lineStart | lineEnd | anyLineStart | anyLineEnd => false
  | wordEdge | noWordEdge | wordStart | wordEnd | noWordBefore | noWordAfter => true

/-- A regular expression. -/
inductive Regex where
  /-- The empty text. -/
  | empty
  /-- One character out of a set. -/
  | one (set : CharSet)
  /-- The empty text where an assertion holds, about words of Unicode or of ASCII. -/
  | assert (assertion : Assertion) (unicode : Bool)
  /-- A part between parentheses, which may be one to remember. -/
  | group (captures : Bool) (inner : Regex)
  /-- One after the other. -/
  | concat (left right : Regex)
  /-- One or the other. -/
  | alt (left right : Regex)
  /-- At least `min` times and, if there is a maximum, at most `max` times; a lazy repetition
  prefers few times. -/
  | repetition (inner : Regex) (min : Nat) (max : Option Nat) (isLazy : Bool)

/-! ## Assertions -/

/-- Whether a character is there and in a set. -/
def CharSet.holds (s : CharSet) : Option Char → Bool
  | some c => s.contains c
  | .none => false

/-- Whether an assertion holds between two characters, either of which may be absent. -/
def Assertion.holds (a : Assertion) (word : CharSet) (before after : Option Char) : Bool :=
  match a with
  | textStart => before.isNone
  | textEnd => after.isNone
  | lineStart => before.isNone || before == some '\n'
  | lineEnd => after.isNone || after == some '\n'
  | anyLineStart =>
    before.isNone || before == some '\n' || (before == some '\r' && after != some '\n')
  | anyLineEnd =>
    after.isNone || after == some '\r' || (after == some '\n' && before != some '\r')
  | wordEdge => word.holds before != word.holds after
  | noWordEdge => word.holds before == word.holds after
  | wordStart => !word.holds before && word.holds after
  | wordEnd => word.holds before && !word.holds after
  | noWordBefore => !word.holds before
  | noWordAfter => !word.holds after

/-! ## Motions -/

/-- What an expression does with sets of places in one text. -/
inductive Motion where
  /-- Reaches the places themselves. -/
  | stay
  /-- Reaches those of the places that are in a set. -/
  | keep (here : Places)
  /-- Reaches the next place from those of the places that are in a set. -/
  | step (here : Places)
  /-- One after the other. -/
  | concat (left right : Motion)
  /-- One or the other. -/
  | alt (left right : Motion)
  /-- Some times, and then up to some more times. -/
  | repetition (inner : Motion) (required optional : Nat)

namespace Motion

/-- Takes a step a number of times, fewer if it changes nothing any more. -/
def iterate (step : Places → Places) : Nat → Places → Places
  | 0, places => places
  | n + 1, places =>
    let next := step places
    if next = places then places else iterate step n next

/-- The places that are reached from some place of a set. -/
def image : Motion → Places → Places
  | stay, places => places
  | keep here, places => places &&& here
  | step here, places => Places.advance here places
  | concat left right, places => right.image (left.image places)
  | alt left right, places => left.image places ||| right.image places
  | repetition inner required optional, places =>
    iterate (fun places => places ||| inner.image places) optional
      (iterate inner.image required places)

/-- What every step keeps, taking steps keeps. -/
theorem iterate_induction {step : Places → Places} {p : Places → Prop}
    (hstep : ∀ places, p places → p (step places)) (n : Nat) (places : Places) (h : p places) :
    p (iterate step n places) := by
  induction n generalizing places with
  | zero => exact h
  | succ n ih =>
    simp only [iterate]
    split
    · exact h
    · exact ih _ (hstep places h)

end Motion

namespace Regex

/-! ## Meaning -/

/-- The number of optional steps of a repetition, given the number of places. -/
def optionalSteps (min : Nat) (max : Option Nat) (places : Nat) : Nat :=
  match max with
  | some max => max - min
  | none => places

/-- What an expression does with sets of places in a text. -/
def motion (text : List Char) : Regex → Motion
  | empty => .stay
  | one set => .step (.before set.contains text)
  | assert a unicode => .keep (.between (a.holds (.word unicode)) text)
  | group _ inner => inner.motion text
  | concat left right => .concat (left.motion text) (right.motion text)
  | alt left right => .alt (left.motion text) (right.motion text)
  | repetition inner min max _ =>
    .repetition (inner.motion text) min (optionalSteps min max (text.length + 1))

/-- The places that an expression reaches from some place of a set. -/
def image (text : List Char) (r : Regex) (places : Places) : Places := (r.motion text).image places

/-- Whether an expression matches some part of a text. -/
def matchesIn (r : Regex) (text : String) : Bool :=
  r.image text.toList (.all text.toList) != 0

/-! ## Parts -/

section

variable (text : List Char) (places : Places)

theorem image_empty : empty.image text places = places := rfl

theorem image_one (set : CharSet) :
    (one set).image text places = Places.advance (.before set.contains text) places := rfl

theorem image_assert (a : Assertion) (unicode : Bool) :
    (assert a unicode).image text places =
      places &&& .between (a.holds (.word unicode)) text := rfl

theorem image_concat (left right : Regex) :
    (concat left right).image text places = right.image text (left.image text places) := rfl

theorem image_alt (left right : Regex) :
    (alt left right).image text places = left.image text places ||| right.image text places := rfl

theorem image_repetition (inner : Regex) (min : Nat) (max : Option Nat) (isLazy : Bool) :
    (repetition inner min max isLazy).image text places =
      Motion.iterate (fun places => places ||| inner.image text places)
        (optionalSteps min max (text.length + 1))
        (Motion.iterate (inner.image text) min places) := rfl

end

/-- An expression reaches places of the same text. -/
theorem le_length_of_testBit_image {text : List Char} (r : Regex) {places : Places}
    (h : ∀ i, places.testBit i = true → i ≤ text.length) :
    ∀ i, (r.image text places).testBit i = true → i ≤ text.length := by
  induction r generalizing places with
  | empty => exact h
  | one set =>
    intro i hi
    rw [image_one] at hi
    cases i with
    | zero => exact Nat.zero_le _
    | succ i =>
      rw [Places.testBit_advance_succ, Places.testBit_before, Bool.and_eq_true] at hi
      rcases Nat.lt_or_ge i text.length with hlt | hge
      · exact hlt
      · simp [List.getElem?_eq_none hge] at hi
  | assert a unicode =>
    intro i hi
    rw [image_assert, Nat.testBit_and, Bool.and_eq_true] at hi
    exact h i hi.1
  | group captures inner ih => exact ih h
  | concat left right ihl ihr => exact ihr (ihl h)
  | alt left right ihl ihr =>
    intro i hi
    rw [image_alt, Nat.testBit_or, Bool.or_eq_true] at hi
    exact hi.elim (ihl h i) (ihr h i)
  | repetition inner min max isLazy ih =>
    let p (places : Places) : Prop := ∀ i, places.testBit i = true → i ≤ text.length
    have hrequired : p (Motion.iterate (inner.image text) min places) :=
      Motion.iterate_induction (p := p) (fun _ hp => ih hp) min places h
    refine Motion.iterate_induction (p := p) (fun _ hp i hi => ?_) _ _ hrequired
    rw [Nat.testBit_or, Bool.or_eq_true] at hi
    exact hi.elim (hp i) (ih hp i)

end Regex

end TokenPattern
