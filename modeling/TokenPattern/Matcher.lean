import TokenPattern.Text.Diagnostic

/-!
# Matchers

A leaf of a pattern is a `Matcher`: it says which outputs one token yields.  No output rejects the
token, one accepts it, and several fork the match.  A matcher also has a diagnostic text, which is
all that can be told about it apart from what it does.

Most matchers are tests (`Matcher.passing`): they yield the token itself or nothing.  `not` accepts
what another matcher rejects, `outOf` yields a member of a composite token, and `ranges` yields a
character once for every range that holds it.
-/

namespace TokenPattern

/-- What a leaf accepts: the outputs that a token of type `τ` yields, and the text by which the
matcher is shown. -/
structure Matcher (τ ο : Type) where
  outputs : τ → List ο
  text : String

namespace Matcher

variable {τ ο : Type}

instance : Diagnostic (Matcher τ ο) := ⟨text⟩

/-- Whether a token yields anything. -/
def accepts (m : Matcher τ ο) (t : τ) : Bool := !(m.outputs t).isEmpty

/-! ## Tests -/

/-- A matcher that yields the tokens that pass a test. -/
def passing (text : String) (test : τ → Bool) : Matcher τ τ where
  outputs t := if test t then [t] else []
  text := text

/-- The tokens equal to one. -/
def exact [DecidableEq τ] [Diagnostic τ] (expected : τ) : Matcher τ τ :=
  passing (Diagnostic.record "ExactMatcher" [("expected", diagnostic expected)])
    (· = expected)

/-- The tokens in a list. -/
def inList [DecidableEq τ] [Diagnostic τ] (values : List τ) : Matcher τ τ :=
  passing (Diagnostic.record "InListMatcher" [("values", diagnostic values)]) (· ∈ values)

/-- The tokens in a set, given by its members. -/
def inSet [DecidableEq τ] [Diagnostic τ] (values : List τ) : Matcher τ τ :=
  passing
    (Diagnostic.record "InSetMatcher"
      [("values", Diagnostic.braced (values.eraseDups.map diagnostic))])
    (· ∈ values)

/-- Every token. -/
def any : Matcher τ τ := passing "AnyMatcher" fun _ => true

/-- Every token, where a pattern says so by its own name. -/
def anyToken : Matcher τ τ := passing "AnyToken" fun _ => true

/-- The tokens that pass a test with a name. -/
def test (name : String) (holds : τ → Bool) : Matcher τ τ :=
  passing (Diagnostic.applied "TestMatcher" [diagnostic name]) holds

/-- The tokens with an expected attribute. -/
def hasAttribute {ν : Type} [DecidableEq ν] [Diagnostic ν] (name : String) (project : τ → Option ν)
    (expected : ν) : Matcher τ τ :=
  passing
    (Diagnostic.record "AttributeMatcher"
      [("name", diagnostic name), ("expected", diagnostic expected)])
    fun t => project t = some expected

/-- The tokens that map a key to a value. -/
def hasEntry {κ ν : Type} [Diagnostic κ] [DecidableEq ν] [Diagnostic ν] (get? : τ → κ → Option ν)
    (key : κ) (value : ν) : Matcher τ τ :=
  passing
    (Diagnostic.record "KeyValueMatcher" [("key", diagnostic key), ("value", diagnostic value)])
    fun t => get? t key = some value

/-! ## Other matchers -/

/-- Yields what `emit` makes of the tokens from which `inner` yields nothing. -/
def not (emit : τ → ο) (inner : Matcher τ ο) : Matcher τ ο where
  outputs t := if (inner.outputs t).isEmpty then [emit t] else []
  text := Diagnostic.record "NotMatcher" [("inner", inner.text)]

/-- Yields a value from the tokens that hold it. -/
def outOf [DecidableEq ο] [Diagnostic ο] (value : ο) : Matcher (List ο) ο where
  outputs t := if value ∈ t then [value] else []
  text := Diagnostic.record "OutOfMatcher" [("value", diagnostic value)]

/-- Whether a character lies in a closed range. -/
def inRange (c : Char) (range : Char × Char) : Bool := range.1 ≤ c && c ≤ range.2

/-- The text of a range. -/
def rangeText (range : Char × Char) : String :=
  "(" ++ Diagnostic.separated [diagnostic range.1, diagnostic range.2] ++ ")"

/-- Yields a character once for every range that holds it. -/
def ranges (ranges : List (Char × Char)) : Matcher Char Char where
  outputs c := (ranges.filter (inRange c)).map fun _ => c
  text := Diagnostic.record "RangeMatcher"
    [("ranges", Diagnostic.sequence (ranges.map rangeText))]

/-! ## What matchers yield -/

theorem accepts_iff (m : Matcher τ ο) (t : τ) : m.accepts t = true ↔ m.outputs t ≠ [] := by
  simp [accepts]

@[simp] theorem outputs_passing (text : String) (test : τ → Bool) (t : τ) :
    (passing text test).outputs t = if test t then [t] else [] := rfl

/-- A test accepts what passes it. -/
@[simp] theorem accepts_passing (text : String) (test : τ → Bool) (t : τ) :
    (passing text test).accepts t = test t := by
  by_cases h : test t <;> simp [accepts, h]

/-- Negation accepts exactly what the inner matcher rejects. -/
@[simp] theorem accepts_not (emit : τ → ο) (inner : Matcher τ ο) (t : τ) :
    (not emit inner).accepts t = !inner.accepts t := by
  cases h : inner.outputs t <;> simp [accepts, not, h]

/-- A character is accepted when some range holds it. -/
theorem accepts_ranges (rs : List (Char × Char)) (c : Char) :
    (ranges rs).accepts c = rs.any (inRange c) := by
  rw [Bool.eq_iff_iff]
  simp [accepts, ranges]

end Matcher

end TokenPattern
