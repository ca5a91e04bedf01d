import TokenPattern.Document.Json
import TokenPattern.Document.Record
import TokenPattern.Matcher.CharClass
import TokenPattern.Matcher.IgnoreCase
import TokenPattern.Registry

/-!
# The contents of configured matchers

A matcher type reads its content from a record with one field: `value` for one accepted token,
`values` for several, `ranges` for ranges of characters, `class` for a named class.  The types here
are factories for a registry; they serve every kind of token that has a reader for single tokens.
-/

namespace TokenPattern

/-- A reader's result as the result of loading a pattern. -/
def Mismatch.asConfigFault {α : Type} : Except Mismatch α → Except PatternError α
  | .ok a => .ok a
  | .error m => .error (.invalidConfig (.mismatch m))

namespace Registry

open Mismatch (asConfigFault)

variable {τ : Type} [DecidableEq τ] [Diagnostic τ]

/-! ## Records with one field -/

/-- Reads the only field of a record, given the name of the record and of the field. -/
def onlyField {α : Type} (name field : String) (read : Document → Except Mismatch α)
    (d : Document) : Except Mismatch α := do
  let r ← (RecordShape.topLevel name [field]).record d
  let f := r.field 0 field read
  Record.check [f.faults]
  let value ← f.required r
  r.finish
  pure value

/-! ## Ranges -/

/-- A pair of characters. -/
def characterPair : Document → Except Mismatch (Char × Char)
  | .array (a :: b :: rest) => do
    let first ← Document.character a
    let last ← Document.character b
    if rest.isEmpty then pure (first, last)
    else .error (.invalidLength (2 + rest.length) "fewer elements in array")
  | .array [a] => do
    let _ ← Document.character a
    .error (.invalidLength 1 "a tuple of size 2")
  | .array [] => .error (.invalidLength 0 "a tuple of size 2")
  | d => .error (.invalidType (.ofDocument d) "a tuple of size 2")

/-- Ranges, none of which ends before it starts, and at least one. -/
def checkRanges (ranges : List (Char × Char)) : Except PatternError (List (Char × Char)) :=
  if ranges.isEmpty then .error (.invalidConfig .noRanges)
  else match ranges.find? fun r => r.2 < r.1 with
    | some r => .error (.invalidConfig (.reversedRange r.1 r.2))
    | none => .ok ranges

/-! ## Matcher types -/

/-- One accepted token. -/
def exactType (read : Document → Except Mismatch τ) : MatcherFactory τ τ := fun d => do
  let value ← asConfigFault (onlyField "ExactConfig" "value" read d)
  pure (Matcher.exact value)

/-- A set of accepted tokens, which must not be empty. -/
def inSetType (read : Document → Except Mismatch τ) : MatcherFactory τ τ := fun d => do
  let values ← asConfigFault (onlyField "ValuesConfig" "values" (Document.listOf read) d)
  if values.isEmpty then .error (.invalidConfig .noValues) else pure (Matcher.inSet values)

/-- Ranges of characters. -/
def rangesType : MatcherFactory Char Char := fun d => do
  let ranges ← asConfigFault (onlyField "RangesConfig" "ranges" (Document.listOf characterPair) d)
  let ranges ← checkRanges ranges
  pure (Matcher.ranges ranges)

/-- A class by its name. -/
def classOfDocument (d : Document) : Except Mismatch CharClass := do
  let name ← Document.variant (CharClass.all.map CharClass.name) d
  match CharClass.ofName? name with
  | some c => pure c
  | none => .error (.unknownVariant name (CharClass.all.map CharClass.name))

/-- A named class of characters. -/
def classType : MatcherFactory Char Char := fun d => do
  let c ← asConfigFault (onlyField "ClassConfig" "class" classOfDocument d)
  pure (Matcher.charClass c)

omit [DecidableEq τ] [Diagnostic τ] in
/-- Every token, whatever the content. -/
def anyType : MatcherFactory τ τ := fun _ => .ok Matcher.any

/-- One character without regard to case. -/
def ignoreCaseCharType : MatcherFactory Char Char := fun d => do
  let value ← asConfigFault (onlyField "IgnoreCaseConfig" "value" Document.text d)
  if value.length = 1 then pure (Matcher.ignoreCaseChar value)
  else .error (.invalidConfig (.notOneCharacter value))

/-- One text without regard to case. -/
def ignoreCaseTextType : MatcherFactory String String := fun d => do
  let value ← asConfigFault (onlyField "IgnoreCaseConfig" "value" Document.text d)
  pure (Matcher.ignoreCaseText value)

/-! ## What a check lets through -/

/-- Checked ranges hold at least their first character. -/
theorem checkRanges_eq_ok {ranges checked : List (Char × Char)}
    (h : checkRanges ranges = .ok checked) :
    checked = ranges ∧ ranges ≠ [] ∧ ∀ r ∈ ranges, r.1 ≤ r.2 := by
  simp only [checkRanges] at h
  split at h
  · cases h
  · rename_i hne
    split at h
    · cases h
    · rename_i hfind
      cases h
      refine ⟨rfl, by simpa using hne, fun r hr => ?_⟩
      have := List.find?_eq_none.1 hfind r hr
      simpa using this

end Registry

end TokenPattern
