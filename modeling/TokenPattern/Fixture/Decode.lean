import TokenPattern.Fixture
import TokenPattern.PatternConfig.Decode
import TokenPattern.Yaml.View

/-!
# Reading fixtures from documents

`Fixture.ofDocument` reads one fixture from a document, `Fixture.ofYaml?` the only fixture of a YAML
text and `Fixture.listOfYaml?` the fixtures of all its documents.  Of a text without documents there
is none.
-/

namespace TokenPattern

/-! ## Views -/

/-- What is looked at of an expectation. -/
def Expectation.view : Yaml.View :=
  .record [("count", .scalar), ("trails", .list .scalar),
    ("groups", .list (.table (.list .scalar))), ("error", .scalar)]

/-- What is looked at of a case. -/
def TestCase.view : Yaml.View :=
  .record [("name", .scalar), ("input", .scalar), ("max_frontier", .scalar),
    ("expect", Expectation.view)]

/-- What is looked at of a fixture. -/
def Fixture.view : Yaml.View :=
  .record [("name", .scalar), ("description", .scalar), ("tokens", .scalar), ("pattern", .whole),
    ("load_error", .scalar), ("cases", .list TestCase.view)]

/-! ## Readers -/

/-- Reads how inputs are divided. -/
def TokenKind.ofDocument (d : Document) : Except Mismatch TokenKind := do
  let name ← Document.variant ["chars", "words"] d
  pure (if name = "words" then words else chars)

/-- Reads the texts of groups; of several groups with one name the last counts. -/
def GroupTexts.ofDocument (d : Document) : Except Mismatch GroupTexts := do
  let entries ← Document.mapOf (Document.listOf Document.text) d
  pure (entries.foldl insert [])
where
  /-- Puts the texts of a name into a sorted list, in place of earlier ones. -/
  insert : GroupTexts → String × List String → GroupTexts
    | [], e => [e]
    | g :: rest, e =>
      if e.1 < g.1 then e :: g :: rest
      else if e.1 = g.1 then e :: rest
      else g :: insert rest e

/-- Reads what a case expects. -/
def Expectation.ofDocument (d : Document) : Except Mismatch Expectation := do
  let r ← (RecordShape.topLevel "Expectation" ["count", "trails", "groups", "error"]).record d
  let count := r.field 0 "count" (Document.optional Document.count)
  let trails := r.field 1 "trails" (Document.optional (Document.listOf Document.text))
  let groups := r.field 2 "groups" (Document.optional (Document.listOf GroupTexts.ofDocument))
  let error := r.field 3 "error" (Document.optional Document.text)
  Record.check [count.faults, trails.faults, groups.faults, error.faults]
  r.finish
  pure ⟨← count.orElse none, ← trails.orElse none, ← groups.orElse none, ← error.orElse none⟩

/-- Reads a case. -/
def TestCase.ofDocument (d : Document) : Except Mismatch TestCase := do
  let r ← (RecordShape.topLevel "TestCase" ["name", "input", "max_frontier", "expect"]).record d
  let name := r.field 0 "name" Document.text
  let input := r.field 1 "input" Document.text
  let maxFrontier := r.field 2 "max_frontier" (Document.optional Document.count)
  let expect := r.field 3 "expect" Expectation.ofDocument
  Record.check [name.faults, input.faults, maxFrontier.faults, expect.faults]
  let name ← name.required r
  let input ← input.required r
  let expect ← expect.required r
  r.finish
  pure ⟨name, input, ← maxFrontier.orElse none, expect⟩

namespace Fixture

/-- The fields of a fixture. -/
def shape : RecordShape :=
  .topLevel "Fixture" ["name", "description", "tokens", "pattern", "load_error", "cases"]

/-- Reads a fixture. -/
def ofDocument (d : Document) : Except Mismatch Fixture := do
  let r ← shape.record d
  let name := r.field 0 "name" Document.text
  let description := r.field 1 "description" Document.text
  let tokens := r.field 2 "tokens" TokenKind.ofDocument
  let pattern := r.field 3 "pattern" PatternConfig.ofDocument
  let loadError := r.field 4 "load_error" (Document.optional Document.text)
  let cases := r.field 5 "cases" (Document.listOf TestCase.ofDocument)
  Record.check [name.faults, description.faults, tokens.faults, pattern.faults, loadError.faults,
    cases.faults]
  let name ← name.required r
  let description ← description.required r
  let pattern ← pattern.required r
  r.finish
  pure ⟨name, description, ← tokens.orElse .chars, pattern, ← loadError.orElse none,
    ← cases.orElse []⟩

/-- Reads the fixtures of all documents of a YAML text. -/
def listOfYaml? (text : String) : Option (List Fixture) := do
  let documents ← Document.ofYaml? view text
  if documents.isEmpty then none else documents.mapM fun d => (ofDocument d).toOption

/-- Reads the fixture of a YAML text with one document. -/
def ofYaml? (text : String) : Option Fixture := do
  match ← Document.ofYaml? view text with
  | [d] => (ofDocument d).toOption
  | _ => none

/-- A text with one fixture has this fixture. -/
theorem listOfYaml?_of_ofYaml? {text : String} {f : Fixture} (h : ofYaml? text = some f) :
    listOfYaml? text = some [f] := by
  unfold ofYaml? at h
  unfold listOfYaml?
  cases hd : Document.ofYaml? view text with
  | none => simp [hd] at h
  | some documents =>
    simp only [hd, Option.bind_eq_bind, Option.bind_some] at h ⊢
    split at h
    · rename_i d
      simp [h]
    · cases h

end Fixture

end TokenPattern
