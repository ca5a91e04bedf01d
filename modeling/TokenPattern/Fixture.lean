import TokenPattern.PatternConfig
import TokenPattern.Program
import TokenPattern.Registry.Words
import TokenPattern.Text.Infix

/-!
# Fixtures

A `Fixture` is a configured pattern with test cases: inputs, and what matching them must give.
`Fixture.run` runs it and says for every case whether it passed, and if not, why.

**Order.**  In which order matches are found is not part of what a case expects.  Trails and groups
are therefore compared as sorted lists, each on its own.
-/

namespace TokenPattern

/-! ## Fixtures -/

/-- How the input of a case is divided into tokens. -/
inductive TokenKind where
  /-- A token for every character. -/
  | chars
  /-- A token for every word. -/
  | words
deriving DecidableEq

/-- The texts of the groups of a match, by name; the names are sorted. -/
abbrev GroupTexts := List (String × List String)

/-- What a case expects; what is absent is not compared. -/
structure Expectation where
  /-- The number of matches. -/
  count : Option Nat
  /-- The text of every match. -/
  trails : Option (List String)
  /-- The texts of the groups of every match. -/
  groups : Option (List GroupTexts)
  /-- A part of the message of the error with which matching must fail. -/
  error : Option String

/-- An input with what is expected of it. -/
structure TestCase where
  name : String
  input : String
  maxFrontier : Option Nat
  expect : Expectation

/-- A configured pattern with test cases. -/
structure Fixture where
  name : String
  description : String
  tokens : TokenKind
  pattern : PatternConfig
  /-- A part of the message with which loading the pattern must fail. -/
  loadError : Option String
  cases : List TestCase

/-! ## Results -/

/-- A match as text. -/
structure MatchText where
  trail : String
  groups : GroupTexts

/-- All matches as text, sorted. -/
structure Outcome where
  trails : List String
  groups : List GroupTexts

/-- Whether something passed, with the reason. -/
structure Verdict where
  passed : Bool
  detail : String
deriving DecidableEq

/-- The verdict on a case. -/
structure CaseResult where
  caseName : String
  verdict : Verdict
deriving DecidableEq

namespace GroupTexts

/-- The texts of groups as they are compared: each name in front of its texts. -/
def key (g : GroupTexts) : List (List String) := g.map fun e => e.1 :: e.2

/-- The diagnostic text of the texts of groups. -/
def text (g : GroupTexts) : String :=
  Diagnostic.braced (g.map fun e => Diagnostic.entry (diagnostic e.1) (diagnostic e.2))

/-- The diagnostic text of a list of them. -/
def listText (l : List GroupTexts) : String := Diagnostic.sequence (l.map text)

end GroupTexts

/-! ## Sorting -/

/-- Sorts by a key. -/
def sortOn {α κ : Type} [Ord κ] (key : α → κ) (l : List α) : List α :=
  l.mergeSort fun a b => (compare (key a) (key b)).isLE

/-- Sorts texts. -/
def sortTexts (l : List String) : List String := sortOn id l

/-- Sorts the texts of groups. -/
def sortGroupTexts (l : List GroupTexts) : List GroupTexts := sortOn GroupTexts.key l

/-- All matches as text, sorted. -/
def Outcome.ofTexts (found : List MatchText) : Outcome :=
  ⟨sortTexts (found.map MatchText.trail), sortGroupTexts (found.map MatchText.groups)⟩

instance : Diagnostic Outcome :=
  ⟨fun o => Diagnostic.record "Outcome"
    [("trails", diagnostic o.trails), ("groups", GroupTexts.listText o.groups)]⟩

/-! ## Verdicts -/

namespace Verdict

/-- Everything was as expected. -/
def pass : Verdict := ⟨true, ""⟩

/-- Something was not. -/
def fail (detail : String) : Verdict := ⟨false, detail⟩

end Verdict

namespace Expectation

/-- The message of an error against a part that it must include. -/
def checkMessage (what expected message : String) : Verdict :=
  ⟨Text.includes message expected,
    "expected " ++ what ++ " containing " ++ diagnostic expected ++ ", got " ++ diagnostic message⟩

/-- What was found against what is expected; the first difference counts. -/
def checkOutcome (x : Expectation) (o : Outcome) : Verdict :=
  if x.count.any (· ≠ o.trails.length) then
    .fail ("expected " ++ diagnostic (x.count.getD 0) ++ " matches, got " ++ diagnostic o)
  else if x.trails.any fun l => sortTexts l ≠ o.trails then
    .fail ("expected trails " ++ diagnostic (sortTexts (x.trails.getD [])) ++ ", got " ++
      diagnostic o.trails)
  else if x.groups.any fun l => sortGroupTexts l ≠ o.groups then
    .fail ("expected groups " ++ GroupTexts.listText (sortGroupTexts (x.groups.getD [])) ++
      ", got " ++ GroupTexts.listText o.groups)
  else .pass

/-- The result of matching against what is expected. -/
def check (x : Expectation) (result : Except MatchError (List MatchText)) : Verdict :=
  match result, x.error with
  | .error e, some expected => checkMessage "error" expected e.message
  | .error e, none => .fail ("unexpected error: " ++ e.message)
  | .ok found, some expected =>
    .fail ("expected error containing " ++ diagnostic expected ++ ", got " ++
      diagnostic found.length ++ " matches")
  | .ok found, none => x.checkOutcome (.ofTexts found)

end Expectation

/-! ## Running -/

/-- How texts become tokens, and tokens texts again. -/
structure Tokenizer (τ : Type) where
  registry : Registry τ τ
  split : String → List τ
  render : List τ → String

/-- A token for every character. -/
def Tokenizer.chars : Tokenizer Char := ⟨.charactersAndCase, String.toList, String.ofList⟩

/-- A token for every word. -/
def Tokenizer.words : Tokenizer String := ⟨.wordsAndCase, Text.words, String.intercalate " "⟩

namespace Fixture

/-- A match as text. -/
def matchText {τ : Type} (render : List τ → String) (m : Match (List τ)) : MatchText :=
  ⟨render m.trail, m.groupNames.map fun n => (n, (m.group n).map fun g => render g.trail)⟩

/-- Runs one case. -/
def runCase {τ : Type} (t : Tokenizer τ) (e : Expr (Matcher τ τ)) (c : TestCase) : CaseResult :=
  let limits := match c.maxFrontier with
    | some max => ⟨some max⟩
    | none => Limits.default
  let found := ((Program.compile e).withLimits limits).allMatches (t.split c.input)
  ⟨c.name, c.expect.check (found.map (·.map (matchText t.render)))⟩

/-- Loads the pattern and runs the cases; if the pattern cannot or must not be loaded, there is one
result instead. -/
def runWith {τ : Type} (t : Tokenizer τ) (f : Fixture) : List CaseResult :=
  match t.registry.load f.pattern, f.loadError with
  | .ok e, none => f.cases.map (runCase t e)
  | .error e, some expected =>
    [⟨"load", Expectation.checkMessage "load error" expected e.message⟩]
  | .ok _, some expected =>
    [⟨"load", .fail ("expected load error containing " ++ diagnostic expected ++
      ", but it loaded")⟩]
  | .error e, none => [⟨"load", .fail ("pattern failed to load: " ++ e.message)⟩]

/-- Runs a fixture. -/
def run (f : Fixture) : List CaseResult :=
  match f.tokens with
  | .chars => f.runWith .chars
  | .words => f.runWith .words

/-- The message for the first case that did not pass. -/
def failure? (f : Fixture) : Option String :=
  (f.run.find? fun r => !r.verdict.passed).map fun r =>
    "Fixture '" ++ f.name ++ "' case '" ++ r.caseName ++ "' failed: " ++ r.verdict.detail

end Fixture

/-! ## Sorted lists -/

/-- Sorting keeps what is in a list. -/
theorem sortOn_perm {α κ : Type} [Ord κ] (key : α → κ) (l : List α) : (sortOn key l).Perm l :=
  List.mergeSort_perm l _

/-- Lists with the same members in another order become the same when sorted by a key that tells
them apart. -/
theorem sortOn_eq_of_perm {α κ : Type} [Ord κ] [Std.TransOrd κ] [Std.LawfulEqOrd κ] {key : α → κ}
    (hkey : ∀ a b, key a = key b → a = b) {l₁ l₂ : List α} (h : l₁.Perm l₂) :
    sortOn key l₁ = sortOn key l₂ := by
  have hsorted (l : List α) :
      (sortOn key l).Pairwise fun a b => (compare (key a) (key b)).isLE = true := by
    refine List.pairwise_mergeSort (fun a b c => Std.TransCmp.isLE_trans) (fun a b => ?_) l
    have hswap : compare (key b) (key a) = (compare (key a) (key b)).swap :=
      Std.OrientedCmp.eq_swap
    rw [hswap]
    cases compare (key a) (key b) <;> rfl
  refine List.Perm.eq_of_pairwise (fun a b _ _ hab hba => ?_) (hsorted l₁) (hsorted l₂)
    ((sortOn_perm key l₁).trans (h.trans (sortOn_perm key l₂).symm))
  exact hkey a b (Std.LawfulEqCmp.eq_of_compare (Std.OrientedCmp.isLE_antisymm hab hba))

end TokenPattern
