import TokenPattern.Error
import TokenPattern.Matcher
import TokenPattern.Regex.Engine

/-!
# Matching whole texts by a regular expression

A pattern is put into a group between an assertion about the start and one about the end of the
text.  The engine is given the pattern together with what is put around it.
-/

namespace TokenPattern

/-- A pattern between the assertions about both ends. -/
def Regex.wholeText (pattern : String) : String := "^(?:" ++ pattern ++ ")$"

namespace Matcher

/-- The texts that a regular expression describes as a whole, by an engine. -/
def regexBy (engine : Regex.Engine) (pattern : String) :
    Except PatternError (Matcher String String) :=
  match engine.compile (Regex.wholeText pattern) with
  | .ok compiled =>
    .ok (passing
      (Diagnostic.record "RegexMatcher"
        [("pattern", diagnostic pattern),
          ("regex", Diagnostic.applied "Regex" [diagnostic (Regex.wholeText pattern)])])
      (engine.finds compiled))
  | .error reason => .error (.invalidRegex pattern reason)

/-- The same by the engine of this project. -/
def regex (pattern : String) : Except PatternError (Matcher String String) :=
  regexBy Regex.builtin pattern

/-- A matcher is made exactly when the pattern can be compiled between the assertions. -/
theorem regexBy_isOk_iff (engine : Regex.Engine) (pattern : String) :
    (∃ m, regexBy engine pattern = .ok m) ↔
      ∃ compiled, engine.compile (Regex.wholeText pattern) = .ok compiled := by
  unfold regexBy
  cases engine.compile (Regex.wholeText pattern) <;> simp

/-- It accepts the texts in which the engine finds the pattern between the assertions. -/
theorem exists_compiled_of_regexBy {engine : Regex.Engine} {pattern : String}
    {m : Matcher String String} (h : regexBy engine pattern = .ok m) :
    ∃ compiled, engine.compile (Regex.wholeText pattern) = .ok compiled ∧
      ∀ t, m.accepts t = engine.finds compiled t := by
  unfold regexBy at h
  cases hcompile : engine.compile (Regex.wholeText pattern) with
  | error reason => simp [hcompile] at h
  | ok compiled =>
    rw [hcompile] at h
    obtain rfl := Except.ok.inj h
    exact ⟨compiled, rfl, fun t => by rw [accepts_passing]⟩

end Matcher

end TokenPattern
