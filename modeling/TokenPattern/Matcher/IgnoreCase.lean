import TokenPattern.Matcher
import TokenPattern.Unicode.CaseMapping

/-!
# Matching without regard to case

Both matchers compare the lower-case form of a token with the lower-case form of a value.  For a
single character the form does not depend on a context, for a text it does.
-/

namespace TokenPattern.Matcher

/-- The text of a matcher that ignores case. -/
def ignoringCase (lowered : String) : String :=
  Diagnostic.record "IgnoreCase" [("value", diagnostic lowered)]

/-- The characters whose lower-case form is that of a text. -/
def ignoreCaseChar (value : String) : Matcher Char Char :=
  let lowered := Unicode.lowercaseText value
  passing (ignoringCase lowered) fun c => Unicode.lowercase c = lowered.toList

/-- The texts whose lower-case form is that of a text. -/
def ignoreCaseText (value : String) : Matcher String String :=
  let lowered := Unicode.lowercaseText value
  passing (ignoringCase lowered) fun s => Unicode.lowercaseText s = lowered

end TokenPattern.Matcher
