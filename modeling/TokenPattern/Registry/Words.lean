import TokenPattern.Matcher.WholeText
import TokenPattern.Registry.Characters
import TokenPattern.Text.Words

/-!
# Registries over words

`Registry.words` knows the matcher types for texts as tokens; a literal is a text that is divided at
white space, or a list of texts.  `Registry.wordsAndCase` adds the type that ignores case.
-/

namespace TokenPattern.Registry

open Mismatch (asConfigFault)

/-! ## Matcher types and literals -/

/-- A regular expression for whole words. -/
def regexType : MatcherFactory String String := fun d => do
  let pattern ← asConfigFault (onlyField "RegexConfig" "pattern" Document.text d)
  Matcher.regex pattern

/-- Words in order: those of a text, or the items of a list. -/
def wordLiteral : LiteralReader String String
  | .string s => literalOf (Text.words s)
  | .array items => do
    let words ← asConfigFault (items.mapM Document.text)
    literalOf words
  | d => .error (.invalidConfig (.wordLiteral d.toJson))

/-! ## Registries -/

/-- Adds the matcher types for words and their literals. -/
def withWords (r : Registry String String) : Registry String String :=
  (r.register "tokre.string.v1.Exact" (exactType Document.text)
    |>.register "tokre.string.v1.In" (inSetType Document.text)
    |>.register "tokre.string.v1.Regex" regexType
    |>.register anythingUrl anyType).withLiterals wordLiteral

/-- Adds the matcher types for words, and the one that ignores case. -/
def withWordsAndCase (r : Registry String String) : Registry String String :=
  r.withWords.register ignoreCaseUrl ignoreCaseTextType

/-- The matcher types for words. -/
def words : Registry String String := (empty id).withWords

/-- The matcher types for words, and the one that ignores case. -/
def wordsAndCase : Registry String String := (empty id).withWordsAndCase

end TokenPattern.Registry
