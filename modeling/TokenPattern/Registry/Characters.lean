import TokenPattern.Registry.Content

/-!
# Registries over characters

`Registry.characters` knows the matcher types for single characters; a literal is a text, one token
for each of its characters.  `Registry.charactersAndCase` adds the type that ignores case.
-/

namespace TokenPattern.Registry

/-! ## Literals -/

/-- The tokens of a literal in order; there must be some. -/
def literalOf {τ : Type} [DecidableEq τ] [Diagnostic τ] (tokens : List τ) :
    Except PatternError (Expr (Matcher τ τ)) :=
  match Expr.seq? (tokens.map Matcher.exact) with
  | some e => .ok e
  | none => .error (.invalidConfig .emptyLiteral)

/-- A text, character by character. -/
def characterLiteral : LiteralReader Char Char
  | .string s => literalOf s.toList
  | d => .error (.invalidConfig (.characterLiteral d.toJson))

/-! ## Registries -/

/-- The URL of the type that accepts every token. -/
def anythingUrl : String := "tokre.core.v1.Anything"

/-- The URL of the type that ignores case. -/
def ignoreCaseUrl : String := "tokre.test.v1.IgnoreCase"

/-- Adds the matcher types for characters and their literals. -/
def withCharacters (r : Registry Char Char) : Registry Char Char :=
  (r.register "tokre.char.v1.Eq" (exactType Document.character)
    |>.register "tokre.char.v1.In" (inSetType Document.character)
    |>.register "tokre.char.v1.Ranges" rangesType
    |>.register "tokre.char.v1.Class" classType
    |>.register anythingUrl anyType).withLiterals characterLiteral

/-- Adds the matcher types for characters, and the one that ignores case. -/
def withCharactersAndCase (r : Registry Char Char) : Registry Char Char :=
  r.withCharacters.register ignoreCaseUrl ignoreCaseCharType

/-- The matcher types for characters. -/
def characters : Registry Char Char := (empty id).withCharacters

/-- The matcher types for characters, and the one that ignores case. -/
def charactersAndCase : Registry Char Char := (empty id).withCharactersAndCase

end TokenPattern.Registry
