/-!
# Why a text is no regular expression

`Regex.Fault` lists the causes and `Regex.Fault.message` gives their wording.
-/

namespace TokenPattern.Regex

/-- Why a text is no regular expression. -/
inductive Fault where
  /-- The text ends in the middle of an element. -/
  | unexpectedEnd
  | unopenedGroup
  | unclosedGroup
  /-- Assertions about the text around a place. -/
  | lookAround
  | invalidGroupName
  | repeatedGroupName (name : String)
  | unknownFlag (flag : Char)
  | repeatedFlag
  | danglingNegation
  /-- A repetition of nothing. -/
  | nothingToRepeat
  | invalidCount
  /-- A repetition with more required than allowed steps. -/
  | reversedCount
  | unknownEscape (letter : Char)
  | invalidCodePoint
  | unknownProperty (name : String)
  | unclosedBracket
  /-- A range that ends before it starts. -/
  | reversedRange
  /-- An element that cannot stand between brackets, or at the end of a range. -/
  | misplacedEscape
  /-- An element that has no meaning over ASCII. -/
  | needsUnicode
  | nestedTooDeeply
  | tooLarge
deriving DecidableEq

/-- The wording of a cause. -/
def Fault.message : Fault → String
  | unexpectedEnd => "unexpected end"
  | unopenedGroup => "unopened group"
  | unclosedGroup => "unclosed group"
  | lookAround => "look-around, including look-ahead and look-behind, is not supported"
  | invalidGroupName => "invalid capture group character"
  | repeatedGroupName name => "duplicate capture group name " ++ name
  | unknownFlag flag => "unrecognized flag " ++ String.singleton flag
  | repeatedFlag => "duplicate flag"
  | danglingNegation => "dangling flag negation operator"
  | nothingToRepeat => "repetition operator missing expression"
  | invalidCount => "repetition quantifier expects a valid decimal"
  | reversedCount => "invalid repetition count range, the start must be <= the end"
  | unknownEscape letter => "unrecognized escape sequence \\" ++ String.singleton letter
  | invalidCodePoint => "hexadecimal literal is not a Unicode scalar value"
  | unknownProperty name => "Unicode property not found: " ++ name
  | unclosedBracket => "unclosed character class"
  | reversedRange => "invalid character class range, the start must be <= the end"
  | misplacedEscape => "invalid escape sequence found in character class"
  | needsUnicode => "Unicode not allowed here"
  | nestedTooDeeply => "exceed the maximum number of nested parentheses/brackets"
  | tooLarge => "exceeds the size limit"

end TokenPattern.Regex
