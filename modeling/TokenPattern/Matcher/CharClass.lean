import TokenPattern.Error
import TokenPattern.Matcher
import TokenPattern.Unicode.Property

/-!
# Character classes

A `CharClass` is a named set of characters; `CharClass.contains` is the set and `CharClass.name` the
name under which configurations refer to it.  Names are found again by `CharClass.ofName?`.
-/

namespace TokenPattern

/-- The named sets of characters. -/
inductive CharClass where
  | alpha
  | alnum
  | digit
  | numeric
  | space
  | lower
  | upper
  | printable
  | hexDigit
  | asciiAlpha
  | asciiAlnum
  | asciiLower
  | asciiUpper
  | asciiSpace
  | asciiPrintable
  | decimal
  | lowerAlnum
  | upperAlnum
deriving DecidableEq

namespace CharClass

/-- All classes. -/
def all : List CharClass :=
  [alpha, alnum, digit, numeric, space, lower, upper, printable, hexDigit, asciiAlpha, asciiAlnum,
    asciiLower, asciiUpper, asciiSpace, asciiPrintable, decimal, lowerAlnum, upperAlnum]

/-- The name of a class in configurations. -/
def name : CharClass → String
  | alpha => "alpha"
  | alnum => "alnum"
  | digit => "digit"
  | numeric => "numeric"
  | space => "space"
  | lower => "lower"
  | upper => "upper"
  | printable => "printable"
  | hexDigit => "hex_digit"
  | asciiAlpha => "ascii_alpha"
  | asciiAlnum => "ascii_alnum"
  | asciiLower => "ascii_lower"
  | asciiUpper => "ascii_upper"
  | asciiSpace => "ascii_space"
  | asciiPrintable => "ascii_printable"
  | decimal => "decimal"
  | lowerAlnum => "lower_alnum"
  | upperAlnum => "upper_alnum"

/-- The name of a class in diagnostics. -/
def label : CharClass → String
  | alpha => "Alpha"
  | alnum => "Alnum"
  | digit => "Digit"
  | numeric => "Numeric"
  | space => "Space"
  | lower => "Lower"
  | upper => "Upper"
  | printable => "Printable"
  | hexDigit => "HexDigit"
  | asciiAlpha => "AsciiAlpha"
  | asciiAlnum => "AsciiAlnum"
  | asciiLower => "AsciiLower"
  | asciiUpper => "AsciiUpper"
  | asciiSpace => "AsciiSpace"
  | asciiPrintable => "AsciiPrintable"
  | decimal => "Decimal"
  | lowerAlnum => "LowerAlnum"
  | upperAlnum => "UpperAlnum"

/-- The characters from the blank to the tilde. -/
def isAsciiPrintable (c : Char) : Bool := ' ' ≤ c && c ≤ '~'

/-- Blank, tab, line feed, form feed and carriage return. -/
def isAsciiSpace (c : Char) : Bool :=
  c == ' ' || c == '\t' || c == '\n' || c == '\x0c' || c == '\r'

/-- Whether a character belongs to a class. -/
def contains : CharClass → Char → Bool
  | alpha, c => Unicode.isAlphabetic .seventeenth c
  | alnum, c => Unicode.isAlphanumeric .seventeenth c
  | digit, c => c.isDigit
  | numeric, c => Unicode.isNumeric .seventeenth c
  | space, c => Unicode.isWhiteSpace c
  | lower, c => Unicode.isLowercase .seventeenth c
  | upper, c => Unicode.isUppercase .seventeenth c
  | printable, c => !Unicode.isControl c
  | hexDigit, c => c.isDigit || ('a' ≤ c && c ≤ 'f') || ('A' ≤ c && c ≤ 'F')
  | asciiAlpha, c => c.isAlpha
  | asciiAlnum, c => c.isAlphanum
  | asciiLower, c => c.isLower
  | asciiUpper, c => c.isUpper
  | asciiSpace, c => isAsciiSpace c
  | asciiPrintable, c => isAsciiPrintable c
  | decimal, c => Unicode.isDecimal .sixteenth c
  | lowerAlnum, c => Unicode.isAlphanumeric .seventeenth c && Unicode.isLowercase .seventeenth c
  | upperAlnum, c => Unicode.isAlphanumeric .seventeenth c && Unicode.isUppercase .seventeenth c

/-- The class with a name. -/
def ofName? (name : String) : Option CharClass := all.find? fun c => c.name == name

/-- The class with a name, or the reason why there is none. -/
def ofName (name : String) : Except PatternError CharClass :=
  match ofName? name with
  | some c => .ok c
  | none => .error (.invalidConfig (.unknownClass name))

/-- Every class is found by its name. -/
theorem ofName?_name (c : CharClass) : ofName? c.name = some c := by
  cases c <;> rfl

/-- Only the name of a class finds it. -/
theorem name_of_ofName? {s : String} {c : CharClass} (h : ofName? s = some c) : c.name = s := by
  have := List.find?_some h
  simpa using this

/-- The space of ASCII is white space. -/
theorem contains_space_of_asciiSpace {c : Char} (h : asciiSpace.contains c = true) :
    space.contains c = true := by
  simp only [contains, isAsciiSpace, Bool.or_eq_true, beq_iff_eq] at h
  rcases h with (((h | h) | h) | h) | h <;> subst h <;> rfl

end CharClass

/-- The characters of a class. -/
def Matcher.charClass (c : CharClass) : Matcher Char Char :=
  Matcher.passing (Diagnostic.record "ClassMatcher" [("class", c.label)]) c.contains

end TokenPattern
