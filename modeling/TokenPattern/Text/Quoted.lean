import TokenPattern.Unicode.Property

/-!
# Quoted characters and texts

Diagnostics show a character between single quotes and a text between double quotes.  `escape`
decides how one character is written there: the quote in use, the backslash and the common
controls by a backslash and one letter; what has no visible shape of its own, need not be drawn, or
is drawn upon the character before it, by its code point; everything else as it is.
-/

namespace TokenPattern.Text

/-- A code point by number: `\u`, then its lower-case hexadecimal digits in braces. -/
def codePointEscape (c : Char) : List Char :=
  ['\\', 'u', '\x7b'] ++ Nat.toDigits 16 c.toNat ++ ['\x7d']

/-- Whether a character would not be seen as one.  The two half-width sound marks stand upright
although they belong to the character before them. -/
def isHidden (c : Char) : Bool :=
  (Unicode.isGraphemeExtend .seventeenth c && c.toNat != 0xff9e && c.toNat != 0xff9f) ||
    Unicode.isDefaultIgnorable c || !Unicode.isPrintable .seventeenth c

/-- How a character is written between two `quote` characters. -/
def escape (quote c : Char) : List Char :=
  if c = '\x00' then ['\\', '0']
  else if c = '\t' then ['\\', 't']
  else if c = '\r' then ['\\', 'r']
  else if c = '\n' then ['\\', 'n']
  else if c = '\\' then ['\\', '\\']
  else if c = quote then ['\\', quote]
  else if ' ' ≤ c && c ≤ '~' then [c]
  else if isHidden c then codePointEscape c
  else [c]

/-- A character between single quotes. -/
def quoteChar (c : Char) : String :=
  String.ofList (['\''] ++ escape '\'' c ++ ['\''])

/-- A text between double quotes. -/
def quote (text : String) : String :=
  String.ofList (['"'] ++ text.toList.flatMap (escape '"') ++ ['"'])

end TokenPattern.Text
