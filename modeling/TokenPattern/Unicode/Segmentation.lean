import TokenPattern.Unicode.BinaryProperty
import TokenPattern.Unicode.Script

/-!
# Where texts may be divided

Three properties of the sixteenth edition tell where a text may be divided into clusters, words and
sentences.  Each assigns a class to a character; `graphemeBreaks`, `wordBreaks` and `sentenceBreaks`
list the classes by their names.  The class of all characters that have no other is not listed.
-/

namespace TokenPattern.Unicode

open GeneralCategory

/-- A class: its names and its members. -/
abbrev BreakClass := List String × (Char → Bool)

namespace Segmentation

/-! ## Parts that several classes share -/

/-- The category of a character. -/
def category (c : Char) : GeneralCategory := of .sixteenth c

/-- Whether the code point of a character lies in a closed interval. -/
def between (lo hi : Nat) (c : Char) : Bool := lo ≤ c.toNat && c.toNat ≤ hi

/-- A class of one character. -/
def only (x : Nat) (c : Char) : Bool := c.toNat == x

/-- Tags, which spell out a flag. -/
def isTag (c : Char) : Bool := between 0xe0020 0xe007f c

/-- The letters of flags. -/
def isRegionalIndicator (c : Char) : Bool := between 0x1f1e6 0x1f1ff c

/-- Characters that extend what stands before them. -/
def isExtending (c : Char) : Bool := isGraphemeExtend .sixteenth c

/-- Signs in front of a number. -/
def isNumberSign (c : Char) : Bool := prependedMark.contains c.toNat && c.toNat != 0x70f

/-! ## Clusters -/

/-- Letters that belong to the cluster behind them. -/
def prepending : RangeTable := RangeTable.ofText
    "d4e 111c2-111c3 113d1 1193f 11941 11a3a 11a84-11a89 11d46 11f02"

/-- Spacing marks by category that do not continue a cluster. -/
def nonSpacing : RangeTable := RangeTable.ofText
    "102b-102c 1038 1062-1064 1067-106d 1083 1087-108c 108f 109a-109c 1a61 1a63-1a64 aa7b aa7d
    11720-11721"

/-- Controls, lines and what is never drawn. -/
def isClusterControl (c : Char) : Bool :=
  (category c ∈ [cc, cf, zl, zp] || (category c = cn && isDefaultIgnorable c)) &&
    !(c == '\n' || c == '\x0d' || between 0x200c 0x200d c || isTag c ||
      prependedMark.contains c.toNat)

/-- Whether a syllable of Hangul has no final consonant. -/
def isOpenSyllable (c : Char) : Bool := (c.toNat - 0xac00) % 28 == 0

/-- The syllables of Hangul. -/
def isSyllable (c : Char) : Bool := between 0xac00 0xd7a3 c

/-- Vowels of Hangul and of Kirat Rai. -/
def isVowel (c : Char) : Bool :=
  between 0x1160 0x11a7 c || between 0xd7b0 0xd7c6 c || only 0x16d63 c || between 0x16d67 0x16d6a c

/-- Marks that take room of their own. -/
def isSpacingMark (c : Char) : Bool :=
  (category c = mc && !isExtending c && !nonSpacing.contains c.toNat) ||
    only 0xe33 c || only 0xeb3 c

end Segmentation

open Segmentation

/-- The classes for clusters. -/
def graphemeBreaks : List BreakClass :=
  [(["CN", "Control"], isClusterControl),
    (["CR"], only 0xd),
    (["EX", "Extend"], fun c => isExtending c || emojiModifier.contains c.toNat),
    (["L"], fun c => between 0x1100 0x115f c || between 0xa960 0xa97c c),
    (["LF"], only 0xa),
    (["LV"], fun c => isSyllable c && isOpenSyllable c),
    (["LVT"], fun c => isSyllable c && !isOpenSyllable c),
    (["PP", "Prepend"], fun c => prependedMark.contains c.toNat || prepending.contains c.toNat),
    (["RI", "Regional_Indicator"], isRegionalIndicator),
    (["SM", "SpacingMark"], isSpacingMark),
    (["T"], fun c => between 0x11a8 0x11ff c || between 0xd7cb 0xd7fb c),
    (["V"], isVowel),
    (["ZWJ"], only 0x200d)]

namespace Segmentation

/-! ## Words -/

/-- Punctuation inside words. -/
def midLetter : RangeTable := RangeTable.ofText
    "3a b7 387 55f 5f4 2027 fe13 fe55 ff1a"

/-- Punctuation inside numbers. -/
def midNumber : RangeTable := RangeTable.ofText
    "2c 3b 37e 589 60c-60d 66c 7f8 2044 fe50 fe54 ff0c ff1b"

/-- Punctuation inside words and numbers. -/
def midEither : RangeTable := RangeTable.ofText
    "2e 2018-2019 2024 fe52 ff07 ff0e"

/-- Connectors and narrow spaces. -/
def connecting : RangeTable := RangeTable.ofText
    "5f 202f 203f-2040 2054 fe33-fe34 fe4d-fe4f ff3f"

/-- Spaces that stay together. -/
def wordSpace : RangeTable := RangeTable.ofText
    "20 1680 2000-2006 2008-200a 205f 3000"

/-- Signs that are used like the letters of Katakana. -/
def katakanaSigns : RangeTable := RangeTable.ofText
    "3031-3035 309b-309c 30a0 30fc ff70"

/-- Letters of scripts without spaces between words. -/
def unspacedLetters : RangeTable := RangeTable.ofText
    "e01-e30 e32-e33 e40-e46 e81-e82 e84 e86-e8a e8c-ea3 ea5 ea7-eb0 eb2-eb3 ebd ec0-ec4 ec6
    edc-edf 1000-102a 103f 1050-1055 105a-105d 1061 1065-1066 106e-1070 1075-1081 108e 1780-17b3
    17d7 17dc 1950-196d 1970-1974 1980-19ab 19b0-19c9 1a20-1a54 1aa7 a9e0-a9e4 a9e6-a9ef a9fa-a9fe
    aa60-aa76 aa7a aa7e-aaaf aab1 aab5-aab6 aab9-aabd aac0 aac2 aadb-aadd 11700-1171a 11740-11746"

/-- Signs that are used like letters. -/
def letterSigns : RangeTable := RangeTable.ofText
    "2c2-2c5 2d2-2d7 2de-2df 2e5-2eb 2ed 2ef-2ff 55a-55c 55e 58a 5f3 70f a708-a716 a720-a721
    a789-a78a ab5b"

/-- Marks of all kinds. -/
def isWordExtend (c : Char) : Bool :=
  isExtending c || category c = mc || emojiModifier.contains c.toNat

/-- Format characters inside words. -/
def isWordFormat (c : Char) : Bool :=
  category c = cf &&
    !(between 0x200b 0x200d c || isTag c || prependedMark.contains c.toNat)

/-- Digits and signs of numbers. -/
def isWordNumeric (c : Char) : Bool :=
  category c = nd || isNumberSign c || only 0x66b c || only 0x19da c

/-- The letters of Hebrew. -/
def isHebrewLetter (c : Char) : Bool := category c = lo && scriptOf c = "Hebr"

/-- The letters of Katakana. -/
def isWordKatakana (c : Char) : Bool := scriptOf c = "Kana" || katakanaSigns.contains c.toNat

/-- All other letters of scripts with spaces between words. -/
def isWordLetter (c : Char) : Bool :=
  letterSigns.contains c.toNat ||
    (isAlphabetic .sixteenth c && !ideographic.contains c.toNat && !isWordKatakana c &&
      !isWordExtend c && !isHebrewLetter c && scriptOf c != "Hira" &&
      !unspacedLetters.contains c.toNat)

end Segmentation

/-- The classes for words. -/
def wordBreaks : List BreakClass :=
  [(["LE", "ALetter"], isWordLetter),
    (["CR"], only 0xd),
    (["DQ", "Double_Quote"], only 0x22),
    (["Extend"], isWordExtend),
    (["EX", "ExtendNumLet"], fun c => connecting.contains c.toNat),
    (["FO", "Format"], isWordFormat),
    (["HL", "Hebrew_Letter"], isHebrewLetter),
    (["KA", "Katakana"], isWordKatakana),
    (["LF"], only 0xa),
    (["ML", "MidLetter"], fun c => midLetter.contains c.toNat),
    (["MN", "MidNum"], fun c => midNumber.contains c.toNat),
    (["MB", "MidNumLet"], fun c => midEither.contains c.toNat),
    (["NL", "Newline"], fun c => between 0xb 0xc c || only 0x85 c || between 0x2028 0x2029 c),
    (["NU", "Numeric"], isWordNumeric),
    (["RI", "Regional_Indicator"], isRegionalIndicator),
    (["SQ", "Single_Quote"], only 0x27),
    (["WSegSpace"], fun c => wordSpace.contains c.toNat),
    (["ZWJ"], only 0x200d)]

namespace Segmentation

/-! ## Sentences -/

/-- Punctuation inside sentences. -/
def sentenceContinue : RangeTable := RangeTable.ofText
    "2c-2d 3a-3b 37e 55d 60c-60d 7f8 1802 1808 2013-2014 3001 fe10-fe11 fe13-fe14 fe31-fe32
    fe50-fe51 fe54-fe55 fe58 fe63 ff0c-ff0d ff1a-ff1b ff64"

/-- Ornamental brackets and quotation marks. -/
def closingSigns : RangeTable := RangeTable.ofText
    "275b-2760 2e00-2e0d 2e1c-2e1d 2e20-2e21 1f676-1f678"

/-- Full stops, which may end an abbreviation. -/
def isAmbiguousTerminal (c : Char) : Bool :=
  only 0x2e c || only 0x2024 c || only 0xfe52 c || only 0xff0e c

/-- Letters of Georgian that have capitals only in titles. -/
def isMkhedruli (c : Char) : Bool := between 0x10d0 0x10fa c || between 0x10fd 0x10ff c

/-- The capitals of Georgian. -/
def isMtavruli (c : Char) : Bool := between 0x1c90 0x1cba c || between 0x1cbd 0x1cbf c

/-- Marks of all kinds, and the joiner. -/
def isSentenceExtend (c : Char) : Bool := isExtending c || category c = mc || only 0x200d c

/-- Format characters inside sentences. -/
def isSentenceFormat (c : Char) : Bool :=
  category c = cf && !(between 0x200c 0x200d c || isTag c || isNumberSign c)

/-- Lower-case letters. -/
def isSentenceLower (c : Char) : Bool :=
  isLowercase .sixteenth c && !(only 0x345 c || isMkhedruli c)

/-- Upper-case and title-case letters. -/
def isSentenceUpper (c : Char) : Bool :=
  (isUppercase .sixteenth c || category c = lt) && !isMtavruli c

/-- Letters without case. -/
def isSentenceLetter (c : Char) : Bool :=
  only 0x5f3 c || (isAlphabetic .sixteenth c && !isSentenceLower c && !isSentenceUpper c &&
    !isSentenceExtend c)

/-- Brackets and quotation marks. -/
def isSentenceClose (c : Char) : Bool :=
  closingSigns.contains c.toNat || category c ∈ [ps, pe] ||
    (quotationMark.contains c.toNat && !only 0xff02 c && !only 0xff07 c)

/-- White space inside a line. -/
def isSentenceSpace (c : Char) : Bool :=
  isWhiteSpace c && !(only 0xa c || only 0xd c || only 0x85 c || between 0x2028 0x2029 c)

end Segmentation

/-- The classes for sentences. -/
def sentenceBreaks : List BreakClass :=
  [(["AT", "ATerm"], isAmbiguousTerminal),
    (["CL", "Close"], isSentenceClose),
    (["CR"], only 0xd),
    (["EX", "Extend"], isSentenceExtend),
    (["FO", "Format"], isSentenceFormat),
    (["LE", "OLetter"], isSentenceLetter),
    (["LF"], only 0xa),
    (["LO", "Lower"], isSentenceLower),
    (["NU", "Numeric"], fun c => isWordNumeric c || only 0x66c c),
    (["SC", "SContinue"], fun c => sentenceContinue.contains c.toNat),
    (["SE", "Sep"], fun c => only 0x85 c || between 0x2028 0x2029 c),
    (["SP", "Sp"], isSentenceSpace),
    (["ST", "STerm"], fun c => sentenceTerminal.contains c.toNat && !isAmbiguousTerminal c),
    (["UP", "Upper"], isSentenceUpper)]

end TokenPattern.Unicode
