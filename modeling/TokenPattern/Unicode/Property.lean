import TokenPattern.Unicode.GeneralCategory

/-!
# Derived character properties

Each property is a union of general categories and of a short list of further code points.  The
lists hold for the seventeenth edition; an earlier one knows a part of them.

* `isAlphabetic`, `isNumeric`, `isAlphanumeric`, `isLowercase`, `isUppercase`, `isDecimal` —
  letters, numbers and case;
* `isWhiteSpace`, `isControl`, `isGraphemeExtend`, `isDefaultIgnorable`, `isPrintable` — the
  classes that decide how a text is divided and shown;
* `isCased`, `isCaseIgnorable` — the context of a final sigma.

The letters, digits and case of ASCII are decided without a table.
-/

namespace TokenPattern.Unicode

open GeneralCategory

/-! ## Additions to the categories -/

/-- Lower-case characters that are not lower-case letters by category. -/
def otherLowercase : RangeTable := RangeTable.ofText
    "aa ba 2b0-2b8 2c0-2c1 2e0-2e4 345 37a 10fc 1d2c-1d6a 1d78 1d9b-1dbf 2071 207f 2090-209c
    2170-217f 24d0-24e9 2c7c-2c7d a69c-a69d a770 a7f1-a7f4 a7f8-a7f9 ab5c-ab5f ab69 10780
    10783-10785 10787-107b0 107b2-107ba 1e030-1e06d"

/-- Upper-case characters that are not upper-case letters by category. -/
def otherUppercase : RangeTable := RangeTable.ofText
    "2160-216f 24b6-24cf 1f130-1f149 1f150-1f169 1f170-1f189"

/-- Alphabetic characters that are not letters by category. -/
def otherAlphabetic : RangeTable := RangeTable.ofText
    "345 363-36f 5b0-5bd 5bf 5c1-5c2 5c4-5c5 5c7 610-61a 64b-657 659-65f 670 6d6-6dc 6e1-6e4
    6e7-6e8 6ed 711 730-73f 7a6-7b0 816-817 81b-823 825-827 829-82c 897 8d4-8df 8e3-8e9 8f0-903
    93a-93b 93e-94c 94e-94f 955-957 962-963 981-983 9be-9c4 9c7-9c8 9cb-9cc 9d7 9e2-9e3 a01-a03
    a3e-a42 a47-a48 a4b-a4c a51 a70-a71 a75 a81-a83 abe-ac5 ac7-ac9 acb-acc ae2-ae3 afa-afc b01-b03
    b3e-b44 b47-b48 b4b-b4c b56-b57 b62-b63 b82 bbe-bc2 bc6-bc8 bca-bcc bd7 c00-c04 c3e-c44 c46-c48
    c4a-c4c c55-c56 c62-c63 c81-c83 cbe-cc4 cc6-cc8 cca-ccc cd5-cd6 ce2-ce3 cf3 d00-d03 d3e-d44
    d46-d48 d4a-d4c d57 d62-d63 d81-d83 dcf-dd4 dd6 dd8-ddf df2-df3 e31 e34-e3a e4d eb1 eb4-eb9
    ebb-ebc ecd f71-f83 f8d-f97 f99-fbc 102b-1036 1038 103b-103e 1056-1059 105e-1060 1062-1064
    1067-106d 1071-1074 1082-108d 108f 109a-109d 1712-1713 1732-1733 1752-1753 1772-1773 17b6-17c8
    1885-1886 18a9 1920-192b 1930-1938 1a17-1a1b 1a55-1a5e 1a61-1a74 1abf-1ac0 1acc-1ace 1b00-1b04
    1b35-1b43 1b80-1b82 1ba1-1ba9 1bac-1bad 1be7-1bf1 1c24-1c36 1dd3-1df4 24b6-24e9 2de0-2dff
    a674-a67b a69e-a69f a802 a80b a823-a827 a880-a881 a8b4-a8c3 a8c5 a8ff a926-a92a a947-a952
    a980-a983 a9b4-a9bf a9e5 aa29-aa36 aa43 aa4c-aa4d aa7b-aa7d aab0 aab2-aab4 aab7-aab8 aabe
    aaeb-aaef aaf5 abe3-abea fb1e 10376-1037a 10a01-10a03 10a05-10a06 10a0c-10a0f 10d24-10d27 10d69
    10eab-10eac 10efa-10efc 11000-11002 11038-11045 11073-11074 11080-11082 110b0-110b8 110c2
    11100-11102 11127-11132 11145-11146 11180-11182 111b3-111bf 111ce-111cf 1122c-11234 11237 1123e
    11241 112df-112e8 11300-11303 1133e-11344 11347-11348 1134b-1134c 11357 11362-11363 113b8-113c0
    113c2 113c5 113c7-113ca 113cc-113cd 11435-11441 11443-11445 114b0-114c1 115af-115b5 115b8-115be
    115dc-115dd 11630-1163e 11640 116ab-116b5 1171d-1172a 1182c-11838 11930-11935 11937-11938
    1193b-1193c 11940 11942 119d1-119d7 119da-119df 119e4 11a01-11a0a 11a35-11a39 11a3b-11a3e
    11a51-11a5b 11a8a-11a97 11b60-11b67 11c2f-11c36 11c38-11c3e 11c92-11ca7 11ca9-11cb6 11d31-11d36
    11d3a 11d3c-11d3d 11d3f-11d41 11d43 11d47 11d8a-11d8e 11d90-11d91 11d93-11d96 11ef3-11ef6
    11f00-11f01 11f03 11f34-11f3a 11f3e-11f40 1611e-1612e 16f4f 16f51-16f87 16f8f-16f92 16ff0-16ff1
    1bc9e 1e000-1e006 1e008-1e018 1e01b-1e021 1e023-1e024 1e026-1e02a 1e08f 1e6e3 1e6e6 1e6ee-1e6ef
    1e6f5 1e947 1f130-1f149 1f150-1f169 1f170-1f189"

/-- Characters that extend a grapheme without being non-spacing or enclosing marks. -/
def otherGraphemeExtend : RangeTable := RangeTable.ofText
    "9be 9d7 b3e b57 bbe bd7 cc0 cc2 cc7-cc8 cca-ccb cd5-cd6 d3e d57 dcf ddf 1715 1734 1b35 1b3b
    1b3d 1b43-1b44 1baa 1bf2-1bf3 200c 302e-302f a953 a9c0 ff9e-ff9f 111c0 11235 1133e 1134d 11357
    113b8 113c2 113c5 113c7-113c9 113cf 114b0 114bd 115af 116b6 11930 1193d 11f41 16ff0-16ff1
    1d165-1d166 1d16d-1d172 e0020-e007f"

/-- Fillers, joiners, selectors and reserved code points. -/
def defaultIgnorable : RangeTable := RangeTable.ofText
    "ad 34f 61c 115f-1160 17b4-17b5 180b-180f 200b-200f 202a-202e 2060-206f 3164 fe00-fe0f feff
    ffa0 fff0-fff8 1bca0-1bca3 1d173-1d17a e0000-e0fff"

/-- Word-internal punctuation, which casing looks through. -/
def otherCaseIgnorable : RangeTable := RangeTable.ofText
    "27 2e 3a b7 387 55f 5f4 2018-2019 2024 2027 fe13 fe52 fe55 ff07 ff0e ff1a"

/-! ## Letters and numbers -/

/-- Lower-case characters. -/
def isLowercase (e : Edition) (c : Char) : Bool :=
  if c.toNat < 0x80 then c.isLower else of e c = ll || e.lists otherLowercase c

/-- Upper-case characters. -/
def isUppercase (e : Edition) (c : Char) : Bool :=
  if c.toNat < 0x80 then c.isUpper else of e c = lu || e.lists otherUppercase c

/-- Alphabetic characters: letters, letter numbers, some marks and signs. -/
def isAlphabetic (e : Edition) (c : Char) : Bool :=
  if c.toNat < 0x80 then c.isAlpha
  else of e c ∈ [lu, ll, lt, lm, lo, nl] || e.lists otherAlphabetic c

/-- Decimal digits, letter numbers and other numbers. -/
def isNumeric (e : Edition) (c : Char) : Bool :=
  if c.toNat < 0x80 then c.isDigit else of e c ∈ [nd, nl, no]

/-- Decimal digits of any script. -/
def isDecimal (e : Edition) (c : Char) : Bool :=
  if c.toNat < 0x80 then c.isDigit else of e c = nd

/-- Alphabetic or numeric characters. -/
def isAlphanumeric (e : Edition) (c : Char) : Bool := isAlphabetic e c || isNumeric e c

/-! ## Space and display -/

/-- White space: the blank, the controls from tab to carriage return, and the spaces and
separators beyond them. -/
def isWhiteSpace (c : Char) : Bool :=
  let x := c.toNat
  x == 0x20 || (0x9 ≤ x && x ≤ 0xd) || x == 0x85 || x == 0xa0 || x == 0x1680 ||
    (0x2000 ≤ x && x ≤ 0x200a) || x == 0x2028 || x == 0x2029 || x == 0x202f || x == 0x205f ||
    x == 0x3000

/-- Control characters. -/
def isControl (c : Char) : Bool :=
  let x := c.toNat
  x ≤ 0x1f || (0x7f ≤ x && x ≤ 0x9f)

/-- Characters that are drawn upon the one before them. -/
def isGraphemeExtend (e : Edition) (c : Char) : Bool :=
  of e c ∈ [mn, me] || e.lists otherGraphemeExtend c

/-- Characters that need not be drawn at all. -/
def isDefaultIgnorable (c : Char) : Bool := defaultIgnorable.contains c.toNat

/-- Characters with a visible shape of their own, and the blank: everything assigned but the
controls, format characters, surrogates, private characters and the other separators. -/
def isPrintable (e : Edition) (c : Char) : Bool :=
  c == ' ' || of e c ∉ [cc, cf, cs, co, cn, zl, zp, zs]

/-! ## Case context -/

/-- Characters that have a case. -/
def isCased (e : Edition) (c : Char) : Bool :=
  isLowercase e c || isUppercase e c || of e c = lt

/-- Characters that casing looks through: marks, format characters, modifiers and word-internal
punctuation. -/
def isCaseIgnorable (e : Edition) (c : Char) : Bool :=
  of e c ∈ [mn, me, cf, lm, sk] || otherCaseIgnorable.contains c.toNat

/-! ## Agreement with the ASCII classes -/

/-- The blank space of ASCII is white space. -/
theorem isWhiteSpace_of_isWhitespace {c : Char} (h : c.isWhitespace = true) :
    isWhiteSpace c = true := by
  simp only [Char.isWhitespace, Bool.or_eq_true, decide_eq_true_eq] at h
  rcases h with ((h | h) | h) | h <;> subst h <;> rfl

end TokenPattern.Unicode
