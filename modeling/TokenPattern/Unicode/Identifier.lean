import TokenPattern.Unicode.BinaryProperty

/-!
# Characters of names

Programming languages build names from characters that can start a name and characters that can
continue one.  `isIdStart` and `isIdContinue` are these two sets in the sixteenth edition;
`isXidStart` and `isXidContinue` leave out the characters whose compatibility forms would not be
names any more.
-/

namespace TokenPattern.Unicode

open GeneralCategory

/-- Characters that start a name but whose compatibility forms do not. -/
def decomposingStart : RangeTable := RangeTable.ofText
    "37a e33 eb3 309b-309c fc5e-fc63 fdfa-fdfb fe70 fe72 fe74 fe76 fe78 fe7a fe7c fe7e ff9e-ff9f"

/-- Characters that continue a name but whose compatibility forms do not. -/
def decomposingContinue : RangeTable := RangeTable.ofText
    "37a 309b-309c fc5e-fc63 fdfa-fdfb fe70 fe72 fe74 fe76 fe78 fe7a fe7c fe7e"

/-- Letters, letter numbers and a few others, but not the vertical tilde. -/
def isIdStart (c : Char) : Bool :=
  (of .sixteenth c ∈ [lu, ll, lt, lm, lo, nl] || otherIdStart.contains c.toNat) && c.toNat != 0x2e2f

/-- What starts a name, marks, digits, connectors and a few others. -/
def isIdContinue (c : Char) : Bool :=
  isIdStart c || of .sixteenth c ∈ [mn, mc, nd, pc] || otherIdContinue.contains c.toNat

/-- What starts a name, in its compatibility form, too. -/
def isXidStart (c : Char) : Bool := isIdStart c && !decomposingStart.contains c.toNat

/-- What continues a name, in its compatibility form, too. -/
def isXidContinue (c : Char) : Bool := isIdContinue c && !decomposingContinue.contains c.toNat

end TokenPattern.Unicode
