import TokenPattern.Unicode.CaseFolding

/-!
# Characters that change with case

A character changes under a mapping of case if its form is another text.  The sets here speak of the
sixteenth edition.  They follow from the lower-case forms and the classes of case folding, with the
exceptions that the tables list: forms of several characters, title case, and the scripts that fold
to capitals or have no title case.
-/

namespace TokenPattern.Unicode

/-- Characters that fold although they are in lower case already. -/
def foldsFurther : RangeTable := RangeTable.ofText
    "b5 df 149 17f 345 3c2 3d0-3d1 3d5-3d6 3f0-3f1 3f5 587 13f8-13fd 1c80-1c88 1e9a-1e9b 1f80-1f87
    1f90-1f97 1fa0-1fa7 1fb2-1fb4 1fb7 1fc2-1fc4 1fc7 1ff2-1ff4 1ff7 ab70-abbf fb00-fb06 fb13-fb17"

/-- Characters with a capital form of several characters, or in title case. -/
def raisesFurther : RangeTable := RangeTable.ofText
    "131 149 1c5 1c8 1cb 1f0 1f2 587 1e96-1e9a 1f50 1f52 1f54 1f56 1f88-1f8f 1f98-1f9f 1fa8-1faf
    1fb2 1fb4 1fb6-1fb7 1fbc 1fc2 1fc4 1fc6-1fc7 1fcc 1fd2 1fd6-1fd7 1fe2 1fe4 1fe6-1fe7 1ff2 1ff4
    1ff6-1ff7 1ffc fb00-fb04 fb13-fb17"

/-- Characters that change in upper case but not in title case. -/
def keepsTitle : RangeTable := RangeTable.ofText
    "1c5 1c8 1cb 1f2 10d0-10fa 10fd-10ff 1f88-1f8f 1f98-1f9f 1fa8-1faf 1fbc 1fcc 1ffc"

/-- Characters that change in lower case. -/
def changesLowercased (c : Char) : Bool :=
  lowercase c != [c] && Edition.sixteenth.includes c

/-- Characters that folding changes.  The capitals of Cherokee fold to themselves. -/
def changesCasefolded (c : Char) : Bool :=
  (changesLowercased c && !(0x13a0 ≤ c.toNat && c.toNat ≤ 0x13f5)) || foldsFurther.contains c.toNat

/-- Characters that change in upper case. -/
def changesUppercased (c : Char) : Bool :=
  ((caseVariants c).length != 1 && !changesLowercased c) || raisesFurther.contains c.toNat

/-- Characters that change in title case: those that change in upper case, and the capital
ligatures. -/
def changesTitlecased (c : Char) : Bool :=
  (changesUppercased c || c.toNat ∈ [0x1c4, 0x1c7, 0x1ca, 0x1f1]) && !keepsTitle.contains c.toNat

/-- Characters that change in lower, upper or title case. -/
def changesCasemapped (c : Char) : Bool :=
  changesLowercased c || changesUppercased c || changesTitlecased c

end TokenPattern.Unicode
