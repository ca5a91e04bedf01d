import TokenPattern.Unicode.Age
import TokenPattern.Unicode.CaseChange
import TokenPattern.Unicode.Identifier
import TokenPattern.Unicode.ScriptExtension
import TokenPattern.Unicode.Segmentation

/-!
# Properties by name

A pattern may name a set of characters by a general category, a script or a binary property, or by
one of the values of a property.  Names are compared loosely (`looseName`): case, blanks, hyphens,
underscores and a leading "is" do not count.

`named?` finds the set for a name alone, and `valued?` the set for a property and one of its values.
All sets are those of the sixteenth edition.
-/

namespace TokenPattern.Unicode

open GeneralCategory

/-! ## Loose comparison -/

/-- A name without its leading "is". -/
def withoutIs : List Char → List Char
  | 'i' :: 's' :: rest => rest
  | letters => letters

/-- A name as it is compared.  Only the "c" of "isc" keeps its "is", because that name is a property
of its own. -/
def looseName (name : String) : String :=
  let lowered := name.toList.map Char.toLower
  let kept := (withoutIs lowered).filter fun c =>
    c.toNat < 0x80 && c != ' ' && c != '_' && c != '-'
  String.ofList (if kept = ['c'] && withoutIs lowered != lowered then ['i', 's', 'c'] else kept)

/-- The value listed under a name that compares equal to `name`. -/
def findLoosely? {α : Type} (table : List (List String × α)) (name : String) : Option α :=
  (table.find? fun entry => entry.1.any fun known => looseName known == name).map Prod.snd

/-! ## Categories -/

/-- The general categories and their unions, by their names. -/
def categoryNames : List (List String × List GeneralCategory) :=
  [(["Lu", "Uppercase_Letter"], [lu]),
    (["Ll", "Lowercase_Letter"], [ll]),
    (["Lt", "Titlecase_Letter"], [lt]),
    (["LC", "Cased_Letter"], [lu, ll, lt]),
    (["Lm", "Modifier_Letter"], [lm]),
    (["Lo", "Other_Letter"], [lo]),
    (["L", "Letter"], [lu, ll, lt, lm, lo]),
    (["Mn", "Nonspacing_Mark"], [mn]),
    (["Mc", "Spacing_Mark"], [mc]),
    (["Me", "Enclosing_Mark"], [me]),
    (["M", "Mark", "Combining_Mark"], [mn, mc, me]),
    (["Nd", "Decimal_Number", "digit"], [nd]),
    (["Nl", "Letter_Number"], [nl]),
    (["No", "Other_Number"], [no]),
    (["N", "Number"], [nd, nl, no]),
    (["Pc", "Connector_Punctuation"], [pc]),
    (["Pd", "Dash_Punctuation"], [pd]),
    (["Ps", "Open_Punctuation"], [ps]),
    (["Pe", "Close_Punctuation"], [pe]),
    (["Pi", "Initial_Punctuation"], [pi]),
    (["Pf", "Final_Punctuation"], [pf]),
    (["Po", "Other_Punctuation"], [po]),
    (["P", "Punctuation", "punct"], [pc, pd, ps, pe, pi, pf, po]),
    (["Sm", "Math_Symbol"], [sm]),
    (["Sc", "Currency_Symbol"], [sc]),
    (["Sk", "Modifier_Symbol"], [sk]),
    (["So", "Other_Symbol"], [so]),
    (["S", "Symbol"], [sm, sc, sk, so]),
    (["Zs", "Space_Separator"], [zs]),
    (["Zl", "Line_Separator"], [zl]),
    (["Zp", "Paragraph_Separator"], [zp]),
    (["Z", "Separator"], [zs, zl, zp]),
    (["Cc", "Control", "cntrl"], [cc]),
    (["Cf", "Format"], [cf]),
    (["Co", "Private_Use"], [co]),
    (["Cn", "Unassigned"], [cn]),
    (["C", "Other"], [cc, cf, cs, co, cn]),
    (["Any"], all),
    (["Assigned"], all.filter (· ≠ cn))]

/-- The set of a general category, given its compared name. -/
def category? (name : String) : Option (Char → Bool) :=
  if name = "ascii" then some fun c => c.toNat < 0x80
  else (findLoosely? categoryNames name).map fun categories c => of .sixteenth c ∈ categories

/-! ## Scripts -/

/-- The abbreviation of a script, given its compared name. -/
def scriptAbbreviation? (name : String) : Option String :=
  (scriptNames.find? fun names => names.any fun known => looseName known == name).bind List.head?

/-- The set of a script, given its compared name. -/
def script? (name : String) : Option (Char → Bool) :=
  (scriptAbbreviation? name).map fun script c => scriptOf c = script

/-- The set of what a script uses, given its compared name. -/
def scriptExtension? (name : String) : Option (Char → Bool) :=
  (scriptAbbreviation? name).map fun script c => script ∈ scriptsUsing c

/-! ## Ages and boundaries -/

/-- The set of what was assigned by a release, given its compared name. -/
def age? (name : String) : Option (Char → Bool) :=
  (releases.findIdx? fun release =>
    looseName release == name || looseName (releaseNumber release) == name).map isAssignedBy

/-! ## Binary properties -/

/-- Zero-width joiner and non-joiner. -/
def isJoinControl (c : Char) : Bool := c.toNat == 0x200c || c.toNat == 0x200d

/-- Hexadecimal digits of ASCII. -/
def isAsciiHexDigit (c : Char) : Bool := (Text.hexDigit? c).isSome

/-- Hexadecimal digits, of full width too. -/
def isHexDigit (c : Char) : Bool :=
  let x := c.toNat
  isAsciiHexDigit c || (0xff10 ≤ x && x ≤ 0xff19) || (0xff21 ≤ x && x ≤ 0xff26) ||
    (0xff41 ≤ x && x ≤ 0xff46)

/-- Characters that take part in words: letters, marks, decimal digits, connectors and the two join
controls. -/
def isWordCharacter (c : Char) : Bool :=
  isAlphabetic .sixteenth c || of .sixteenth c ∈ [mn, mc, me, nd, pc] || isJoinControl c

/-- Characters that start a cluster: all but controls, separators of lines and what extends. -/
def isGraphemeBase (c : Char) : Bool :=
  of .sixteenth c ∉ [cc, cf, cs, co, cn, zl, zp] && !isGraphemeExtend .sixteenth c

/-- Characters of mathematics. -/
def isMath (c : Char) : Bool := of .sixteenth c = sm || otherMath.contains c.toNat

/-- The properties that are computed, by their names. -/
def computedProperties : List (List String × (Char → Bool)) :=
  [(["Alphabetic", "Alpha"], isAlphabetic .sixteenth),
    (["ASCII_Hex_Digit", "AHex"], isAsciiHexDigit),
    (["Case_Ignorable", "CI"], isCaseIgnorable .sixteenth),
    (["Cased"], isCased .sixteenth),
    (["Changes_When_Casefolded", "CWCF"], changesCasefolded),
    (["Changes_When_Casemapped", "CWCM"], changesCasemapped),
    (["Changes_When_Lowercased", "CWL"], changesLowercased),
    (["Changes_When_Titlecased", "CWT"], changesTitlecased),
    (["Changes_When_Uppercased", "CWU"], changesUppercased),
    (["Grapheme_Base", "Gr_Base"], isGraphemeBase),
    (["Grapheme_Extend", "Gr_Ext"], isGraphemeExtend .sixteenth),
    (["Hex_Digit", "Hex"], isHexDigit),
    (["ID_Continue", "IDC"], isIdContinue),
    (["ID_Start", "IDS"], isIdStart),
    (["Join_Control", "Join_C"], isJoinControl),
    (["Lowercase", "Lower"], isLowercase .sixteenth),
    (["Math"], isMath),
    (["Other_Alphabetic", "OAlpha"], Edition.sixteenth.lists otherAlphabetic),
    (["Other_Grapheme_Extend", "OGr_Ext"], Edition.sixteenth.lists otherGraphemeExtend),
    (["Other_Lowercase", "OLower"], Edition.sixteenth.lists otherLowercase),
    (["Other_Uppercase", "OUpper"], Edition.sixteenth.lists otherUppercase),
    (["Uppercase", "Upper"], isUppercase .sixteenth),
    (["White_Space", "WSpace", "space"], isWhiteSpace),
    (["XID_Continue", "XIDC"], isXidContinue),
    (["XID_Start", "XIDS"], isXidStart)]

/-- The set of a binary property, given its compared name. -/
def binaryProperty? (name : String) : Option (Char → Bool) :=
  match findLoosely? computedProperties name with
  | some test => some test
  | none => (findLoosely? tabulatedProperties name).map fun table c => table.contains c.toNat

/-! ## Look-up -/

/-- The set with a name: a binary property, a general category or a script. -/
def named? (name : String) : Option (Char → Bool) :=
  let name := looseName name
  binaryProperty? name <|> category? name <|> script? name

/-- The properties with several values: their names, and how a set is found by the compared name of
a value. -/
def valuedProperties : List (List String × (String → Option (Char → Bool))) :=
  [(["General_Category", "gc"], category?),
    (["Script", "sc"], script?),
    (["Script_Extensions", "scx"], scriptExtension?),
    (["Age"], age?),
    (["Grapheme_Cluster_Break", "GCB"], findLoosely? graphemeBreaks),
    (["Word_Break", "WB"], findLoosely? wordBreaks),
    (["Sentence_Break", "SB"], findLoosely? sentenceBreaks)]

/-- The set of the characters for which a property has a value. -/
def valued? (property value : String) : Option (Char → Bool) :=
  (findLoosely? valuedProperties (looseName property)).bind fun find => find (looseName value)

end TokenPattern.Unicode
