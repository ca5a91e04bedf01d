import TokenPattern.Unicode.Boundary
import TokenPattern.Unicode.CaseFolding
import TokenPattern.Unicode.PropertyName

/-!
# Sets of characters

A `CharSet` is what one position of a regular expression accepts, or what stands between a pair of
brackets.  It is given by its membership test; the operations on sets are the operations on tests.

**Intervals.**  A set also knows where its members begin and end, so that its intervals can be
listed (`CharSet.intervals`): at some code points of its own, its `cuts`, and, if it is `tabulated`,
wherever a table of characters has an entry.  Between two such places the test is constant.
-/

namespace TokenPattern

/-- A set of characters, by its membership test. -/
structure CharSet where
  contains : Char → Bool
  /-- Code points where membership may change. -/
  cuts : List Nat
  /-- Whether membership may also change where a table of characters has an entry. -/
  tabulated : Bool

namespace CharSet

/-! ## Small sets -/

/-- No character. -/
def none : CharSet := ⟨fun _ => false, [], false⟩

/-- Every character. -/
def any : CharSet := ⟨fun _ => true, [], false⟩

/-- One character. -/
def single (c : Char) : CharSet := ⟨(· == c), [c.toNat, c.toNat + 1], false⟩

/-- The characters from `first` to `last`. -/
def range (first last : Char) : CharSet :=
  ⟨fun c => first ≤ c && c ≤ last, [first.toNat, last.toNat + 1], false⟩

/-- The characters of a list. -/
def ofList (members : List Char) : CharSet :=
  ⟨fun c => c ∈ members, members.flatMap fun c => [c.toNat, c.toNat + 1], false⟩

/-- The characters with a property that is described by tables. -/
def ofProperty (test : Char → Bool) : CharSet := ⟨test, [], true⟩

/-! ## Operations -/

/-- Combines the tests of two sets. -/
def combine (test : Bool → Bool → Bool) (s t : CharSet) : CharSet :=
  ⟨fun c => test (s.contains c) (t.contains c), s.cuts ++ t.cuts, s.tabulated || t.tabulated⟩

/-- The characters in either set. -/
def union (s t : CharSet) : CharSet := combine or s t

/-- The characters in both sets. -/
def inter (s t : CharSet) : CharSet := combine and s t

/-- The characters in the first set only. -/
def diff (s t : CharSet) : CharSet := combine (fun a b => a && !b) s t

/-- The characters in exactly one of the sets. -/
def symmDiff (s t : CharSet) : CharSet := combine bne s t

/-- All other characters. -/
def compl (s : CharSet) : CharSet := { s with contains := fun c => !s.contains c }

/-- The characters in any of the sets. -/
def unions (sets : List CharSet) : CharSet :=
  ⟨fun c => sets.any fun s => s.contains c, sets.flatMap cuts, sets.any tabulated⟩

/-! ## Case -/

/-- A character and those that differ from it at most in case. -/
def anyCase (c : Char) : CharSet := ofList (Unicode.caseVariants c)

/-- Adds the characters that differ from a member at most in case. -/
def foldCase (s : CharSet) : CharSet :=
  { s with contains := fun c => (Unicode.caseVariants c).any s.contains, tabulated := true }

/-- The other case of ASCII for each of some places. -/
def asciiCaseCuts (cuts : List Nat) : List Nat :=
  cuts.flatMap fun x => [x, x + 32, x - 32]

/-- Adds the other case of the ASCII letters in the set. -/
def foldAsciiCase (s : CharSet) : CharSet :=
  { s with
    contains := fun c => s.contains c || s.contains c.toLower || s.contains c.toUpper
    cuts := [0x41, 0x5b, 0x61, 0x7b] ++ asciiCaseCuts s.cuts }

/-! ## ASCII sets -/

/-- The digits of ASCII. -/
def asciiDigit : CharSet := range '0' '9'

/-- The lower-case letters of ASCII. -/
def asciiLower : CharSet := range 'a' 'z'

/-- The upper-case letters of ASCII. -/
def asciiUpper : CharSet := range 'A' 'Z'

/-- The letters of ASCII. -/
def asciiAlpha : CharSet := asciiLower.union asciiUpper

/-- The blank and the controls from tab to carriage return. -/
def asciiSpace : CharSet := (single ' ').union (range '\t' '\r')

/-- The letters and digits of ASCII, and the underscore. -/
def asciiWord : CharSet := unions [asciiAlpha, asciiDigit, single '_']

/-- The characters that take part in words, of Unicode or of ASCII. -/
def word (unicode : Bool) : CharSet :=
  if unicode then ofProperty Unicode.isWordCharacter else asciiWord

/-- The named sets of ASCII. -/
def asciiNamed : List (String × CharSet) :=
  [("alnum", asciiAlpha.union asciiDigit),
    ("alpha", asciiAlpha),
    ("ascii", range '\x00' '\x7f'),
    ("blank", ofList ['\t', ' ']),
    ("cntrl", (range '\x00' '\x1f').union (single '\x7f')),
    ("digit", asciiDigit),
    ("graph", range '!' '~'),
    ("lower", asciiLower),
    ("print", range ' ' '~'),
    ("punct", (range '!' '~').diff (asciiAlpha.union asciiDigit)),
    ("space", asciiSpace),
    ("upper", asciiUpper),
    ("word", asciiWord),
    ("xdigit", unions [asciiDigit, range 'A' 'F', range 'a' 'f'])]

/-! ## Intervals -/

/-- The places where the members of a set may begin or end, in increasing order.  The code points
between the two planes of surrogates are no characters. -/
def places (s : CharSet) : List Nat :=
  let own := ([0, 0xd800, 0xe000, 0x110000] ++ s.cuts).mergeSort
  Unicode.dropRepeated (if s.tabulated then own.merge Unicode.boundaries else own)

/-- Whether a code point is that of a member. -/
def hasCode (s : CharSet) (x : Nat) : Bool :=
  match Text.charOfCode? x with
  | some c => s.contains c
  | .none => false

/-- The intervals between places that consist of members, neighbours joined. -/
def intervalsFrom (s : CharSet) : List Nat → List (Nat × Nat)
  | lo :: next :: rest =>
    let behind := s.intervalsFrom (next :: rest)
    if s.hasCode lo then
      match behind with
      | (lo', hi) :: others =>
        if lo' = next then (lo, hi) :: others else (lo, next - 1) :: behind
      | [] => [(lo, next - 1)]
    else behind
  | _ => []

/-- The members, as closed intervals of code points in increasing order. -/
def intervals (s : CharSet) : List (Nat × Nat) := s.intervalsFrom s.places

end CharSet

end TokenPattern
