/-!
# Characters with their places

In YAML the column of a character matters.  `locate` gives every character of a text its line, its
column and its index, all counted from zero; after that a text is read as a list of `Spot`s.

All common line breaks become line feeds first.  The two separators of Unicode break lines, too, but
stay what they are.
-/

namespace TokenPattern.Yaml

/-- A character at a place. -/
structure Spot where
  char : Char
  line : Nat
  column : Nat
  index : Nat

/-! ## Kinds of characters -/

/-- Whether a character breaks a line. -/
def isBreak (c : Char) : Bool := c == '\n' || c == '\u2028' || c == '\u2029'

/-- The blank and the tab. -/
def isBlank (c : Char) : Bool := c == ' ' || c == '\t'

/-- Whether a word ends at a character. -/
def isGap (c : Char) : Bool := isBlank c || isBreak c

/-- Whether a character is the byte order mark. -/
def isByteOrderMark (c : Char) : Bool := c == '\ufeff'

/-- Whether a character may occur at all: no control but tab and the line breaks. -/
def isAllowed (c : Char) : Bool :=
  let x := c.toNat
  x == 0x9 || x == 0xa || x == 0xd || (0x20 ≤ x && x ≤ 0x7e) || x == 0x85 ||
    (0xa0 ≤ x && x ≤ 0xfffd) || 0x10000 ≤ x

/-! ## Places -/

/-- Turns carriage returns, with or without a line feed, and next-line controls into line feeds. -/
def normalizeBreaks : List Char → List Char
  | [] => []
  | '\r' :: '\n' :: rest => '\n' :: normalizeBreaks rest
  | c :: rest =>
    (if c = '\r' || c = '\x85' then '\n' else c) :: normalizeBreaks rest

/-- Places the characters of a text from a given place on. -/
def locateFrom (line column index : Nat) : List Char → List Spot
  | [] => []
  | c :: rest =>
    ⟨c, line, column, index⟩ ::
      (if isBreak c then locateFrom (line + 1) 0 (index + 1) rest
        else locateFrom line (column + 1) (index + 1) rest)

/-- A text with every character at its place.  A character that is not allowed makes the text
unreadable. -/
def locate? (text : String) : Option (List Spot) :=
  if text.toList.all isAllowed then some (locateFrom 0 0 0 (normalizeBreaks text.toList)) else none

/-! ## Looking ahead -/

/-- Whether a word ends here. -/
def atGap : List Spot → Bool
  | [] => true
  | s :: _ => isGap s.char

/-- Whether the next character is one of some. -/
def nextIn (chars : String) : List Spot → Bool
  | [] => false
  | s :: _ => chars.toList.contains s.char

/-- Whether three equal characters stand alone at the start of a line. -/
def atMark (c : Char) : List Spot → Bool
  | a :: b :: d :: rest => a.column = 0 && a.char = c && b.char = c && d.char = c && atGap rest
  | _ => false

/-- Whether a document starts or ends here. -/
def atDocumentMark (spots : List Spot) : Bool := atMark '-' spots || atMark '.' spots

/-- Placing changes no character. -/
theorem map_char_locateFrom (line column index : Nat) (cs : List Char) :
    (locateFrom line column index cs).map Spot.char = cs := by
  induction cs generalizing line column index with
  | nil => rfl
  | cons c rest ih =>
    simp only [locateFrom, List.map_cons]
    split <;> rw [ih]

end TokenPattern.Yaml
