import TokenPattern.Yaml.Scalar

/-!
# The elements of a YAML text

`tokens?` divides a text into tokens.  Indentation is turned into tokens, too: a block collection
starts where the first of its entries stands further to the right than everything around it, and
ends before the first token that stands further to the left.

**Keys.**  That a scalar or a collection is the key of a mapping shows only when the colon behind it
is read.  Therefore the layout remembers where a key may have started (`PossibleKey`), and the colon
marks the lexeme there.  A possible key is forgotten at the end of its line, and one that stands
where only a key can stand is required to be followed by a colon.

Tags, directives and block scalars are not read; a text with one of them has no tokens.
-/

namespace TokenPattern.Yaml

/-- The elements of a text. -/
inductive Token where
  | documentStart
  | documentEnd
  /-- The start of a sequence by indentation. -/
  | blockSequence
  /-- The start of a mapping by indentation. -/
  | blockMapping
  /-- The end of a collection by indentation. -/
  | blockEnd
  /-- The hyphen before an item. -/
  | entry
  | key
  | value
  | openSequence
  | closeSequence
  | openMapping
  | closeMapping
  | comma
  | anchor (name : String)
  | reference (name : String)
  /-- A scalar, and whether it is without quotes. -/
  | scalar (text : String) (isPlain : Bool)

/-- A token with what the colon behind a key adds before it. -/
structure Lexeme where
  token : Token
  isKey : Bool
  startsMapping : Bool

/-- The tokens of a lexeme. -/
def Lexeme.expand (l : Lexeme) : List Token :=
  (if l.startsMapping then [.blockMapping] else []) ++ (if l.isKey then [.key] else []) ++ [l.token]

/-- A place where the key of a mapping may have started. -/
structure PossibleKey where
  /-- Whether nothing but a key can stand here. -/
  required : Bool
  /-- The number of lexemes before it. -/
  position : Nat
  line : Nat
  column : Nat
  index : Nat

/-- The largest distance between the start of a key and its colon. -/
def maxKeyLength : Nat := 1024

/-! ## Layout -/

/-- What is known behind some lexemes. -/
structure Layout where
  lexemes : Array Lexeme
  /-- The column of the innermost block collection, -1 outside of all. -/
  indent : Int
  /-- The columns of the block collections around it. -/
  outer : List Int
  /-- Whether a key may start here. -/
  keyAllowed : Bool
  /-- The possible key of the innermost flow collection, or of the block context. -/
  possible : Option PossibleKey
  /-- The possible keys around it, one for each open flow collection. -/
  around : List (Option PossibleKey)

namespace Layout

/-- The layout before the first token. -/
def initial : Layout := ⟨#[], -1, [], true, none, []⟩

/-- Whether some flow collection is open. -/
def inFlow (l : Layout) : Bool := !l.around.isEmpty

/-- Adds a token. -/
def push (l : Layout) (token : Token) : Layout :=
  { l with lexemes := l.lexemes.push ⟨token, false, false⟩ }

/-- Closes the block collections to the right of a column, at most `fuel` of them. -/
def closeBlocks (column : Int) : Nat → Layout → Layout
  | 0, l => l
  | fuel + 1, l =>
    if l.inFlow || l.indent ≤ column then l
    else
      closeBlocks column fuel
        { l.push .blockEnd with indent := l.outer.headD (-1), outer := l.outer.tail }

/-- Closes the block collections to the right of a column. -/
def unroll (l : Layout) (column : Int) : Layout := closeBlocks column (l.outer.length + 1) l

/-- Whether a block collection starts at a column. -/
def startsBlock (l : Layout) (column : Nat) : Bool := !l.inFlow && l.indent < (column : Int)

/-- Enters a block collection at a column, if one starts there. -/
def roll (l : Layout) (column : Nat) : Layout :=
  if l.startsBlock column then { l with indent := column, outer := l.indent :: l.outer } else l

/-- Enters a block collection at a column, adding its start. -/
def pushBlock (l : Layout) (column : Nat) (start : Token) : Layout :=
  if l.startsBlock column then (l.push start).roll column else l

/-! ## Possible keys -/

/-- Forgets the possible key here, which must not be a required one. -/
def dropKey? (l : Layout) : Option Layout :=
  if l.possible.any PossibleKey.required then none else some { l with possible := none }

/-- Remembers that a key may start at a place. -/
def saveKey? (l : Layout) (s : Spot) : Option Layout :=
  if l.keyAllowed then do
    let l ← l.dropKey?
    let required := !l.inFlow && l.indent = (s.column : Int)
    pure { l with possible := some ⟨required, l.lexemes.size, s.line, s.column, s.index⟩ }
  else some l

/-- Whether a possible key is too far away to be one. -/
def isStale (s : Spot) (k : PossibleKey) : Bool :=
  k.line < s.line || k.index + maxKeyLength < s.index

/-- Forgets a possible key that is too far away, unless it is required. -/
def refreshKey? (s : Spot) : Option PossibleKey → Option (Option PossibleKey)
  | some k => if isStale s k then if k.required then none else some none else some (some k)
  | none => some none

/-- Forgets all possible keys that are too far away. -/
def refresh? (l : Layout) (s : Spot) : Option Layout := do
  let possible ← refreshKey? s l.possible
  let around ← l.around.mapM (refreshKey? s)
  pure { l with possible := possible, around := around }

/-- Marks the lexeme at which a key started. -/
def markKey (l : Layout) (k : PossibleKey) : Layout :=
  let starts := l.startsBlock k.column
  let marked := l.lexemes.modify k.position fun lexeme =>
    { lexeme with isKey := true, startsMapping := starts }
  ({ l with lexemes := marked, possible := none }).roll k.column

/-! ## Single tokens -/

/-- Opens a flow collection. -/
def openFlow? (l : Layout) (s : Spot) (token : Token) : Option Layout := do
  let l ← l.saveKey? s
  pure { l.push token with keyAllowed := true, possible := none, around := l.possible :: l.around }

/-- Closes a flow collection, if one is open. -/
def closeFlow? (l : Layout) (token : Token) : Option Layout := do
  let l ← l.dropKey?
  pure { l.push token with
    keyAllowed := false, possible := l.around.headD none, around := l.around.tail }

/-- Adds a token in front of which a key may have started. -/
def pushNode? (l : Layout) (s : Spot) (token : Token) : Option Layout := do
  let l ← l.saveKey? s
  pure { l.push token with keyAllowed := false }

/-- The mark of a document. -/
def pushMark? (l : Layout) (token : Token) : Option Layout := do
  let l ← (l.unroll (-1)).dropKey?
  pure { l.push token with keyAllowed := false }

/-- The hyphen of an item. -/
def pushEntry? (l : Layout) (s : Spot) : Option Layout := do
  let l ← if l.inFlow then some l
    else if l.keyAllowed then some (l.pushBlock s.column .blockSequence) else none
  let l ← l.dropKey?
  pure { l.push .entry with keyAllowed := true }

/-- The question mark of a key. -/
def pushKey? (l : Layout) (s : Spot) : Option Layout := do
  let l ← if l.inFlow then some l
    else if l.keyAllowed then some (l.pushBlock s.column .blockMapping) else none
  let l ← l.dropKey?
  pure { l.push .key with keyAllowed := !l.inFlow }

/-- The colon of a value. -/
def pushValue? (l : Layout) (s : Spot) : Option Layout :=
  match l.possible with
  | some k => some { (l.markKey k).push .value with keyAllowed := false }
  | none =>
    if l.inFlow then some { l.push .value with keyAllowed := false }
    else if l.keyAllowed then
      some { (l.pushBlock s.column .blockMapping).push .value with keyAllowed := true }
    else none

/-- The comma between the entries of a flow collection. -/
def pushComma? (l : Layout) : Option Layout := do
  let l ← l.dropKey?
  pure { l.push .comma with keyAllowed := true }

/-- The tokens of a finished layout. -/
def finish? (l : Layout) : Option (List Token) := do
  let l ← (l.unroll (-1)).dropKey?
  pure (l.lexemes.toList.flatMap Lexeme.expand)

end Layout

/-! ## Reading tokens -/

/-- Drops blanks, comments and line breaks, and a byte order mark in front of a line, which still
takes up a column.  In block context, a key may start on a new line, and a tab may not stand where a
key may start. -/
def skipToToken (inFlow keyAllowed inComment : Bool) : List Spot → Bool × List Spot
  | [] => (keyAllowed, [])
  | s :: rest =>
    if isBreak s.char then skipToToken inFlow (keyAllowed || !inFlow) false rest
    else if inComment then skipToToken inFlow keyAllowed true rest
    else if s.column = 0 && isByteOrderMark s.char then skipToToken inFlow keyAllowed false rest
    else if s.char = ' ' || ((inFlow || !keyAllowed) && s.char = '\t') then
      skipToToken inFlow keyAllowed false rest
    else if s.char = '#' then skipToToken inFlow keyAllowed true rest
    else (keyAllowed, s :: rest)

/-- Whether a character can stand in the name of an anchor. -/
def isAnchorChar (c : Char) : Bool := c.isAlphanum || c == '_' || c == '-'

/-- Reads the name of an anchor. -/
def anchorName? (spots : List Spot) : Option (String × List Spot) :=
  let name := (spots.takeWhile fun s => isAnchorChar s.char).map Spot.char
  let rest := spots.dropWhile fun s => isAnchorChar s.char
  if !name.isEmpty && (atGap rest || nextIn "?:,]\x7d%@`" rest) then
    some (String.ofList name, rest)
  else none

/-- Whether a plain scalar can start with a character. -/
def startsPlain (inFlow : Bool) (c : Char) (rest : List Spot) : Bool :=
  if c = '-' then !nextIn " \t" rest
  else if c = '?' || c = ':' then !inFlow && !atGap rest
  else !isGap c && !("-?:,[]\x7b\x7d#&*!|>'\"%@`".toList.contains c)

/-- Reads a plain scalar. -/
def plainToken? (l : Layout) (s : Spot) (spots : List Spot) : Option (Layout × List Spot) := do
  let l ← l.saveKey? s
  let (text, broken, rest) ← plainText? l.inFlow (l.indent + 1) spots
  pure ({ l.push (.scalar text true) with keyAllowed := broken }, rest)

/-- Reads the token that starts with a character. -/
def token? (l : Layout) (s : Spot) (rest : List Spot) : Option (Layout × List Spot) :=
  let spots := s :: rest
  if atMark '-' spots then (l.pushMark? .documentStart).map (·, spots.drop 3)
  else if atMark '.' spots then (l.pushMark? .documentEnd).map (·, spots.drop 3)
  else match s.char with
    | '[' => (l.openFlow? s .openSequence).map (·, rest)
    | '\x7b' => (l.openFlow? s .openMapping).map (·, rest)
    | ']' => (l.closeFlow? .closeSequence).map (·, rest)
    | '\x7d' => (l.closeFlow? .closeMapping).map (·, rest)
    | ',' => l.pushComma?.map (·, rest)
    | '*' => do
      let l ← l.saveKey? s
      let (name, rest) ← anchorName? rest
      pure ({ l.push (.reference name) with keyAllowed := false }, rest)
    | '&' => do
      let l ← l.saveKey? s
      let (name, rest) ← anchorName? rest
      pure ({ l.push (.anchor name) with keyAllowed := false }, rest)
    | '\'' | '"' => do
      let l ← l.saveKey? s
      let (text, rest) ← quotedText? s.char rest
      pure ({ l.push (.scalar text false) with keyAllowed := false }, rest)
    | c =>
      if c = '-' && atGap rest then (l.pushEntry? s).map (·, rest)
      else if c = '?' && (l.inFlow || atGap rest) then (l.pushKey? s).map (·, rest)
      else if c = ':' && (l.inFlow || atGap rest) then (l.pushValue? s).map (·, rest)
      else if startsPlain l.inFlow c rest then plainToken? l s spots
      else none

/-- Reads tokens, at most `fuel` of them. -/
def layout? : Nat → Layout → List Spot → Option (List Token)
  | 0, _, _ => none
  | fuel + 1, l, spots =>
    match skipToToken l.inFlow l.keyAllowed false spots with
    | (_, []) => l.finish?
    | (keyAllowed, s :: rest) => do
      let l ← { l with keyAllowed := keyAllowed }.refresh? s
      let (l, rest) ← token? (l.unroll s.column) s rest
      layout? fuel l rest

/-- Divides a text into tokens. -/
def tokens? (text : String) : Option (List Token) := do
  let spots ← locate? text
  layout? (spots.length + 1) .initial spots

/-- Entering a block collection does not move the indentation to the left. -/
theorem Layout.indent_le_indent_roll (l : Layout) (column : Nat) :
    l.indent ≤ (l.roll column).indent := by
  unfold roll startsBlock
  split
  · rename_i h
    simp only [Bool.and_eq_true, decide_eq_true_eq] at h
    exact Int.le_of_lt h.2
  · exact Int.le_refl _

end TokenPattern.Yaml
