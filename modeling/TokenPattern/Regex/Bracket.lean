import TokenPattern.Regex.Escape

/-!
# Sets between brackets

Sets are read as documented for the library for which the engine stands in (`Regex.Engine`).
Between brackets stand characters, ranges, escapes for sets, named sets of ASCII and further
brackets; two `&`, `-` or `~` combine what stands before them with what follows.  A hyphen or a
closing bracket right behind the opening one is a character.

If the case does not count, every item is folded as it is read.  The operations keep such sets
folded, so nothing is left to be done at the end.

`readBracket` reads one pair of brackets.  It returns the set together with its nesting depth, which
counts brackets, lists of several items and operations.
-/

namespace TokenPattern.Regex

open Unicode (isWhiteSpace)

/-- A set with the depth of its description. -/
structure Nested where
  set : CharSet
  depth : Nat

/-- The operations on sets between brackets. -/
inductive SetOperation where
  | intersection
  | difference
  | symmetricDifference

namespace SetOperation

/-- The operation with a character, which is written twice. -/
def ofChar? : Char → Option SetOperation
  | '&' => some intersection
  | '-' => some difference
  | '~' => some symmetricDifference
  | _ => none

/-- Reads the sign of an operation. -/
def read? : List Char → Option (SetOperation × List Char)
  | c :: d :: rest => if c = d then (ofChar? c).map fun operation => (operation, rest) else none
  | _ => none

/-- Applies an operation. -/
def apply : SetOperation → CharSet → CharSet → CharSet
  | intersection => .inter
  | difference => .diff
  | symmetricDifference => .symmDiff

end SetOperation

/-! ## Lists and operations -/

/-- The union of items. -/
def Nested.union : List Nested → Nested
  | [] => ⟨.none, 0⟩
  | [item] => item
  | items => ⟨.unions (items.map set), 1 + (items.map depth).foldl max 0⟩

/-- What was read of a pair of brackets: the operation that waits for its right side, and the items
since then. -/
structure OpenBracket where
  negated : Bool
  left : Option (SetOperation × Nested)
  items : List Nested

namespace OpenBracket

/-- Adds an item. -/
def add (b : OpenBracket) (item : Nested) : OpenBracket := { b with items := b.items ++ [item] }

/-- The set so far. -/
def content (b : OpenBracket) : Nested :=
  let right := Nested.union b.items
  match b.left with
  | some (operation, left) =>
    ⟨operation.apply left.set right.set, 1 + max left.depth right.depth⟩
  | none => right

/-- Starts the right side of an operation. -/
def operate (b : OpenBracket) (operation : SetOperation) : OpenBracket :=
  { b with left := some (operation, b.content), items := [] }

/-- The set between the brackets. -/
def close (f : Flags) (b : OpenBracket) : Except Fault Nested := do
  let content := b.content
  let set ← f.negateIf b.negated content.set
  pure ⟨set, 1 + content.depth⟩

end OpenBracket

/-! ## Elements -/

/-- Reads a negation sign, and the hyphens or the closing bracket that are characters here. -/
def readOpening (f : Flags) (cs : List Char) : OpenBracket × List Char :=
  let cs := f.skip cs
  let (negated, cs) := match cs with
    | '^' :: rest => (true, f.skip rest)
    | cs => (false, cs)
  let (hyphens, cs) := f.takeWhile (· == '-') cs
  let character (c : Char) : Nested := ⟨f.single c, 0⟩
  match hyphens, cs with
  | [], ']' :: rest => (⟨negated, none, [character ']']⟩, f.skip rest)
  | hyphens, cs => (⟨negated, none, hyphens.map character⟩, cs)

/-- Reads a named set of ASCII, `[:name:]` or `[:^name:]`, behind its opening bracket. -/
def readAsciiName? (f : Flags) (cs : List Char) : Option (Except Fault Nested × List Char) :=
  match cs with
  | ':' :: rest =>
    let (negated, rest) := match rest with
      | '^' :: rest => (true, rest)
      | rest => (false, rest)
    match rest.dropWhile (· != ':') with
    | ':' :: ']' :: after =>
      (CharSet.asciiNamed.lookup (String.ofList (rest.takeWhile (· != ':')))).map fun set =>
        ((f.negateIf negated (f.fold set)).map fun set => ⟨set, 0⟩, after)
    | _ => none
  | _ => none

/-- Reads a character or an escape. -/
def readMember (f : Flags) : List Char → Except Fault (Primitive × List Char)
  | [] => .error .unclosedBracket
  | '\\' :: rest => readEscape f rest
  | c :: rest => .ok (.literal c false, rest)

/-- What stands alone between brackets. -/
def Primitive.asItem (f : Flags) : Primitive → Except Fault Nested
  | literal c _ => (f.member c).map fun c => ⟨f.single c, 0⟩
  | set s => .ok ⟨s, 0⟩
  | assertion _ => .error .misplacedEscape

/-- What stands at an end of a range. -/
def Primitive.asRangeEnd (f : Flags) : Primitive → Except Fault Char
  | literal c _ => f.member c
  | _ => .error .misplacedEscape

/-- The next character that counts, looking ahead over blanks.  A number sign hides the blanks
behind it and nothing else: what is neither a blank nor the first such sign counts, even inside a
comment. -/
def peekBlanks (inComment : Bool) : List Char → Option Char
  | [] => none
  | c :: rest =>
    if isWhiteSpace c then peekBlanks inComment rest
    else if !inComment && c = '#' then peekBlanks true rest
    else some c

/-- The character that follows a hyphen. -/
def peekBehind (f : Flags) (afterHyphen : List Char) : Option Char :=
  if f.extended then (peekBlanks false afterHyphen).or afterHyphen.head? else afterHyphen.head?

/-- Whether a hyphen, given what follows it, makes a range with what stands before it. -/
def startsRange (f : Flags) (afterHyphen : List Char) : Bool :=
  peekBehind f afterHyphen != some ']' && peekBehind f afterHyphen != some '-'

/-- Reads a character, a range or an escape. -/
def readItem (f : Flags) (cs : List Char) : Except Fault (Nested × List Char) := do
  let (first, rest) ← readMember f cs
  match f.skip rest with
  | [] => .error .unclosedBracket
  | '-' :: afterHyphen =>
    if startsRange f afterHyphen then
      let (last, rest) ← readMember f (f.skip afterHyphen)
      let lo ← first.asRangeEnd f
      let hi ← last.asRangeEnd f
      if lo ≤ hi then pure (⟨f.fold (.range lo hi), 0⟩, rest) else .error .reversedRange
    else do
      let item ← first.asItem f
      pure (item, '-' :: afterHyphen)
  | rest => do
    let item ← first.asItem f
    pure (item, rest)

/-! ## Brackets -/

/-- Reads up to the closing bracket, at most `fuel` elements in a row or inside each other. -/
def readRest (f : Flags) : Nat → OpenBracket → List Char → Except Fault (Nested × List Char)
  | 0, _, _ => .error .unclosedBracket
  | fuel + 1, b, cs =>
    match f.skip cs with
    | [] => .error .unclosedBracket
    | ']' :: rest => (b.close f).map fun set => (set, rest)
    | '[' :: rest =>
      match readAsciiName? f rest with
      | some (item, rest) => do
        let item ← item
        readRest f fuel (b.add item) rest
      | none => do
        let (inner, rest) := readOpening f rest
        let (item, rest) ← readRest f fuel inner rest
        readRest f fuel (b.add item) rest
    | cs =>
      match SetOperation.read? cs with
      | some (operation, rest) => readRest f fuel (b.operate operation) rest
      | none => do
        let (item, rest) ← readItem f cs
        readRest f fuel (b.add item) rest

/-- Reads a set behind its opening bracket. -/
def readBracket (f : Flags) (cs : List Char) : Except Fault (Nested × List Char) :=
  let (b, rest) := readOpening f cs
  readRest f (rest.length + 1) b rest

end TokenPattern.Regex
