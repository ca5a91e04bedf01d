import TokenPattern.Text.Hexadecimal
import TokenPattern.Yaml.Spot

/-!
# Scalars

A scalar is a text without quotes, or between single or double quotes.  Any of them may run over
several lines; then a single line break counts as a blank, and of several the first is dropped.

`plainText?` and `quotedText?` read a scalar from its first character on.
-/

namespace TokenPattern.Yaml

open Text (hexDigit? charOfCode?)

/-! ## Gaps between words -/

/-- What stands between two words: blanks, or line breaks. -/
structure Gap where
  /-- Whether a line break was passed. -/
  broken : Bool
  /-- The blanks before the first line break. -/
  blanks : List Char
  /-- The first line break. -/
  first : List Char
  /-- The other line breaks. -/
  more : List Char

namespace Gap

/-- Nothing. -/
def empty : Gap := ⟨false, [], [], []⟩

/-- A line break that was escaped, and so is no text. -/
def escaped : Gap := ⟨true, [], [], []⟩

/-- Whether anything was passed. -/
def isEmpty (g : Gap) : Bool := !g.broken && g.blanks.isEmpty

/-- The text of a gap. -/
def text (g : Gap) : List Char :=
  if !g.broken then g.blanks
  else if g.first = ['\n'] then if g.more.isEmpty then [' '] else g.more
  else g.first ++ g.more

/-- Adds a line break. -/
def addBreak (g : Gap) (c : Char) : Gap :=
  if g.broken then { g with more := g.more ++ [c] } else ⟨true, [], [c], []⟩

/-- Adds a blank. -/
def addBlank (g : Gap) (c : Char) : Gap :=
  if g.broken then g else { g with blanks := g.blanks ++ [c] }

end Gap

/-- Reads a gap.  At the start of a line, a tab to the left of `margin` is refused. -/
def readGap? (margin : Int) (g : Gap) : List Spot → Option (Gap × List Spot)
  | [] => some (g, [])
  | s :: rest =>
    if isBreak s.char then readGap? margin (g.addBreak s.char) rest
    else if isBlank s.char then
      if g.broken && s.char = '\t' && (s.column : Int) < margin then none
      else readGap? margin (g.addBlank s.char) rest
    else some (g, s :: rest)

/-- The text of some stretches, the last first. -/
def joined (done : List (List Char)) : String := String.ofList done.reverse.flatten

/-! ## Plain scalars -/

/-- Reads a word of a plain scalar: up to a gap, a colon before a gap, or, inside a flow collection,
a character that divides it. -/
def plainWord? (inFlow : Bool) : List Spot → Option (List Char × List Spot)
  | [] => some ([], [])
  | s :: rest =>
    if isGap s.char then some ([], s :: rest)
    else if s.char = ':' && inFlow && nextIn ",?[]\x7b\x7d" rest then none
    else if (s.char = ':' && atGap rest) || (inFlow && nextIn ",[]\x7b\x7d" [s]) then
      some ([], s :: rest)
    else (plainWord? inFlow rest).map fun (word, rest) => (s.char :: word, rest)

/-- Reads the words of a plain scalar behind some stretches and a gap, at most `fuel` of them.  The
scalar ends at a comment, at the mark of a document, or in block context before a line that starts
to the left of `margin`.  The stretches are returned, the last first, with the gap that was passed
last. -/
def plainRest? (inFlow : Bool) (margin : Int) :
    Nat → List (List Char) → Gap → List Spot → Option (List (List Char) × Gap × List Spot)
  | 0, done, gap, spots => some (done, gap, spots)
  | fuel + 1, done, gap, spots =>
    if atDocumentMark spots || nextIn "#" spots then some (done, gap, spots)
    else do
      let (word, rest) ← plainWord? inFlow spots
      if word.isEmpty then pure (done, gap, rest)
      else
        let done := word :: gap.text :: done
        let (gap, after) ← readGap? margin .empty rest
        match after with
        | [] => pure (done, gap, after)
        | s :: _ =>
          if gap.isEmpty || (!inFlow && (s.column : Int) < margin) then pure (done, gap, after)
          else plainRest? inFlow margin fuel done gap after

/-- Reads a plain scalar; also tells whether a line break was passed behind it. -/
def plainText? (inFlow : Bool) (margin : Int) (spots : List Spot) :
    Option (String × Bool × List Spot) :=
  (plainRest? inFlow margin (spots.length + 1) [] .empty spots).map fun (done, gap, rest) =>
    (joined done, gap.broken, rest)

/-! ## Quoted scalars -/

/-- How a stretch without gaps inside quotes ends. -/
inductive WordEnd where
  /-- At the closing quote. -/
  | quote
  /-- At a gap or at the end of the text. -/
  | gap
  /-- At a line break behind a backslash. -/
  | escapedBreak

/-- The character that a backslash and a letter stand for. -/
def escapedChar? : Char → Option Char
  | '0' => some '\x00'
  | 'a' => some '\x07'
  | 'b' => some '\x08'
  | 't' | '\t' => some '\t'
  | 'n' => some '\n'
  | 'v' => some '\x0b'
  | 'f' => some '\x0c'
  | 'r' => some '\x0d'
  | 'e' => some '\x1b'
  | ' ' => some ' '
  | '"' => some '"'
  | '/' => some '/'
  | '\\' => some '\\'
  | 'N' => some '\x85'
  | '_' => some '\xa0'
  | 'L' => some '\u2028'
  | 'P' => some '\u2029'
  | _ => none

/-- The number of hexadecimal digits behind a backslash and a letter. -/
def escapedWidth? : Char → Option Nat
  | 'x' => some 2
  | 'u' => some 4
  | 'U' => some 8
  | _ => none

/-- Reads a stretch between single quotes, where a quote is written twice. -/
def singleWord : List Spot → List Char × WordEnd × List Spot
  | [] => ([], .gap, [])
  | s :: rest =>
    if isGap s.char then ([], .gap, s :: rest)
    else if s.char = '\'' then
      match rest with
      | t :: rest' =>
        if t.char = '\'' then
          let (word, stop, after) := singleWord rest'
          ('\'' :: word, stop, after)
        else ([], .quote, rest)
      | [] => ([], .quote, [])
    else
      let (word, stop, after) := singleWord rest
      (s.char :: word, stop, after)

/-- Reads a stretch between double quotes.  `digits` is the number of hexadecimal digits that are
still to come, with the value of those before. -/
def doubleWord? (digits : Option (Nat × Nat)) :
    List Spot → Option (List Char × WordEnd × List Spot)
  | [] => if digits.isSome then none else some ([], .gap, [])
  | s :: rest =>
    match digits with
    | some (left, value) => do
      let d ← hexDigit? s.char
      let value := 16 * value + d
      if left ≤ 1 then
        let c ← charOfCode? value
        let (word, stop, after) ← doubleWord? none rest
        pure (c :: word, stop, after)
      else doubleWord? (some (left - 1, value)) rest
    | none =>
      if isGap s.char then some ([], .gap, s :: rest)
      else if s.char = '"' then some ([], .quote, rest)
      else if s.char = '\\' then
        match rest with
        | [] => none
        | t :: rest' =>
          if isBreak t.char then some ([], .escapedBreak, rest')
          else
            match escapedChar? t.char, escapedWidth? t.char with
            | some c, _ => do
              let (word, stop, after) ← doubleWord? none rest'
              pure (c :: word, stop, after)
            | none, some width => doubleWord? (some (width, 0)) rest'
            | none, none => none
      else do
        let (word, stop, after) ← doubleWord? none rest
        pure (s.char :: word, stop, after)

/-- Reads up to the closing quote, at most `fuel` stretches.  The mark of a document is refused. -/
def quotedRest? (word? : List Spot → Option (List Char × WordEnd × List Spot)) :
    Nat → List (List Char) → List Spot → Option (String × List Spot)
  | 0, _, _ => none
  | fuel + 1, done, spots =>
    if atDocumentMark spots then none
    else do
      let (word, stop, rest) ← word? spots
      let done := word :: done
      let continueBehind (gap : Gap) : Option (String × List Spot) := do
        let (gap, after) ← readGap? 0 gap rest
        quotedRest? word? fuel (gap.text :: done) after
      match stop with
      | .quote => pure (joined done, rest)
      | .escapedBreak => continueBehind .escaped
      | .gap => if rest.isEmpty then none else continueBehind .empty

/-- Reads a scalar behind its opening quote. -/
def quotedText? (quote : Char) (spots : List Spot) : Option (String × List Spot) :=
  let word? : List Spot → Option (List Char × WordEnd × List Spot) :=
    if quote = '\'' then fun spots => some (singleWord spots) else doubleWord? none
  quotedRest? word? (spots.length + 1) [] spots

end TokenPattern.Yaml
