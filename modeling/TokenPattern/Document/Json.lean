import TokenPattern.Document
import TokenPattern.Text.Hexadecimal
import TokenPattern.Word

/-!
# Documents in JSON notation

`Document.ofJson?` reads a JSON text and `Document.toJson` and `Document.toPrettyJson` write one,
without blanks or with two blanks of indentation per level.

**Numbers.**  A number without fraction and exponent is an integer as long as it fits into 64 bits,
signed or unsigned; every other number is a float, a negative zero too.  The digits of a float that
overflow 64 bits only count towards the exponent (before the point) or are dropped (after it).

**Depth.**  A reader takes the number of levels that arrays and objects may be nested; that is what
its recursion runs on.
-/

namespace TokenPattern.Document

/-! ## Reading texts -/

/-- Drops blanks, tabs and line ends. -/
def skipBlanks (cs : List Char) : List Char :=
  cs.dropWhile fun c => c == ' ' || c == '\n' || c == '\t' || c == '\r'

/-- Four hexadecimal digits. -/
def fourHexDigits? : List Char → Option (Nat × List Char)
  | a :: b :: c :: d :: rest => do
    let w ← Text.hexDigit? a
    let x ← Text.hexDigit? b
    let y ← Text.hexDigit? c
    let z ← Text.hexDigit? d
    pure (((w * 16 + x) * 16 + y) * 16 + z, rest)
  | _ => none

/-- The character that follows a backslash and `u`: one code unit, or a pair of surrogates. -/
def unitEscape? (cs : List Char) : Option (Char × List Char) := do
  let (high, rest) ← fourHexDigits? cs
  if 0xd800 ≤ high && high < 0xdc00 then
    match rest with
    | '\\' :: 'u' :: rest =>
      let (low, rest) ← fourHexDigits? rest
      if 0xdc00 ≤ low && low < 0xe000 then
        pure (Char.ofNat (0x10000 + (high - 0xd800) * 0x400 + (low - 0xdc00)), rest)
      else none
    | _ => none
  else if 0xdc00 ≤ high && high < 0xe000 then none
  else pure (Char.ofNat high, rest)

/-- The character that a letter after a backslash stands for. -/
def letterEscape? : Char → Option Char
  | '"' => some '"'
  | '\\' => some '\\'
  | '/' => some '/'
  | 'b' => some '\x08'
  | 'f' => some '\x0c'
  | 'n' => some '\n'
  | 'r' => some '\r'
  | 't' => some '\t'
  | _ => none

/-- The rest of a quoted text, up to its closing quote.  The first argument bounds the number of
characters left. -/
def quotedRest? : Nat → List Char → List Char → Option (String × List Char)
  | 0, _, _ => none
  | _ + 1, _, [] => none
  | _ + 1, done, '"' :: rest => some (String.ofList done.reverse, rest)
  | n + 1, done, '\\' :: 'u' :: rest =>
    match unitEscape? rest with
    | some (c, rest) => quotedRest? n (c :: done) rest
    | none => none
  | n + 1, done, '\\' :: e :: rest =>
    match letterEscape? e with
    | some c => quotedRest? n (c :: done) rest
    | none => none
  | n + 1, done, c :: rest =>
    if c.toNat < 0x20 || c = '\\' then none else quotedRest? n (c :: done) rest

/-! ## Reading numbers -/

/-- Accumulates the digits at the front as long as the number fits into 64 bits, and returns it
with the number of digits taken and what follows. -/
def takeDigits : Nat → Nat → List Char → Nat × Nat × List Char
  | n, taken, c :: rest =>
    if c.isDigit then
      let next := n * 10 + (c.toNat - '0'.toNat)
      if Word.fits next then takeDigits next (taken + 1) rest else (n, taken, c :: rest)
    else (n, taken, c :: rest)
  | n, taken, [] => (n, taken, [])

/-- The float `± significand · 10 ^ exponent`. -/
def scaled? (negative : Bool) (significand : Nat) (exponent : Int) : Option Document := do
  let x ← Binary64.ofScaled significand exponent
  pure (float (if negative then x.neg else x))

/-- The number of digits at the front, and what follows them. -/
def skipDigits (cs : List Char) : Nat × List Char :=
  ((cs.takeWhile Char.isDigit).length, cs.dropWhile Char.isDigit)

/-- An exponent part, after its letter. -/
def exponentPart? (negative : Bool) (significand : Nat) (exponent : Int) (cs : List Char) :
    Option (Document × List Char) := do
  let (down, cs) := match cs with
    | '+' :: rest => (false, rest)
    | '-' :: rest => (true, rest)
    | _ => (false, cs)
  let digits := cs.takeWhile Char.isDigit
  if digits.isEmpty then none
  else
    let e : Int := digits.foldl (fun n c => n * 10 + (c.toNat - '0'.toNat)) 0
    let d ← scaled? negative significand (if down then exponent - e else exponent + e)
    pure (d, cs.dropWhile Char.isDigit)

/-- A fraction part, after its point, and an exponent part if there is one. -/
def fractionPart? (negative : Bool) (significand : Nat) (exponent : Int) (cs : List Char) :
    Option (Document × List Char) :=
  let (n, taken, rest) := takeDigits significand 0 cs
  let (dropped, rest) := skipDigits rest
  if taken + dropped = 0 then none
  else
    match rest with
    | 'e' :: rest | 'E' :: rest => exponentPart? negative n (exponent - taken) rest
    | _ => (scaled? negative n (exponent - taken)).map (·, rest)

/-- What follows the integer part of a number. -/
def numberRest? (negative : Bool) (significand : Nat) (dropped : Nat) (cs : List Char) :
    Option (Document × List Char) :=
  match cs with
  | '.' :: rest => fractionPart? negative significand dropped rest
  | 'e' :: rest | 'E' :: rest => exponentPart? negative significand dropped rest
  | _ =>
    if dropped ≠ 0 then (scaled? negative significand dropped).map (·, cs)
    else if !negative then some (integer significand, cs)
    else if significand = 0 || Word.signedLimit < significand then
      (scaled? true significand 0).map (·, cs)
    else some (integer (-significand), cs)

/-- A number, after its sign. -/
def number? (negative : Bool) (cs : List Char) : Option (Document × List Char) :=
  match cs with
  | '0' :: rest =>
    match rest with
    | c :: _ => if c.isDigit then none else numberRest? negative 0 0 rest
    | [] => numberRest? negative 0 0 rest
  | c :: _ =>
    if c.isDigit then
      let (n, _, rest) := takeDigits 0 0 cs
      let (dropped, rest) := skipDigits rest
      numberRest? negative n dropped rest
    else none
  | [] => none

/-! ## Reading trees -/

/-- A comma and the blanks around it, or the closing character. -/
inductive Separator where
  | next (rest : List Char)
  | close (rest : List Char)

/-- What stands between two items of a list that ends with `closing`. -/
def separator? (closing : Char) (cs : List Char) : Option Separator :=
  match skipBlanks cs with
  | c :: rest =>
    if c = ',' then some (.next rest) else if c = closing then some (.close rest) else none
  | [] => none

/-- The items of an array, at least one, given a reader of values. -/
def arrayItems? (value? : List Char → Option (Document × List Char)) :
    Nat → List Document → List Char → Option (Document × List Char)
  | 0, _, _ => none
  | n + 1, done, cs => do
    let (d, rest) ← value? cs
    match ← separator? ']' rest with
    | .next rest => arrayItems? value? n (d :: done) rest
    | .close rest => pure (array (d :: done).reverse, rest)

/-- The entries of an object, at least one, given a bound on the number of characters left and a
reader of values. -/
def objectEntries? (size : Nat) (value? : List Char → Option (Document × List Char)) :
    Nat → List (String × Document) → List Char → Option (Document × List Char)
  | 0, _, _ => none
  | n + 1, done, cs =>
    match skipBlanks cs with
    | '"' :: rest => do
      let (key, rest) ← quotedRest? size [] rest
      match skipBlanks rest with
      | ':' :: rest =>
        let (d, rest) ← value? rest
        match ← separator? '\x7d' rest with
        | .next rest => objectEntries? size value? n ((key, d) :: done) rest
        | .close rest => pure (object ((key, d) :: done).reverse, rest)
      | _ => none
    | _ => none

/-- The rest of the text after a keyword. -/
def afterWord? (word : String) (cs : List Char) : Option (List Char) :=
  if word.toList.isPrefixOf cs then some (cs.drop word.length) else none

/-- A value with at most `depth` levels of arrays and objects, in front of fewer than `size`
characters. -/
def jsonValue? (size : Nat) : Nat → List Char → Option (Document × List Char)
  | depth, cs =>
    match skipBlanks cs with
    | 'n' :: rest => (afterWord? "ull" rest).map (null, ·)
    | 't' :: rest => (afterWord? "rue" rest).map (boolean true, ·)
    | 'f' :: rest => (afterWord? "alse" rest).map (boolean false, ·)
    | '"' :: rest => do
      let (text, rest) ← quotedRest? size [] rest
      pure (string text, rest)
    | '-' :: rest => number? true rest
    | '[' :: rest =>
      match depth with
      | 0 => none
      | inner + 1 =>
        match skipBlanks rest with
        | ']' :: rest => some (array [], rest)
        | _ => arrayItems? (jsonValue? size inner) size [] rest
    | '\x7b' :: rest =>
      match depth with
      | 0 => none
      | inner + 1 =>
        match skipBlanks rest with
        | '\x7d' :: rest => some (object [], rest)
        | _ => objectEntries? size (jsonValue? size inner) size [] rest
    | cs => number? false cs
termination_by depth => depth

/-- Reads a JSON text with at most `depth` levels of nesting. -/
def ofJson? (depth : Nat) (text : String) : Option Document :=
  let cs := text.toList
  match jsonValue? (cs.length + 1) depth cs with
  | some (d, rest) => if (skipBlanks rest).isEmpty then some d else none
  | none => none

/-! ## Writing -/

/-- How a character is written inside a JSON text. -/
def escapeJson (c : Char) : List Char :=
  if c = '"' then ['\\', '"']
  else if c = '\\' then ['\\', '\\']
  else if c = '\x08' then ['\\', 'b']
  else if c = '\x0c' then ['\\', 'f']
  else if c = '\n' then ['\\', 'n']
  else if c = '\r' then ['\\', 'r']
  else if c = '\t' then ['\\', 't']
  else if c.toNat < 0x10 then ['\\', 'u', '0', '0', '0'] ++ Nat.toDigits 16 c.toNat
  else if c.toNat < 0x20 then ['\\', 'u', '0', '0'] ++ Nat.toDigits 16 c.toNat
  else [c]

/-- A text in JSON notation. -/
def quoteJson (text : String) : String :=
  String.ofList (['"'] ++ text.toList.flatMap escapeJson ++ ['"'])

/-- An integer in decimal notation. -/
def integerText (n : Int) : String := if n < 0 then "-" ++ n.natAbs.repr else n.natAbs.repr

/-- The text of a scalar. -/
def scalarText : Document → String
  | null => "null"
  | boolean b => if b then "true" else "false"
  | integer n => integerText n
  | float x => x.render
  | string s => quoteJson s
  | plain s => quoteJson s
  | _ => "null"

mutual

/-- JSON without blanks. -/
def toJson : Document → String
  | array items => "[" ++ ",".intercalate (itemTexts items) ++ "]"
  | object entries => "\x7b" ++ ",".intercalate (entryTexts entries) ++ "\x7d"
  | d => scalarText d

/-- `toJson` of each item. -/
def itemTexts : List Document → List String
  | [] => []
  | d :: rest => toJson d :: itemTexts rest

/-- Each entry as `"key":value`. -/
def entryTexts : List (String × Document) → List String
  | [] => []
  | (k, d) :: rest => (quoteJson k ++ ":" ++ toJson d) :: entryTexts rest

end

/-- The indentation of a level. -/
def indentation (level : Nat) : String := String.ofList (List.replicate (2 * level) ' ')

/-- Lines between an opening and a closing text, each item on a line of its own. -/
def indentedLines (opening closing : String) (level : Nat) (items : List String) : String :=
  opening ++ "\n" ++ ",\n".intercalate (items.map (indentation (level + 1) ++ ·)) ++ "\n" ++
    indentation level ++ closing

mutual

/-- JSON with one item or entry on each line, at a level of indentation. -/
def prettyAt (level : Nat) : Document → String
  | array [] => "[]"
  | object [] => "\x7b\x7d"
  | array items => indentedLines "[" "]" level (prettyItems (level + 1) items)
  | object entries => indentedLines "\x7b" "\x7d" level (prettyEntries (level + 1) entries)
  | d => scalarText d

/-- `prettyAt` of each item. -/
def prettyItems (level : Nat) : List Document → List String
  | [] => []
  | d :: rest => prettyAt level d :: prettyItems level rest

/-- Each entry as `"key": value`. -/
def prettyEntries (level : Nat) : List (String × Document) → List String
  | [] => []
  | (k, d) :: rest => (quoteJson k ++ ": " ++ prettyAt level d) :: prettyEntries level rest

end

/-- JSON with one item or entry on each line. -/
def toPrettyJson (d : Document) : String := prettyAt 0 d

end TokenPattern.Document
