import TokenPattern.Regex
import TokenPattern.Regex.Flags
import TokenPattern.Text.Hexadecimal

/-!
# Escapes

A backslash takes the meaning from a character that has one, or gives one to a letter, as documented
for the library for which the engine stands in (`Regex.Engine`).  `readEscape` reads what follows the
backslash: a character, by itself or by its code point, a set of characters, or an assertion.

Without the flag `u`, letters for sets stand for the sets of ASCII, and what would need more is
refused.
-/

namespace TokenPattern.Regex

open Text (hexDigit? charOfCode?)
open Unicode (isWhiteSpace)

/-- What an escape stands for. -/
inductive Primitive where
  /-- A character, and whether it was given as two hexadecimal digits. -/
  | literal (c : Char) (isByte : Bool)
  | set (s : CharSet)
  | assertion (a : Assertion)

/-! ## Sets under flags -/

/-- Adds the other cases of the members if the case does not count. -/
def Flags.fold (f : Flags) (s : CharSet) : CharSet :=
  if f.ignoreCase then if f.unicode then s.foldCase else s.foldAsciiCase else s

/-- The complement of a set, which is refused over ASCII. -/
def Flags.complement (f : Flags) (s : CharSet) : Except Fault CharSet :=
  if f.unicode then .ok s.compl else .error .needsUnicode

/-- Complements a set if `negated`. -/
def Flags.negateIf (f : Flags) (negated : Bool) (s : CharSet) : Except Fault CharSet :=
  if negated then f.complement s else .ok s

/-- A character, in any case if the case does not count. -/
def Flags.single (f : Flags) (c : Char) : CharSet :=
  if !f.ignoreCase then .single c
  else if f.unicode then .anyCase c
  else (CharSet.single c).foldAsciiCase

/-- The set with a letter: digits, white space or word characters, or their complements. -/
def Flags.letterSet? (f : Flags) : Char → Option (Except Fault CharSet)
  | 'd' => some (.ok digits)
  | 'D' => some (f.complement digits)
  | 's' => some (.ok spaces)
  | 'S' => some (f.complement spaces)
  | 'w' => some (.ok (.word f.unicode))
  | 'W' => some (f.complement (.word f.unicode))
  | _ => none
where
  digits : CharSet := if f.unicode then .ofProperty (Unicode.isDecimal .sixteenth) else .asciiDigit
  spaces : CharSet := if f.unicode then .ofProperty isWhiteSpace else .asciiSpace

/-! ## Code points -/

/-- Reads a fixed number of hexadecimal digits. -/
def readFixedHex (f : Flags) : Nat → Nat → List Char → Except Fault (Nat × List Char)
  | 0, n, cs => .ok (n, cs)
  | k + 1, n, c :: rest =>
    match hexDigit? c with
    | some d => readFixedHex f k (16 * n + d) (f.skip rest)
    | none => .error .invalidCodePoint
  | _ + 1, _, [] => .error .unexpectedEnd

/-- The character that hexadecimal digits stand for. -/
def charOfDigits (digits : List Char) : Except Fault Char :=
  match Text.hexNumber? digits with
  | some n =>
    match charOfCode? n with
    | some c => .ok c
    | none => .error .invalidCodePoint
  | none => .error .invalidCodePoint

/-- Reads a code point: hexadecimal digits between braces, or exactly `width` of them. -/
def readCodePoint (f : Flags) (width : Nat) (cs : List Char) :
    Except Fault (Primitive × List Char) :=
  match f.skip cs with
  | [] => .error .unexpectedEnd
  | '\x7b' :: rest =>
    match f.takeWhile (fun c => (hexDigit? c).isSome) (f.skip rest) with
    | (digits, '\x7d' :: rest) => do
      let c ← charOfDigits digits
      pure (.literal c false, f.skip rest)
    | (_, []) => .error .unexpectedEnd
    | _ => .error .invalidCodePoint
  | rest => do
    let (n, rest) ← readFixedHex f width 0 rest
    match charOfCode? n with
    | some c => pure (.literal c (width = 2), rest)
    | none => .error .invalidCodePoint

/-! ## Properties -/

/-- Divides a text at the first occurrence of a separator. -/
def splitAtFirst? (separator : List Char) : List Char → Option (List Char × List Char)
  | [] => none
  | c :: rest =>
    if separator.isPrefixOf (c :: rest) then some ([], (c :: rest).drop separator.length)
    else (splitAtFirst? separator rest).map fun parts => (c :: parts.1, parts.2)

/-- What a property description asks for: a name alone, or a property and a value, and whether the
characters without it are meant. -/
structure Description where
  property : String
  value : Option String
  negated : Bool

/-- Takes a description apart at its first sign. -/
def Description.ofList (description : List Char) : Description :=
  match splitAtFirst? ['!', '='] description with
  | some (property, value) => ⟨String.ofList property, some (String.ofList value), true⟩
  | none =>
    match splitAtFirst? [':'] description <|> splitAtFirst? ['='] description with
    | some (property, value) => ⟨String.ofList property, some (String.ofList value), false⟩
    | none => ⟨String.ofList description, none, false⟩

/-- The set that a description names, but for negation. -/
def Description.set (d : Description) : Except Fault CharSet :=
  let found := match d.value with
    | some value => Unicode.valued? d.property value
    | none => Unicode.named? d.property
  match found with
  | some test => .ok (.ofProperty test)
  | none => .error (.unknownProperty d.property)

/-- Reads a property, which is one letter or a description between braces. -/
def readProperty (f : Flags) (negated : Bool) (cs : List Char) :
    Except Fault (Primitive × List Char) := do
  let (description, rest) ← match f.skip cs with
    | [] => .error .unexpectedEnd
    | '\x7b' :: rest =>
      match f.takeWhile (· != '\x7d') (f.skip rest) with
      | (description, _ :: rest) => pure (description, rest)
      | (_, []) => .error .unexpectedEnd
    | '\\' :: _ => .error (.unknownProperty "\\")
    | c :: rest => pure ([c], rest)
  if f.unicode then
    let description := Description.ofList description
    let s ← description.set
    let s ← f.negateIf (negated != description.negated) (f.fold s)
    pure (.set s, rest)
  else .error .needsUnicode

/-! ## Assertions -/

/-- The assertions about words that have a name. -/
def namedWordAssertion? : List Char → Option Assertion
  | ['s', 't', 'a', 'r', 't'] => some .wordStart
  | ['e', 'n', 'd'] => some .wordEnd
  | ['s', 't', 'a', 'r', 't', '-', 'h', 'a', 'l', 'f'] => some .noWordBefore
  | ['e', 'n', 'd', '-', 'h', 'a', 'l', 'f'] => some .noWordAfter
  | _ => none

/-- Whether a character can stand in the name of an assertion. -/
def isAssertionNameChar (c : Char) : Bool := c.isAlpha || c == '-'

/-- Reads what follows the letter of a word edge: a name between braces, or nothing.  Braces whose
content does not start like a name belong to a repetition. -/
def readWordEdge (f : Flags) (cs : List Char) : Except Fault (Primitive × List Char) :=
  match cs with
  | '\x7b' :: rest =>
    match f.skip rest with
    | [] => .error .unexpectedEnd
    | c :: inner =>
      if isAssertionNameChar c then
        match f.takeWhile isAssertionNameChar (c :: inner) with
        | (name, '\x7d' :: rest) =>
          match namedWordAssertion? name with
          | some a => .ok (.assertion a, rest)
          | none => .error (.unknownEscape 'b')
        | _ => .error .unexpectedEnd
      else .ok (.assertion .wordEdge, cs)
  | cs => .ok (.assertion .wordEdge, cs)

/-! ## All escapes -/

/-- The control characters with a letter. -/
def controlLetter? : Char → Option Char
  | 'a' => some '\x07'
  | 'f' => some '\x0c'
  | 't' => some '\t'
  | 'n' => some '\n'
  | 'r' => some '\r'
  | 'v' => some '\x0b'
  | _ => none

/-- The assertions with a letter or an angle bracket. -/
def assertionLetter? : Char → Option Assertion
  | 'A' => some .textStart
  | 'z' => some .textEnd
  | 'B' => some .noWordEdge
  | '<' => some .wordStart
  | '>' => some .wordEnd
  | _ => none

/-- Reads what follows a backslash. -/
def readEscape (f : Flags) : List Char → Except Fault (Primitive × List Char)
  | [] => .error .unexpectedEnd
  | 'x' :: rest => readCodePoint f 2 rest
  | 'u' :: rest => readCodePoint f 4 rest
  | 'U' :: rest => readCodePoint f 8 rest
  | 'p' :: rest => readProperty f false rest
  | 'P' :: rest => readProperty f true rest
  | 'b' :: rest => readWordEdge f rest
  | c :: rest =>
    match f.letterSet? c, controlLetter? c, assertionLetter? c with
    | some s, _, _ => s.map fun s => (.set s, rest)
    | _, some control, _ => .ok (.literal control false, rest)
    | _, _, some a => .ok (.assertion a, rest)
    | none, none, none =>
      if c.toNat < 0x80 && !c.isAlphanum then .ok (.literal c false, rest)
      else .error (.unknownEscape c)

/-! ## Literals -/

/-- The set that a character outside of brackets stands for. -/
def Flags.literalSet (f : Flags) (c : Char) (isByte : Bool) : Except Fault CharSet :=
  if !f.unicode && isByte && 0x80 ≤ c.toNat then .error .needsUnicode
  else .ok (f.single c)

/-- Checks a character between brackets. -/
def Flags.member (f : Flags) (c : Char) : Except Fault Char :=
  if !f.unicode && 0x80 ≤ c.toNat then .error .needsUnicode else .ok c

end TokenPattern.Regex
