import TokenPattern.Document.Mismatch
import TokenPattern.Text.Hexadecimal
import TokenPattern.Word

/-!
# Unquoted scalars

In a notation with unquoted text, what a scalar is depends on its spelling.  `Document.ofPlain`
applies the core schema: the spellings of null, of the two truth values, of integers in four bases
and of decimal numbers; every other scalar is a text.  `Document.settle` does so throughout a
document and turns maps whose keys are texts into objects.
-/

namespace TokenPattern.Document

/-! ## Spellings -/

/-- The spellings of null; nothing at all is one of them. -/
def isNullSpelling (s : String) : Bool := s ∈ ["", "null", "Null", "NULL", "~"]

/-- The spellings of the truth values. -/
def truthSpelling? (s : String) : Option Bool :=
  if s ∈ ["true", "True", "TRUE"] then some true
  else if s ∈ ["false", "False", "FALSE"] then some false
  else none

/-- The number that a nonempty list of digits denotes in a base of at most sixteen. -/
def digitsInBase? (base : Nat) : List Char → Option Nat
  | [] => none
  | cs => cs.foldlM (fun n c => match Text.hexDigit? c with
      | some d => if d < base then some (n * base + d) else none
      | none => none) 0

/-- The magnitude of an integer: in base sixteen, eight or two behind a letter, or in base ten.
Several digits that start with a zero are no integer in base ten. -/
def magnitude? : List Char → Option Nat
  | '0' :: 'x' :: rest => digitsInBase? 16 rest
  | '0' :: 'o' :: rest => digitsInBase? 8 rest
  | '0' :: 'b' :: rest => digitsInBase? 2 rest
  | ['0'] => some 0
  | '0' :: _ => none
  | cs => digitsInBase? 10 cs

/-- An integer with an optional sign. -/
def integerSpelling? : List Char → Option Int
  | '+' :: rest => (magnitude? rest).map Int.ofNat
  | '-' :: rest => (magnitude? rest).map fun n => -(n : Int)
  | cs => (magnitude? cs).map Int.ofNat

/-- Whether the scalar is a sign and several digits of which the first is a zero. -/
def isPaddedDigits (cs : List Char) : Bool :=
  let digits := match cs with
    | '+' :: rest | '-' :: rest => rest
    | _ => cs
  1 < digits.length && digits.head? == some '0' && digits.all Char.isDigit

/-- A decimal number without its sign: digits with at most one point among them, then perhaps an
exponent. -/
def decimalMagnitude? (cs : List Char) : Option Binary64 :=
  let whole := cs.takeWhile Char.isDigit
  let rest := cs.dropWhile Char.isDigit
  let (fraction, rest) := match rest with
    | '.' :: rest => (rest.takeWhile Char.isDigit, rest.dropWhile Char.isDigit)
    | _ => ([], rest)
  match digitsInBase? 10 (whole ++ fraction) with
  | none => none
  | some n =>
    let finish (e : Int) : Option Binary64 :=
      let x := Binary64.ofDecimal n (e - fraction.length)
      if x.isFinite then some x else none
    match rest with
    | [] => finish 0
    | 'e' :: rest | 'E' :: rest =>
      match rest with
      | '+' :: rest => (digitsInBase? 10 rest).bind fun e => finish e
      | '-' :: rest => (digitsInBase? 10 rest).bind fun e => finish (-e)
      | rest => (digitsInBase? 10 rest).bind fun e => finish e
    | _ => none

/-- The spellings of decimal numbers, infinities and NaN. -/
def floatSpelling? (s : String) : Option Binary64 :=
  let infinity : Binary64 := ⟨0x7ff0000000000000⟩
  if s ∈ [".inf", ".Inf", ".INF", "+.inf", "+.Inf", "+.INF"] then some infinity
  else if s ∈ ["-.inf", "-.Inf", "-.INF"] then some ⟨0xfff0000000000000⟩
  else if s ∈ [".nan", ".NaN", ".NAN"] then some ⟨0x7ff8000000000000⟩
  else match s.toList with
    | '+' :: '+' :: _ | '+' :: '-' :: _ => none
    | '+' :: rest => decimalMagnitude? rest
    | '-' :: rest => (decimalMagnitude? rest).map Binary64.neg
    | cs => decimalMagnitude? cs

/-- A decimal number or a text. -/
def numberOrText (s : String) : Document :=
  if isPaddedDigits s.toList then string s
  else match floatSpelling? s with
    | some x => float x
    | none => string s

/-- Whether an integer fits into 128 bits, signed or unsigned. -/
def fitsDoubleWord (n : Int) : Bool :=
  -0x80000000000000000000000000000000 ≤ n && n < 0x100000000000000000000000000000000

/-- What an unquoted scalar stands for.  An integer of more than 128 bits is none. -/
def ofPlain (s : String) : Document :=
  if isNullSpelling s then null
  else match truthSpelling? s with
    | some b => boolean b
    | none =>
      match integerSpelling? s.toList with
      | some n => if fitsDoubleWord n then integer n else numberOrText s
      | none => numberOrText s

/-- A document in which an unquoted scalar is taken for what it stands for; collections are left as
they are. -/
def settleScalar : Document → Document
  | plain s => ofPlain s
  | d => d

/-- The number of a place in a declaration: an integer that is written without a minus sign. -/
def index? : Document → Option Nat
  | integer n => if 0 ≤ n then some n.toNat else none
  | plain s =>
    match ofPlain s with
    | integer n => if s.toList.head? = some '-' then none else some n.toNat
    | _ => none
  | _ => none

/-! ## Settling a document -/

/-- Whether an integer fits into 64 bits, signed or unsigned. -/
def fitsWord (n : Int) : Bool := Word.fitsSigned n || Word.fitsUnsigned n

/-- An unquoted scalar as a value; integers of more than 64 bits are refused. -/
def settlePlain (s : String) : Except Mismatch Document :=
  match ofPlain s with
  | integer n =>
    if fitsWord n then .ok (integer n) else .error (.invalidType (.integer n) "any value")
  | d => .ok d

/-- The entries of a map whose keys are all texts. -/
def textEntries? : List (Document × Document) → Option (List (String × Document))
  | [] => some []
  | (string k, d) :: rest => (textEntries? rest).map ((k, d) :: ·)
  | _ => none

mutual

/-- Settles every unquoted scalar; a map whose keys are then all texts becomes an object. -/
def settle : Document → Except Mismatch Document
  | plain s => settlePlain s
  | array items => (settleItems items).map array
  | object entries => (settleEntries entries).map object
  | mapping entries => do
    let settled ← settlePairs entries
    match textEntries? settled with
    | some entries => pure (object entries)
    | none => pure (mapping settled)
  | d => .ok d

/-- `settle` on each item. -/
def settleItems : List Document → Except Mismatch (List Document)
  | [] => .ok []
  | d :: rest => do
    let d ← settle d
    let rest ← settleItems rest
    pure (d :: rest)

/-- `settle` on the value of each entry. -/
def settleEntries : List (String × Document) → Except Mismatch (List (String × Document))
  | [] => .ok []
  | (k, d) :: rest => do
    let d ← settle d
    let rest ← settleEntries rest
    pure ((k, d) :: rest)

/-- `settle` on the key and the value of each entry. -/
def settlePairs : List (Document × Document) → Except Mismatch (List (Document × Document))
  | [] => .ok []
  | (k, d) :: rest => do
    let k ← settle k
    let d ← settle d
    let rest ← settlePairs rest
    pure ((k, d) :: rest)

end

/-! ## Quoted texts -/

/-- The keys of an object were texts. -/
theorem textEntries?_map_string (entries : List (String × Document)) :
    textEntries? (entries.map fun e => (string e.1, e.2)) = some entries := by
  induction entries with
  | nil => rfl
  | cons e rest ih => simp [textEntries?, ih]

end TokenPattern.Document
