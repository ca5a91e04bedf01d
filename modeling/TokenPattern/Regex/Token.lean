import TokenPattern.Regex.Bracket

/-!
# The elements of a regular expression

The engine that stands in for a library (`Regex.Engine`) reads a regular expression in two steps.
`scan` divides its text into elements, which already carry the meaning that the flags in force give
them; `Regex.ofTokens` (in `TokenPattern.Regex.Tree`) builds the expression.  Only the first step
deals with flags, blanks and escapes, and only the second with precedence.

A group that is opened remembers the flags around it, so that they are in force again behind it.
-/

namespace TokenPattern.Regex

open Unicode (isWhiteSpace isAlphabetic isAlphanumeric)

/-- One element. -/
inductive Token where
  /-- An expression for a single step, with its depth. -/
  | step (r : Regex) (depth : Nat)
  /-- A change of flags, which cannot be repeated. -/
  | flags
  /-- The start of a group, which may be one to remember. -/
  | opening (captures : Bool)
  | closing
  | bar
  | repetition (min : Nat) (max : Option Nat) (isLazy : Bool)

/-- What is known behind some elements: the flags in force, those around each open group, and the
names of groups. -/
structure Scanner where
  flags : Flags
  outer : List Flags
  names : List String

namespace Scanner

/-- The state before the first element. -/
def initial : Scanner := ⟨.initial, [], []⟩

/-- Opens a group with flags of its own. -/
def openGroup (s : Scanner) (flags : Flags) : Scanner :=
  { s with flags := flags, outer := s.flags :: s.outer }

/-- Closes the innermost group. -/
def closeGroup (s : Scanner) : Except Fault Scanner :=
  match s.outer with
  | [] => .error .unopenedGroup
  | flags :: outer => .ok { s with flags := flags, outer := outer }

end Scanner

/-! ## Groups -/

/-- Whether a character can stand in the name of a group, at its front or behind. -/
def isGroupNameChar (first : Bool) (c : Char) : Bool :=
  c == '_' ||
    if first then isAlphabetic .seventeenth c
    else c == '.' || c == '[' || c == ']' || isAlphanumeric .seventeenth c

/-- Reads the name of a group up to its closing angle bracket. -/
def readGroupName (read : List Char) : List Char → Except Fault (String × List Char)
  | [] => .error .unexpectedEnd
  | '>' :: rest =>
    if read.isEmpty then .error .invalidGroupName else .ok (String.ofList read.reverse, rest)
  | c :: rest =>
    if isGroupNameChar read.isEmpty c then readGroupName (c :: read) rest
    else .error .invalidGroupName

/-- Reads what follows the question mark behind an opening parenthesis, unless it is a name: changes
of flags, for a group or for what follows. -/
def readFlagGroup (s : Scanner) (cs : List Char) : Except Fault (Token × Scanner × List Char) := do
  let (changes, last, rest) ← readFlags [] false false cs
  let flags := s.flags.switchAll changes
  if last = ':' then pure (.opening false, s.openGroup flags, rest)
  else if changes.isEmpty then .error .nothingToRepeat
  else pure (.flags, { s with flags := flags }, rest)

/-- Reads a named group behind its opening angle bracket. -/
def readNamedGroup (s : Scanner) (cs : List Char) : Except Fault (Token × Scanner × List Char) := do
  let (name, rest) ← readGroupName [] cs
  if s.names.contains name then .error (.repeatedGroupName name)
  else pure (.opening true, { s.openGroup s.flags with names := name :: s.names }, rest)

/-- Reads what follows an opening parenthesis. -/
def readGroup (s : Scanner) (cs : List Char) : Except Fault (Token × Scanner × List Char) :=
  match s.flags.skip cs with
  | '?' :: '=' :: _ | '?' :: '!' :: _ | '?' :: '<' :: '=' :: _ | '?' :: '<' :: '!' :: _ =>
    .error .lookAround
  | '?' :: 'P' :: '<' :: rest | '?' :: '<' :: rest => readNamedGroup s rest
  | '?' :: rest => readFlagGroup s rest
  | rest => .ok (.opening true, s.openGroup s.flags, rest)

/-! ## Repetitions -/

/-- A repetition, given what follows it: a question mark turns its preference round. -/
def readPreference (f : Flags) (min : Nat) (max : Option Nat) : List Char → Token × List Char
  | '?' :: rest => (.repetition min max !f.swapPreference, rest)
  | rest => (.repetition min max f.swapPreference, rest)

/-- Reads a count, with blanks around it. -/
def readCount (f : Flags) (cs : List Char) : Except Fault (Nat × List Char) :=
  let (digits, rest) := f.takeWhile Char.isDigit (cs.dropWhile isWhiteSpace)
  let (_, rest) := f.takeWhile isWhiteSpace rest
  let n := digits.foldl (fun n d => 10 * n + (d.toNat - '0'.toNat)) 0
  if digits.isEmpty || 0x100000000 ≤ n then .error .invalidCount else .ok (n, rest)

/-- Reads the end of counts between braces. -/
def readCountsEnd (f : Flags) (min : Nat) (max : Option Nat) :
    List Char → Except Fault (Token × List Char)
  | '\x7d' :: rest =>
    if max.any (· < min) then .error .reversedCount
    else .ok (readPreference f min max (f.skip rest))
  | _ => .error .invalidCount

/-- Reads counts behind an opening brace. -/
def readCounts (f : Flags) (cs : List Char) : Except Fault (Token × List Char) := do
  let (min, rest) ← readCount f (f.skip cs)
  match rest with
  | ',' :: rest =>
    match f.skip rest with
    | '\x7d' :: rest => readCountsEnd f min none ('\x7d' :: rest)
    | rest => do
      let (max, rest) ← readCount f rest
      readCountsEnd f min (some max) rest
  | rest => readCountsEnd f min (some min) rest

/-! ## Single steps -/

/-- What the point accepts. -/
def Flags.point (f : Flags) : Except Fault CharSet :=
  if !f.unicode then .error .needsUnicode
  else if f.pointAcceptsAll then .ok .any
  else if f.carriageReturn then .ok (CharSet.ofList ['\n', '\x0d']).compl
  else .ok (CharSet.single '\n').compl

/-- An assertion as an expression. -/
def Flags.assertion (f : Flags) (a : Assertion) : Regex := .assert a f.unicode

/-- The assertion of a circumflex. -/
def Flags.startAssertion (f : Flags) : Assertion :=
  if f.multiLine then if f.carriageReturn then .anyLineStart else .lineStart else .textStart

/-- The assertion of a dollar sign. -/
def Flags.endAssertion (f : Flags) : Assertion :=
  if f.multiLine then if f.carriageReturn then .anyLineEnd else .lineEnd else .textEnd

/-- An escape as an expression. -/
def Primitive.asStep (f : Flags) : Primitive → Except Fault Regex
  | literal c isByte => (f.literalSet c isByte).map .one
  | set s => .ok (.one s)
  | assertion a => .ok (f.assertion a)

/-- Reads an element for a single step. -/
def readStep (f : Flags) (c : Char) (rest : List Char) : Except Fault (Token × List Char) :=
  match c with
  | '[' => do
    let (set, rest) ← readBracket f rest
    pure (.step (.one set.set) set.depth, rest)
  | '\\' => do
    let (primitive, rest) ← readEscape f rest
    let r ← primitive.asStep f
    pure (.step r 0, rest)
  | '.' => f.point.map fun set => (.step (.one set) 0, rest)
  | '^' => .ok (.step (f.assertion f.startAssertion) 0, rest)
  | '$' => .ok (.step (f.assertion f.endAssertion) 0, rest)
  | c => (f.literalSet c false).map fun set => (.step (.one set) 0, rest)

/-! ## All elements -/

/-- Reads the element that starts with a character. -/
def readToken (s : Scanner) (c : Char) (rest : List Char) :
    Except Fault (Token × Scanner × List Char) :=
  let unchanged (result : Token × List Char) : Token × Scanner × List Char :=
    (result.1, s, result.2)
  match c with
  | '(' => readGroup s rest
  | ')' => s.closeGroup.map fun s => (.closing, s, rest)
  | '|' => .ok (.bar, s, rest)
  | '?' => .ok (unchanged (readPreference s.flags 0 (some 1) rest))
  | '*' => .ok (unchanged (readPreference s.flags 0 none rest))
  | '+' => .ok (unchanged (readPreference s.flags 1 none rest))
  | '\x7b' => (readCounts s.flags rest).map unchanged
  | c => (readStep s.flags c rest).map unchanged

/-- Divides a text into elements, at most `fuel` of them. -/
def scanFrom : Nat → Scanner → List Char → Except Fault (List Token)
  | 0, _, _ => .error .unexpectedEnd
  | fuel + 1, s, cs =>
    match s.flags.skip cs with
    | [] => .ok []
    | c :: rest => do
      let (token, s, rest) ← readToken s c rest
      let tokens ← scanFrom fuel s rest
      pure (token :: tokens)

/-- Divides a text into elements. -/
def scan (text : String) : Except Fault (List Token) :=
  scanFrom (text.length + 1) .initial text.toList

end TokenPattern.Regex
