import TokenPattern.Document.Mismatch
import TokenPattern.Text.Diagnostic

/-!
# What can go wrong

`PatternError` lists the reasons why a pattern cannot be built, `ConfigFault` those among them that
lie in the content of a configuration, and `MatchError` the reasons why a run gives no answer.  Each
has one `message`.

`maxFrontier`, `maxPatternDepth` and `maxRepeatBound` are the bounds that some of them report.
-/

namespace TokenPattern

/-! ## Bounds -/

/-- The largest frontier of a run, unless its limits say otherwise. -/
def maxFrontier : Nat := 65536

/-- The deepest nesting of a configured pattern. -/
def maxPatternDepth : Nat := 64

/-- The largest bound of a configured repetition. -/
def maxRepeatBound : Nat := 1024

/-! ## Building patterns -/

/-- Faults in the content of a configuration. -/
inductive ConfigFault where
  /-- The document does not have the expected shape. -/
  | mismatch (cause : Mismatch)
  /-- A sequence or a choice of nothing. -/
  | noItems (operator : String)
  /-- A literal where no literal can be read. -/
  | noLiteralParser
  /-- A literal without tokens. -/
  | emptyLiteral
  /-- A literal over characters that is not a text. -/
  | characterLiteral (found : String)
  /-- A literal over words that is neither a text nor a list of texts. -/
  | wordLiteral (found : String)
  /-- A set of accepted values without values. -/
  | noValues
  /-- A set of ranges without ranges. -/
  | noRanges
  /-- A range that ends before it starts. -/
  | reversedRange (first last : Char)
  /-- A text in the place of a character. -/
  | notOneCharacter (text : String)
  /-- No class of characters has this name. -/
  | unknownClass (name : String)
  /-- A fault that a matcher type of its own reports. -/
  | other (text : String)
deriving DecidableEq

/-- The wording of a fault. -/
def ConfigFault.message : ConfigFault → String
  | mismatch cause => cause.message
  | noItems operator => operator ++ " needs at least one item"
  | noLiteralParser => "no literal parser is registered for this token type"
  | emptyLiteral => "literal must not be empty"
  | characterLiteral found => "char literal must be a string, got " ++ found
  | wordLiteral found => "word literal must be a string or an array of strings, got " ++ found
  | noValues => "values must not be empty"
  | noRanges => "ranges must not be empty"
  | reversedRange first last =>
    "range start " ++ diagnostic first ++ " is after its end " ++ diagnostic last
  | notOneCharacter text => "expected a single character, got \"" ++ text ++ "\""
  | unknownClass name => "unknown character class \"" ++ name ++ "\""
  | other text => text

/-- Why a pattern cannot be built. -/
inductive PatternError where
  /-- A group name that is not an identifier. -/
  | invalidCaptureName (name : String)
  /-- Bounds that admit no number of repetitions, or only none. -/
  | invalidRepeatBound (min : Int) (max : Option Int)
  /-- A configuration with a faulty content. -/
  | invalidConfig (fault : ConfigFault)
  /-- A regular expression over the characters of a token that cannot be read. -/
  | invalidRegex (pattern reason : String)
  /-- A matcher type that is not registered, with those that are. -/
  | unknownTypeUrl (url : String) (available : List String)
  /-- A configuration nested too deeply. -/
  | depthExceeded (depth max : Nat)
  /-- A repetition bound that is too large. -/
  | repeatTooLarge (bound max : Nat)
deriving DecidableEq

/-- The wording of an error. -/
def PatternError.message : PatternError → String
  | invalidCaptureName name =>
    "invalid capture name \"" ++ name ++
      "\": expected a letter or '_' followed by letters, digits or '_'"
  | invalidRepeatBound min max =>
    "invalid repetition bounds \x7b" ++ diagnostic min ++
      (match max with
        | some max => ", " ++ diagnostic max
        | none => ",") ++ "\x7d"
  | invalidConfig fault => "invalid config: " ++ fault.message
  | invalidRegex pattern reason => "invalid regex \"" ++ pattern ++ "\": " ++ reason
  | unknownTypeUrl url available =>
    "unknown matcher type URL \"" ++ url ++ "\"; " ++
      (if available.isEmpty then "no matcher types are registered"
        else "registered: " ++ ", ".intercalate available)
  | depthExceeded depth max =>
    "pattern nesting depth is " ++ diagnostic depth ++ ", but maximum allowed is " ++
      diagnostic max
  | repeatTooLarge bound max =>
    "repetition bound is " ++ diagnostic bound ++ ", but maximum allowed is " ++ diagnostic max

/-! ## Running patterns -/

/-- Why a run gives no answer. -/
inductive MatchError where
  /-- More explorers are alive than the limits allow. -/
  | frontierExceeded (size max position : Nat)
  /-- A group is closed that is not the innermost open one. -/
  | malformedGraph (expected : Option String) (found : String) (position : Nat)
deriving DecidableEq

namespace MatchError

/-- The wording of an error. -/
def message : MatchError → String
  | frontierExceeded size max position =>
    "frontier reached " ++ diagnostic size ++ " explorers at token " ++ diagnostic position ++
      ", but maximum allowed is " ++ diagnostic max ++
      "; the pattern is too ambiguous for this input"
  | malformedGraph expected found position =>
    "malformed graph: trail item " ++ diagnostic position ++ " closes \"" ++ found ++ "\" " ++
      (match expected with
        | some name => "while \"" ++ name ++ "\" is the innermost open group"
        | none => "but no group is open")

instance : Diagnostic MatchError :=
  ⟨fun e => match e with
    | frontierExceeded size max position =>
      Diagnostic.record "FrontierExceeded"
        [("size", diagnostic size), ("max", diagnostic max), ("position", diagnostic position)]
    | malformedGraph expected found position =>
      Diagnostic.record "MalformedGraph"
        [("expected", diagnostic expected), ("found", diagnostic found),
          ("position", diagnostic position)]⟩

end MatchError

/-! ## Steps that may fail -/

section

variable {ε α β : Type} {x : Except ε α} {b : β}

/-- If a second step gives a result, it goes on from one of the first. -/
theorem bind_eq_ok {f : α → Except ε β} (h : x.bind f = .ok b) : ∃ a, x = .ok a ∧ f a = .ok b := by
  cases x with
  | error y => cases h
  | ok a => exact ⟨a, rfl, h⟩

/-- A changed result comes from a result. -/
theorem map_eq_ok {f : α → β} (h : x.map f = .ok b) : ∃ a, x = .ok a ∧ f a = b := by
  cases x with
  | error y => cases h
  | ok a => exact ⟨a, rfl, Except.ok.inj h⟩

end

end TokenPattern
