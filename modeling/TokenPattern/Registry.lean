import TokenPattern.Expr
import TokenPattern.Matcher
import TokenPattern.PatternConfig

/-!
# Registries of matcher types

A `Registry` knows matcher types by URL and perhaps how to read a literal.  It turns a configured
pattern into an expression (`Registry.load`).

**Order of errors.**  A pattern that is nested too deeply is refused before anything else is looked
at.  The items of a list are loaded from left to right, and a list must not be empty.  The bounds of
a repetition are checked before the pattern inside, the name of a group after it.

**Bounds.**  A repetition without bounds is unbounded; with a lower bound only it is `Expr.atLeast`,
and with an upper bound `Expr.between`.
-/

namespace TokenPattern

/-- Makes a matcher out of the content of a configuration. -/
abbrev MatcherFactory (τ ο : Type) := Document → Except PatternError (Matcher τ ο)

/-- Reads a literal. -/
abbrev LiteralReader (τ ο : Type) := Document → Except PatternError (Expr (Matcher τ ο))

/-- The matcher types that a pattern may refer to. -/
structure Registry (τ ο : Type) where
  /-- What a token yields where a pattern accepts it as it is. -/
  emit : τ → ο
  /-- The matcher types, sorted by URL. -/
  factories : List (String × MatcherFactory τ ο)
  /-- How a literal is read, if the tokens have literals. -/
  literals : Option (LiteralReader τ ο)

namespace Registry

variable {τ ο : Type}

/-! ## Building a registry -/

/-- Nothing is known. -/
def empty (emit : τ → ο) : Registry τ ο := ⟨emit, [], none⟩

/-- Puts a factory into a list that is sorted by URL, in place of one with the same URL. -/
def insertFactory (url : String) (factory : MatcherFactory τ ο) :
    List (String × MatcherFactory τ ο) → List (String × MatcherFactory τ ο)
  | [] => [(url, factory)]
  | (u, f) :: rest =>
    if url < u then (url, factory) :: (u, f) :: rest
    else if url = u then (url, factory) :: rest
    else (u, f) :: insertFactory url factory rest

/-- Makes a matcher type known, in place of an earlier one with the same URL. -/
def register (r : Registry τ ο) (url : String) (factory : MatcherFactory τ ο) : Registry τ ο :=
  { r with factories := insertFactory url factory r.factories }

/-- Says how literals are read. -/
def withLiterals (r : Registry τ ο) (read : LiteralReader τ ο) : Registry τ ο :=
  { r with literals := some read }

/-! ## Looking at a registry -/

/-- The URLs of the matcher types, sorted. -/
def typeUrls (r : Registry τ ο) : List String := r.factories.map Prod.fst

/-- The matcher type with a URL. -/
def factory? (r : Registry τ ο) (url : String) : Option (MatcherFactory τ ο) :=
  r.factories.lookup url

/-- Whether a matcher type is known. -/
def contains (r : Registry τ ο) (url : String) : Bool := (r.factory? url).isSome

/-- The number of matcher types. -/
def size (r : Registry τ ο) : Nat := r.factories.length

instance : Diagnostic (Registry τ ο) :=
  ⟨fun r => Diagnostic.record "Registry"
    [("type_urls", diagnostic r.typeUrls), ("literals", diagnostic r.literals.isSome)]⟩

/-! ## Loading a pattern -/

/-- Makes the matcher that a reference names. -/
def loadMatcher (r : Registry τ ο) (ref : MatcherRef) : Except PatternError (Matcher τ ο) :=
  match r.factory? ref.typeUrl with
  | some factory => factory ref.config
  | none => .error (.unknownTypeUrl ref.typeUrl r.typeUrls)

/-- A bound of a repetition as a count, given the error for a negative one. -/
def checkBound (invalid : PatternError) (bound : Int) : Except PatternError Nat :=
  if bound < 0 then .error invalid
  else if maxRepeatBound < bound.toNat then .error (.repeatTooLarge bound.toNat maxRepeatBound)
  else .ok bound.toNat

/-- The bounds of a repetition as counts, the lower one first. -/
def checkBounds (min max : Option Int) : Except PatternError (Nat × Option Nat) := do
  let invalid := PatternError.invalidRepeatBound (min.getD 0) max
  let lo ← match min with
    | some min => checkBound invalid min
    | none => pure 0
  match max with
  | some max => do
    let hi ← checkBound invalid max
    pure (lo, some hi)
  | none => pure (lo, none)

/-- Repeats an expression within checked bounds. -/
def repeated (e : Expr (Matcher τ ο)) : Nat × Option Nat → Except PatternError (Expr (Matcher τ ο))
  | (0, none) => .ok (.star e)
  | (lo, none) => .ok (e.atLeast lo)
  | (lo, some hi) => e.between lo hi

/-- Combines the items of a list to the left; there must be some. -/
def foldItems (operator : String)
    (combine : Expr (Matcher τ ο) → Expr (Matcher τ ο) → Expr (Matcher τ ο)) :
    List (Expr (Matcher τ ο)) → Except PatternError (Expr (Matcher τ ο))
  | [] => .error (.invalidConfig (.noItems operator))
  | first :: rest => .ok (rest.foldl combine first)

/-- A token as it is. -/
def anyToken (r : Registry τ ο) : Matcher τ ο where
  outputs t := [r.emit t]
  text := "AnyToken"

mutual

/-- Loads a pattern that stands at a depth, counted from one. -/
def loadAt (r : Registry τ ο) (depth : Nat) (c : PatternConfig) :
    Except PatternError (Expr (Matcher τ ο)) :=
  if maxPatternDepth < depth then .error (.depthExceeded depth maxPatternDepth)
  else
    match c with
    | .leaf ref negate =>
      (r.loadMatcher ref).map fun m => .leaf (if negate then Matcher.not r.emit m else m)
    | .literal value =>
      match r.literals with
      | some read => read value
      | none => .error (.invalidConfig .noLiteralParser)
    | .any => .ok (.leaf r.anyToken)
    | .concat items => do
      let loaded ← loadItems r (depth + 1) items
      foldItems "concat" .concat loaded
    | .alt items => do
      let loaded ← loadItems r (depth + 1) items
      foldItems "alt" .alt loaded
    | .maybe pattern => (loadAt r (depth + 1) pattern).map .maybe
    | .repetition pattern min max => do
      let bounds ← checkBounds min max
      let e ← loadAt r (depth + 1) pattern
      repeated e bounds
    | .capture name pattern => do
      let e ← loadAt r (depth + 1) pattern
      e.captured name

/-- Loads items from left to right. -/
def loadItems (r : Registry τ ο) (depth : Nat) :
    List PatternConfig → Except PatternError (List (Expr (Matcher τ ο)))
  | [] => .ok []
  | item :: rest => do
    let e ← loadAt r depth item
    let others ← loadItems r depth rest
    pure (e :: others)

end

/-- Loads a pattern. -/
def load (r : Registry τ ο) (c : PatternConfig) : Except PatternError (Expr (Matcher τ ο)) :=
  loadAt r 1 c

/-! ## Known matcher types -/

/-- The type that was registered last is the one that is found. -/
theorem lookup_insertFactory (url : String) (factory : MatcherFactory τ ο)
    (factories : List (String × MatcherFactory τ ο)) :
    (insertFactory url factory factories).lookup url = some factory := by
  induction factories with
  | nil => simp [insertFactory]
  | cons e rest ih =>
    obtain ⟨u, f⟩ := e
    simp only [insertFactory]
    split
    · simp
    · split
      · simp
      · rename_i hne
        rw [List.lookup_cons, show (url == u) = false from beq_false_of_ne hne]
        exact ih

end Registry

end TokenPattern
