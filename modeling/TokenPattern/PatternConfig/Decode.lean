import TokenPattern.Document.Record
import TokenPattern.PatternConfig

/-!
# Reading configured patterns from documents

A pattern is an object whose entry `type` names the kind of pattern and whose other entries are the
fields of that kind.  It may also be an array: the kind first, then the fields in order.  The kind
is read before anything else, wherever it stands.

The tree is read as a whole before the kind is known, so that every unquoted scalar in it must stand
for some value (`Document.settle`).  The kind of the outermost pattern is taken from the file
itself, where it is a name; the kind of a pattern inside is taken from the tree, where it may also
be given by its number, as may the fields of all patterns.
-/

namespace TokenPattern

namespace Document

mutual

/-- A settled document as plain data: objects sorted, and a float that is no number replaced by
null.  A map with keys other than texts is refused. -/
def asData : Document → Except Mismatch Document
  | float x => .ok (if x.isFinite then float x else null)
  | array items => (itemsData items).map array
  | object entries => (entriesData entries).map fun entries => object (sortEntries entries)
  | mapping _ => .error (.invalidType .map "a string key")
  | d => .ok d

/-- `asData` on each item. -/
def itemsData : List Document → Except Mismatch (List Document)
  | [] => .ok []
  | d :: rest => do
    let d ← asData d
    let rest ← itemsData rest
    pure (d :: rest)

/-- `asData` on the value of each entry. -/
def entriesData : List (String × Document) → Except Mismatch (List (String × Document))
  | [] => .ok []
  | (k, d) :: rest => do
    let d ← asData d
    let rest ← entriesData rest
    pure ((k, d) :: rest)

end

end Document

/-! ## Matcher references -/

/-- The fields of a matcher reference. -/
def MatcherRef.shape : RecordShape :=
  .nested "struct TypedConfig" ["type_url", "config"]

/-- Reads a part of a tree as a value. -/
def Document.settled {α : Type} (read : Document → Except Mismatch α) (d : Document) :
    Except Mismatch α := do
  read (← d.settle)

/-- Reads a matcher reference; an absent content is an empty object. -/
def MatcherRef.ofDocument (d : Document) : Except Mismatch MatcherRef := do
  let r ← MatcherRef.shape.bufferedRecord d
  let typeUrl := r.field 0 "type_url" (Document.settled Document.text)
  let config := r.field 1 "config" (Document.settled Document.asData)
  Record.check [typeUrl.faults, config.faults]
  let typeUrl ← typeUrl.required r
  let config ← config.orElse (.object [])
  r.finish
  pure ⟨typeUrl, config⟩

namespace PatternConfig

/-! ## Kinds -/

/-- The kinds of patterns. -/
inductive Kind where
  | leaf
  | literal
  | any
  | concat
  | alt
  | maybe
  | repetition
  | capture
deriving DecidableEq

namespace Kind

/-- The names of the kinds. -/
def names : List (String × Kind) :=
  [("leaf", leaf), ("literal", literal), ("any", any), ("concat", concat), ("alt", alt),
    ("maybe", maybe), ("repeat", repetition), ("capture", capture)]

/-- The kind with a name. -/
def ofName (name : String) : Except Mismatch Kind :=
  match names.lookup name with
  | some k => .ok k
  | none => .error (.unknownVariant name (names.map Prod.fst))

/-- Reads the kind of the outermost pattern. -/
def ofOutermost : Document → Except Mismatch Kind
  | .string s | .plain s => ofName s
  | d => .error (.invalidType (.ofDocument d) "variant identifier")

/-- Reads the kind of a pattern inside, which may be given by its number. -/
def ofInner (d : Document) : Except Mismatch Kind :=
  match d.index?, d.settleScalar with
  | some n, _ =>
    match names[n]? with
    | some e => .ok e.2
    | none =>
      .error (.invalidValue (.integer n) ("variant index 0 <= i < " ++ names.length.repr))
  | none, .string s => ofName s
  | none, d => .error (.invalidType (.ofDocument d) "variant identifier")

/-- The name of a kind in messages. -/
def label : Kind → String
  | leaf => "Leaf"
  | literal => "Literal"
  | any => "Any"
  | concat => "Concat"
  | alt => "Alt"
  | maybe => "Maybe"
  | repetition => "Repeat"
  | capture => "Capture"

/-- The fields of a kind. -/
def fields : Kind → List String
  | leaf => ["matcher", "negate"]
  | literal => ["value"]
  | any => []
  | concat | alt => ["items"]
  | maybe => ["pattern"]
  | repetition => ["pattern", "min", "max"]
  | capture => ["name", "pattern"]

/-- The record of a kind. -/
def shape (k : Kind) : RecordShape :=
  .nested ("struct variant PatternConfig::" ++ k.label) k.fields

end Kind

/-- Whether a key is that of the kind. -/
def isTag : Document → Bool
  | .string s | .plain s => s == "type"
  | _ => false

/-- The record of the fields of a kind; a kind without fields takes any entries. -/
def fieldsOf (k : Kind) (pairs : List (Document × Document)) : Except Mismatch Record :=
  if k = .any then .ok (RecordShape.ofEntries []) else k.shape.ofPairs pairs

/-- Finds the kind of a pattern and the record of its fields. -/
def kindAndFields (readKind : Document → Except Mismatch Kind) (d : Document) :
    Except Mismatch (Kind × Record) :=
  match d with
  | .array [] => .error (.missingField "type")
  | .array (first :: rest) => do
    let k ← readKind first
    pure (k, k.shape.ofItems rest)
  | d =>
    match d.pairs? with
    | some pairs =>
      match pairs.filter fun e => isTag e.1 with
      | [] => .error (.missingField "type")
      | [e] => do
        let k ← readKind e.2
        pure (k, ← fieldsOf k (pairs.filter fun e => !isTag e.1))
      | e :: _ => do
        let _ ← readKind e.2
        .error (.duplicateField "type")
    | none =>
      .error (.invalidType (.ofDocument d.settleScalar) "internally tagged enum PatternConfig")

/-! ## Patterns -/

/-- Reads the patterns in a list, given a reader for each. -/
def listOf (inner : Document → Except Mismatch PatternConfig) :
    Document → Except Mismatch (List PatternConfig)
  | .array items => items.mapM inner
  | d => .error (.invalidType (.ofDocument d.settleScalar) "a sequence")

/-- Reads the fields of a kind, given a reader for the patterns inside. -/
def ofFields (inner : Document → Except Mismatch PatternConfig) (k : Kind) (r : Record) :
    Except Mismatch PatternConfig :=
  match k with
  | .leaf => do
    let matcher := r.field 0 "matcher" MatcherRef.ofDocument
    let negate := r.field 1 "negate" (Document.settled Document.flag)
    Record.check [matcher.faults, negate.faults]
    pure (leaf (← matcher.required r) (← negate.orElse false))
  | .literal => do
    let value := r.field 0 "value" (Document.settled Document.asData)
    Record.check [value.faults]
    pure (literal (← value.required r))
  | .any => pure any
  | .concat => do
    let items := r.field 0 "items" (listOf inner)
    Record.check [items.faults]
    pure (concat (← items.required r))
  | .alt => do
    let items := r.field 0 "items" (listOf inner)
    Record.check [items.faults]
    pure (alt (← items.required r))
  | .maybe => do
    let pattern := r.field 0 "pattern" inner
    Record.check [pattern.faults]
    pure (maybe (← pattern.required r))
  | .repetition => do
    let pattern := r.field 0 "pattern" inner
    let min := r.field 1 "min" (Document.settled (Document.optional Document.int64))
    let max := r.field 2 "max" (Document.settled (Document.optional Document.int64))
    Record.check [pattern.faults, min.faults, max.faults]
    pure (repetition (← pattern.required r) (← min.orElse none) (← max.orElse none))
  | .capture => do
    let name := r.field 0 "name" (Document.settled Document.text)
    let pattern := r.field 1 "pattern" inner
    Record.check [name.faults, pattern.faults]
    pure (capture (← name.required r) (← pattern.required r))

/-- Reads a pattern, given how its kind is read; fewer collections are nested in it than a bound. -/
def ofTree : Nat → (Document → Except Mismatch Kind) → Document → Except Mismatch PatternConfig
  | 0, _, d => .error (.invalidType (.ofDocument d) "internally tagged enum PatternConfig")
  | n + 1, readKind, d => do
    let (k, r) ← kindAndFields readKind d
    let c ← ofFields (ofTree n Kind.ofInner) k r
    r.finish
    pure c

/-- Reads a pattern from a document. -/
def ofDocument (d : Document) : Except Mismatch PatternConfig := do
  let _ ← d.settle
  ofTree (d.nesting + 1) Kind.ofOutermost d

/-- Every kind is found by its name. -/
theorem Kind.ofName_name {e : String × Kind} (h : e ∈ Kind.names) :
    Kind.ofName e.1 = .ok e.2 := by
  simp only [names, List.mem_cons, List.not_mem_nil, or_false] at h
  rcases h with rfl | rfl | rfl | rfl | rfl | rfl | rfl | rfl <;> rfl

end PatternConfig

end TokenPattern
