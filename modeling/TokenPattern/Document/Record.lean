import TokenPattern.Document.Plain

/-!
# Taking typed values out of a document

The readers of scalars — `Document.text`, `Document.flag`, `Document.int64`, `Document.count`,
`Document.character`, `Document.listOf`, `Document.optional` — say which kind of document they
expect, and accept an unquoted scalar where its spelling allows it.

A record with named fields is read through `Record`.  It may be given as an object, or as an array
with the fields in the order of their declaration.  In a tree that was read as a whole before its
kind was known (`RecordShape.bufferedRecord`), a key may also be the number of a field.

The faults of a record have a fixed order, which `Record.check` establishes: entries are read in the
order in which they stand, and the first bad one is reported; only then is a missing field noticed,
in the order of the declaration; and only after that an array with too many items.
-/

namespace TokenPattern

namespace Document

/-! ## Scalars and lists -/

/-- Any text. -/
def text : Document → Except Mismatch String
  | string s => .ok s
  | plain s => .ok s
  | d => .error (.invalidType (.ofDocument d) "a string")

/-- A truth value. -/
def flag : Document → Except Mismatch Bool
  | boolean b => .ok b
  | plain s =>
    match ofPlain s with
    | boolean b => .ok b
    | d => .error (.invalidType (.ofDocument d) "a boolean")
  | d => .error (.invalidType (.ofDocument d) "a boolean")

/-- An integer that fits into what `expected` names. -/
def fittingInteger (expected : String) (fits : Int → Bool) (d : Document) :
    Except Mismatch Int :=
  let settled := match d with
    | plain s => ofPlain s
    | d => d
  match settled with
  | integer n =>
    if fits n then .ok n else .error (.invalidValue (.integer n) expected)
  | d => .error (.invalidType (.ofDocument d) expected)

/-- A signed integer of 64 bits. -/
def int64 (d : Document) : Except Mismatch Int :=
  fittingInteger "i64" Word.fitsSigned d

/-- An unsigned integer of 64 bits; an unquoted one has no minus sign, not even before a zero. -/
def count (d : Document) : Except Mismatch Nat :=
  match d, d.index? with
  | plain s, none => .error (.invalidType (.ofDocument (ofPlain s)) "usize")
  | d, _ => (fittingInteger "usize" Word.fitsUnsigned d).map Int.toNat

/-- A text of one character. -/
def character : Document → Except Mismatch Char
  | string s | plain s =>
    match s.toList with
    | [c] => .ok c
    | _ => .error (.invalidValue (.string s) "a character")
  | d => .error (.invalidType (.ofDocument d) "a character")

/-- Null, or something that `read` reads. -/
def optional {α : Type} (read : Document → Except Mismatch α) :
    Document → Except Mismatch (Option α)
  | null => .ok none
  | plain s => if isNullSpelling s then .ok none else (read (plain s)).map some
  | d => (read d).map some

/-- A sequence of items that `read` reads; an empty unquoted scalar is an empty sequence. -/
def listOf {α : Type} (read : Document → Except Mismatch α) : Document → Except Mismatch (List α)
  | array items => items.mapM read
  | plain "" => .ok []
  | d => .error (.invalidType (.ofDocument d) "a sequence")

/-- The entries of a map, with keys as texts; an empty unquoted scalar is an empty map. -/
def entries? : Document → Option (List (String × Document))
  | object entries => some entries
  | plain "" => some []
  | _ => none

/-- The entries of a map, whatever its keys are. -/
def pairs? : Document → Option (List (Document × Document))
  | object entries => some (entries.map fun e => (string e.1, e.2))
  | mapping entries => some entries
  | _ => none

/-- A map from texts to what `read` reads, as entries in the order of the document. -/
def mapOf {α : Type} (read : Document → Except Mismatch α) (d : Document) :
    Except Mismatch (List (String × α)) :=
  match d.entries? with
  | some entries => entries.mapM fun e => (read e.2).map (e.1, ·)
  | none => .error (.invalidType (.ofDocument d) "a map")

/-- A name out of a list of names: a text, or a map from the name to null. -/
def variant (names : List String) (d : Document) : Except Mismatch String :=
  let known (name : String) : Except Mismatch String :=
    if name ∈ names then .ok name else .error (.unknownVariant name names)
  match d with
  | string s | plain s => known s
  | object [(name, value)] => do
    let name ← known name
    match value with
    | null => pure name
    | value => .error (.invalidType (.ofDocument value) "unit")
  | object _ => .error (.invalidValue .map "map with a single key")
  | d => .error (.invalidType (.ofDocument d) "string or map")

end Document

/-! ## Records -/

/-- How a record is called in messages, its fields, and how an array with too many items is
described, given the number of items expected. -/
structure RecordShape where
  name : String
  fields : List String
  excess : Nat → String

/-- A record found in a document: its entries, and the faults for a field that is missing and for
items beyond the last field. -/
structure Record where
  entries : List (String × Document)
  missing : Nat → String → Mismatch
  excess : Option Mismatch

/-- A field that was looked up: where its entry stands and what it reads as. -/
structure Field (α : Type) where
  index : Nat
  name : String
  found : Option (Nat × Except Mismatch α)
  repeated : Option Nat

namespace RecordShape

/-- "1 element", "2 elements". -/
def elements (n : Nat) : String := n.repr ++ if n = 1 then " element" else " elements"

/-- A record in a document of its own. -/
def topLevel (name : String) (fields : List String) : RecordShape :=
  ⟨"struct " ++ name, fields, fun _ => "fewer elements in array"⟩

/-- A record inside a tagged pattern. -/
def nested (name : String) (fields : List String) : RecordShape :=
  ⟨name, fields, fun n => elements n ++ " in sequence"⟩

/-- Reads the items of an array as the fields in their order. -/
def ofItems (s : RecordShape) (items : List Document) : Record where
  entries := s.fields.zip items
  missing index _ := .invalidLength index (s.name ++ " with " ++ elements s.fields.length)
  excess :=
    if s.fields.length < items.length then
      some (.invalidLength items.length (s.excess s.fields.length))
    else none

/-- Reads the entries of an object. -/
def ofEntries (entries : List (String × Document)) : Record where
  entries := entries
  missing _ name := .missingField name
  excess := none

/-- The field that a key means: one with a name, or one with a number.  A number behind the last
field means none. -/
def fieldName? (s : RecordShape) (key : Document) : Except Mismatch (Option String) :=
  match key.index?, key.settleScalar with
  | some n, _ => .ok s.fields[n]?
  | none, .string name => .ok (some name)
  | none, d => .error (.invalidType (.ofDocument d) "field identifier")

/-- Reads the entries of a map whose keys are names or numbers of fields. -/
def ofPairs (s : RecordShape) (pairs : List (Document × Document)) : Except Mismatch Record := do
  let named ← pairs.mapM fun e => do pure ((← s.fieldName? e.1), e.2)
  pure (ofEntries (named.filterMap fun e => e.1.map (·, e.2)))

/-- Finds a record in a part of a tree that was read as a whole. -/
def bufferedRecord (s : RecordShape) (d : Document) : Except Mismatch Record :=
  match d with
  | .array items => .ok (s.ofItems items)
  | d =>
    match d.pairs? with
    | some pairs => s.ofPairs pairs
    | none => .error (.invalidType (.ofDocument d.settleScalar) s.name)

/-- Finds a record in a document. -/
def record (s : RecordShape) (d : Document) : Except Mismatch Record :=
  match d with
  | .array items => .ok (s.ofItems items)
  | d =>
    match d.entries? with
    | some entries => .ok (ofEntries entries)
    | none => .error (.invalidType (.ofDocument d) s.name)

end RecordShape

namespace Record

variable {α : Type}

/-- The positions of the entries with a key. -/
def positions (r : Record) (name : String) : List (Nat × Document) :=
  r.entries.zipIdx.filterMap fun e => if e.1.1 == name then some (e.2, e.1.2) else none

/-- Looks a field up, by its place in the declaration and its name, and reads its entry. -/
def field (r : Record) (index : Nat) (name : String) (read : Document → Except Mismatch α) :
    Field α :=
  match r.positions name with
  | [] => ⟨index, name, none, none⟩
  | (i, d) :: rest => ⟨index, name, some (i, read d), rest.head?.map Prod.fst⟩

end Record

namespace Field

variable {α : Type}

/-- The faults of the entries of a field, with their places. -/
def faults (f : Field α) : List (Nat × Mismatch) :=
  let bad := match f.found with
    | some (i, .error m) => [(i, m)]
    | _ => []
  let double := match f.repeated with
    | some i => [(i, .duplicateField f.name)]
    | none => []
  bad ++ double

/-- The value of a field that must be there. -/
def required (f : Field α) (r : Record) : Except Mismatch α :=
  match f.found with
  | some (_, result) => result
  | none => .error (r.missing f.index f.name)

/-- The value of a field that may be left out. -/
def orElse (f : Field α) (default : α) : Except Mismatch α :=
  match f.found with
  | some (_, result) => result
  | none => .ok default

end Field

namespace Record

/-- The fault that stands first. -/
def firstFault : List (Nat × Mismatch) → Option (Nat × Mismatch)
  | [] => none
  | f :: rest =>
    match firstFault rest with
    | some g => if g.1 < f.1 then some g else some f
    | none => some f

/-- Reports the first bad entry. -/
def check (faults : List (List (Nat × Mismatch))) : Except Mismatch Unit :=
  match firstFault faults.flatten with
  | some f => .error f.2
  | none => .ok ()

/-- Reports items beyond the last field. -/
def finish (r : Record) : Except Mismatch Unit :=
  match r.excess with
  | some m => .error m
  | none => .ok ()

/-- The fault that is reported is one of the faults, and none stands before it. -/
theorem firstFault_eq_some {faults : List (Nat × Mismatch)} {f : Nat × Mismatch}
    (h : firstFault faults = some f) : f ∈ faults ∧ ∀ g ∈ faults, f.1 ≤ g.1 := by
  induction faults generalizing f with
  | nil => simp [firstFault] at h
  | cons a rest ih =>
    simp only [firstFault] at h
    split at h
    · rename_i g hg
      obtain ⟨hmem, hle⟩ := ih hg
      split at h
      · rename_i hlt
        obtain rfl := Option.some.inj h
        refine ⟨List.mem_cons_of_mem _ hmem, fun x hx => ?_⟩
        rcases List.mem_cons.1 hx with rfl | hx
        · exact Nat.le_of_lt hlt
        · exact hle x hx
      · rename_i hge
        obtain rfl := Option.some.inj h
        refine ⟨List.mem_cons_self, fun x hx => ?_⟩
        rcases List.mem_cons.1 hx with rfl | hx
        · exact Nat.le_refl _
        · exact Nat.le_trans (Nat.le_of_not_lt hge) (hle x hx)
    · rename_i hnone
      obtain rfl := Option.some.inj h
      cases rest with
      | nil => simp
      | cons b rest =>
        simp only [firstFault] at hnone
        split at hnone
        · split at hnone <;> simp at hnone
        · simp at hnone

end Record

end TokenPattern
