import TokenPattern.Decimal.Shortest

/-!
# Documents

A pattern can live in a data file.  `Document` is the tree that such a file holds, whatever its
notation: integers and other numbers are kept apart, and the entries of an object stay in the order
of the file, repeated keys included.

Two constructors stand for what a notation with unquoted text leaves open until a reader says what
it expects: `plain` is an unquoted scalar, and `mapping` has keys that may be unquoted or need not
be texts at all.  `Document.Plain` reads such scalars; the other constructors are *settled*.

`canonical` is the form in which objects are sets of entries: sorted by key, the last of several
equal keys kept.
-/

namespace TokenPattern

/-- A tree of data. -/
inductive Document where
  | null
  | boolean (value : Bool)
  | integer (value : Int)
  | float (value : Binary64)
  | string (text : String)
  | array (items : List Document)
  | object (entries : List (String × Document))
  | plain (text : String)
  | mapping (entries : List (Document × Document))
deriving Inhabited

namespace Document

/-! ## Entries of objects -/

/-- Puts an entry into a list that is sorted by key, in place of one with the same key. -/
def insertEntry (key : String) (value : Document) :
    List (String × Document) → List (String × Document)
  | [] => [(key, value)]
  | (k, v) :: rest =>
    if key < k then (key, value) :: (k, v) :: rest
    else if key = k then (key, value) :: rest
    else (k, v) :: insertEntry key value rest

/-- The entries sorted by key, the last of several equal keys kept. -/
def sortEntries (entries : List (String × Document)) : List (String × Document) :=
  entries.foldl (fun sorted e => insertEntry e.1 e.2 sorted) []

mutual

/-- The form in which all objects inside are sorted and have each key once. -/
def canonical : Document → Document
  | array items => array (canonicalItems items)
  | object entries => object (sortEntries (canonicalEntries entries))
  | d => d

/-- `canonical` on each item. -/
def canonicalItems : List Document → List Document
  | [] => []
  | d :: rest => canonical d :: canonicalItems rest

/-- `canonical` on the value of each entry. -/
def canonicalEntries : List (String × Document) → List (String × Document)
  | [] => []
  | (k, d) :: rest => (k, canonical d) :: canonicalEntries rest

end

/-- The value of the first entry with a key. -/
def get? (entries : List (String × Document)) (key : String) : Option Document :=
  (entries.find? fun e => e.1 == key).map Prod.snd

/-! ## Nesting -/

mutual

/-- How many collections are nested at the deepest place. -/
def nesting : Document → Nat
  | array items => 1 + itemsNesting items
  | object entries => 1 + entriesNesting entries
  | mapping entries => 1 + pairsNesting entries
  | _ => 0

/-- The nesting at the deepest item. -/
def itemsNesting : List Document → Nat
  | [] => 0
  | d :: rest => max (nesting d) (itemsNesting rest)

/-- The nesting at the deepest value. -/
def entriesNesting : List (String × Document) → Nat
  | [] => 0
  | (_, d) :: rest => max (nesting d) (entriesNesting rest)

/-- The nesting at the deepest key or value. -/
def pairsNesting : List (Document × Document) → Nat
  | [] => 0
  | (k, d) :: rest => max (max (nesting k) (nesting d)) (pairsNesting rest)

end

/-! ## Sorted entries -/

/-- Inserting an entry makes its key present and adds no other. -/
theorem mem_keys_insertEntry {key : String} {value : Document}
    {entries : List (String × Document)} {k : String} :
    k ∈ (insertEntry key value entries).map Prod.fst ↔ k = key ∨ k ∈ entries.map Prod.fst := by
  induction entries with
  | nil => simp [insertEntry]
  | cons e rest ih =>
    obtain ⟨k', v'⟩ := e
    simp only [insertEntry]
    split
    · simp
    · split
      · rename_i h
        subst h
        simp
      · simp only [List.map_cons, List.mem_cons, ih]
        exact or_left_comm

end Document

end TokenPattern
