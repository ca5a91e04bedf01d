import TokenPattern.Document
import TokenPattern.Yaml.Node

/-!
# What a reader sees of a YAML document

A reader that knows what it expects does not look at everything.  A `View` tells which parts of a
document it looks at, and `Document.ofYaml?` reads the documents of a text through one.

**References.**  Only what is looked at is followed.  A document whose references refer to each
other would never end; and one that repeats itself may grow beyond measure.  So collections may be
nested only to `maxNesting`, and references may be followed only a hundred times for each element of
the document (`Node.elements`).
-/

namespace TokenPattern.Yaml

/-- What a reader looks at. -/
inductive View where
  /-- Everything, whatever it is. -/
  | whole
  /-- A scalar. -/
  | scalar
  /-- The items of a sequence. -/
  | list (item : View)
  /-- The values of a mapping, whose keys are scalars. -/
  | table (value : View)
  /-- The values of some keys of a mapping, whose keys are scalars. -/
  | record (fields : List (String × View))

/-! ## Limits -/

mutual

/-- The number of elements: one for a scalar or a reference, and the start and the end of a
collection. -/
def Node.elements : Node → Nat
  | .scalar _ _ | .reference _ => 1
  | .sequence items => 2 + itemsElements items
  | .mapping pairs => 2 + pairsElements pairs

/-- The number of elements of some items. -/
def itemsElements : List Node → Nat
  | [] => 0
  | n :: rest => n.elements + itemsElements rest

/-- The number of elements of some pairs. -/
def pairsElements : List (Node × Node) → Nat
  | [] => 0
  | (k, v) :: rest => k.elements + v.elements + pairsElements rest

end

/-- The deepest nesting of collections. -/
def maxNesting : Nat := 128

/-- How often a document may follow references. -/
def Tree.maxFollowed (t : Tree) : Nat := 100 * t.root.elements

/-! ## Looking -/

/-- Looking at a part of a document, which uses up how often references may still be followed. -/
abbrev Look (α : Type) := StateT Nat Option α

/-- Refuses what is seen. -/
def refuse {α : Type} : Look α := fun _ => none

/-- The node that a node stands for. -/
def follow (targets : Array Node) : Node → Look Node
  | .reference number => fun left =>
    match left, targets[number]? with
    | left + 1, some n => some (n, left)
    | _, _ => none
  | n => pure n

/-- The text of a key, which must be a scalar. -/
def keyText (targets : Array Node) (key : Node) : Look String := do
  match ← follow targets key with
  | .scalar text _ => pure text
  | _ => refuse

/-- What is seen of a node, in which at most `depth` collections may be nested. -/
def look (targets : Array Node) (depth : Nat) (view : View) (n : Node) : Look Document := do
  match ← follow targets n with
  | .scalar text isPlain => pure (if isPlain then .plain text else .string text)
  | .reference _ => refuse
  | .sequence items =>
    match depth, view with
    | depth + 1, .whole => do
      pure (.array (← items.mapM (look targets depth .whole)))
    | depth + 1, .list item => do
      pure (.array (← items.mapM (look targets depth item)))
    | _, _ => refuse
  | .mapping pairs =>
    match depth, view with
    | depth + 1, .whole => do
      let seen ← pairs.mapM fun (k, v) => do
        let k ← look targets depth .whole k
        pure (k, ← look targets depth .whole v)
      pure (.mapping seen)
    | depth + 1, .table value => do
      let seen ← pairs.mapM fun (k, v) => do
        let k ← keyText targets k
        pure (k, ← look targets depth value v)
      pure (.object seen)
    | depth + 1, .record fields => do
      let seen ← pairs.mapM fun (k, v) => do
        let k ← keyText targets k
        match fields.lookup k with
        | some field => pure (some (k, ← look targets depth field v))
        | none => pure none
      pure (.object (seen.filterMap id))
    | _, _ => refuse

/-- What is seen of a document. -/
def Tree.look? (t : Tree) (view : View) : Option Document :=
  (look t.targets maxNesting view t.root t.maxFollowed).map Prod.fst

end TokenPattern.Yaml

namespace TokenPattern.Document

/-- Reads the documents of a YAML text through a view. -/
def ofYaml? (view : Yaml.View) (text : String) : Option (List Document) := do
  (← Yaml.trees? text).mapM fun t => t.look? view

end TokenPattern.Document
