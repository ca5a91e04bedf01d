import Std.Data.HashSet
import TokenPattern.Expr
import TokenPattern.Graph

/-!
# Compiling a pattern by rewriting

A pattern is compiled by placing it between the two sentinels and then taking its operators apart
one at a time until only leaves are left.  A `Draft` is the unfinished graph in between: its slots
hold sentinels, leaves, and composite expressions that are still to be rewritten.

Rewriting a slot removes all links that touch it, gives each child of the expression a slot of its
own, and adds links so that the children behave as the expression did.  With `in`, `out` and `loop`
for the links removed (`Detached`), the new links are (`Expr.rewire`):

* `concat l r`: `in → l`, `l → r`, `r → out`, and `r → l` for a loop;
* `alt l r`: `in → l, r`, then `l, r → out`, and from both to both for a loop;
* `maybe x`: `in → out` with the markers of both, `in → x → out`, and `x → x` for a loop;
* `star x`: as `maybe x`, and `x → x` without markers;
* `capture n x`: as for `x` alone, with a start of `n` put behind the markers of what leads in and a
  stop of `n` in front of the markers of what leads out.

**Bookkeeping.**  A link is added only if the same link is not there yet.  `links` keeps the order
of insertion and holes where links were removed; `touching` lists for every slot the positions of
its links there; `present` is the set of links for the duplicate test; `pending` holds the slots to
rewrite, last allocated first.

`Draft.drain` rewrites until nothing is pending, `Draft.freeze` drops the slots that are no nodes,
and `Graph.ofExpr` does both.
-/

namespace TokenPattern

universe u

/-- A link between two slots, with the markers of the groups crossed on it. -/
structure Link where
  source : Nat
  target : Nat
  markers : List Marker
deriving DecidableEq, Hashable

/-- What a slot of a draft holds. -/
inductive Slot (α : Type u) where
  | sentinel
  | leaf (matcher : α)
  | composite (expr : Expr α)
  | rewritten

/-- An unfinished graph. -/
structure Draft (α : Type u) where
  /-- The slots, the sentinels first. -/
  slots : Array (Slot α)
  /-- The links in the order of insertion; a removed one leaves `none`. -/
  links : Array (Option Link)
  /-- For every slot the positions in `links` of the links at it, in increasing order.  Positions
  of links that were removed at their other end may remain. -/
  touching : Array (Array Nat)
  /-- The links that are there. -/
  present : Std.HashSet Link
  /-- The slots that are still to be rewritten, the next one first. -/
  pending : List Nat

/-! ## Rewiring -/

/-- The links removed from a slot: what led in, what led out, and what did both. -/
structure Detached where
  incoming : List (Nat × List Marker)
  outgoing : List (Nat × List Marker)
  loops : List (List Marker)

namespace Detached

/-- Sorts the links at slot `id` by direction. -/
def ofLinks (id : Nat) (links : List Link) : Detached where
  incoming := links.filterMap fun l =>
    if l.target = id ∧ l.source ≠ id then some (l.source, l.markers) else none
  outgoing := links.filterMap fun l =>
    if l.source = id ∧ l.target ≠ id then some (l.target, l.markers) else none
  loops := links.filterMap fun l =>
    if l.source = id ∧ l.target = id then some l.markers else none

/-- Links past and through an optional slot `x`. -/
def around (d : Detached) (x : Nat) : List Link :=
  (d.incoming.flatMap fun (p, before) =>
      d.outgoing.map fun (s, after) => ⟨p, s, before ++ after⟩) ++
    (d.incoming.map fun (p, ms) => ⟨p, x, ms⟩) ++
    (d.outgoing.map fun (s, ms) => ⟨x, s, ms⟩) ++
    d.loops.map fun ms => ⟨x, x, ms⟩

end Detached

namespace Expr

variable {α : Type u}

/-- The operands of an operator. -/
def children : Expr α → List (Expr α)
  | leaf _ => []
  | concat l r | alt l r => [l, r]
  | maybe x | star x | capture _ x => [x]

/-- The links that replace those of an expression, given the slot of its first child; a second
child has the next slot. -/
def rewire (d : Detached) (x : Nat) : Expr α → List Link
  | leaf _ => []
  | concat _ _ =>
    (d.incoming.map fun (p, ms) => ⟨p, x, ms⟩) ++ [⟨x, x + 1, []⟩] ++
      (d.outgoing.map fun (s, ms) => ⟨x + 1, s, ms⟩) ++
      d.loops.map fun ms => ⟨x + 1, x, ms⟩
  | alt _ _ =>
    (d.incoming.flatMap fun (p, ms) => [⟨p, x, ms⟩, ⟨p, x + 1, ms⟩]) ++
      (d.outgoing.flatMap fun (s, ms) => [⟨x, s, ms⟩, ⟨x + 1, s, ms⟩]) ++
      d.loops.flatMap fun ms =>
        [⟨x, x, ms⟩, ⟨x, x + 1, ms⟩, ⟨x + 1, x, ms⟩, ⟨x + 1, x + 1, ms⟩]
  | maybe _ => d.around x
  | star _ => d.around x ++ [⟨x, x, []⟩]
  | capture n _ =>
    (d.incoming.map fun (p, ms) => ⟨p, x, ms ++ [.start n]⟩) ++
      (d.outgoing.map fun (s, ms) => ⟨x, s, .stop n :: ms⟩) ++
      d.loops.map fun ms => ⟨x, x, .stop n :: ms ++ [.start n]⟩

end Expr

namespace Draft

variable {α : Type u}

/-! ## Slots and links -/

/-- Two sentinels and nothing else. -/
def empty : Draft α where
  slots := #[.sentinel, .sentinel]
  links := #[]
  touching := #[#[], #[]]
  present := ∅
  pending := []

/-- Gives an expression the next slot.  Unless it is a leaf it becomes the next to be rewritten. -/
def alloc (d : Draft α) (e : Expr α) : Draft α :=
  match e with
  | .leaf m =>
    { d with slots := d.slots.push (.leaf m), touching := d.touching.push #[] }
  | e =>
    { d with
      slots := d.slots.push (.composite e)
      touching := d.touching.push #[]
      pending := d.slots.size :: d.pending }

/-- Adds a link unless the same one is there. -/
def addLink (d : Draft α) (l : Link) : Draft α :=
  if d.present.contains l then d
  else
    let position := d.links.size
    let touching := d.touching.modify l.source (·.push position)
    { d with
      links := d.links.push (some l)
      touching :=
        if l.target = l.source then touching else touching.modify l.target (·.push position)
      present := d.present.insert l }

/-- Adds links in order. -/
def addLinks (d : Draft α) (links : List Link) : Draft α := links.foldl addLink d

/-- The links at a slot, in the order of insertion. -/
def linksAt (d : Draft α) (id : Nat) : List Link :=
  ((d.touching[id]?).getD #[]).toList.filterMap fun position => (d.links[position]?).join

/-- Removes the links at a slot. -/
def detach (d : Draft α) (id : Nat) : Draft α :=
  let removed := d.linksAt id
  let positions := (d.touching[id]?).getD #[]
  { d with
    links := positions.foldl (fun links position => links.setIfInBounds position none) d.links
    touching := d.touching.setIfInBounds id #[]
    present := removed.foldl Std.HashSet.erase d.present }

/-! ## Rewriting -/

/-- Takes the expression in a slot apart. -/
def rewrite (d : Draft α) (id : Nat) : Draft α :=
  match d.slots[id]? with
  | some (.composite e) =>
    let detached := Detached.ofLinks id (d.linksAt id)
    let first := d.slots.size
    let d := d.detach id
    let d := { d with slots := d.slots.setIfInBounds id .rewritten }
    (e.children.foldl alloc d).addLinks (e.rewire detached first)
  | _ => d

/-- Rewrites the next pending slot. -/
def step (d : Draft α) : Draft α :=
  match d.pending with
  | [] => d
  | id :: rest => rewrite { d with pending := rest } id

/-- The number of operators in a slot. -/
def slotWork : Slot α → Nat
  | .composite e => e.compositeCount
  | _ => 0

/-- The number of operators in all slots, which every rewrite lowers by one. -/
def work (d : Draft α) : Nat := (d.slots.toList.map slotWork).foldr (· + ·) 0

/-- At most `n` rewrites. -/
def drainFor : Nat → Draft α → Draft α
  | 0, d => d
  | n + 1, d =>
    match d.pending with
    | [] => d
    | _ => drainFor n d.step

/-- Rewrites until nothing is pending. -/
def drain (d : Draft α) : Draft α := drainFor d.work d

/-- An expression between the sentinels. -/
def start (e : Expr α) : Draft α :=
  (empty.alloc e).addLinks [⟨NodeId.initial, 2, []⟩, ⟨2, NodeId.terminal, []⟩]

/-! ## Freezing -/

/-- The node that a slot becomes, if it becomes one. -/
def nodeOf? (id : Nat) : Slot α → Option (Node α)
  | .sentinel => some (if id = NodeId.initial then .initial else .terminal)
  | .leaf m => some (.leaf m)
  | .composite _ | .rewritten => none

/-- The nodes in the order of their slots. -/
def nodes (d : Draft α) : List (Node α) :=
  d.slots.toList.zipIdx.filterMap fun (slot, id) => nodeOf? id slot

/-- The new numbers of the slots from one with number `id` on, when `next` nodes stand before it. -/
def renumbering : Nat → Nat → List (Slot α) → List (Option NodeId)
  | _, _, [] => []
  | id, next, slot :: rest =>
    match nodeOf? id slot with
    | some _ => some next :: renumbering (id + 1) (next + 1) rest
    | none => none :: renumbering (id + 1) next rest

/-- Adds an edge for a link between two nodes. -/
def addEdge (numbers : Array (Option NodeId)) (successors : Array (Array Edge)) (l : Link) :
    Array (Array Edge) :=
  match (numbers[l.source]?).join, (numbers[l.target]?).join with
  | some source, some target =>
    successors.modify source fun edges => edges.push ⟨target, l.markers⟩
  | _, _ => successors

/-- The finished graph: the sentinels, then the leaves in the order of their slots, and the links in
the order of insertion. -/
def freeze (d : Draft α) : Graph α :=
  let nodes := d.nodes.toArray
  let numbers := (renumbering 0 0 d.slots.toList).toArray
  let successors := d.links.foldl (fun successors link =>
    match link with
    | some l => addEdge numbers successors l
    | none => successors) (Array.replicate nodes.size #[])
  { nodes := nodes, successors := successors.map Array.toList }

end Draft

/-- Compiles a pattern. -/
def Graph.ofExpr {α : Type u} (e : Expr α) : Graph α := (Draft.start e).drain.freeze

end TokenPattern
