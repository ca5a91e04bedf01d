import TokenPattern.Proofs.Draft.Freezing

/-!
# Which node a leaf becomes

The same matcher may stand at several leaves of a pattern, and they are different leaves all the
same.  `Expr.indexed` gives every leaf its place from left to right, so that leaves can be told apart;
since the compiler never looks at what a leaf holds (`Graph.ofExpr_map`), the numbered pattern has the
graph of the pattern itself.

**The order of nodes.**  The compiler gives a leaf its slot when the operator above it is rewritten,
and of two operators next to each other the right one is rewritten first.  `Expr.nodeOrder` is the
resulting order, `matcher?_ofExpr` says that the nodes of the graph follow it, and
`Expr.leafNode e k` is the node of leaf number `k`.
-/

namespace TokenPattern

universe u v

namespace Expr

variable {α : Type u} {β : Type v}

/-! ## Leaves and their places -/

/-- The leaves from left to right. -/
def leaves : Expr α → List α
  | leaf m => [m]
  | concat l r | alt l r => l.leaves ++ r.leaves
  | maybe x | star x | capture _ x => x.leaves

/-- Numbers the leaves from left to right, starting at `k`. -/
def indexFrom : Nat → Expr α → Expr (α × Nat)
  | k, leaf m => leaf (m, k)
  | k, concat l r => concat (l.indexFrom k) (r.indexFrom (k + l.leafCount))
  | k, alt l r => alt (l.indexFrom k) (r.indexFrom (k + l.leafCount))
  | k, maybe x => maybe (x.indexFrom k)
  | k, star x => star (x.indexFrom k)
  | k, capture n x => capture n (x.indexFrom k)

/-- The pattern with its leaves numbered from zero. -/
def indexed (e : Expr α) : Expr (α × Nat) := e.indexFrom 0

lemma length_leaves (e : Expr α) : e.leaves.length = e.leafCount := by
  induction e with
  | leaf m => rfl
  | concat l r ihl ihr => rw [leaves, List.length_append, ihl, ihr, leafCount]
  | alt l r ihl ihr => rw [leaves, List.length_append, ihl, ihr, leafCount]
  | maybe x ih => exact ih
  | star x ih => exact ih
  | capture n x ih => exact ih

lemma leaves_indexFrom (e : Expr α) (k : Nat) : (e.indexFrom k).leaves = e.leaves.zipIdx k := by
  induction e generalizing k with
  | leaf m => rfl
  | concat l r ihl ihr =>
      rw [indexFrom, leaves, leaves, ihl, ihr, List.zipIdx_append, length_leaves]
  | alt l r ihl ihr =>
      rw [indexFrom, leaves, leaves, ihl, ihr, List.zipIdx_append, length_leaves]
  | maybe x ih => exact ih k
  | star x ih => exact ih k
  | capture n x ih => exact ih k

lemma map_fst_indexFrom (e : Expr α) (k : Nat) : (e.indexFrom k).map Prod.fst = e := by
  induction e generalizing k with
  | leaf m => rfl
  | concat l r ihl ihr => rw [indexFrom, map, ihl, ihr]
  | alt l r ihl ihr => rw [indexFrom, map, ihl, ihr]
  | maybe x ih => rw [indexFrom, map, ih]
  | star x ih => rw [indexFrom, map, ih]
  | capture n x ih => rw [indexFrom, map, ih]

lemma map_fst_indexed (e : Expr α) : e.indexed.map Prod.fst = e := map_fst_indexFrom e 0

lemma children_map (f : α → β) (e : Expr α) : (e.map f).children = e.children.map (map f) := by
  cases e <;> rfl

lemma rewire_map (f : α → β) (D : Detached) (x : Nat) (e : Expr α) :
    (e.map f).rewire D x = e.rewire D x := by
  cases e <;> rfl

lemma compositeCount_map (f : α → β) (e : Expr α) :
    (e.map f).compositeCount = e.compositeCount := by
  induction e with
  | leaf m => rfl
  | concat l r ihl ihr => simp only [map, compositeCount, ihl, ihr]
  | alt l r ihl ihr => simp only [map, compositeCount, ihl, ihr]
  | maybe x ih => simp only [map, compositeCount, ih]
  | star x ih => simp only [map, compositeCount, ih]
  | capture n x ih => simp only [map, compositeCount, ih]

end Expr

/-! ## The compiler does not look at leaves -/

/-- What a slot holds with its leaves renamed. -/
def Slot.map {α : Type u} {β : Type v} (f : α → β) : Slot α → Slot β
  | sentinel => sentinel
  | leaf m => leaf (f m)
  | composite e => composite (e.map f)
  | rewritten => rewritten

/-- What a node holds with its leaf renamed. -/
def Node.map {α : Type u} {β : Type v} (f : α → β) : Node α → Node β
  | initial => initial
  | terminal => terminal
  | leaf m => leaf (f m)

/-- A graph with its leaves renamed. -/
def Graph.map {α : Type u} {β : Type v} (f : α → β) (g : Graph α) : Graph β where
  nodes := g.nodes.map (Node.map f)
  successors := g.successors

namespace Draft

variable {α : Type u} {β : Type v} (f : α → β) (d : Draft α)

/-- A draft with its leaves renamed. -/
def map (f : α → β) (d : Draft α) : Draft β where
  slots := d.slots.map (Slot.map f)
  links := d.links
  touching := d.touching
  present := d.present
  pending := d.pending

lemma alloc_map (e : Expr α) : (d.map f).alloc (e.map f) = (d.alloc e).map f := by
  cases e <;> simp [alloc, map, Expr.map, Slot.map]

lemma addLink_map (l : Link) : (d.map f).addLink l = (d.addLink l).map f := by
  have hp : (d.map f).present = d.present := rfl
  rw [addLink, addLink, hp]
  by_cases h : d.present.contains l = true
  · rw [if_pos h, if_pos h]
  · rw [if_neg h, if_neg h]
    rfl

lemma addLinks_map (ls : List Link) : (d.map f).addLinks ls = (d.addLinks ls).map f := by
  induction ls generalizing d with
  | nil => rfl
  | cons l ls ih => rw [addLinks, List.foldl_cons, addLink_map]; exact ih (d.addLink l)

lemma foldl_alloc_map (es : List (Expr α)) :
    (es.map (Expr.map f)).foldl alloc (d.map f) = (es.foldl alloc d).map f := by
  induction es generalizing d with
  | nil => rfl
  | cons e es ih => rw [List.map_cons, List.foldl_cons, alloc_map, ih, List.foldl_cons]

lemma rewrite_map (id : Nat) : (d.map f).rewrite id = (d.rewrite id).map f := by
  have hslot : (d.map f).slots[id]? = (d.slots[id]?).map (Slot.map f) := Array.getElem?_map
  rw [rewrite, rewrite, hslot]
  cases d.slots[id]? with
  | none => rfl
  | some s =>
      cases s with
      | composite e =>
          simp only [Option.map_some, Slot.map]
          rw [Expr.children_map, Expr.rewire_map, ← addLinks_map, ← foldl_alloc_map]
          congr 2
          · simp [map, detach, linksAt, Slot.map, Array.map_setIfInBounds]
          · simp [map]
      | _ => rfl

lemma step_map : (d.map f).step = (d.step).map f := by
  have hp : (d.map f).pending = d.pending := rfl
  rw [step, step, hp]
  cases d.pending with
  | nil => rfl
  | cons id rest => exact rewrite_map f { d with pending := rest } id

lemma work_map : (d.map f).work = d.work := by
  have hslot : slotWork ∘ Slot.map f = slotWork := by
    funext s
    cases s <;> simp [slotWork, Slot.map, Expr.compositeCount_map]
  rw [work, work, map, Array.toList_map, List.map_map, hslot]

lemma drain_map : (d.map f).drain = d.drain.map f := by
  have hfor : ∀ (n : Nat) (d : Draft α), drainFor n (d.map f) = (drainFor n d).map f := by
    intro n
    induction n with
    | zero => intro d; rfl
    | succ n ih =>
        intro d
        have hp : (d.map f).pending = d.pending := rfl
        rw [drainFor, drainFor, hp]
        cases d.pending with
        | nil => rfl
        | cons id rest => rw [step_map, ih]
  rw [drain, drain, work_map, hfor]

lemma start_map (e : Expr α) : start (e.map f) = (start e).map f := by
  have hempty : (empty : Draft α).map f = empty := by simp [map, empty, Slot.map]
  rw [start, start, ← addLinks_map, ← alloc_map, hempty]

lemma freeze_map : (d.map f).freeze = d.freeze.map f := by
  have hnode : ∀ (id : Nat) (s : Slot α), nodeOf? id (s.map f) = (nodeOf? id s).map (Node.map f) := by
    intro id s
    cases s with
    | sentinel => simp only [Slot.map, nodeOf?, Option.map_some]; split_ifs <;> rfl
    | _ => rfl
  have hnumber : ∀ (l : List (Slot α)) (id next : Nat),
      renumbering id next (l.map (Slot.map f)) = renumbering id next l := by
    intro l
    induction l with
    | nil => intro id next; rfl
    | cons s l ih =>
        intro id next
        simp only [List.map_cons, renumbering, hnode]
        cases nodeOf? id s <;> simp [ih]
  have hnodes : (d.map f).nodes = d.nodes.map (Node.map f) := by
    rw [nodes, nodes, map, Array.toList_map, List.zipIdx_map, List.filterMap_map,
      List.map_filterMap]
    exact List.filterMap_congr fun p _ => hnode p.2 p.1
  rw [freeze, freeze, hnodes, Graph.map]
  simp only [map, Array.toList_map, hnumber, List.map_toArray, List.size_toArray, List.length_map]

end Draft

/-- **The compiler does not look at leaves.** -/
theorem Graph.ofExpr_map {α : Type u} {β : Type v} (f : α → β) (e : Expr α) :
    Graph.ofExpr (e.map f) = (Graph.ofExpr e).map f := by
  rw [Graph.ofExpr, Draft.start_map, Draft.drain_map, Draft.freeze_map, Graph.ofExpr]

namespace Graph

variable {α : Type u} {β : Type v} (f : α → β) (g : Graph α)

@[simp] lemma edgesFrom_map (n : NodeId) : (g.map f).edgesFrom n = g.edgesFrom n := rfl

@[simp] lemma matcher?_map (n : NodeId) : (g.map f).matcher? n = (g.matcher? n).map f := by
  simp only [matcher?, map, Array.getElem?_map]
  cases g.nodes[n]? with
  | none => rfl
  | some node => cases node <;> rfl

end Graph

/-! ## The order of the nodes -/

namespace Expr

variable {α : Type u}

/-- The leaf of a pattern that is one. -/
def own : Expr α → List α
  | leaf m => [m]
  | _ => []

/-- The leaves of an operator in the order in which rewriting finds them. -/
def late : Expr α → List α
  | leaf _ => []
  | concat l r | alt l r => l.own ++ r.own ++ (r.late ++ l.late)
  | maybe x | star x | capture _ x => x.own ++ x.late

/-- The leaves in the order of their nodes. -/
def nodeOrder (e : Expr α) : List α := e.own ++ e.late

lemma late_eq {e : Expr α} (h : e.children ≠ []) :
    e.late = e.children.flatMap own ++ e.children.reverse.flatMap late := by
  cases e with
  | leaf m => exact absurd rfl h
  | _ => simp [late, children]

/-- Every leaf becomes one node. -/
lemma perm_nodeOrder (e : Expr α) : e.nodeOrder.Perm e.leaves := by
  have hpair : ∀ l r : Expr α, l.nodeOrder.Perm l.leaves → r.nodeOrder.Perm r.leaves →
      (l.own ++ r.own ++ (r.late ++ l.late)).Perm (l.leaves ++ r.leaves) := by
    intro l r hl hr
    refine List.Perm.trans ?_ (hl.append hr)
    rw [nodeOrder, nodeOrder, List.append_assoc, List.append_assoc, ← List.append_assoc r.own]
    exact List.Perm.append_left _ List.perm_append_comm
  induction e with
  | leaf m => exact List.Perm.refl _
  | concat l r ihl ihr => exact hpair l r ihl ihr
  | alt l r ihl ihr => exact hpair l r ihl ihr
  | maybe x ih => exact ih
  | star x ih => exact ih
  | capture n x ih => exact ih

end Expr

namespace Draft

variable {α : Type u} {d : Draft α}

/-- The leaf in a slot. -/
def leafOf? : Slot α → Option α
  | .leaf m => some m
  | _ => none

/-- The leaves that are still to be found in a slot. -/
def lateIn : Option (Slot α) → List α
  | some (.composite e) => e.late
  | _ => []

/-- The leaves that have been found and those that will be. -/
def foreseen (d : Draft α) : List α :=
  d.slots.toList.filterMap leafOf? ++ d.pending.flatMap fun id => lateIn d.slots[id]?

lemma filterMap_leafOf?_ofExpr (es : List (Expr α)) :
    (es.map Slot.ofExpr).filterMap leafOf? = es.flatMap Expr.own := by
  induction es with
  | nil => rfl
  | cons e es ih =>
      rw [List.map_cons, List.flatMap_cons, List.filterMap_cons, ih]
      cases e <;> rfl

lemma filterMap_leafOf?_set {l : List (Slot α)} {i : Nat} {e : Expr α}
    (h : l[i]? = some (.composite e)) :
    (l.set i .rewritten).filterMap leafOf? = l.filterMap leafOf? := by
  induction l generalizing i with
  | nil => rfl
  | cons s l ih =>
      cases i with
      | zero =>
          obtain rfl : s = .composite e := by simpa using h
          rfl
      | succ i =>
          rw [List.set_cons_succ, List.filterMap_cons, List.filterMap_cons, ih (by simpa using h)]

lemma flatMap_lateIn_alloc (hd : ∀ id ∈ d.pending, id < d.slots.size) (e : Expr α) :
    ((d.alloc e).pending.flatMap fun id => lateIn (d.alloc e).slots[id]?) =
      e.late ++ d.pending.flatMap fun id => lateIn d.slots[id]? := by
  have hold : (d.pending.flatMap fun id => lateIn (d.alloc e).slots[id]?) =
      d.pending.flatMap fun id => lateIn d.slots[id]? := by
    refine List.flatMap_congr fun id hid => ?_
    rw [getElem?_slots_alloc, if_neg (hd id hid).ne]
  rw [pending_alloc]
  split_ifs with hc
  · cases e with
    | leaf m => exact hold
    | _ => simp [Expr.children] at hc
  · rw [List.flatMap_cons, hold, getElem?_slots_alloc, if_pos rfl, Slot.ofExpr_of_children hc]
    rfl

lemma flatMap_lateIn_foldl_alloc (hd : ∀ id ∈ d.pending, id < d.slots.size) (es : List (Expr α)) :
    ((es.foldl alloc d).pending.flatMap fun id => lateIn (es.foldl alloc d).slots[id]?) =
      es.reverse.flatMap Expr.late ++ d.pending.flatMap fun id => lateIn d.slots[id]? := by
  induction es generalizing d with
  | nil => rfl
  | cons e es ih =>
      have hd' : ∀ id ∈ (d.alloc e).pending, id < (d.alloc e).slots.size := by
        intro id hid
        rw [pending_alloc] at hid
        rw [slots_alloc, Array.size_push]
        split_ifs at hid
        · exact Nat.lt_succ_of_lt (hd id hid)
        · rcases List.mem_cons.mp hid with rfl | hid
          · exact Nat.lt_succ_self _
          · exact Nat.lt_succ_of_lt (hd id hid)
      rw [List.foldl_cons, ih hd', flatMap_lateIn_alloc hd, List.reverse_cons, List.flatMap_append]
      simp

/-- A step finds leaves in the order foreseen. -/
lemma foreseen_step {id : Nat} {rest : List Nat} {e : Expr α} (h : d.Consistent)
    (hp : d.pending = id :: rest) (he : d.slots[id]? = some (.composite e)) :
    d.step.foreseen = d.foreseen := by
  have hid : id < d.slots.size := (Array.getElem?_eq_some_iff.mp he).1
  have hnodup : (id :: rest).Nodup := hp ▸ h.pending_nodup
  have hrest : (d.clear id).pending = rest := by
    rw [show (d.clear id).pending = d.pending.tail from rfl, hp, List.tail_cons]
  have hclear : (rest.flatMap fun i => lateIn (d.clear id).slots[i]?) =
      rest.flatMap fun i => lateIn d.slots[i]? := by
    refine List.flatMap_congr fun i hi => ?_
    rw [getElem?_slots_clear d hid, if_neg]
    rintro rfl
    exact (List.nodup_cons.mp hnodup).1 hi
  have hlt : ∀ i ∈ (d.clear id).pending, i < (d.clear id).slots.size := by
    intro i hi
    rw [hrest] at hi
    rw [size_slots_clear]
    obtain ⟨f, hf⟩ := (h.mem_pending i).mp (hp ▸ List.mem_cons_of_mem id hi)
    exact (Array.getElem?_eq_some_iff.mp hf).1
  have hpending := flatMap_lateIn_foldl_alloc hlt e.children
  rw [hrest, hclear] at hpending
  rw [foreseen, foreseen, toList_slots_step hp he, List.filterMap_append,
    filterMap_leafOf?_set (by rw [Array.getElem?_toList, he]), filterMap_leafOf?_ofExpr,
    step_eq_addLinks_clear hp he, pending_addLinks, slots_addLinks, hpending, hp,
    List.flatMap_cons, he, show lateIn (some (.composite e)) = e.late from rfl,
    Expr.late_eq (h.children_ne id e he)]
  simp

/-- The nodes of a finished draft. -/
lemma nodes_eq (h : d.Consistent) :
    d.nodes = .initial :: .terminal :: (d.slots.toList.filterMap leafOf?).map .leaf := by
  have hsize := h.two_le_size
  obtain ⟨s, s', rest, hslots⟩ : ∃ s s' rest, d.slots.toList = s :: s' :: rest := by
    have hlen : d.slots.toList.length = d.slots.size := Array.length_toList
    rcases hl : d.slots.toList with _ | ⟨s, _ | ⟨s', rest⟩⟩
    · rw [hl, List.length_nil] at hlen
      omega
    · rw [hl, List.length_singleton] at hlen
      omega
    · exact ⟨s, s', rest, rfl⟩
  have hget : ∀ i, d.slots[i]? = (s :: s' :: rest)[i]? := fun i => by
    rw [← hslots, Array.getElem?_toList]
  obtain rfl : s = .sentinel := by simpa [hget] using (h.sentinel_iff 0).mpr Nat.two_pos
  obtain rfl : s' = .sentinel := by simpa [hget] using (h.sentinel_iff 1).mpr Nat.one_lt_two
  have hrest : ∀ s ∈ rest, s ≠ .sentinel := by
    rintro s hs rfl
    obtain ⟨i, hi⟩ := List.getElem?_of_mem hs
    have := (h.sentinel_iff (i + 2)).mp (by rw [hget]; exact hi)
    omega
  have hfilter : ∀ (l : List (Slot α)) (k : Nat), (∀ s ∈ l, s ≠ .sentinel) →
      (l.zipIdx k).filterMap (fun p => nodeOf? p.2 p.1) =
        (l.filterMap leafOf?).map .leaf := by
    intro l
    induction l with
    | nil => intro k _; rfl
    | cons s l ih =>
        intro k hl
        have htail := ih (k + 1) fun s hs => hl s (List.mem_cons_of_mem _ hs)
        rw [List.zipIdx_cons, List.filterMap_cons, htail]
        cases s with
        | sentinel => exact absurd rfl (hl _ List.mem_cons_self)
        | _ => rfl
  have hnodes : d.nodes = d.slots.toList.zipIdx.filterMap fun p => nodeOf? p.2 p.1 := rfl
  rw [hnodes, hslots, List.zipIdx_cons, List.zipIdx_cons, List.filterMap_cons, List.filterMap_cons,
    hfilter rest _ hrest]
  rfl

/-- When nothing is pending, all leaves have been found. -/
lemma drain_start (e : Expr α) : (start e).drain.Consistent ∧ (start e).drain.pending = [] ∧
    (start e).drain.slots.toList.filterMap leafOf? = e.nodeOrder := by
  have hstart : (start e).foreseen = e.nodeOrder := by
    rw [foreseen, slots_start, start, pending_addLinks, pending_alloc]
    cases e with
    | leaf m => rfl
    | _ => simp [leafOf?, lateIn, Slot.ofExpr, Expr.nodeOrder, Expr.own, Expr.children, empty]
  obtain ⟨hc, hp, hf⟩ := drain_induction (P := fun d => d.foreseen = e.nodeOrder)
    (fun hc hp he hd => (foreseen_step hc hp he).trans hd) (consistent_start e) hstart
  refine ⟨hc, hp, ?_⟩
  rw [foreseen, hp] at hf
  simpa using hf

end Draft

/-- **The nodes of a graph are the sentinels, then the leaves of the pattern in node order.** -/
theorem Graph.matcher?_ofExpr {α : Type u} (e : Expr α) (n : NodeId) :
    (Graph.ofExpr e).matcher? (n + 2) = e.nodeOrder[n]? := by
  obtain ⟨hc, _, hleaves⟩ := Draft.drain_start e
  simp only [ofExpr, matcher?, Draft.freeze, Draft.nodes_eq hc, hleaves, List.getElem?_toArray,
    List.getElem?_cons_succ, List.getElem?_map]
  cases e.nodeOrder[n]? <;> rfl

lemma Graph.matcher?_ofExpr_of_lt {α : Type u} (e : Expr α) {n : NodeId} (h : n < 2) :
    (Graph.ofExpr e).matcher? n = none := by
  obtain ⟨hc, _, _⟩ := Draft.drain_start e
  simp only [ofExpr, matcher?, Draft.freeze, Draft.nodes_eq hc, List.getElem?_toArray]
  rcases n with _ | _ | n
  · rfl
  · rfl
  · exact absurd h (Nat.not_lt.mpr (Nat.le_add_left 2 n))

namespace Expr

variable {α : Type u}

/-- The node that leaf number `k` becomes. -/
def leafNode (e : Expr α) (k : Nat) : NodeId := (e.indexed.nodeOrder.map Prod.snd).idxOf k + 2

/-- The numbers of the leaves in the order of their nodes. -/
lemma nodup_nodeOrder_indexed (e : Expr α) : (e.indexed.nodeOrder.map Prod.snd).Nodup := by
  have hperm := (perm_nodeOrder e.indexed).map Prod.snd
  rw [indexed, leaves_indexFrom, List.zipIdx_map_snd] at hperm
  exact hperm.nodup_iff.mpr (List.nodup_range' ..)

end Expr

/-- **Leaf number `k` becomes node `e.leafNode k`.** -/
theorem Graph.matcher?_ofExpr_indexed {α : Type u} (e : Expr α) (n : NodeId) (m : α) (k : Nat) :
    (Graph.ofExpr e.indexed).matcher? n = some (m, k) ↔
      e.leaves[k]? = some m ∧ n = e.leafNode k := by
  have hmem : (m, k) ∈ e.indexed.nodeOrder ↔ e.leaves[k]? = some m := by
    rw [(Expr.perm_nodeOrder _).mem_iff, Expr.indexed, Expr.leaves_indexFrom,
      List.mk_mem_zipIdx_iff_getElem?]
  have hnodup := Expr.nodup_nodeOrder_indexed e
  constructor
  · intro h
    rcases n with _ | _ | n
    · rw [matcher?_ofExpr_of_lt _ (by decide)] at h
      exact absurd h (by simp)
    · rw [matcher?_ofExpr_of_lt _ (by decide)] at h
      exact absurd h (by simp)
    · rw [matcher?_ofExpr] at h
      refine ⟨hmem.mp (List.mem_of_getElem? h), ?_⟩
      have hget : (e.indexed.nodeOrder.map Prod.snd)[n]? = some k := by
        rw [List.getElem?_map, h]
        rfl
      obtain ⟨hn, hk⟩ := List.getElem?_eq_some_iff.mp hget
      rw [Expr.leafNode, ← hk, hnodup.idxOf_getElem n hn]
  · rintro ⟨hk, rfl⟩
    obtain ⟨i, hi⟩ := List.getElem?_of_mem (hmem.mpr hk)
    have hget : (e.indexed.nodeOrder.map Prod.snd)[i]? = some k := by
      rw [List.getElem?_map, hi]
      rfl
    obtain ⟨hn, hk'⟩ := List.getElem?_eq_some_iff.mp hget
    have hidx : (e.indexed.nodeOrder.map Prod.snd).idxOf k = i := by
      rw [← hk', hnodup.idxOf_getElem i hn]
    rw [Expr.leafNode, hidx, matcher?_ofExpr, hi]

end TokenPattern
