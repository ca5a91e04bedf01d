import TokenPattern.Proofs.Graph.Arrows
import TokenPattern.Proofs.Position.Automaton

/-!
# The order of rewriting

The compiler rewrites the slot that was allocated last.  Any other order of the pending slots leads to
the same graph up to the numbers of its nodes, provided that the bodies of all repetitions read a
token (`freeze_picks`).

**Why not by commuting rewrites.**  Two rewrites next to each other see each other's links, and the
slots of their operands are numbered in the order of the rewrites; a proof that swaps them would have
to look into every pair of operators.  What does not depend on the order are the words: every rewrite
keeps them (`Graph.markedWords_freeze`), in the end they are the derivations of the pattern, and a
finished graph is determined by them since every leaf is in one of them (`Graph.Trim`).

**Telling leaves apart.**  The nodes of two graphs are compared by the leaves they stand for, so
the theorem is about the pattern with its leaves numbered; the compiler does not look at leaves, and the
same slots can be picked with the numbers and without (`Picks.exists_indexed`).
-/

namespace TokenPattern

universe u v

namespace Draft

variable {α : Type u} {β : Type v} {e : Expr α} {d d' : Draft α} {ids : List Nat}

/-! ## Runs in any order -/

/-- Picking slots one after the other, each of them pending when its turn comes, leads from one draft
to another. -/
inductive Picks (d : Draft α) : List Nat → Draft α → Prop
  | nil : Picks d [] d
  | pick {ids : List Nat} {d' : Draft α} {id : Nat} : Picks d ids d' → id ∈ d'.pending →
      Picks d (ids ++ [id]) (d'.pick id)

/-- **What every pick keeps** holds at the end. -/
lemma Picks.induction {P : Draft α → Prop} (h : d.Picks ids d') (hd : d.Consistent) (h0 : P d)
    (hpick : ∀ {d : Draft α} {id e}, d.Consistent → d.slots[id]? = some (.composite e) → P d →
      P (d.pick id)) : d'.Consistent ∧ P d' := by
  induction h with
  | nil => exact ⟨hd, h0⟩
  | pick _ hid ih =>
      obtain ⟨hc, hP⟩ := ih
      obtain ⟨e, he⟩ := (hc.mem_pending _).1 hid
      exact ⟨hc.pick he, hpick hc he hP⟩

lemma Picks.consistent (h : d.Picks ids d') (hd : d.Consistent) : d'.Consistent :=
  (h.induction (P := fun _ => True) hd trivial fun _ _ _ => trivial).1

/-- The compiler picks slots. -/
lemma exists_picks_drain (h : d.Consistent) : ∃ ids, d.Picks ids d.drain := by
  obtain ⟨-, -, hpicks⟩ := drain_induction (P := fun d' => ∃ ids, d.Picks ids d')
    (fun {d'} {id} {rest} {e} _ hp _ hd => by
      obtain ⟨ids, hd⟩ := hd
      rw [step_eq_pick hp]
      exact ⟨_, hd.pick (hp ▸ List.mem_cons_self)⟩) h ⟨[], .nil⟩
  exact hpicks

/-! ## Every run ends -/

lemma Consistent.pending_eq_nil_iff (h : d.Consistent) : d.pending = [] ↔ d.work = 0 := by
  constructor
  · intro hp
    rw [work, ← List.sum_eq_foldr, List.sum_eq_zero_iff_forall_eq_nat]
    intro w hw
    obtain ⟨slot, hslot, rfl⟩ := List.mem_map.1 hw
    obtain ⟨i, hi⟩ := List.getElem?_of_mem hslot
    cases slot with
    | composite e => exact absurd (Array.getElem?_toList ▸ hi) (h.ne_composite hp)
    | _ => rfl
  · intro hwork
    refine List.eq_nil_iff_forall_not_mem.2 fun id hid => ?_
    obtain ⟨e, he⟩ := (h.mem_pending id).1 hid
    have := work_pick h he
    omega

/-- Every pick takes away one operator. -/
lemma Picks.length_add_work (h : d.Picks ids d') (hd : d.Consistent) :
    ids.length + d'.work = d.work := by
  induction h with
  | nil => exact Nat.zero_add _
  | pick hpicks hid ih =>
      have hc := hpicks.consistent hd
      obtain ⟨e, he⟩ := (hc.mem_pending _).1 hid
      have := work_pick hc he
      rw [List.length_append, List.length_singleton]
      omega

lemma work_start (e : Expr α) : (start e).work = e.compositeCount := by
  rw [work, slots_start, ← slotWork_ofExpr e]
  show 0 + (0 + (slotWork (Slot.ofExpr e) + 0)) = _
  omega

/-! ## What a run does to the net and to the leaves -/

lemma Picks.rewrites (h : (start e).Picks ids d) :
    (start e).net.Rewrites pure 3 d.net d.slots.size := by
  refine (h.induction (P := fun d => (start e).net.Rewrites pure 3 d.net d.slots.size)
    (consistent_start e) ?_ fun hc he hr => ?_).2
  · rw [slots_start]
    exact .refl
  · rw [size_slots_pick he, net_pick hc he]
    exact hr.step (by rw [net_node, he]; rfl) (hc.children_ne _ _ he)

/-- The leaves in a slot. -/
def leavesIn : Slot α → Multiset α
  | .leaf m => {m}
  | .composite e => e.leaves
  | .sentinel | .rewritten => 0

/-- The leaves in all slots. -/
def allLeaves (d : Draft α) : Multiset α := (d.slots.toList.map leavesIn).sum

lemma leavesIn_ofExpr (e : Expr α) : leavesIn (Slot.ofExpr e) = e.leaves := by cases e <;> rfl

lemma leaves_eq_sum_children (h : e.children ≠ []) :
    (e.leaves : Multiset α) = (e.children.map fun x => (x.leaves : Multiset α)).sum := by
  cases e with
  | leaf m => exact absurd rfl h
  | _ => simp [Expr.leaves, Expr.children]

/-- A pick moves leaves and keeps all of them. -/
lemma allLeaves_pick (h : d.Consistent) {id : Nat} (he : d.slots[id]? = some (.composite e)) :
    (d.pick id).allLeaves = d.allLeaves := by
  have hset := sum_map_set leavesIn (b := .rewritten) (Array.getElem?_toList ▸ he)
  have hchildren : leavesIn ∘ Slot.ofExpr = fun x : Expr α => (x.leaves : Multiset α) :=
    funext leavesIn_ofExpr
  calc (d.pick id).allLeaves
      = ((d.slots.toList.set id .rewritten).map leavesIn).sum + leavesIn (.composite e) := by
        rw [allLeaves, toList_slots_pick he, List.map_append, List.map_map, List.sum_append,
          hchildren, ← leaves_eq_sum_children (h.children_ne id e he)]
        rfl
    _ = d.allLeaves := by
        rw [hset]
        exact add_zero _

lemma Picks.allLeaves (h : (start e).Picks ids d) : d.allLeaves = e.leaves := by
  refine (h.induction (consistent_start e) ?_ fun hc he hd => (allLeaves_pick hc he).trans hd).2
  rw [Draft.allLeaves, slots_start, List.map_cons, List.map_cons, List.map_singleton,
    leavesIn_ofExpr]
  simp [leavesIn]

/-- **The nodes of a finished draft** are the sentinels and the leaves of the pattern. -/
lemma Picks.nodes_perm (h : (start e).Picks ids d) (hp : d.pending = []) :
    d.nodes.Perm (.initial :: .terminal :: e.leaves.map .leaf) := by
  have hc := h.consistent (consistent_start e)
  have hleaves : ∀ l : List (Slot α), (∀ s ∈ l, ∀ f, s ≠ .composite f) →
      (l.map leavesIn).sum = (l.filterMap leafOf? : Multiset α) := by
    intro l
    induction l with
    | nil => exact fun _ => rfl
    | cons s l ih =>
        intro hl
        obtain ⟨hs, hl⟩ := List.forall_mem_cons.1 hl
        rw [List.map_cons, List.sum_cons, ih hl]
        cases s with
        | composite f => exact absurd rfl (hs f)
        | leaf m => rfl
        | _ => exact zero_add _
  have hnone : ∀ s ∈ d.slots.toList, ∀ f, s ≠ .composite f := by
    rintro _ hs f rfl
    obtain ⟨i, hi⟩ := List.getElem?_of_mem hs
    exact hc.ne_composite hp (Array.getElem?_toList ▸ hi)
  have hall := h.allLeaves
  rw [Draft.allLeaves, hleaves _ hnone, Multiset.coe_eq_coe] at hall
  rw [nodes_eq hc]
  exact ((hall.map _).cons _).cons _

/-! ## Finished drafts are trim -/

/-- The initial node comes from the first slot, and the terminal one from the second. -/
lemma Consistent.eq_of_nodeOf? (h : d.Consistent) {i : Nat} {s : Slot α}
    (hs : d.slots[i]? = some s) : (nodeOf? i s = some .initial → i = 0) ∧
      (nodeOf? i s = some .terminal → i = 1) := by
  cases s with
  | sentinel =>
      have hi := (h.sentinel_iff i).1 hs
      rcases i with _ | _ | i
      · simp [nodeOf?, NodeId.initial]
      · simp [nodeOf?, NodeId.initial]
      · omega
  | _ => simp [nodeOf?]

lemma toList_nodes_freeze (d : Draft α) : d.freeze.nodes.toList = d.nodes := rfl

lemma getElem?_nodes_freeze (d : Draft α) (n : NodeId) : d.freeze.nodes[n]? = d.nodes[n]? :=
  List.getElem?_toArray

lemma Picks.nodup_nodes (h : (start e).Picks ids d) (hp : d.pending = []) (hnodup : e.leaves.Nodup) :
    d.nodes.Nodup := by
  have hleaves : (e.leaves.map Node.leaf).Nodup := hnodup.map fun _ _ => Node.leaf.inj
  rw [(h.nodes_perm hp).nodup_iff]
  simp [hleaves]

/-- Every leaf of a finished draft is on the way along a word. -/
lemma Picks.exists_word (h : (start e).Picks ids d) (hp : d.pending = []) (hstars : e.starsRead = true)
    {n : NodeId} {l : α} (hn : d.nodes[n]? = some (.leaf l)) :
    ∃ t ∈ d.freeze.markedWords, l ∈ t.flatMap Marker.forget := by
  have hwords : d.freeze.markedWords = (Graph.ofExpr e).markedWords := by
    rw [Graph.markedWords_freeze e hstars (h.consistent (consistent_start e)) hp h.rewrites,
      Graph.markedWords_ofExpr e hstars]
  have hmem := (h.nodes_perm hp).subset (List.mem_of_getElem? hn)
  have hl : l ∈ e.leaves := by simpa using hmem
  obtain ⟨w, hw, hlw⟩ := Expr.exists_word_of_mem_leaves hl
  obtain ⟨t, ht, rfl⟩ := (Graph.mem_words_iff e w).1 hw
  rw [← hwords] at ht
  exact ⟨t, ht, hlw⟩

/-- Edges run between nodes, not from the terminal one and not to the initial one. -/
lemma Picks.ends_of_edge (h : (start e).Picks ids d) (hp : d.pending = []) {p : NodeId} {b : Edge}
    (hb : b ∈ d.freeze.edgesFrom p) : (∃ x, d.nodes[p]? = some x ∧ x ≠ .terminal) ∧
      ∃ y, d.nodes[b.target]? = some y ∧ y ≠ .initial := by
  have hc := h.consistent (consistent_start e)
  obtain ⟨i, j, hi, hj, hl⟩ := (renames_freeze hc hp).link.1 hb
  obtain ⟨s, x, hs, hx, hp⟩ := exists_node_of_number hi
  obtain ⟨t, y, ht, hy, hq⟩ := exists_node_of_number hj
  refine ⟨⟨x, hp, ?_⟩, y, hq, ?_⟩
  · rintro rfl
    obtain rfl := (hc.eq_of_nodeOf? hs).2 hx
    refine h.rewrites.not_link_from (by decide) (fun s a hl => ?_) _ _ hl
    rcases (link_start e 1 s a).1 hl with ⟨h, _⟩ | ⟨h, _⟩ <;> exact absurd h (by decide)
  · rintro rfl
    obtain rfl := (hc.eq_of_nodeOf? ht).1 hy
    refine h.rewrites.not_link_to (by decide) (fun p a hl => ?_) _ _ hl
    rcases (link_start e p 0 a).1 hl with ⟨_, h, _⟩ | ⟨_, h, _⟩ <;> exact absurd h (by decide)

lemma Picks.trim (h : (start e).Picks ids d) (hp : d.pending = []) (hstars : e.starsRead = true)
    (hnodup : e.leaves.Nodup) : d.freeze.Trim where
  nodup := h.nodup_nodes hp hnodup
  initial := by
    rw [getElem?_nodes_freeze, nodes_eq (h.consistent (consistent_start e))]
    rfl
  terminal := by
    rw [getElem?_nodes_freeze, nodes_eq (h.consistent (consistent_start e))]
    rfl
  mem_word {n l} hn := h.exists_word hp hstars ((getElem?_nodes_freeze d n).symm.trans hn)
  source {p b} hb := by
    rw [getElem?_nodes_freeze]
    exact (h.ends_of_edge hp hb).1
  target {p b} hb := by
    rw [getElem?_nodes_freeze]
    exact (h.ends_of_edge hp hb).2

/-- A finished draft has the arrows of the derivations. -/
lemma Picks.arrowSet_freeze (h : (start e).Picks ids d) (hp : d.pending = [])
    (hstars : e.starsRead = true) (hnodup : e.leaves.Nodup) :
    d.freeze.arrowSet = Graph.arrowsOf e.derivations := by
  rw [(h.trim hp hstars hnodup).arrowSet_eq,
    Graph.markedWords_freeze e hstars (h.consistent (consistent_start e)) hp h.rewrites]

/-! ## Numbered leaves -/

lemma pick_map (f : α → β) (d : Draft α) (id : Nat) : (d.map f).pick id = (d.pick id).map f :=
  rewrite_map f { d with pending := d.pending.erase id } id

/-- The same slots can be picked when the leaves are numbered. -/
lemma Picks.exists_indexed (h : (start e).Picks ids d) :
    ∃ d' : Draft (α × Nat), (start e.indexed).Picks ids d' ∧ d = d'.map Prod.fst := by
  induction h with
  | nil => exact ⟨_, .nil, by rw [← start_map, Expr.map_fst_indexed]⟩
  | pick _ hid ih =>
      obtain ⟨d', hd', rfl⟩ := ih
      exact ⟨_, hd'.pick hid, pick_map _ _ _⟩

/-- **The order of rewriting does not matter**, if the bodies of all repetitions read a token.  Every
run ends after as many rewrites as there are operators.  When it has ended, and the leaves are told
apart by their numbers, the nodes of the graph are those that the compiler makes, no edge is there
twice, and the edges run between the same nodes with the same boundaries. -/
theorem freeze_picks (h : e.starsRead = true) (hpicks : (start e).Picks ids d) :
    ids.length ≤ e.compositeCount ∧ (d.pending = [] ↔ ids.length = e.compositeCount) ∧
      (d.pending = [] → ∃ d' : Draft (α × Nat),
        (start e.indexed).Picks ids d' ∧ d = d'.map Prod.fst ∧
          d'.freeze.nodes.toList.Perm (Graph.ofExpr e.indexed).nodes.toList ∧
          (∀ n, (d'.freeze.edgesFrom n).Nodup) ∧
          d'.freeze.arrowSet = (Graph.ofExpr e.indexed).arrowSet) := by
  have hc := hpicks.consistent (consistent_start e)
  have hcount := hpicks.length_add_work (consistent_start e)
  rw [work_start] at hcount
  refine ⟨by omega, ?_, fun hp => ?_⟩
  · rw [hc.pending_eq_nil_iff]
    omega
  · obtain ⟨d', hd', rfl⟩ := hpicks.exists_indexed
    obtain ⟨ids', hdrain⟩ := exists_picks_drain (consistent_start e.indexed)
    obtain ⟨-, hp', -⟩ := drain_start e.indexed
    have hstars : e.indexed.starsRead = true := by
      rw [← Expr.starsRead_map Prod.fst, Expr.map_fst_indexed, h]
    have hnodup : e.indexed.leaves.Nodup := by
      refine List.Nodup.of_map Prod.snd ?_
      rw [← Expr.leaves_map]
      exact Expr.nodup_leaves_numbered e
    have hnodes : d'.nodes.Perm (start e.indexed).drain.nodes :=
      (hd'.nodes_perm hp).trans (hdrain.nodes_perm hp').symm
    have harrows : d'.freeze.arrowSet = (start e.indexed).drain.freeze.arrowSet :=
      (hd'.arrowSet_freeze hp hstars hnodup).trans (hdrain.arrowSet_freeze hp' hstars hnodup).symm
    refine ⟨d', hd', rfl, ?_, nodup_edgesFrom_freeze (hd'.consistent (consistent_start _)), ?_⟩
    · rw [Graph.ofExpr, toList_nodes_freeze, toList_nodes_freeze]
      exact hnodes
    · rw [Graph.ofExpr]
      exact harrows

/-- Two optional letters, of which the first one is taken apart before the second one; the compiler
begins with the second one. -/
theorem freeze_picks_first :
    let e := Expr.concat (.maybe (.leaf 'a')) (.maybe (.leaf 'b'))
    e.starsRead = true ∧ ∃ d, (start e).Picks [2, 3, 4] d ∧ d.pending = [] ∧
      ∃ d' : Draft (Char × Nat), (start e.indexed).Picks [2, 3, 4] d' ∧ d = d'.map Prod.fst ∧
        d'.freeze.nodes.toList.Perm (Graph.ofExpr e.indexed).nodes.toList ∧
        (∀ n, (d'.freeze.edgesFrom n).Nodup) ∧
        d'.freeze.arrowSet = (Graph.ofExpr e.indexed).arrowSet := by
  intro e
  have h₀ := consistent_start e
  have hsize₀ : (start e).slots.size = 3 := by rw [slots_start]; rfl
  have he₀ : (start e).slots[2]? = some (.composite e) := by rw [slots_start]; rfl
  have h₁ := h₀.pick he₀
  have hsize₁ : ((start e).pick 2).slots.size = 5 := by rw [size_slots_pick he₀, hsize₀]; rfl
  have hslots₁ := slots_pick he₀
  rw [hsize₀] at hslots₁
  have he₁ : ((start e).pick 2).slots[3]? = some (.composite (.maybe (.leaf 'a'))) := hslots₁ 3
  have h₂ := h₁.pick he₁
  have hslots₂ := slots_pick he₁
  rw [hsize₁] at hslots₂
  have he₂ : (((start e).pick 2).pick 3).slots[4]? = some (.composite (.maybe (.leaf 'b'))) :=
    (hslots₂ 4).trans (hslots₁ 4)
  have hpicks : (start e).Picks [2, 3, 4] ((((start e).pick 2).pick 3).pick 4) :=
    ((Picks.nil.pick ((h₀.mem_pending 2).2 ⟨_, he₀⟩)).pick ((h₁.mem_pending 3).2 ⟨_, he₁⟩)).pick
      ((h₂.mem_pending 4).2 ⟨_, he₂⟩)
  obtain ⟨-, hend, harrows⟩ := freeze_picks (e := e) rfl hpicks
  have hp := hend.2 rfl
  exact ⟨rfl, _, hpicks, hp, harrows hp⟩

end Draft

end TokenPattern
