import TokenPattern.Proofs.Draft.Rewriting

/-!
# Freezing a draft

Freezing drops the slots that are no nodes and numbers the others from zero.  `Draft.number` is the
new number of a slot, and what is known of the draft is known of the finished graph under it:

* `matcher?_freeze_iff` — the leaves of the graph are those of the draft;
* `edgesFrom_freeze` — the edges of a node are its links, in their order;
* `nodup_edgesFrom_freeze` — no edge is there twice;
* `renames_freeze` — the graph as a net is the net of the draft with its nodes renamed, so that both
  have the same walks (`Net.Renames.walk_iff`).
-/

namespace TokenPattern

universe u v w

/-! ## Renamed nets -/

/-- `G'` is `G` with node `i` called `ρ i`. -/
structure Net.Renames {α : Type u} {σ : Type v} (ρ : Nat → Option Nat) (G G' : Net α σ) : Prop where
  inj : ∀ {i j n : Nat}, ρ i = some n → ρ j = some n → i = j
  node : ∀ {n : Nat} {e : Expr α}, G'.node n = some e ↔ ∃ i, ρ i = some n ∧ G.node i = some e
  link : ∀ {p s : Nat} {a : List σ}, G'.link p a s ↔
    ∃ i j, ρ i = some p ∧ ρ j = some s ∧ G.link i a j
  target : ∀ {i j : Nat} {a : List σ}, G.link i a j → ∃ s, ρ j = some s

namespace Net.Renames

variable {α : Type u} {σ : Type v} {ρ : Nat → Option Nat} {G G' : Net α σ} {R : Reading α σ}

lemma exists_walk (h : Renames ρ G G') {i p s : Nat} {t : List σ} (hi : ρ i = some p)
    (hw : G'.Walk R p t s) : ∃ j, ρ j = some s ∧ G.Walk R i t j := by
  induction hw with
  | link hl =>
      obtain ⟨i', j, hi', hj, hl⟩ := h.link.mp hl
      rw [h.inj hi' hi] at hl
      exact ⟨j, hj, .link hl⟩
  | step _ hq hz hl ih =>
      obtain ⟨k, hk, hw⟩ := ih
      obtain ⟨k', hk', hq⟩ := h.node.mp hq
      obtain ⟨k'', j, hk'', hj, hl⟩ := h.link.mp hl
      rw [h.inj hk' hk] at hq
      rw [h.inj hk'' hk] at hl
      exact ⟨j, hj, .step hw hq hz hl⟩

lemma walk (h : Renames ρ G G') {i j p s : Nat} {t : List σ} (hi : ρ i = some p)
    (hj : ρ j = some s) (hw : G.Walk R i t j) : G'.Walk R p t s := by
  induction hw generalizing s with
  | link hl => exact .link (h.link.mpr ⟨_, _, hi, hj, hl⟩)
  | step hw hq hz hl ih =>
      obtain ⟨q, hk⟩ : ∃ q, ρ _ = some q := by
        cases hw with
        | link hl' => exact h.target hl'
        | step _ _ _ hl' => exact h.target hl'
      exact .step (ih hk) (h.node.mpr ⟨_, hk, hq⟩) hz (h.link.mpr ⟨_, _, hk, hj, hl⟩)

/-- Renaming nodes changes no walk. -/
lemma walk_iff (h : Renames ρ G G') {i j p s : Nat} {t : List σ} (hi : ρ i = some p)
    (hj : ρ j = some s) : G'.Walk R p t s ↔ G.Walk R i t j := by
  refine ⟨fun hw => ?_, h.walk hi hj⟩
  obtain ⟨j', hj', hw⟩ := h.exists_walk hi hw
  rwa [h.inj hj' hj] at hw

lemma map {σ' : Type w} (h : Renames ρ G G') (f : σ → List σ') :
    Renames ρ (G.map f) (G'.map f) where
  inj := h.inj
  node := h.node
  link := by
    intro p s a
    constructor
    · rintro ⟨b, hl, rfl⟩
      obtain ⟨i, j, hi, hj, hl⟩ := h.link.mp hl
      exact ⟨i, j, hi, hj, Net.link_map f hl⟩
    · rintro ⟨i, j, hi, hj, b, hl, rfl⟩
      exact Net.link_map f (h.link.mpr ⟨i, j, hi, hj, hl⟩)
  target := by
    rintro i j a ⟨b, hl, rfl⟩
    exact h.target hl

end Net.Renames

/-! ## Numbers of slots -/

/-- The place of a member in a filtered list is the number of members kept before it. -/
lemma getElem?_filterMap_eq_some_iff {α : Type u} {β : Type v} (f : α → Option β) (l : List α)
    (n : Nat) (b : β) : (l.filterMap f)[n]? = some b ↔
      ∃ (i : Nat) (a : α), l[i]? = some a ∧ f a = some b ∧
        n = (l.take i).countP fun a => (f a).isSome := by
  induction l generalizing n with
  | nil => simp
  | cons c l ih =>
      have hshift : (∃ (i : Nat) (a : α), (c :: l)[i]? = some a ∧ f a = some b ∧
          n = ((c :: l).take i).countP fun a => (f a).isSome) ↔
          (f c = some b ∧ n = 0) ∨ ∃ (i : Nat) (a : α), l[i]? = some a ∧ f a = some b ∧
            n = (l.take i).countP (fun a => (f a).isSome) + if (f c).isSome then 1 else 0 := by
        constructor
        · rintro ⟨i, a, ha, hb, rfl⟩
          cases i with
          | zero =>
              obtain rfl : c = a := by simpa using ha
              exact Or.inl ⟨hb, rfl⟩
          | succ i => exact Or.inr ⟨i, a, by simpa using ha, hb, by simp [List.countP_cons]⟩
        · rintro (⟨hb, rfl⟩ | ⟨i, a, ha, hb, rfl⟩)
          · exact ⟨0, c, rfl, hb, rfl⟩
          · exact ⟨i + 1, a, by simpa using ha, hb, by simp [List.countP_cons]⟩
      rw [hshift, List.filterMap_cons]
      cases hc : f c with
      | none =>
          simp only [reduceCtorEq, false_and, false_or, Option.isSome_none, Bool.false_eq_true,
            if_false, Nat.add_zero]
          exact ih n
      | some b' =>
          cases n with
          | zero => simp
          | succ n => simp [ih n]

namespace Slot

variable {α : Type u}

/-- Whether a slot becomes a node. -/
def isNode : Slot α → Bool
  | sentinel | leaf _ => true
  | composite _ | rewritten => false

lemma isSome_nodeOf? (id : Nat) (s : Slot α) : (Draft.nodeOf? id s).isSome = s.isNode := by
  cases s <;> rfl

end Slot

namespace Draft

variable {α : Type u} {d : Draft α}

/-- The number of the node that a slot becomes. -/
def number (d : Draft α) (i : Nat) : Option NodeId :=
  ((renumbering 0 0 d.slots.toList).toArray[i]?).join

lemma getElem?_renumbering (id next : Nat) (l : List (Slot α)) (i : Nat) :
    (renumbering id next l)[i]? = (l[i]?).map fun s =>
      if s.isNode then some (next + (l.take i).countP Slot.isNode) else none := by
  induction l generalizing id next i with
  | nil => rfl
  | cons s l ih =>
      have hs := s.isSome_nodeOf? id
      cases hn : nodeOf? id s with
      | none =>
          rw [hn, Option.isSome_none] at hs
          simp only [renumbering, hn]
          cases i with
          | zero => simp [← hs]
          | succ i => simp [ih, ← hs]
      | some n =>
          rw [hn, Option.isSome_some] at hs
          simp only [renumbering, hn]
          cases i with
          | zero => simp [← hs]
          | succ i => simp [ih, ← hs, Nat.add_assoc, Nat.add_comm 1]

/-- A slot that becomes a node is numbered by the nodes in front of it. -/
lemma number_eq_some_iff {i n : Nat} : d.number i = some n ↔
    ∃ s, d.slots[i]? = some s ∧ s.isNode = true ∧
      n = (d.slots.toList.take i).countP Slot.isNode := by
  rw [number, List.getElem?_toArray, getElem?_renumbering, Array.getElem?_toList]
  cases d.slots[i]? with
  | none => simp
  | some s =>
      simp only [Option.map_some, Option.join_some, Option.some.injEq, exists_eq_left', Nat.zero_add]
      split_ifs with hs
      · simp [hs, eq_comm]
      · simp [hs]

lemma countP_take_lt {l : List (Slot α)} {i j : Nat} {s : Slot α} (hi : l[i]? = some s)
    (hs : s.isNode = true) (hij : i < j) :
    (l.take i).countP Slot.isNode < (l.take j).countP Slot.isNode := by
  have htake : l.take (i + 1) = l.take i ++ [s] := by
    rw [List.take_add_one, hi]
    rfl
  have hmono : ((l.take j).take (i + 1)).countP Slot.isNode ≤ (l.take j).countP Slot.isNode :=
    (List.take_sublist _ _).countP_le
  rw [List.take_take, Nat.min_eq_left hij, htake, List.countP_append] at hmono
  simp only [List.countP_singleton, hs, if_true] at hmono
  omega

lemma number_inj {i j n : Nat} (hi : d.number i = some n) (hj : d.number j = some n) : i = j := by
  obtain ⟨s, hs, hsn, rfl⟩ := number_eq_some_iff.mp hi
  obtain ⟨s', hs', hsn', heq⟩ := number_eq_some_iff.mp hj
  rw [← Array.getElem?_toList] at hs hs'
  rcases Nat.lt_trichotomy i j with hlt | rfl | hgt
  · have := countP_take_lt hs hsn hlt
    omega
  · rfl
  · have := countP_take_lt hs' hsn' hgt
    omega

/-- The nodes of the finished graph are the slots with a number. -/
lemma getElem?_nodes_eq_some_iff {n : Nat} {node : Node α} : d.nodes[n]? = some node ↔
    ∃ i s, d.slots[i]? = some s ∧ nodeOf? i s = some node ∧ d.number i = some n := by
  have hcount : ∀ i, (d.slots.toList.zipIdx.take i).countP
      (fun p => (nodeOf? p.2 p.1).isSome) = (d.slots.toList.take i).countP Slot.isNode := by
    intro i
    have hfst : (d.slots.toList.zipIdx.take i).map Prod.fst = d.slots.toList.take i := by
      rw [List.map_take, List.zipIdx_map_fst]
    rw [← hfst, List.countP_map]
    exact List.countP_congr fun p _ => by rw [Slot.isSome_nodeOf?]; rfl
  rw [nodes, getElem?_filterMap_eq_some_iff]
  constructor
  · rintro ⟨i, ⟨s, k⟩, hp, hnode, hn⟩
    rw [List.getElem?_zipIdx, Option.map_eq_some_iff] at hp
    obtain ⟨s', hs', heq⟩ := hp
    obtain ⟨rfl, rfl⟩ : s' = s ∧ i = k := by simpa using heq
    rw [Array.getElem?_toList] at hs'
    have hsn : s'.isNode = true := by
      rw [← Slot.isSome_nodeOf? i]
      exact Option.isSome_of_eq_some hnode
    exact ⟨i, s', hs', hnode, number_eq_some_iff.mpr ⟨s', hs', hsn, hn.trans (hcount i)⟩⟩
  · rintro ⟨i, s, hs, hnode, hn⟩
    obtain ⟨s', _, _, hn⟩ := number_eq_some_iff.mp hn
    refine ⟨i, (s, i), ?_, hnode, hn.trans (hcount i).symm⟩
    rw [List.getElem?_zipIdx, Array.getElem?_toList, hs]
    simp

/-- A slot with a number becomes a node. -/
lemma exists_node_of_number {i n : Nat} (h : d.number i = some n) : ∃ s node,
    d.slots[i]? = some s ∧ nodeOf? i s = some node ∧ d.nodes[n]? = some node := by
  obtain ⟨s, hs, hsn, _⟩ := number_eq_some_iff.mp h
  obtain ⟨node, hnode⟩ : ∃ node, nodeOf? i s = some node :=
    Option.isSome_iff_exists.mp (by rw [Slot.isSome_nodeOf?, hsn])
  exact ⟨s, node, hs, hnode, getElem?_nodes_eq_some_iff.mpr ⟨i, s, hs, hnode, h⟩⟩

lemma number_lt {i n : Nat} (h : d.number i = some n) : n < d.nodes.length := by
  obtain ⟨_, _, _, _, hnode⟩ := exists_node_of_number h
  exact (List.getElem?_eq_some_iff.mp hnode).1

/-! ## Edges -/

/-- The edge of node `n` that a link becomes. -/
def edgeAt (d : Draft α) (n : NodeId) (l : Link) : Option Edge :=
  if d.number l.source = some n then (d.number l.target).map fun t => ⟨t, l.markers⟩ else none

lemma getElem?_addEdge (successors : Array (Array Edge)) (l : Link) (n : Nat) :
    ((addEdge (renumbering 0 0 d.slots.toList).toArray successors l)[n]?).map Array.toList =
      (successors[n]?).map fun edges => edges.toList ++ (d.edgeAt n l).toList := by
  rw [addEdge, edgeAt, number, number]
  cases hs : ((renumbering 0 0 d.slots.toList).toArray[l.source]?).join with
  | none => simp
  | some s =>
      cases ht : ((renumbering 0 0 d.slots.toList).toArray[l.target]?).join with
      | none => simp
      | some t =>
          simp only [Array.getElem?_modify, Option.map_some, Option.some.injEq]
          split_ifs with hsn
          · cases successors[n]? <;> simp
          · simp

lemma getElem?_foldl_addEdge (successors : Array (Array Edge)) (ls : List Link) (n : Nat) :
    ((ls.foldl (addEdge (renumbering 0 0 d.slots.toList).toArray) successors)[n]?).map
        Array.toList =
      (successors[n]?).map fun edges => edges.toList ++ ls.filterMap (d.edgeAt n) := by
  induction ls generalizing successors with
  | nil => simp
  | cons l ls ih =>
      have hone := getElem?_addEdge (d := d) successors l n
      rw [List.foldl_cons, ih]
      generalize addEdge _ successors l = after at hone
      cases ha : after[n]? with
      | none =>
          rw [ha] at hone
          cases hb : successors[n]? with
          | none => rfl
          | some b => simp [hb] at hone
      | some a =>
          rw [ha] at hone
          cases hb : successors[n]? with
          | none => simp [hb] at hone
          | some b =>
              simp only [hb, Option.map_some, Option.some.injEq] at hone
              simp only [Option.map_some, hone, List.append_assoc, Option.some.injEq,
                List.append_cancel_left_eq, List.filterMap_cons]
              cases d.edgeAt n l <;> rfl

/-- The edges come from the links that are there; holes are passed over. -/
lemma successors_freeze (d : Draft α) : d.freeze.successors = (d.live.foldl
    (addEdge (renumbering 0 0 d.slots.toList).toArray)
    (Array.replicate d.nodes.toArray.size #[])).map Array.toList := by
  show Array.map Array.toList (Array.foldl _ _ d.links) = _
  rw [live, List.foldl_filterMap, ← Array.foldl_toList]
  congr 2
  funext acc link
  cases link <;> rfl

lemma size_addEdge (numbers : Array (Option NodeId)) (successors : Array (Array Edge)) (l : Link) :
    (addEdge numbers successors l).size = successors.size := by
  rw [addEdge]
  split
  · exact Array.size_modify
  · rfl

/-- There is a list of edges for every node. -/
lemma size_successors_freeze (d : Draft α) : d.freeze.successors.size = d.nodes.length := by
  rw [successors_freeze, Array.size_map]
  refine List.foldlRecOn d.live _
    (motive := fun successors : Array (Array Edge) => successors.size = d.nodes.length) (by simp) ?_
  intro successors hsize l _
  rw [size_addEdge, hsize]

/-- **The edges of a node are its links, in their order.** -/
theorem edgesFrom_freeze (d : Draft α) (n : NodeId) :
    d.freeze.edgesFrom n = d.live.filterMap (d.edgeAt n) := by
  have hfilter : d.nodes.length ≤ n → d.live.filterMap (d.edgeAt n) = [] := by
    intro hn
    refine List.filterMap_eq_nil_iff.mpr fun l _ => if_neg fun hs => ?_
    have := number_lt hs
    omega
  have hget := getElem?_foldl_addEdge (d := d) (Array.replicate d.nodes.toArray.size #[]) d.live n
  have hget' : d.freeze.edgesFrom n = (((Array.replicate d.nodes.toArray.size
      (#[] : Array Edge))[n]?).map fun edges =>
        edges.toList ++ d.live.filterMap (d.edgeAt n)).getD [] := by
    rw [← hget, Graph.edgesFrom, successors_freeze, Array.getElem?_map]
  rw [hget', Array.getElem?_replicate]
  split_ifs with hn
  · simp
  · simp [hfilter (by simpa using hn)]

lemma edgeAt_eq_some_iff {n : NodeId} {l : Link} {e : Edge} : d.edgeAt n l = some e ↔
    d.number l.source = some n ∧ d.number l.target = some e.target ∧ l.markers = e.markers := by
  obtain ⟨t, ms⟩ := e
  rw [edgeAt]
  split_ifs with hs
  · simp [hs]
  · simp [hs]

/-- No edge is there twice. -/
lemma nodup_edgesFrom_freeze (h : d.Consistent) (n : NodeId) : (d.freeze.edgesFrom n).Nodup := by
  rw [edgesFrom_freeze]
  refine h.nodup.filterMap fun l l' e he he' => ?_
  obtain ⟨hs, ht, hm⟩ := edgeAt_eq_some_iff.mp he
  obtain ⟨hs', ht', hm'⟩ := edgeAt_eq_some_iff.mp he'
  obtain ⟨p, s, a⟩ := l
  obtain ⟨p', s', a'⟩ := l'
  obtain rfl := number_inj hs hs'
  obtain rfl := number_inj ht ht'
  obtain rfl : a = a' := hm.trans hm'.symm
  rfl

/-- The leaves of the finished graph. -/
lemma matcher?_freeze_iff {n : NodeId} {m : α} : d.freeze.matcher? n = some m ↔
    ∃ i : Nat, d.number i = some n ∧ d.slots[i]? = some (.leaf m) := by
  simp only [Graph.matcher?, freeze, List.getElem?_toArray, Option.bind_eq_some_iff,
    getElem?_nodes_eq_some_iff]
  constructor
  · rintro ⟨node, ⟨i, s, hs, hnode, hn⟩, hm⟩
    refine ⟨i, hn, ?_⟩
    cases s with
    | leaf m' =>
        obtain rfl : Node.leaf m' = node := by simpa [nodeOf?] using hnode
        obtain rfl : m' = m := by simpa [Node.matcher?] using hm
        exact hs
    | sentinel =>
        simp only [nodeOf?, Option.some.injEq] at hnode
        subst hnode
        split_ifs at hm <;> simp [Node.matcher?] at hm
    | composite e => simp [nodeOf?] at hnode
    | rewritten => simp [nodeOf?] at hnode
  · rintro ⟨i, hn, hs⟩
    exact ⟨_, ⟨i, _, hs, rfl, hn⟩, rfl⟩

end Draft

/-! ## The graph as a net -/

/-- The net of a graph. -/
def Graph.net {α : Type u} (g : Graph α) : Net α Marker where
  node n := (g.matcher? n).map .leaf
  link p a s := (⟨s, a⟩ : Edge) ∈ g.edgesFrom p

/-- All nodes of a graph are leaves. -/
lemma Graph.net_node_eq_some_iff {α : Type u} {g : Graph α} {n : NodeId} {e : Expr α} :
    g.net.node n = some e ↔ ∃ l, g.matcher? n = some l ∧ .leaf l = e :=
  Option.map_eq_some_iff

namespace Draft

variable {α : Type u} {d : Draft α}

/-- When nothing is pending, the slots that stand are nodes. -/
lemma Stands.exists_number (h : d.Consistent) (hp : d.pending = []) {i : Nat} (hi : d.Stands i) :
    ∃ n, d.number i = some n := by
  obtain ⟨s, hs, hr⟩ := hi
  have hnode : s.isNode = true := by
    cases s with
    | composite e => exact absurd hs (h.ne_composite hp)
    | rewritten => simp [Slot.isRewritten] at hr
    | _ => rfl
  exact ⟨_, number_eq_some_iff.mpr ⟨s, hs, hnode, rfl⟩⟩

/-- **The finished graph is the draft with its slots renumbered.** -/
theorem renames_freeze (h : d.Consistent) (hp : d.pending = []) :
    Net.Renames d.number d.net d.freeze.net where
  inj := number_inj
  node {n e} := by
    simp only [Graph.net, Option.map_eq_some_iff, matcher?_freeze_iff, net, Option.bind_eq_some_iff]
    constructor
    · rintro ⟨m, ⟨i, hn, hs⟩, rfl⟩
      exact ⟨i, hn, _, hs, rfl⟩
    · rintro ⟨i, hn, s, hs, he⟩
      cases s with
      | leaf m =>
          obtain rfl : Expr.leaf m = e := by simpa [Slot.expr?] using he
          exact ⟨m, ⟨i, hn, hs⟩, rfl⟩
      | composite f => exact absurd hs (h.ne_composite hp)
      | sentinel => simp [Slot.expr?] at he
      | rewritten => simp [Slot.expr?] at he
  link {p s a} := by
    simp only [Graph.net, edgesFrom_freeze, List.mem_filterMap, edgeAt_eq_some_iff, net]
    constructor
    · rintro ⟨⟨i, j, a'⟩, hl, hi, hj, rfl⟩
      exact ⟨i, j, hi, hj, hl⟩
    · rintro ⟨i, j, hi, hj, hl⟩
      exact ⟨⟨i, j, a⟩, hl, hi, hj, rfl⟩
  target hl := Stands.exists_number h hp (h.stands _ hl _ (Or.inr rfl))

/-- The sentinels keep their numbers. -/
lemma number_of_lt_two (h : d.Consistent) {i : Nat} (hi : i < 2) : d.number i = some i := by
  have hsize := h.two_le_size
  have h0 := (h.sentinel_iff 0).mpr Nat.two_pos
  have hs := (h.sentinel_iff i).mpr hi
  refine number_eq_some_iff.mpr ⟨.sentinel, hs, rfl, ?_⟩
  rw [← Array.getElem?_toList] at h0
  rcases i with _ | _ | i
  · rfl
  · rw [List.take_add_one, h0]
    rfl
  · omega

end Draft

end TokenPattern
