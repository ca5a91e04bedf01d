import TokenPattern.Proofs.Net.Quiet

/-!
# Nets taken apart, node by node

`Net.Unfolds mark G x G' x'` says that a number of rewrites lead from one net to another.  This file
carries what is known of one rewrite over to all of them.

* `Unfolds.walk_of_walk` — no walk between two bare nodes is invented.
* `Unfolds.walk_iff` — none is lost either, if the net is quiet.
* `Unfolds.map` — rewriting goes along with a change of alphabet, so that what is known under one
  alphabet can be used under another; a net is often quiet only after its words have been shortened.
* `Unfolds.exists_le` — rewriting is monotone in the links: what a part of the net can do, the whole
  can do as well.
-/

namespace TokenPattern

universe u v w

namespace Net

variable {α : Type u} {σ : Type v} {σ' : Type w}

/-! ## Changing the alphabet -/

/-- The net with every letter of its words replaced by a word. -/
def map (h : σ → List σ') (G : Net α σ) : Net α σ' where
  node := G.node
  link p a s := ∃ b, G.link p b s ∧ a = b.flatMap h

/-- The words of boundaries with every letter replaced by a word. -/
def mapMark (h : σ → List σ') (mark : Marker → List σ) (m : Marker) : List σ' :=
  (mark m).flatMap h

lemma spell_mapMark (h : σ → List σ') (mark : Marker → List σ) (markers : List Marker) :
    Marker.spell (mapMark h mark) markers = (Marker.spell mark markers).flatMap h :=
  List.flatMap_assoc.symm

section

variable {mark : Marker → List σ} {G : Net α σ} {v x : Nat} {e : Expr α}

lemma link_map (h : σ → List σ') {p s : Nat} {a : List σ} (hl : G.link p a s) :
    (G.map h).link p (a.flatMap h) s := ⟨a, hl, rfl⟩

/-- Rewriting goes along with a change of alphabet. -/
lemma map_rewrite (h : σ → List σ') (mark : Marker → List σ) (G : Net α σ) (v x : Nat)
    (e : Expr α) : (G.rewrite mark v x e).map h = (G.map h).rewrite (mapMark h mark) v x e := by
  have hlink : ∀ p c s, ((G.rewrite mark v x e).map h).link p c s ↔
      Rewired (mapMark h mark) (G.map h) v x e p c s := by
    intro p c s
    constructor
    · rintro ⟨b, hb, rfl⟩
      cases hb with
      | kept hl hp hs => exact .kept (link_map h hl) hp hs
      | enter hl hp hi =>
          have hr : Rewired (mapMark h mark) (G.map h) v x e _ _ _ :=
            .enter (link_map h hl) hp hi
          simpa [spell_mapMark] using hr
      | leave hl hs hi =>
          have hr : Rewired (mapMark h mark) (G.map h) v x e _ _ _ :=
            .leave (link_map h hl) hs hi
          simpa [spell_mapMark] using hr
      | again hl hi hj =>
          have hr : Rewired (mapMark h mark) (G.map h) v x e _ _ _ :=
            .again (link_map h hl) hi hj
          simpa [spell_mapMark] using hr
      | inner hij => exact .inner hij
      | past hk hl hp hl' hs =>
          have hr : Rewired (mapMark h mark) (G.map h) v x e _ _ _ :=
            .past hk (link_map h hl) hp (link_map h hl') hs
          simpa using hr
    · intro hr
      cases hr with
      | kept hl hp hs =>
          obtain ⟨b, hl, rfl⟩ := hl
          exact ⟨b, .kept hl hp hs, rfl⟩
      | enter hl hp hi =>
          obtain ⟨b, hl, rfl⟩ := hl
          exact ⟨_, .enter hl hp hi, by simp [spell_mapMark]⟩
      | leave hl hs hi =>
          obtain ⟨b, hl, rfl⟩ := hl
          exact ⟨_, .leave hl hs hi, by simp [spell_mapMark]⟩
      | again hl hi hj =>
          obtain ⟨b, hl, rfl⟩ := hl
          exact ⟨_, .again hl hi hj, by simp [spell_mapMark]⟩
      | inner hij => exact ⟨[], .inner hij, rfl⟩
      | past hk hl hp hl' hs =>
          obtain ⟨b, hl, rfl⟩ := hl
          obtain ⟨b', hl', rfl⟩ := hl'
          exact ⟨_, .past hk hl hp hl' hs, by simp⟩
  exact Net.ext rfl (funext fun p => funext fun c => funext fun s => propext (hlink p c s))

lemma map_map {ω : Type*} (f : σ → List σ') (h : σ' → List ω) (G : Net α σ) :
    (G.map f).map h = G.map fun a => (f a).flatMap h := by
  refine Net.ext rfl ?_
  funext p a s
  refine propext ⟨?_, ?_⟩
  · rintro ⟨_, ⟨b, hl, rfl⟩, rfl⟩
    exact ⟨b, hl, List.flatMap_assoc⟩
  · rintro ⟨b, hl, rfl⟩
    exact ⟨_, link_map f hl, List.flatMap_assoc.symm⟩

/-- Walks go along with a change of alphabet under which the words at the nodes stay words. -/
lemma Walk.map {R : Reading α σ} {R' : Reading α σ'} {h : σ → List σ'}
    (hR : ∀ {q f z}, G.node q = some f → z ∈ f.denote R → z.flatMap h ∈ f.denote R') {p s : Nat}
    {t : List σ} (hw : G.Walk R p t s) : (G.map h).Walk R' p (t.flatMap h) s := by
  induction hw with
  | link hl => exact .link (link_map h hl)
  | step _ hq hz hl ih =>
      rw [List.flatMap_append, List.flatMap_append]
      exact .step ih hq (hR hq hz) (link_map h hl)

/-- Walks are lifted along a change of alphabet if the words at the nodes are. -/
lemma exists_walk_of_walk_map {R : Reading α σ} {R' : Reading α σ'} {h : σ → List σ'}
    (hR : ∀ {q f z'}, G.node q = some f → z' ∈ f.denote R' → ∃ z ∈ f.denote R, z.flatMap h = z')
    {p s : Nat} {t' : List σ'} (hw : (G.map h).Walk R' p t' s) :
    ∃ t, G.Walk R p t s ∧ t.flatMap h = t' := by
  induction hw with
  | link hl =>
      obtain ⟨b, hl, rfl⟩ := hl
      exact ⟨b, .link hl, rfl⟩
  | step _ hq hz hl ih =>
      obtain ⟨t, hw, rfl⟩ := ih
      obtain ⟨z, hz', rfl⟩ := hR hq hz
      obtain ⟨b, hl, rfl⟩ := hl
      exact ⟨t ++ z ++ b, .step hw hq hz' hl, by simp⟩

lemma Below.map (hG : G.Below x) (h : σ → List σ') : (G.map h).Below x where
  node := hG.node
  source hl := hG.source hl.choose_spec.1
  target hl := hG.target hl.choose_spec.1

lemma Below.lt (hG : G.Below x) (hv : G.node v = some e) : v < x := by
  by_contra hle
  rw [hG.node (Nat.le_of_not_lt hle)] at hv
  exact absurd hv (by simp)

lemma map_pure (G : Net α σ) : G.map pure = G := by
  refine Net.ext rfl ?_
  funext p a s
  refine propext ⟨?_, fun hl => ⟨a, hl, (List.flatMap_singleton' a).symm⟩⟩
  rintro ⟨b, hl, rfl⟩
  rwa [show b.flatMap pure = b from List.flatMap_singleton' b]

/-- The operands get numbers of their own. -/
lemma Below.rewrite (hG : G.Below x) (hv : G.node v = some e) :
    (G.rewrite mark v x e).Below (x + e.children.length) where
  node {i} hi := by
    have hvx := hG.lt hv
    obtain ⟨j, rfl⟩ := Nat.exists_eq_add_of_le (Nat.le_of_add_right_le hi)
    rw [node_rewrite_operand hvx]
    exact List.getElem?_eq_none (by omega)
  source {p s a} hl := by
    cases hl with
    | kept hl _ _ => exact Nat.lt_add_right _ (hG.source hl)
    | enter hl _ _ => exact Nat.lt_add_right _ (hG.source hl)
    | leave _ _ hi => exact Nat.add_lt_add_left (e.lt_length_of_mem_exits hi) x
    | again _ hi _ => exact Nat.add_lt_add_left (e.lt_length_of_mem_exits hi) x
    | inner hij => exact Nat.add_lt_add_left (e.lt_length_of_mem_inner hij).1 x
    | past _ hl _ _ _ => exact Nat.lt_add_right _ (hG.source hl)
  target {p s a} hl := by
    cases hl with
    | kept hl _ _ => exact Nat.lt_add_right _ (hG.target hl)
    | enter _ _ hi => exact Nat.add_lt_add_left (e.lt_length_of_mem_entries hi) x
    | leave hl _ _ => exact Nat.lt_add_right _ (hG.target hl)
    | again _ _ hj => exact Nat.add_lt_add_left (e.lt_length_of_mem_entries hj) x
    | inner hij => exact Nat.add_lt_add_left (e.lt_length_of_mem_inner hij).2 x
    | past _ _ _ hl _ => exact Nat.lt_add_right _ (hG.target hl)

end

/-! ## Many rewrites -/

/-- The node to be taken apart next: among those that are no leaves, the one with the highest
number. -/
structure Next (G : Net α σ) (v : Nat) (e : Expr α) : Prop where
  node : G.node v = some e
  children_ne : e.children ≠ []
  le : ∀ {i : Nat} {f : Expr α}, G.node i = some f → f.children ≠ [] → i ≤ v

/-- Whether nothing is left to be taken apart from number `k` on. -/
def LeavesFrom (k : Nat) (G : Net α σ) : Prop :=
  ∀ {i : Nat} {f : Expr α}, k ≤ i → G.node i = some f → f.children = []

lemma LeavesFrom.map {G : Net α σ} {k : Nat} (hG : G.LeavesFrom k) (f : σ → List σ') :
    (G.map f).LeavesFrom k := hG

/-- A number of rewrites, in whatever order, lead from `G`, whose numbers end at `x`, to `G'`, whose
numbers end at `x'`. -/
inductive Rewrites (mark : Marker → List σ) (G : Net α σ) (x : Nat) : Net α σ → Nat → Prop
  | refl : Rewrites mark G x G x
  | step {G' : Net α σ} {x' v : Nat} {e : Expr α} : Rewrites mark G x G' x' → G'.node v = some e →
      e.children ≠ [] → Rewrites mark G x (G'.rewrite mark v x' e) (x' + e.children.length)

/-- The same with the next node at every turn. -/
inductive Unfolds (mark : Marker → List σ) (G : Net α σ) (x : Nat) : Net α σ → Nat → Prop
  | refl : Unfolds mark G x G x
  | step {G' : Net α σ} {x' v : Nat} {e : Expr α} : Unfolds mark G x G' x' → G'.Next v e →
      Unfolds mark G x (G'.rewrite mark v x' e) (x' + e.children.length)

lemma Next.map {G : Net α σ} {v : Nat} {e : Expr α} (h : G.Next v e) (f : σ → List σ') :
    (G.map f).Next v e := ⟨h.node, h.children_ne, h.le⟩

lemma Next.of_map {G : Net α σ} {v : Nat} {e : Expr α} {f : σ → List σ'}
    (h : (G.map f).Next v e) : G.Next v e := ⟨h.node, h.children_ne, h.le⟩

/-- Only one node is next. -/
lemma Next.unique {G : Net α σ} {u v : Nat} {e f : Expr α} (hu : G.Next u e) (hv : G.Next v f) :
    u = v ∧ e = f := by
  obtain rfl : u = v :=
    Nat.le_antisymm (hv.le hu.node hu.children_ne) (hu.le hv.node hv.children_ne)
  exact ⟨rfl, Option.some.inj (hu.node.symm.trans hv.node)⟩

namespace Rewrites

variable {mark : Marker → List σ} {G G' H : Net α σ} {x x' : Nat}

lemma keeps_below (h : Rewrites mark G x G' x') (hG : G.Below x) : G'.Below x' := by
  induction h with
  | refl => exact hG
  | step _ hv _ ih => exact ih.rewrite hv

lemma le (h : Rewrites mark G x G' x') : x ≤ x' := by
  induction h with
  | refl => exact Nat.le_refl x
  | step _ _ _ ih => exact Nat.le_add_right_of_le ih

lemma map (h : Rewrites mark G x G' x') (f : σ → List σ') :
    Rewrites (mapMark f mark) (G.map f) x (G'.map f) x' := by
  induction h with
  | refl => exact .refl
  | step _ hv he ih =>
      rw [map_rewrite]
      exact ih.step hv he

/-- Bare nodes stay bare. -/
lemma node_eq_none (h : Rewrites mark G x G' x') {p : Nat} (hp : p < x) (hn : G.node p = none) :
    G'.node p = none := by
  induction h with
  | refl => exact hn
  | @step G' x' v e hu hv he ih =>
      have hpv : p ≠ v := by
        rintro rfl
        exact absurd (ih.symm.trans hv) (by simp)
      rw [node_rewrite_of_lt (Nat.lt_of_lt_of_le hp hu.le) hpv, ih]

/-- **No walk between bare nodes is invented.** -/
theorem walk_of_walk {R : Reading α σ} (h : Rewrites R.mark G x G' x') (hG : G.Below x) {p s : Nat}
    (hp : p < x) (hs : s < x) {t : List σ} (hw : G'.Walk R p t s) : G.Walk R p t s := by
  induction h with
  | refl => exact hw
  | step hu hv _ ih =>
      have hb := hu.keeps_below hG
      exact ih (walk_of_walk_rewrite hb hv (hb.lt hv) (Nat.lt_of_lt_of_le hp hu.le)
        (Nat.lt_of_lt_of_le hs hu.le) hw)

lemma quiet {C : Set (List σ)} (h : Rewrites Marker.silent G x G' x') (hG : G.Below x)
    (hq : G.Quiet C) : G'.Quiet C := by
  induction h with
  | refl => exact hq
  | step hu hv _ ih =>
      have hb := hu.keeps_below hG
      exact ih.rewrite hb hv (hb.lt hv)

/-- **No walk between bare nodes is lost or invented**, if the net is quiet after a change of
alphabet that forgets all boundaries, but does not forget what is on a loop. -/
theorem walk_iff {R : Reading α σ} (h : Rewrites R.mark G x G' x') (hG : G.Below x)
    {f : σ → List σ'} (hf : mapMark f R.mark = Marker.silent) {C : Set (List σ')}
    (hC : ∀ a : List σ, a.flatMap f ∈ C → a = []) (hq : (G.map f).Quiet C) {p s : Nat}
    (hp : p < x) (hs : s < x) (hpn : G.node p = none) (hsn : G.node s = none) {t : List σ} :
    G'.Walk R p t s ↔ G.Walk R p t s := by
  refine ⟨h.walk_of_walk hG hp hs, fun hw => ?_⟩
  induction h with
  | refl => exact hw
  | @step G' x' v e hu hv he ih =>
      have hb := hu.keeps_below hG
      have hquiet : (G'.map f).Quiet C := (hf ▸ hu.map f).quiet (hG.map f) hq
      have hloops : G'.LoopsTrivial v e := fun hk a hl =>
        hC a (hquiet.cycle hv (Expr.nullable_of_skips hk) (Walk.link ⟨a, hl, rfl⟩))
      have hne : ∀ {q}, q < x → G.node q = none → q ≠ v := by
        rintro q hqx hq rfl
        exact absurd ((hu.node_eq_none hqx hq).symm.trans hv) (by simp)
      exact (walk_rewrite_of_walk hb hv (hb.lt hv) he hloops (hne hp hpn) ih).1
        (hne hs hsn)

/-- The same if the boundaries have no words anyway. -/
lemma walk_iff_of_quiet {R : Reading α σ} (h : Rewrites R.mark G x G' x') (hG : G.Below x)
    (hR : R.mark = Marker.silent) (hq : G.Quiet {[]}) {p s : Nat} (hp : p < x) (hs : s < x)
    (hpn : G.node p = none) (hsn : G.node s = none) {t : List σ} :
    G'.Walk R p t s ↔ G.Walk R p t s := by
  have hmark : mapMark pure R.mark = (Marker.silent : Marker → List σ) := by
    rw [hR]
    rfl
  have hloops : ∀ a : List σ, a.flatMap pure ∈ ({[]} : Set (List σ)) → a = [] := by
    intro a ha
    rwa [show a.flatMap pure = a from List.flatMap_singleton' a] at ha
  exact h.walk_iff hG hmark hloops (by rwa [map_pure]) hp hs hpn hsn

end Rewrites

namespace Unfolds

variable {mark : Marker → List σ} {G G' H : Net α σ} {x x' : Nat}

lemma rewrites (h : Unfolds mark G x G' x') : Rewrites mark G x G' x' := by
  induction h with
  | refl => exact .refl
  | step _ hv ih => exact ih.step hv.node hv.children_ne

lemma map (h : Unfolds mark G x G' x') (f : σ → List σ') :
    Unfolds (mapMark f mark) (G.map f) x (G'.map f) x' := by
  induction h with
  | refl => exact .refl
  | step _ hv ih =>
      rw [map_rewrite]
      exact ih.step (hv.map f)

/-- What becomes of an image of a net is the image of what becomes of the net. -/
lemma exists_of_map {T : Net α σ'} {f : σ' → List σ} {mark' : Marker → List σ'}
    (h : Unfolds mark (T.map f) x G' x') (hmark : mapMark f mark' = mark) :
    ∃ T', Unfolds mark' T x T' x' ∧ G' = T'.map f := by
  induction h with
  | refl => exact ⟨T, .refl, rfl⟩
  | step _ hv ih =>
      obtain ⟨T', hu, rfl⟩ := ih
      refine ⟨_, hu.step hv.of_map, ?_⟩
      rw [map_rewrite, hmark]

/-- The first rewrite is that of the node that is next. -/
lemma eq_or_rewrite {v : Nat} {e : Expr α} (h : Unfolds mark G x G' x') (hv : G.Next v e) :
    (G' = G ∧ x' = x) ∨
      Unfolds mark (G.rewrite mark v x e) (x + e.children.length) G' x' := by
  induction h with
  | refl => exact Or.inl ⟨rfl, rfl⟩
  | step _ hnext ih =>
      rcases ih with ⟨rfl, rfl⟩ | ih
      · obtain ⟨rfl, rfl⟩ := hnext.unique hv
        exact Or.inr .refl
      · exact Or.inr (ih.step hnext)

lemma of_next {v : Nat} {e : Expr α} (h : Unfolds mark G x G' x') (hv : G.Next v e)
    (hleaves : G'.LeavesFrom 0) :
    Unfolds mark (G.rewrite mark v x e) (x + e.children.length) G' x' := by
  rcases h.eq_or_rewrite hv with ⟨rfl, _⟩ | h
  · exact absurd (hleaves (Nat.zero_le v) hv.node) hv.children_ne
  · exact h

end Unfolds

/-! ## Fewer links -/

/-- More links before a rewrite give more links after it. -/
lemma Rewired.mono {mark : Marker → List σ} {G H : Net α σ} {v x : Nat} {e : Expr α}
    (h : ∀ {p a s}, H.link p a s → G.link p a s) {p s : Nat} {a : List σ}
    (hr : Rewired mark H v x e p a s) : Rewired mark G v x e p a s := by
  cases hr with
  | kept hl hp hs => exact .kept (h hl) hp hs
  | enter hl hp hi => exact .enter (h hl) hp hi
  | leave hl hs hi => exact .leave (h hl) hs hi
  | again hl hi hj => exact .again (h hl) hi hj
  | inner hij => exact .inner hij
  | past hk hl hp hl' hs => exact .past hk (h hl) hp (h hl') hs

/-- `H` has the nodes of `G` and some of its links. -/
structure Le (H G : Net α σ) : Prop where
  node : H.node = G.node
  link : ∀ {p s : Nat} {a : List σ}, H.link p a s → G.link p a s

namespace Le

variable {mark : Marker → List σ} {G G' H : Net α σ} {x x' v : Nat} {e : Expr α}

lemma below (h : H.Le G) (hG : G.Below x) : H.Below x where
  node hi := by rw [h.node]; exact hG.node hi
  source hl := hG.source (h.link hl)
  target hl := hG.target (h.link hl)

lemma rewrite (h : H.Le G) : (H.rewrite mark v x e).Le (G.rewrite mark v x e) where
  node := by simp only [Net.rewrite, h.node]
  link hr := hr.mono h.link

lemma map (h : H.Le G) (f : σ → List σ') : (H.map f).Le (G.map f) where
  node := h.node
  link hl := ⟨_, h.link hl.choose_spec.1, hl.choose_spec.2⟩

lemma walk {R : Reading α σ} (h : H.Le G) {p s : Nat} {t : List σ} (hw : H.Walk R p t s) :
    G.Walk R p t s := by
  induction hw with
  | link hl => exact .link (h.link hl)
  | step _ hq hz hl ih => exact .step ih (h.node ▸ hq) hz (h.link hl)

end Le

/-- What a part of a net becomes is a part of what the net becomes. -/
lemma Unfolds.exists_le {mark : Marker → List σ} {G G' H : Net α σ} {x x' : Nat}
    (h : Unfolds mark G x G' x') (hle : H.Le G) : ∃ H', Unfolds mark H x H' x' ∧ H'.Le G' := by
  induction h with
  | refl => exact ⟨H, .refl, hle⟩
  | step _ hv ih =>
      obtain ⟨H', hu, hle'⟩ := ih
      have hv' : H'.Next _ _ := ⟨hle'.node ▸ hv.node, hv.children_ne, by rw [hle'.node]; exact hv.le⟩
      exact ⟨_, hu.step hv', hle'.rewrite⟩

end Net

end TokenPattern
