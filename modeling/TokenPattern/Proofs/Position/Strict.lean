import TokenPattern.Proofs.Position.Automaton

/-!
# Patterns whose edges are single

In the graph of a pattern two edges may lead from one node to another, with different boundaries: two
ways to come from a leaf to the next.  A pattern is *strict* if it can be empty in one way only, that
is, if no body of an option or a repetition can be empty and no two alternatives can
(`Expr.strict`).  Between two nodes of the graph of a strict pattern there is at most one edge.

* `Expr.nullable_of_mem_follows` — a round of a repetition can be told from the next: what follows a
  leaf within the body cannot follow it in the next round, unless the body may be empty.
* `Expr.eq_of_mem_derivations` — so the leaves of a derivation determine it.
* `Graph.eq_of_mem_edgesFrom` — edges are parts of derivations.
-/

namespace TokenPattern

open scoped Computability

universe u v

namespace Expr

variable {α : Type u} {β : Type v}

/-- Whether a pattern can be empty in at most one way. -/
def strict : Expr α → Bool
  | leaf _ => true
  | concat l r => l.strict && r.strict
  | alt l r => l.strict && r.strict && !(l.nullable && r.nullable)
  | maybe x | star x => x.strict && !x.nullable
  | capture _ x => x.strict

lemma strict_map (f : α → β) (e : Expr α) : (e.map f).strict = e.strict := by
  induction e with
  | leaf m => rfl
  | concat l r ihl ihr => simp only [map, strict, ihl, ihr]
  | alt l r ihl ihr => simp only [map, strict, ihl, ihr, nullable_map]
  | maybe x ih => simp only [map, strict, ih, nullable_map]
  | star x ih => simp only [map, strict, ih, nullable_map]
  | capture n x ih => simp only [map, strict, ih]

lemma strict_numbered (e : Expr α) : e.numbered.strict = e.strict := by
  rw [numbered, strict_map, ← strict_map Prod.fst, map_fst_indexed]

/-! ## Neighbours within a round and across rounds -/

variable {e : Expr α} {a b : α}

lemma mem_leaves_of_mem_firsts (h : a ∈ e.firsts) : a ∈ e.leaves := by
  obtain ⟨w, hw, hfront⟩ := (mem_firsts_iff e).1 h
  exact mem_leaves_of_mem_words hw (hfront.subset (List.mem_singleton_self a))

lemma mem_leaves_of_mem_lasts (h : a ∈ e.lasts) : a ∈ e.leaves := by
  obtain ⟨w, hw, hsuffix⟩ := (mem_lasts_iff e).1 h
  exact mem_leaves_of_mem_words hw (hsuffix.subset (List.mem_singleton_self a))

lemma mem_leaves_of_mem_follows (h : (a, b) ∈ e.follows) : a ∈ e.leaves ∧ b ∈ e.leaves := by
  obtain ⟨w, hw, hinner⟩ := (mem_follows_iff e).1 h
  have hmem : ∀ c ∈ [a, b], c ∈ e.leaves := fun c hc =>
    mem_leaves_of_mem_words hw (hinner.subset hc)
  exact ⟨hmem a (by simp), hmem b (by simp)⟩

section

variable {l r : Expr α}

/-- A leaf of the left part is the last of both if the right part may be empty. -/
lemma last_of_concat_left (hdisjoint : l.leaves.Disjoint r.leaves) (h : a ∈ (concat l r).lasts)
    (ha : a ∈ l.leaves) : r.nullable = true ∧ a ∈ l.lasts := by
  rw [lasts, List.mem_append] at h
  rcases h with h | h
  · exact absurd (mem_leaves_of_mem_lasts h) (hdisjoint ha)
  · split_ifs at h with hnull
    · exact ⟨hnull, h⟩
    · simp at h

lemma last_of_concat_right (hdisjoint : l.leaves.Disjoint r.leaves) (h : a ∈ (concat l r).lasts)
    (ha : a ∈ r.leaves) : a ∈ r.lasts := by
  rw [lasts, List.mem_append] at h
  refine h.resolve_right fun h => ?_
  split_ifs at h
  · exact hdisjoint (mem_leaves_of_mem_lasts h) ha
  · simp at h

lemma first_of_concat_left (hdisjoint : l.leaves.Disjoint r.leaves) (h : a ∈ (concat l r).firsts)
    (ha : a ∈ l.leaves) : a ∈ l.firsts := by
  rw [firsts, List.mem_append] at h
  refine h.resolve_right fun h => ?_
  split_ifs at h
  · exact hdisjoint ha (mem_leaves_of_mem_firsts h)
  · simp at h

/-- A leaf of the right part is the first of both if the left part may be empty. -/
lemma first_of_concat_right (hdisjoint : l.leaves.Disjoint r.leaves)
    (h : a ∈ (concat l r).firsts) (ha : a ∈ r.leaves) : l.nullable = true ∧ a ∈ r.firsts := by
  rw [firsts, List.mem_append] at h
  rcases h with h | h
  · exact absurd ha (hdisjoint (mem_leaves_of_mem_firsts h))
  · split_ifs at h with hnull
    · exact ⟨hnull, h⟩
    · simp at h

end

/-- If a leaf may follow another, and also begin the next round after it, then a round may be
empty. -/
theorem nullable_of_mem_follows (hnodup : e.leaves.Nodup) (hab : (a, b) ∈ e.follows)
    (ha : a ∈ e.lasts) (hb : b ∈ e.firsts) : e.nullable = true := by
  induction e with
  | leaf m => simp [follows] at hab
  | concat l r ihl ihr =>
      rw [leaves, List.nodup_append'] at hnodup
      obtain ⟨hl, hr, hdisjoint⟩ := hnodup
      rw [follows, List.mem_append, List.mem_append, List.mem_product] at hab
      rw [nullable, Bool.and_eq_true]
      rcases hab with (hab | hab) | ⟨hal, hbr⟩
      · obtain ⟨hal, hbl⟩ := mem_leaves_of_mem_follows hab
        obtain ⟨hnull, ha⟩ := last_of_concat_left hdisjoint ha hal
        exact ⟨ihl hl hab ha (first_of_concat_left hdisjoint hb hbl), hnull⟩
      · obtain ⟨har, hbr⟩ := mem_leaves_of_mem_follows hab
        obtain ⟨hnull, hb⟩ := first_of_concat_right hdisjoint hb hbr
        exact ⟨hnull, ihr hr hab (last_of_concat_right hdisjoint ha har) hb⟩
      · exact ⟨(first_of_concat_right hdisjoint hb (mem_leaves_of_mem_firsts hbr)).1,
          (last_of_concat_left hdisjoint ha (mem_leaves_of_mem_lasts hal)).1⟩
  | alt l r ihl ihr =>
      rw [leaves, List.nodup_append'] at hnodup
      obtain ⟨hl, hr, hdisjoint⟩ := hnodup
      rw [lasts, List.mem_append] at ha
      rw [firsts, List.mem_append] at hb
      rw [follows, List.mem_append] at hab
      rw [nullable, Bool.or_eq_true]
      rcases hab with hab | hab
      · obtain ⟨hal, hbl⟩ := mem_leaves_of_mem_follows hab
        refine Or.inl (ihl hl hab (ha.resolve_right fun har => ?_) (hb.resolve_right fun hbr => ?_))
        · exact hdisjoint hal (mem_leaves_of_mem_lasts har)
        · exact hdisjoint hbl (mem_leaves_of_mem_firsts hbr)
      · obtain ⟨har, hbr⟩ := mem_leaves_of_mem_follows hab
        refine Or.inr (ihr hr hab (ha.resolve_left fun hal => ?_) (hb.resolve_left fun hbl => ?_))
        · exact hdisjoint (mem_leaves_of_mem_lasts hal) har
        · exact hdisjoint (mem_leaves_of_mem_firsts hbl) hbr
  | maybe x ih => rfl
  | star x ih => rfl
  | capture n x ih => exact ih hnodup hab ha hb

/-- Words one after the other can be told apart if no neighbours within a word may also stand across
the seam of two. -/
lemma eq_of_flatten_eq {W : Language α} {L L' : List (List α)}
    (hseam : ∀ a b, (∃ w ∈ W, [a] <:+ w) → (∃ w ∈ W, [b] <+: w) → ¬ ∃ w ∈ W, [a, b] <:+: w)
    (hL : ∀ w ∈ L, w ∈ W ∧ w ≠ []) (hL' : ∀ w ∈ L', w ∈ W ∧ w ≠ [])
    (h : L.flatten = L'.flatten) : L = L' := by
  -- A word does not go on where another one ends.
  have hstop : ∀ {w w' z : List α} {M : List (List α)}, w ∈ W → w ≠ [] → w' ∈ W → w' = w ++ z →
      (∀ v ∈ M, v ∈ W ∧ v ≠ []) → (∃ y, M.flatten = z ++ y) → z = [] := by
    intro w w' z M hw hne hw' heq hM hz
    by_contra hznil
    obtain ⟨b, z, rfl⟩ := List.exists_cons_of_ne_nil hznil
    obtain ⟨y, hy⟩ := hz
    obtain ⟨v, hv, hvb⟩ := exists_mem_of_prefix_flatten (L := M) (a := b) ⟨z ++ y, by rw [hy]; rfl⟩
    obtain ⟨x, a, rfl⟩ := List.eq_nil_or_concat' w |>.resolve_left hne
    refine hseam a b ⟨_, hw, x, rfl⟩ ⟨v, (hM v hv).1, hvb⟩ ⟨w', hw', x, z, ?_⟩
    rw [heq]
    simp
  induction L generalizing L' with
  | nil =>
      cases L' with
      | nil => rfl
      | cons w' L' =>
          have hnil := (List.append_eq_nil_iff.1 h.symm).1
          exact absurd hnil (hL' w' List.mem_cons_self).2
  | cons w L ih =>
      rw [List.forall_mem_cons] at hL
      cases L' with
      | nil => exact absurd (List.append_eq_nil_iff.1 h).1 hL.1.2
      | cons w' L' =>
          rw [List.forall_mem_cons] at hL'
          rw [List.flatten_cons, List.flatten_cons] at h
          have hww : w = w' := by
            rcases List.append_eq_append_iff.1 h with ⟨z, hz, hrest⟩ | ⟨z, hz, hrest⟩
            · have hnil := hstop hL.1.1 hL.1.2 hL'.1.1 hz hL.2 ⟨_, hrest⟩
              rw [hz, hnil, List.append_nil]
            · have hnil := hstop hL'.1.1 hL'.1.2 hL.1.1 hz hL'.2 ⟨_, hrest⟩
              rw [hz, hnil, List.append_nil]
          subst hww
          rw [ih hL.2 hL'.2 (List.append_cancel_left h)]

/-! ## Derivations -/

lemma forget_flatten (L : List (List (Marker ⊕ α))) :
    L.flatten.flatMap Marker.forget = (L.map fun t => t.flatMap Marker.forget).flatten := by
  induction L with
  | nil => rfl
  | cons t L ih => rw [List.flatten_cons, List.flatMap_append, ih, List.map_cons, List.flatten_cons]

lemma forget_capture (n : String) (t : List (Marker ⊕ α)) :
    ([Sum.inl (Marker.start n)] ++ t ++ [Sum.inl (Marker.stop n)]).flatMap Marker.forget =
      t.flatMap Marker.forget := by
  simp [Marker.forget]

/-- The leaves of a derivation are a word of the pattern. -/
lemma forget_mem_words {t : List (Marker ⊕ α)} (h : t ∈ e.derivations) :
    t.flatMap Marker.forget ∈ e.words := by
  induction e generalizing t with
  | leaf m =>
      obtain rfl : t = [.inr m] := h
      rfl
  | concat l r ihl ihr =>
      obtain ⟨u, hu, v, hv, rfl⟩ := h
      simp only [List.flatMap_append]
      exact Language.append_mem_mul (ihl hu) (ihr hv)
  | alt l r ihl ihr =>
      rcases h with h | h
      · exact Or.inl (ihl h)
      · exact Or.inr (ihr h)
  | maybe x ih =>
      rcases h with rfl | h
      · exact Or.inl rfl
      · exact Or.inr (ih h)
  | star x ih =>
      obtain ⟨L, rfl, hL⟩ := Language.mem_kstar.1 h
      rw [forget_flatten, words_star]
      refine Language.join_mem_kstar fun w hw => ?_
      obtain ⟨t, ht, rfl⟩ := List.mem_map.1 hw
      exact ih (hL t ht)
  | capture n x ih =>
      obtain ⟨_, ⟨_, rfl, t, ht, rfl⟩, _, rfl, rfl⟩ := h
      rw [words_capture]
      exact (forget_capture n t).symm ▸ ih ht

/-- Only a nullable pattern has a derivation without leaves. -/
lemma nullable_of_forget_eq_nil {t : List (Marker ⊕ α)} (h : t ∈ e.derivations)
    (hnil : t.flatMap Marker.forget = []) : e.nullable = true := by
  rw [nullable_iff_nil_mem_words, ← hnil]
  exact forget_mem_words h

lemma forget_ne_nil (hnull : e.nullable = false) {t : List (Marker ⊕ α)}
    (h : t ∈ e.derivations) : t.flatMap Marker.forget ≠ [] := by
  intro hnil
  rw [nullable_of_forget_eq_nil h hnil] at hnull
  cases hnull

/-- Words over two sets of leaves with nothing in common fall into their parts in one way. -/
lemma append_inj_of_disjoint {A B : List α} (hdisjoint : A.Disjoint B) {u u' v v' : List α}
    (hu : u ⊆ A) (hu' : u' ⊆ A) (hv : v ⊆ B) (hv' : v' ⊆ B) (h : u ++ v = u' ++ v') :
    u = u' ∧ v = v' := by
  have hnil : ∀ {z : List α}, z ⊆ A → z ⊆ B → z = [] := fun hA hB =>
    List.eq_nil_iff_forall_not_mem.2 fun a ha => hdisjoint (hA ha) (hB ha)
  rcases List.append_eq_append_iff.1 h with ⟨z, hz, hrest⟩ | ⟨z, hz, hrest⟩
  · have hznil : z = [] := hnil (fun a ha => hu' (hz ▸ List.mem_append_right u ha))
      fun a ha => hv (hrest ▸ List.mem_append_left v' ha)
    subst hznil
    exact ⟨by simpa using hz.symm, by simpa using hrest⟩
  · have hznil : z = [] := hnil (fun a ha => hu (hz ▸ List.mem_append_right u' ha))
      fun a ha => hv' (hrest ▸ List.mem_append_left v ha)
    subst hznil
    exact ⟨by simpa using hz, by simpa using hrest.symm⟩

/-- The rounds of a repetition are determined by their leaves if every round is. -/
lemma rounds_eq (hnodup : e.leaves.Nodup) (hnull : e.nullable = false)
    (hround : ∀ {t t' : List (Marker ⊕ α)}, t ∈ e.derivations → t' ∈ e.derivations →
      t.flatMap Marker.forget = t'.flatMap Marker.forget → t = t')
    {L L' : List (List (Marker ⊕ α))} (hL : ∀ t ∈ L, t ∈ e.derivations)
    (hL' : ∀ t ∈ L', t ∈ e.derivations)
    (h : L.flatten.flatMap Marker.forget = L'.flatten.flatMap Marker.forget) : L = L' := by
  have hseam : ∀ a b, (∃ w ∈ e.words, [a] <:+ w) → (∃ w ∈ e.words, [b] <+: w) →
      ¬ ∃ w ∈ e.words, [a, b] <:+: w := by
    intro a b ha hb hab
    rw [← mem_lasts_iff] at ha
    rw [← mem_firsts_iff] at hb
    rw [← mem_follows_iff] at hab
    rw [nullable_of_mem_follows hnodup hab ha hb] at hnull
    cases hnull
  have hwords : ∀ {M : List (List (Marker ⊕ α))}, (∀ t ∈ M, t ∈ e.derivations) →
      ∀ w ∈ M.map fun t => t.flatMap Marker.forget, w ∈ e.words ∧ w ≠ [] := by
    intro M hM w hw
    obtain ⟨t, ht, rfl⟩ := List.mem_map.1 hw
    exact ⟨forget_mem_words (hM t ht), forget_ne_nil hnull (hM t ht)⟩
  rw [forget_flatten, forget_flatten] at h
  have hmap := eq_of_flatten_eq hseam (hwords hL) (hwords hL') h
  clear h
  induction L generalizing L' with
  | nil => exact (List.map_eq_nil_iff.1 hmap.symm).symm
  | cons t L ih =>
      obtain ⟨t', L', rfl, ht, hrest⟩ := List.map_eq_cons_iff.1 hmap.symm
      rw [List.forall_mem_cons] at hL hL'
      rw [hround hL.1 hL'.1 ht.symm, ih hL.2 hL'.2 hrest.symm]

/-- **The leaves of a derivation of a strict pattern determine it.** -/
theorem eq_of_mem_derivations (hnodup : e.leaves.Nodup) (hstrict : e.strict = true)
    {t t' : List (Marker ⊕ α)} (ht : t ∈ e.derivations) (ht' : t' ∈ e.derivations)
    (h : t.flatMap Marker.forget = t'.flatMap Marker.forget) : t = t' := by
  have hleaves : ∀ {x : Expr α} {t : List (Marker ⊕ α)}, t ∈ x.derivations →
      t.flatMap Marker.forget ⊆ x.leaves := fun ht _ ha =>
    mem_leaves_of_mem_words (forget_mem_words ht) ha
  induction e generalizing t t' with
  | leaf m =>
      obtain rfl : t = [.inr m] := ht
      obtain rfl : t' = [.inr m] := ht'
      rfl
  | concat l r ihl ihr =>
      rw [leaves, List.nodup_append'] at hnodup
      obtain ⟨hl, hr, hdisjoint⟩ := hnodup
      simp only [strict, Bool.and_eq_true] at hstrict
      obtain ⟨u, hu, v, hv, rfl⟩ := ht
      obtain ⟨u', hu', v', hv', rfl⟩ := ht'
      simp only [List.flatMap_append] at h
      obtain ⟨huu, hvv⟩ := append_inj_of_disjoint hdisjoint (hleaves hu) (hleaves hu')
        (hleaves hv) (hleaves hv') h
      rw [ihl hl hstrict.1 hu hu' huu, ihr hr hstrict.2 hv hv' hvv]
  | alt l r ihl ihr =>
      rw [leaves, List.nodup_append'] at hnodup
      obtain ⟨hl, hr, hdisjoint⟩ := hnodup
      simp only [strict, Bool.and_eq_true, Bool.not_eq_true'] at hstrict
      -- Two derivations on different sides have no leaf in common, so both are empty.
      have hsides : ∀ {u v : List (Marker ⊕ α)}, u ∈ l.derivations → v ∈ r.derivations →
          u.flatMap Marker.forget ≠ v.flatMap Marker.forget := by
        intro u v hu hv huv
        have hnil : u.flatMap Marker.forget = [] := List.eq_nil_iff_forall_not_mem.2 fun a ha =>
          hdisjoint (hleaves hu ha) (hleaves hv (huv ▸ ha))
        have hboth : (l.nullable && r.nullable) = true := by
          rw [nullable_of_forget_eq_nil hu hnil, nullable_of_forget_eq_nil hv (huv ▸ hnil)]
          rfl
        rw [hstrict.2] at hboth
        cases hboth
      rcases ht with ht | ht
      · rcases ht' with ht' | ht'
        · exact ihl hl hstrict.1.1 ht ht' h
        · exact absurd h (hsides ht ht')
      · rcases ht' with ht' | ht'
        · exact absurd h.symm (hsides ht' ht)
        · exact ihr hr hstrict.1.2 ht ht' h
  | maybe x ih =>
      simp only [strict, Bool.and_eq_true, Bool.not_eq_true'] at hstrict
      rcases ht with rfl | ht
      · rcases ht' with rfl | ht'
        · rfl
        · exact absurd h.symm (forget_ne_nil hstrict.2 ht')
      · rcases ht' with rfl | ht'
        · exact absurd h (forget_ne_nil hstrict.2 ht)
        · exact ih hnodup hstrict.1 ht ht' h
  | star x ih =>
      simp only [strict, Bool.and_eq_true, Bool.not_eq_true'] at hstrict
      obtain ⟨L, rfl, hL⟩ := Language.mem_kstar.1 ht
      obtain ⟨L', rfl, hL'⟩ := Language.mem_kstar.1 ht'
      rw [rounds_eq (e := x) hnodup hstrict.2 (fun ht ht' => ih hnodup hstrict.1 ht ht') hL hL' h]
  | capture n x ih =>
      obtain ⟨_, ⟨_, rfl, u, hu, rfl⟩, _, rfl, rfl⟩ := ht
      obtain ⟨_, ⟨_, rfl, u', hu', rfl⟩, _, rfl, rfl⟩ := ht'
      have huu : u.flatMap Marker.forget = u'.flatMap Marker.forget :=
        ((forget_capture n u).symm.trans h).trans (forget_capture n u')
      rw [ih hnodup hstrict hu hu' huu]

end Expr

/-! ## Edges -/

namespace Graph

variable {α : Type u} {e : Expr α} {p q : NodeId} {a b : List Marker}

/-- **Between two nodes of the graph of a strict pattern there is at most one edge.** -/
theorem eq_of_mem_edgesFrom (h : e.strict = true) (ha : (⟨q, a⟩ : Edge) ∈ (ofExpr e).edgesFrom p)
    (hb : (⟨q, b⟩ : Edge) ∈ (ofExpr e).edgesFrom p) : a = b := by
  have hnodup := e.nodup_leaves_numbered
  -- Accepted routes with the same leaves are derivations with the same leaves.
  have hroutes : ∀ {r r' : List (Move Nat)} {c c' : List Marker},
      (ofExpr e.numbered).IsRoute NodeId.initial r →
      (⟨NodeId.terminal, c⟩ : Edge) ∈ (ofExpr e).edgesFrom (routeEnd NodeId.initial r) →
      (ofExpr e.numbered).IsRoute NodeId.initial r' →
      (⟨NodeId.terminal, c'⟩ : Edge) ∈ (ofExpr e).edgesFrom (routeEnd NodeId.initial r') →
      r.map Prod.snd = r'.map Prod.snd → Move.items r = Move.items r' ∧ c = c' := by
    intro r r' c c' hr hc hr' hc' heq
    have hderives : ∀ {r : List (Move Nat)} {c : List Marker},
        (ofExpr e.numbered).IsRoute NodeId.initial r →
        (⟨NodeId.terminal, c⟩ : Edge) ∈ (ofExpr e).edgesFrom (routeEnd NodeId.initial r) →
        spell (Move.items r) ++ c.map .inl ∈ e.numbered.derivations := by
      intro r c hr hc
      rw [← edgesFrom_numbered] at hc
      exact markedWords_ofExpr_le _ (mem_markedWords_iff.2 ⟨r, c, hr, hc, rfl⟩)
    have hforget : ∀ (r : List (Move Nat)) (c : List Marker),
        (spell (Move.items r) ++ c.map Sum.inl).flatMap Marker.forget = r.map Prod.snd := by
      intro r c
      rw [forget_spell, Move.items, List.map_map]
      rfl
    refine spell_append_inj (Expr.eq_of_mem_derivations hnodup ?_ (hderives hr hc)
      (hderives hr' hc') ?_)
    · rw [Expr.strict_numbered, h]
    · rw [hforget, hforget, heq]
  have hends := Leads.ends e ⟨a, ha⟩
  obtain ⟨r, hr, rfl⟩ := exists_route_to e hends.1
  rcases hends.2 with rfl | ⟨k, hk, rfl⟩
  · exact (hroutes hr ha hr hb rfl).2
  · obtain ⟨_, _, r', _, hr', c, hc⟩ := exists_route_through e hk
    have hthrough : ∀ {d : List Marker},
        (⟨e.leafNode k, d⟩ : Edge) ∈ (ofExpr e).edgesFrom (routeEnd NodeId.initial r) →
        (ofExpr e.numbered).IsRoute NodeId.initial (r ++ (⟨e.leafNode k, d⟩, k) :: r') ∧
          (⟨NodeId.terminal, c⟩ : Edge) ∈ (ofExpr e).edgesFrom
            (routeEnd NodeId.initial (r ++ (⟨e.leafNode k, d⟩, k) :: r')) := by
      intro d hd
      refine ⟨isRoute_append.2 ⟨hr, (mem_moves_numbered_iff e).2 ⟨hd, hk, rfl⟩, hr'⟩, ?_⟩
      rw [routeEnd_append]
      exact hc
    obtain ⟨hra, hca⟩ := hthrough ha
    obtain ⟨hrb, hcb⟩ := hthrough hb
    have hitems := (hroutes hra hca hrb hcb (by simp)).1
    simpa [Move.items] using hitems

/-- So the steps from a node lead to different nodes. -/
lemma nodup_targets (h : e.strict = true) (p : NodeId) :
    (((ofExpr e).moves p).map fun m => m.1.target).Nodup := by
  refine List.Nodup.map_on ?_ (nodup_moves (nodup_edgesFrom_ofExpr e p))
  rintro ⟨⟨q, a⟩, l⟩ hm ⟨⟨q', b⟩, l'⟩ hm' heq
  obtain rfl : q = q' := heq
  obtain ⟨ha, hl⟩ := mem_moves.1 hm
  obtain ⟨hb, hl'⟩ := mem_moves.1 hm'
  obtain rfl := eq_of_mem_edgesFrom h ha hb
  obtain rfl := Option.some.inj (hl.symm.trans hl')
  rfl

end Graph

end TokenPattern
