import TokenPattern.Proofs.Match.Cutoff
import TokenPattern.Proofs.Match.Tree

/-!
# The states of a replay

A replay of boundaries that are well nested goes through the states `Replay.after`: the open groups
are those on the stack, and every one holds the nodes of the groups in it that have been closed.

* `Replay.after_pop` — closing a group hands its node over to its parent.
* `foldlM_boundary` — the states of a replay, boundary by boundary.
* `finish_after` — the last state makes the node of the whole trail.
-/

namespace TokenPattern

open Brackets

/-! ## The boundaries of a trail -/

/-- The boundaries of the items that are left, the first of which is item `i`. -/
def boundariesFrom : ℕ → List (List Marker) → Boundaries
  | _, [] => []
  | i, markers :: rest => markers.map (Prod.mk i) ++ boundariesFrom (i + 1) rest

/-- The boundaries of a trail. -/
def boundaries {ο : Type} (trail : List (TrailItem ο)) : Boundaries :=
  boundariesFrom 0 (trail.map TrailItem.markers)

lemma boundariesFrom_append (i : ℕ) (markers more : List (List Marker)) :
    boundariesFrom i (markers ++ more) =
      boundariesFrom i markers ++ boundariesFrom (i + markers.length) more := by
  induction markers generalizing i with
  | nil => rfl
  | cons m markers ih =>
      rw [List.cons_append, boundariesFrom, boundariesFrom, ih, List.append_assoc, List.length_cons,
        Nat.add_assoc, Nat.add_comm 1]

lemma mem_boundariesFrom {i : ℕ} {markers : List (List Marker)} {b : ℕ × Marker}
    (h : b ∈ boundariesFrom i markers) : i ≤ b.1 ∧ b.1 < i + markers.length := by
  induction markers generalizing i with
  | nil => simp [boundariesFrom] at h
  | cons m markers ih =>
      rw [boundariesFrom, List.mem_append, List.mem_map] at h
      rw [List.length_cons]
      rcases h with ⟨_, _, rfl⟩ | h
      · simp
      · have := ih h
        omega

lemma ordered_boundariesFrom (i : ℕ) (markers : List (List Marker)) :
    Ordered (boundariesFrom i markers) (i + markers.length) := by
  refine ⟨?_, fun b hb => Nat.le_of_lt (mem_boundariesFrom hb).2⟩
  induction markers generalizing i with
  | nil => exact List.Pairwise.nil
  | cons m markers ih =>
      rw [boundariesFrom, List.pairwise_append]
      refine ⟨?_, ih (i + 1), fun b hb c hc => ?_⟩
      · rw [List.pairwise_map]
        exact List.pairwise_of_forall fun _ _ => Nat.le_refl i
      · obtain ⟨_, _, rfl⟩ := List.mem_map.1 hb
        have := (mem_boundariesFrom hc).1
        omega

lemma ordered_boundaries {ο : Type} (trail : List (TrailItem ο)) :
    Ordered (boundaries trail) (trail.map TrailItem.output).length := by
  have h := ordered_boundariesFrom 0 (trail.map TrailItem.markers)
  rw [Nat.zero_add, List.length_map] at h
  rwa [List.length_map]

/-! ## Filtered ranges -/

section

variable {P Q : ℕ → Prop} [DecidablePred P] [DecidablePred Q] {s k m : ℕ}

lemma filter_range_congr (hkm : k ≤ m) (h : ∀ c < k, P c ↔ Q c)
    (hrest : ∀ c, k ≤ c → c < m → ¬ Q c) :
    (List.range k).filter P = (List.range m).filter Q := by
  induction m, hkm using Nat.le_induction with
  | base =>
      refine List.filter_congr fun c hc => ?_
      rw [decide_eq_decide]
      exact h c (List.mem_range.1 hc)
  | succ m hkm ih =>
      have hm : ¬ Q m := hrest m hkm (Nat.lt_succ_self m)
      rw [ih fun c hc hcm => hrest c hc (by omega), List.range_succ, List.filter_append]
      simp [hm]

/-- A number that passes in addition, and behind which no number passes, comes last. -/
lemma filter_range_insert (hs : s < k) (hP : ¬ P s) (hQ : Q s) (h : ∀ c < s, P c ↔ Q c)
    (hlast : ∀ c, s < c → c < k → ¬ P c ∧ ¬ Q c) :
    (List.range k).filter Q = (List.range k).filter P ++ [s] := by
  have hfilterQ : (List.range k).filter Q = (List.range (s + 1)).filter Q :=
    (filter_range_congr (P := Q) (Q := Q) hs (fun _ _ => Iff.rfl)
      fun c hc hck => (hlast c hc hck).2).symm
  have hfilterP : (List.range k).filter P = (List.range s).filter P := by
    refine (filter_range_congr (P := P) (Q := P) (Nat.le_of_lt hs) (fun _ _ => Iff.rfl)
      fun c hc hck => ?_).symm
    rcases Nat.lt_or_eq_of_le hc with hlt | rfl
    · exact (hlast c hlt hck).1
    · exact hP
  have hbefore : (List.range s).filter P = (List.range s).filter Q :=
    filter_range_congr (Nat.le_refl s) h fun c hc hcs => by omega
  rw [hfilterQ, hfilterP, hbefore, List.range_succ, List.filter_append]
  simp [hQ]

end

namespace Replay

variable {ο : Type} (bs : Boundaries) (outputs : List ο)

/-! ## The states of a replay -/

/-- The nodes of the groups directly inside another one that opened in front of a boundary and are
not on the stack any more. -/
def inside (k : ℕ) (stack : List ℕ) (p : Option ℕ) : List (String × Match (List ο)) :=
  ((List.range k).filter fun c => c ∈ children bs p ∧ c ∉ stack).map (entry bs outputs)

/-- An open group with the nodes in it. -/
def openGroup (k : ℕ) (stack : List ℕ) (s : ℕ) : OpenGroup ο :=
  ⟨(name? bs s).getD "", place bs s, (inside bs outputs k stack (some s)).reverse⟩

/-- The state in front of a boundary, given the stack. -/
def after (k : ℕ) (stack : List ℕ) : Replay ο :=
  ⟨(inside bs outputs k stack none).reverse, stack.map (openGroup bs outputs k stack)⟩

variable {bs} {k s i : ℕ} {n : String} {stack rest : List ℕ}

lemma inside_congr {k' : ℕ} {stack' : List ℕ} {p : Option ℕ} (hk : k ≤ k')
    (h : ∀ c < k, c ∈ children bs p → (c ∈ stack ↔ c ∈ stack'))
    (hrest : ∀ c, k ≤ c → c < k' → c ∈ children bs p → c ∈ stack') :
    inside bs outputs k stack p = inside bs outputs k' stack' p := by
  rw [inside, inside]
  congr 1
  refine filter_range_congr hk (fun c hc => and_congr_right fun hp => not_congr (h c hc hp)) ?_
  rintro c hc hck ⟨hp, hnot⟩
  exact hnot (hrest c hc hck hp)

/-- A boundary that opens a group puts it on the stack, empty. -/
lemma after_start (hb : bs[k]? = some (i, .start n)) (hstack : ∀ s ∈ stack, s < k) :
    after bs outputs (k + 1) (k :: stack) =
      { after bs outputs k stack with
        opened := ⟨n, i, []⟩ :: (after bs outputs k stack).opened } := by
  have hinside : ∀ p, inside bs outputs (k + 1) (k :: stack) p = inside bs outputs k stack p := by
    intro p
    refine (inside_congr outputs (Nat.le_succ k) (fun c hc _ => ?_) fun c hc hck _ => ?_).symm
    · have hne : c ≠ k := by omega
      simp [hne]
    · obtain rfl : c = k := by omega
      exact List.mem_cons_self
  have hempty : inside bs outputs k stack (some k) = [] := by
    have hnone : (List.range k).filter (fun c => c ∈ children bs (some k) ∧ c ∉ stack) = [] := by
      refine List.filter_eq_nil_iff.2 fun c hc hmem => ?_
      rw [decide_eq_true_eq, mem_children_iff] at hmem
      have := lt_of_parent? hmem.1.2
      have := List.mem_range.1 hc
      omega
    rw [inside, hnone]
    rfl
  have hname : name? bs k = some n := name?_eq_some_iff.2 ⟨i, hb⟩
  have hopen : openGroup bs outputs (k + 1) (k :: stack) = openGroup bs outputs k stack := by
    funext s
    rw [openGroup, openGroup, hinside]
  rw [after, hinside, List.map_cons, hopen, openGroup, hempty, hname, place_eq hb]
  rfl

lemma inside_eq_map_children {p : Option ℕ} (hk : k ≤ bs.length)
    (h : ∀ c ∈ children bs p, c < k ∧ c ∉ stack) :
    inside bs outputs k stack p = (children bs p).map (entry bs outputs) := by
  conv_rhs => rw [children]
  rw [inside]
  congr 1
  refine filter_range_congr hk (fun c _ => ?_) fun c hc _ hmem => ?_
  · rw [mem_children_iff, ← Option.isSome_iff_exists]
    refine and_iff_left_of_imp fun hc => (h c ?_).2
    rwa [mem_children_iff, ← Option.isSome_iff_exists]
  · rw [Option.isSome_iff_exists, ← mem_children_iff] at hmem
    have := (h c hmem).1
    omega

/-- A group that is closed has its node, if all groups in it have been closed. -/
lemma closed_openGroup (hk : k ≤ bs.length)
    (hchildren : ∀ c ∈ children bs (some s), c < k ∧ c ∉ stack) :
    closed outputs (ending bs outputs.length s) (openGroup bs outputs k stack s) =
      node bs outputs (some s) := by
  rw [node_eq, closed, openGroup, inside_eq_map_children outputs hk hchildren,
    List.reverse_reverse]
  rfl

/-- Closing a group hands its node over to its parent, or to the top level. -/
lemma inside_pop (hsuffix : s :: rest <:+ Brackets.opened bs k) (p : Option ℕ) :
    inside bs outputs k rest p =
      inside bs outputs k (s :: rest) p ++
        if p = parent? bs s then [entry bs outputs s] else [] := by
  obtain ⟨hsk, hname, hopened, _⟩ := opened_of_suffix hsuffix
  split_ifs with hp
  · subst hp
    have hs : s ∈ children bs (parent? bs s) := mem_children_iff.2 ⟨hname, rfl⟩
    have hrest : s ∉ rest := by
      intro hmem
      rw [← hopened] at hmem
      exact absurd (lt_of_mem_opened hmem) (Nat.lt_irrefl s)
    have hfilter := filter_range_insert
      (P := fun c => c ∈ children bs (parent? bs s) ∧ c ∉ s :: rest)
      (Q := fun c => c ∈ children bs (parent? bs s) ∧ c ∉ rest) hsk (by simp) ⟨hs, hrest⟩
      (fun c hc => ?_) fun c hc hck => ?_
    · rw [inside, hfilter, List.map_append]
      rfl
    · have hne : c ≠ s := by omega
      simp [hne]
    · -- While the group is open, no group with the same parent opens.
      have hnot : c ∉ children bs (parent? bs s) := by
        intro hmem
        have hopen : s ∈ Brackets.opened bs k := hsuffix.subset List.mem_cons_self
        exact not_mem_opened_of_sibling (mem_children_iff.1 hmem).2
          (mem_opened_of_le hopen hc (Nat.le_of_lt hck))
      exact ⟨fun h => hnot h.1, fun h => hnot h.1⟩
  · rw [List.append_nil]
    refine inside_congr outputs (Nat.le_refl k) (fun c _ hc => ?_) fun c hc hck => by omega
    have hne : c ≠ s := by
      rintro rfl
      exact hp (mem_children_iff.1 hc).2.symm
    simp [hne]

lemma after_pop (hsuffix : s :: rest <:+ Brackets.opened bs k) :
    after bs outputs k rest =
      (⟨(after bs outputs k (s :: rest)).top, rest.map (openGroup bs outputs k (s :: rest))⟩ :
        Replay ο).add ((name? bs s).getD "") (node bs outputs (some s)) := by
  have hinside := inside_pop outputs hsuffix
  obtain ⟨_, _, hopened, _⟩ := opened_of_suffix hsuffix
  cases rest with
  | nil =>
      have hparent : parent? bs s = none := by rw [parent?, hopened]; rfl
      rw [after, hinside, if_pos hparent.symm, List.reverse_append]
      rfl
  | cons q rest =>
      have hparent : parent? bs s = some q := by rw [parent?, hopened]; rfl
      have hq : openGroup bs outputs k (q :: rest) q =
          { openGroup bs outputs k (s :: q :: rest) q with
            inside := entry bs outputs s :: (openGroup bs outputs k (s :: q :: rest) q).inside } := by
        rw [openGroup, hinside, if_pos hparent.symm, List.reverse_append]
        rfl
      have hothers : ∀ t ∈ rest, openGroup bs outputs k (q :: rest) t =
          openGroup bs outputs k (s :: q :: rest) t := by
        intro t ht
        have hne : some t ≠ parent? bs s := by
          have hlt : t < q := lt_of_mem_opened (by
            rw [(opened_of_suffix ((List.suffix_cons s _).trans hsuffix)).2.2.1]
            exact ht)
          rw [hparent]
          simp only [ne_eq, Option.some.injEq]
          omega
        rw [openGroup, hinside, if_neg hne, List.append_nil]
        rfl
      have hnone : none ≠ parent? bs s := by simp [hparent]
      rw [after, hinside, if_neg hnone, List.append_nil, List.map_cons, hq,
        List.map_congr_left hothers]
      rfl

/-- The groups in an open one are not below it on the stack. -/
lemma not_mem_stack_of_child {c : ℕ} (hsuffix : s :: rest <:+ Brackets.opened bs k)
    (hc : c ∈ children bs (some s)) : c ∉ s :: rest := by
  intro hmem
  have hsc := lt_of_parent? (mem_children_iff.1 hc).2
  rcases List.mem_cons.1 hmem with rfl | hrest
  · exact absurd hsc (Nat.lt_irrefl c)
  · rw [← (opened_of_suffix hsuffix).2.2.1] at hrest
    have := lt_of_mem_opened hrest
    omega

/-- A boundary that closes the innermost group changes the state by its node. -/
lemma boundary_stop (hb : bs[k]? = some (i, .stop n)) (hparent : parent? bs k = some s)
    (hname : name? bs s = some n) :
    boundary outputs i (after bs outputs k (Brackets.opened bs k)) (.stop n) =
      .ok (after bs outputs (k + 1) (Brackets.opened bs (k + 1))) := by
  have hopened := opened_eq_of_parent? hparent
  have hsuffix : s :: Brackets.opened bs s <:+ Brackets.opened bs k :=
    hopened ▸ List.suffix_refl _
  have hcloses : Closes bs s k := ⟨⟨i, n, hb⟩, hparent⟩
  have hnode : closed outputs i (openGroup bs outputs k (s :: Brackets.opened bs s) s) =
      node bs outputs (some s) := by
    rw [← place_eq hb, ← ending_of_closes hcloses outputs.length]
    refine closed_openGroup outputs ?_ fun c hc => ⟨?_, not_mem_stack_of_child hsuffix hc⟩
    · exact Nat.le_of_lt (closes_iff.1 hcloses).1
    · obtain ⟨⟨n', hn'⟩, hp⟩ := mem_children_iff.1 hc
      obtain ⟨k', hk', hcloses'⟩ := hcloses.exists_of_parent hn' hp
      exact Nat.lt_trans hcloses'.lt hk'
  -- No group opens here.
  have hlater : after bs outputs k (Brackets.opened bs s) =
      after bs outputs (k + 1) (Brackets.opened bs s) := by
    have hinside : ∀ p, inside bs outputs k (Brackets.opened bs s) p =
        inside bs outputs (k + 1) (Brackets.opened bs s) p := by
      intro p
      refine inside_congr outputs (Nat.le_succ k) (fun _ _ _ => Iff.rfl) fun c hc hck hmem => ?_
      obtain rfl : c = k := by omega
      obtain ⟨⟨n', hn'⟩, _⟩ := mem_children_iff.1 hmem
      obtain ⟨j, hj⟩ := name?_eq_some_iff.1 hn'
      simp [hb] at hj
    have hopen : openGroup bs outputs k (Brackets.opened bs s) =
        openGroup bs outputs (k + 1) (Brackets.opened bs s) := by
      funext t
      rw [openGroup, hinside, openGroup]
    rw [after, hinside, hopen, after]
  rw [opened_succ_of_stop hb, hopened, List.tail_cons, ← hlater, after_pop outputs hsuffix, hname,
    ← hnode]
  simp [boundary, after, openGroup, hname]

/-! ## A whole replay -/

/-- A boundary that fits leads from one state to the next. -/
lemma boundary_after {m : Marker} (hb : bs[k]? = some (i, m)) (hfit : ¬ Misfit bs k) :
    boundary outputs i (after bs outputs k (Brackets.opened bs k)) m =
      .ok (after bs outputs (k + 1) (Brackets.opened bs (k + 1))) := by
  cases m with
  | start n =>
      rw [opened_succ_of_start hb, after_start outputs hb fun s hs => lt_of_mem_opened hs]
      rfl
  | stop n =>
      obtain ⟨s, hparent, hname⟩ := exists_parent_of_not_misfit hfit hb
      exact boundary_stop outputs hb hparent hname

/-- A boundary that does not fit is reported with the innermost open group. -/
lemma boundary_misfit (hne : innermost? bs k ≠ some n) :
    boundary outputs i (after bs outputs k (Brackets.opened bs k)) (.stop n) =
      .error (.malformedGraph (innermost? bs k) n i) := by
  cases hopened : Brackets.opened bs k with
  | nil =>
      have hnone : innermost? bs k = none := by simp [innermost?, parent?, hopened]
      rw [hnone]
      rfl
  | cons s rest =>
      have hparent : parent? bs k = some s := by rw [parent?, hopened]; rfl
      obtain ⟨n', hname⟩ := exists_name_of_parent? k hparent
      have hinner : innermost? bs k = some n' := innermost?_eq_some_iff.2 ⟨s, hparent, hname⟩
      rw [hinner, ne_eq, Option.some.injEq] at hne
      rw [hinner]
      simp [boundary, after, openGroup, hname, hne]

/-- The states of a replay up to a boundary, while all boundaries fit; by induction over their
number. -/
theorem foldlM_boundary (h : ∀ j < k, ¬ Misfit bs j) (hk : k ≤ bs.length) :
    (bs.take k).foldlM (fun r b => boundary outputs b.1 r b.2) initial =
      .ok (after bs outputs k (Brackets.opened bs k)) := by
  induction k with
  | zero => rfl
  | succ k ih =>
      have hget : bs[k]? = some (bs[k].1, bs[k].2) := List.getElem?_eq_getElem hk
      have hbefore := ih (fun j hj => h j (Nat.lt_succ_of_lt hj)) (Nat.le_of_succ_le hk)
      rw [List.take_succ_eq_append_getElem hk, List.foldlM_append, hbefore]
      simp only [List.foldlM_cons, List.foldlM_nil, bind_pure]
      exact boundary_after outputs hget (h k (Nat.lt_succ_self k))

/-- All groups that are left are closed in front of the end of the trail. -/
lemma closeAll_after (hsuffix : stack <:+ Brackets.opened bs bs.length) :
    closeAll outputs (after bs outputs bs.length stack).top
        (after bs outputs bs.length stack).opened =
      (inside bs outputs bs.length [] none).reverse := by
  induction stack with
  | nil =>
      show closeAll outputs _ [] = _
      rw [closeAll]
      rfl
  | cons s rest ih =>
      have hopen : s ∈ Brackets.opened bs bs.length := hsuffix.subset List.mem_cons_self
      have hnode : closed outputs outputs.length (openGroup bs outputs bs.length (s :: rest) s) =
          node bs outputs (some s) := by
        rw [← ending_of_not_closes (not_closes_of_mem_opened hopen) outputs.length]
        refine closed_openGroup outputs (Nat.le_refl _) fun c hc => ?_
        obtain ⟨n, hn⟩ := (mem_children_iff.1 hc).1
        exact ⟨lt_length_of_name? hn, not_mem_stack_of_child hsuffix hc⟩
      show closeAll outputs _ (openGroup bs outputs bs.length (s :: rest) s :: _) = _
      rw [closeAll_cons, hnode, ← ih ((List.suffix_cons s rest).trans hsuffix),
        after_pop outputs hsuffix]
      rfl

lemma finish_after :
    finish outputs (after bs outputs bs.length (Brackets.opened bs bs.length)) =
      node bs outputs none := by
  have hinside : inside bs outputs bs.length [] none =
      (children bs none).map (entry bs outputs) := by
    refine inside_eq_map_children outputs (Nat.le_refl _) fun c hc => ⟨?_, List.not_mem_nil⟩
    obtain ⟨n, hn⟩ := (mem_children_iff.1 hc).1
    exact lt_length_of_name? hn
  rw [finish, closeAll_after outputs (List.suffix_refl _), List.reverse_reverse, hinside, node_eq]
  simp [first, last, slice]

lemma items_eq_foldlM (i : ℕ) (r : Replay ο) (markers : List (List Marker)) :
    items outputs i r markers =
      (boundariesFrom i markers).foldlM (fun r b => boundary outputs b.1 r b.2) r := by
  induction markers generalizing i r with
  | nil => rfl
  | cons m markers ih =>
      rw [items, boundariesFrom, List.foldlM_append, List.foldlM_map]
      simp only [ih]

end Replay

end TokenPattern
