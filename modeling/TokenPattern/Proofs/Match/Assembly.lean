import Mathlib.Order.BooleanAlgebra.Set
import Mathlib.Data.String.Basic
import TokenPattern.Proofs.Match.Replay

/-!
# Assembling the tree of an arena

`Arena.assemble` finishes the groups of an arena from the last to the first, and every group takes the
matches of its children from their slots.  In an arena every group stands behind the group that it is
a child of, and is no child of another one (`Arena.Forest`).  So the match of a child is there when its
parent looks for it, and nobody else has taken it.

* `exists_foldl_claim` — what taking over the matches of some children does to the slots.
* `Forest.holds_finishFrom` — the slots when the groups from a place on are finished: they hold the
  matches of those that have not been taken over.
* `Forest.assemble_eq` — matches that solve the equations of all groups (`Arena.Solves`) are those that
  are assembled.
-/

namespace TokenPattern

namespace Arena

/-! ## Groups by name -/

section

variable {T : Type}

/-- A group that goes behind those of its name is not in the way of one that goes in front of them. -/
lemma pushGroup_insertGroup (g h : String × Match T) (groups : List (String × Match T)) :
    pushGroup g (insertGroup h groups) = insertGroup h (pushGroup g groups) := by
  induction groups with
  | nil => by_cases hgh : g.1 < h.1 <;> simp [insertGroup, pushGroup, hgh]
  | cons x rest ih =>
      by_cases hgx : g.1 < x.1
      · by_cases hxh : x.1 < h.1
        · simp [insertGroup, pushGroup, hxh, hgx, hgx.trans hxh]
        · by_cases hgh : g.1 < h.1 <;> simp [insertGroup, pushGroup, hxh, hgx, hgh]
      · by_cases hxh : x.1 < h.1
        · simp [insertGroup, pushGroup, hxh, hgx, ih]
        · have hgh : ¬ g.1 < h.1 := fun hlt => hgx (hlt.trans_le (not_lt.1 hxh))
          simp [insertGroup, pushGroup, hxh, hgx, hgh]

lemma pushGroup_sortGroups (g : String × Match T) (groups : List (String × Match T)) :
    pushGroup g (sortGroups groups) = sortGroups (groups ++ [g]) := by
  induction groups with
  | nil => rfl
  | cons h rest ih =>
      show pushGroup g (insertGroup h (sortGroups rest)) = insertGroup h (sortGroups (rest ++ [g]))
      rw [pushGroup_insertGroup, ih]

end

variable {ο : Type}

/-! ## Taking matches over -/

/-- Whether the slots hold the matches of some groups and nothing else. -/
structure Slots.Holds (slots : Slots ο) (f : ℕ → Match (List ο)) (P : Set ℕ) : Prop where
  lt_size : ∀ p ∈ P, p < slots.size
  join_eq_some_iff : ∀ p m, slots[p]?.join = some m ↔ p ∈ P ∧ f p = m

section

variable {slots : Slots ο} {f : ℕ → Match (List ο)} {P : Set ℕ}

lemma Slots.Holds.take (h : slots.Holds f P) (p : ℕ) :
    Slots.Holds (slots.setIfInBounds p none) f (P \ {p}) where
  lt_size q hq := by
    rw [Array.size_setIfInBounds]
    exact h.lt_size q hq.1
  join_eq_some_iff q m := by
    rw [Array.getElem?_setIfInBounds]
    by_cases hpq : p = q
    · subst hpq
      by_cases hp : p < slots.size <;> simp [hp]
    · rw [if_neg hpq, h.join_eq_some_iff]
      have hne : q ≠ p := Ne.symm hpq
      simp [hne]

lemma Slots.Holds.put (h : slots.Holds f P) {p : ℕ} (hp : p < slots.size) :
    Slots.Holds (slots.setIfInBounds p (some (f p))) f (insert p P) where
  lt_size q hq := by
    rw [Array.size_setIfInBounds]
    rcases hq with rfl | hq
    · exact hp
    · exact h.lt_size q hq
  join_eq_some_iff q m := by
    rw [Array.getElem?_setIfInBounds]
    by_cases hpq : p = q
    · subst hpq
      simp [hp]
    · rw [if_neg hpq, h.join_eq_some_iff]
      have hne : q ≠ p := Ne.symm hpq
      simp [hne]

/-- Taking over the matches of some children empties their slots and no others. -/
lemma exists_foldl_claim (children : List (String × ℕ)) (groups : List (String × Match (List ο)))
    (h : slots.Holds f P) (hmem : ∀ c ∈ children, c.2 ∈ P)
    (hnodup : (children.map Prod.snd).Nodup) :
    ∃ slots', children.foldl claim (sortGroups groups, slots) =
        (sortGroups (groups ++ children.map fun c => (c.1, f c.2)), slots') ∧
      slots'.size = slots.size ∧ slots'.Holds f (P \ {p | p ∈ children.map Prod.snd}) := by
  induction children generalizing groups slots P with
  | nil => exact ⟨slots, by simp, rfl, by simpa using h⟩
  | cons c children ih =>
      have hc : slots[c.2]?.join = some (f c.2) :=
        (h.join_eq_some_iff c.2 _).2 ⟨hmem c List.mem_cons_self, rfl⟩
      have hclaim : claim (sortGroups groups, slots) c =
          (sortGroups (groups ++ [(c.1, f c.2)]), slots.setIfInBounds c.2 none) := by
        rw [← pushGroup_sortGroups, claim, hc]
      rw [List.map_cons, List.nodup_cons] at hnodup
      have hleft : ∀ d ∈ children, d.2 ∈ P \ {c.2} := by
        intro d hd
        refine ⟨hmem d (List.mem_cons_of_mem c hd), fun hdc => hnodup.1 ?_⟩
        exact List.mem_map.2 ⟨d, hd, hdc⟩
      obtain ⟨slots', heq, hsize, hslots⟩ :=
        ih (groups ++ [(c.1, f c.2)]) (h.take c.2) hleft hnodup.2
      refine ⟨slots', ?_, ?_, ?_⟩
      · rw [List.foldl_cons, hclaim, heq, List.append_assoc, List.map_cons]
        rfl
      · rw [hsize, Array.size_setIfInBounds]
      · rw [Set.sdiff_sdiff] at hslots
        convert hslots using 2
        ext p
        simp

end

/-! ## Assembling a tree -/

/-- Whether every group stands behind the group that it is a child of, and is no child of another
one. -/
structure Forest (groups : List (Group ο)) : Prop where
  behind : ∀ (p : ℕ) (g : Group ο), groups[p]? = some g →
    ∀ c ∈ g.children.toList, p < c.2 ∧ c.2 < groups.length
  nodup : ∀ (p : ℕ) (g : Group ο), groups[p]? = some g → (g.children.toList.map Prod.snd).Nodup
  apart : ∀ (p p' : ℕ) (g g' : Group ο), groups[p]? = some g → groups[p']? = some g' →
    ∀ c ∈ g.children.toList, ∀ c' ∈ g'.children.toList, c.2 = c'.2 → p = p'

/-- Whether every place has the match that is made of the group there and of the matches of its
children. -/
def Solves (groups : List (Group ο)) (f : ℕ → Match (List ο)) : Prop :=
  ∀ (p : ℕ) (g : Group ο), groups[p]? = some g →
    f p = .mk g.start g.trail.toList (sortGroups (g.children.toList.map fun c => (c.1, f c.2)))

/-- The groups from a place on that are no children of any of these groups. -/
def unclaimed (groups : List (Group ο)) (j : ℕ) : Set ℕ :=
  {p | j ≤ p ∧ p < groups.length ∧
    ∀ (q : ℕ) (g : Group ο), j ≤ q → groups[q]? = some g → p ∉ g.children.toList.map Prod.snd}

section

variable {groups : List (Group ο)} {f : ℕ → Match (List ο)}

/-- Finishing one more group. -/
lemma Forest.unclaimed_eq (h : Forest groups) {j : ℕ} {g : Group ο} (hj : groups[j]? = some g) :
    unclaimed groups j =
      insert j (unclaimed groups (j + 1) \ {p | p ∈ g.children.toList.map Prod.snd}) := by
  have hlt : j < groups.length := (List.getElem?_eq_some_iff.1 hj).1
  ext p
  simp only [unclaimed, Set.mem_ofPred_eq, Set.mem_insert_iff, Set.mem_sdiff]
  constructor
  · rintro ⟨hjp, hp, hnot⟩
    rcases Nat.eq_or_lt_of_le hjp with rfl | hjp
    · exact Or.inl rfl
    · exact Or.inr ⟨⟨hjp, hp, fun q g hq => hnot q g (by omega)⟩, hnot j g (Nat.le_refl j) hj⟩
  · rintro (rfl | ⟨⟨hjp, hp, hnot⟩, hpg⟩)
    · refine ⟨Nat.le_refl p, hlt, fun q g' hq hg' hmem => ?_⟩
      obtain ⟨c, hc, rfl⟩ := List.mem_map.1 hmem
      have := (h.behind q g' hg' c hc).1
      omega
    · refine ⟨by omega, hp, fun q g' hq hg' => ?_⟩
      rcases Nat.eq_or_lt_of_le hq with rfl | hq
      · obtain rfl := Option.some.inj (hj.symm.trans hg')
        exact hpg
      · exact hnot q g' hq hg'

/-- The children of a group have not been taken over before. -/
lemma Forest.mem_unclaimed (h : Forest groups) {j : ℕ} {g : Group ο} (hj : groups[j]? = some g)
    {c : String × ℕ} (hc : c ∈ g.children.toList) : c.2 ∈ unclaimed groups (j + 1) := by
  obtain ⟨hjc, hlt⟩ := h.behind j g hj c hc
  refine ⟨hjc, hlt, fun q g' hq hg' hmem => ?_⟩
  obtain ⟨c', hc', heq⟩ := List.mem_map.1 hmem
  have := h.apart j q g g' hj hg' c hc c' hc' heq.symm
  omega

/-- The slots when the groups from a place on are finished. -/
def finishFrom (groups : List (Group ο)) (j : ℕ) : Slots ο :=
  ((groups.drop j).zipIdx j).foldr (fun g slots => finish g.1 g.2 slots)
    (Array.replicate groups.length none)

lemma finishFrom_of_getElem? {j : ℕ} {g : Group ο} (hj : groups[j]? = some g) :
    finishFrom groups j = finish g j (finishFrom groups (j + 1)) := by
  obtain ⟨hlt, rfl⟩ := List.getElem?_eq_some_iff.1 hj
  rw [finishFrom, List.drop_eq_getElem_cons hlt]
  rfl

lemma finishFrom_length : finishFrom groups groups.length = Array.replicate groups.length none := by
  rw [finishFrom, List.drop_length]
  rfl

/-- What is finished and not taken over yet lies in its slot; by induction from the last group to the
first. -/
lemma Forest.holds_finishFrom (h : Forest groups) (hf : Solves groups f) {j : ℕ}
    (hj : j ≤ groups.length) :
    (finishFrom groups j).size = groups.length ∧
      (finishFrom groups j).Holds f (unclaimed groups j) := by
  induction hj using Nat.decreasingInduction with
  | self =>
      have hnone : ∀ p, p ∉ unclaimed groups groups.length := by
        rintro p ⟨hlen, hp, _⟩
        omega
      rw [finishFrom_length]
      refine ⟨Array.size_replicate, fun p hp => absurd hp (hnone p), fun p m => ?_⟩
      rw [Array.getElem?_replicate]
      by_cases hp : p < groups.length <;> simp [hp, hnone p]
  | of_succ j hj ih =>
      have hg : groups[j]? = some groups[j] := List.getElem?_eq_getElem hj
      obtain ⟨hsize, hslots⟩ := ih
      obtain ⟨slots', hclaim, hsize', hslots'⟩ := exists_foldl_claim groups[j].children.toList []
        hslots (fun c hc => h.mem_unclaimed hg hc) (h.nodup j _ hg)
      have hfinish : finishFrom groups j = slots'.setIfInBounds j (some (f j)) := by
        rw [finishFrom_of_getElem? hg, finish, ← Array.foldl_toList,
          show ([] : List (String × Match (List ο))) = sortGroups [] from rfl, hclaim, hf j _ hg]
        rfl
      rw [hfinish, h.unclaimed_eq hg]
      exact ⟨by rw [Array.size_setIfInBounds, hsize', hsize], hslots'.put (by omega)⟩

/-- **Every group is finished when its parent looks for it, and is taken over once.** -/
theorem Forest.assemble_eq {groups : Array (Group ο)} (h : Forest groups.toList)
    (hroot : 0 < groups.size) (hf : Solves groups.toList f) : assemble groups = f 0 := by
  have hassemble : assemble groups = (finishFrom groups.toList 0)[0]?.join.getD (.mk 0 [] []) := by
    rw [assemble, ← Array.foldr_toList, Array.toList_zipIdx, ← Array.length_toList]
    rfl
  have hzero : 0 ∈ unclaimed groups.toList 0 := by
    refine ⟨Nat.le_refl 0, hroot, fun q g _ hg hmem => ?_⟩
    obtain ⟨c, hc, hc0⟩ := List.mem_map.1 hmem
    have := (h.behind q g hg c hc).1
    omega
  obtain ⟨_, hslots⟩ := h.holds_finishFrom hf (Nat.zero_le _)
  rw [hassemble, (hslots.join_eq_some_iff 0 _).2 ⟨hzero, rfl⟩]
  rfl

end

end Arena

end TokenPattern
