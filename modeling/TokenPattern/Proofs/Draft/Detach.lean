import TokenPattern.Proofs.Draft.Bookkeeping

/-!
# Taking a slot out of a draft

Before an expression is rewritten all links at its slot are removed (`Draft.detach`), and the slot
and its place in `pending` are given up.  `Draft.clear` does the three together, and
`step_eq_addLinks_clear` shows a step of the compiler as `clear`, then new slots, then new links.

**Any pending slot.**  The compiler always takes the slot that stands first in `pending`.
`Draft.pick` takes any slot, and `Draft.withdraw` is what `clear` is for the first one; so what is
shown of picks holds of steps (`step_eq_pick`).

Positions of removed links may stay behind at their other ends.  They do no harm: what stands there
is a hole, and every position of a link that is there is noted at both of its ends
(`Consistent.mem_positionsAt`), so that the positions at a slot, read in their order, give the links
that touch it in the order of all links.
-/

namespace TokenPattern

universe u

namespace Draft

variable {α : Type u} {d : Draft α}

/-! ## The links at a slot -/

/-- A strictly increasing list below `n` is a part of the numbers below `n`, picked out in order. -/
lemma filter_mem_range {n : Nat} {ps : List Nat} (hinc : ps.Pairwise (· < ·))
    (hlt : ∀ p ∈ ps, p < n) : (List.range n).filter (· ∈ ps) = ps := by
  refine List.Perm.eq_of_pairwise (fun a b _ _ hab hba => absurd (hab.trans hba) (lt_irrefl a))
    (List.Pairwise.filter _ List.pairwise_lt_range) hinc ?_
  refine (List.perm_ext_iff_of_nodup (List.nodup_range.filter _) hinc.nodup).mpr fun a => ?_
  simp only [List.mem_filter, List.mem_range, decide_eq_true_eq, and_iff_right_iff_imp]
  exact hlt a

/-- Reading an array position by position. -/
lemma filterMap_range_join {β : Type} (xs : Array (Option β)) (keep : β → Bool) :
    (List.range xs.size).filterMap (fun p => (xs[p]?).join.filter keep) =
      (xs.toList.filterMap id).filter keep := by
  have hmap : xs.toList = (List.range xs.size).map fun p => (xs[p]?).join := by
    refine List.ext_getElem? fun i => ?_
    rw [Array.getElem?_toList, List.getElem?_map]
    by_cases hi : i < xs.size
    · simp only [List.getElem?_range hi, Option.map_some, Array.getElem?_eq_getElem hi,
        Option.join_some]
    · rw [Array.getElem?_eq_none (by omega), List.getElem?_eq_none (by simpa using hi)]
      rfl
  rw [hmap, List.filterMap_map, List.filter_filterMap]
  rfl

/-- The links at a slot are those that touch it. -/
lemma linksAt_eq (h : d.Consistent) (id : Nat) :
    d.linksAt id = d.live.filter fun l => l.Touches id := by
  have hpos : ∀ p, (if p ∈ d.positionsAt id then (d.links[p]?).join else none) =
      (d.links[p]?).join.filter fun l => l.Touches id := by
    intro p
    cases hp : (d.links[p]?).join with
    | none => simp
    | some l =>
        have hl : d.links[p]? = some (some l) := Option.join_eq_some_iff.mp hp
        have hmem := h.mem_positionsAt id p l hl
        by_cases ht : l.Touches id <;> simp [Option.filter, hmem, ht]
  calc d.linksAt id
      = (d.positionsAt id).filterMap fun p => (d.links[p]?).join := rfl
    _ = ((List.range d.links.size).filter (· ∈ d.positionsAt id)).filterMap
          fun p => (d.links[p]?).join := by
        rw [filter_mem_range (h.increasing id) (h.position_lt id)]
    _ = (List.range d.links.size).filterMap
          fun p => if p ∈ d.positionsAt id then (d.links[p]?).join else none := by
        rw [List.filterMap_filter]
        simp only [decide_eq_true_eq]
    _ = d.live.filter fun l => l.Touches id := by
        simp only [hpos]
        exact filterMap_range_join d.links _

/-! ## Clearing a slot -/

/-- The draft without the links at slot `id`, the slot given up and no longer the next to be
rewritten. -/
def clear (d : Draft α) (id : Nat) : Draft α :=
  { d.detach id with
    slots := d.slots.setIfInBounds id .rewritten
    pending := d.pending.tail }

lemma getElem?_foldl_setIfInBounds {β : Type} (ps : List Nat) (xs : Array (Option β)) (i : Nat) :
    (ps.foldl (fun links p => links.setIfInBounds p none) xs)[i]? =
      if i ∈ ps then (xs[i]?).map fun _ => none else xs[i]? := by
  induction ps generalizing xs with
  | nil => simp
  | cons p ps ih =>
      rw [List.foldl_cons, ih, Array.getElem?_setIfInBounds]
      by_cases hip : p = i
      · subst hip
        by_cases hlt : p < xs.size <;> simp [hlt]
      · simp [hip, Ne.symm hip]

lemma getElem?_links_detach (d : Draft α) (id p : Nat) :
    (d.detach id).links[p]? =
      if p ∈ d.positionsAt id then (d.links[p]?).map fun _ => none else d.links[p]? := by
  have hfold : (d.detach id).links =
      (d.positionsAt id).foldl (fun links p => links.setIfInBounds p none) d.links := by
    rw [positionsAt, Array.foldl_toList]
    rfl
  rw [hfold, getElem?_foldl_setIfInBounds]

/-- A link is at a position after `detach` if it was there and does not touch the slot. -/
lemma getElem?_links_detach_eq_some (h : d.Consistent) {id p : Nat} {l : Link} :
    (d.detach id).links[p]? = some (some l) ↔
      d.links[p]? = some (some l) ∧ ¬ l.Touches id := by
  rw [getElem?_links_detach]
  split_ifs with hp
  · constructor
    · intro hl
      obtain ⟨_, _, hl⟩ := Option.map_eq_some_iff.mp hl
      simp at hl
    · rintro ⟨hl, hnot⟩
      exact absurd ((h.mem_positionsAt id p l hl).mp hp) hnot
  · constructor
    · intro hl
      exact ⟨hl, fun ht => hp ((h.mem_positionsAt id p l hl).mpr ht)⟩
    · exact fun hl => hl.1

/-- Clearing a slot removes the links that touch it and keeps the others in order. -/
lemma live_clear (h : d.Consistent) (id : Nat) :
    (d.clear id).live = d.live.filter fun l => ¬ l.Touches id := by
  have hmap : (d.detach id).links.toList =
      d.links.toList.map (·.filter fun l => ¬ l.Touches id) := by
    refine List.ext_getElem? fun p => ?_
    rw [Array.getElem?_toList, getElem?_links_detach, List.getElem?_map, Array.getElem?_toList]
    cases hp : d.links[p]? with
    | none => simp
    | some o =>
        cases o with
        | none => simp
        | some l =>
            have hmem := h.mem_positionsAt id p l hp
            by_cases ht : l.Touches id <;> simp [Option.filter, hmem, ht]
  rw [live, show (d.clear id).links = (d.detach id).links from rfl, hmap, List.filterMap_map,
    live, List.filter_filterMap]
  rfl

lemma mem_live_clear (h : d.Consistent) {id : Nat} {l : Link} :
    l ∈ (d.clear id).live ↔ l ∈ d.live ∧ ¬ l.Touches id := by
  rw [live_clear h, List.mem_filter]
  simp

lemma positionsAt_clear (d : Draft α) (id i : Nat) :
    (d.clear id).positionsAt i = if i = id then [] else d.positionsAt i := by
  have htouch : (d.clear id).touching = d.touching.setIfInBounds id #[] := rfl
  rw [positionsAt, htouch, Array.getElem?_setIfInBounds]
  by_cases hi : id = i
  · subst hi
    by_cases hlt : id < d.touching.size <;> simp [hlt]
  · rw [if_neg hi, if_neg (Ne.symm hi), positionsAt]

lemma getElem?_slots_clear (d : Draft α) {id : Nat} (hid : id < d.slots.size) (i : Nat) :
    (d.clear id).slots[i]? = if i = id then some .rewritten else d.slots[i]? := by
  have hslots : (d.clear id).slots = d.slots.setIfInBounds id .rewritten := rfl
  rw [hslots, Array.getElem?_setIfInBounds]
  by_cases hi : id = i
  · subst hi; simp [hid]
  · simp [hi, Ne.symm hi]

lemma size_slots_clear (d : Draft α) (id : Nat) : (d.clear id).slots.size = d.slots.size :=
  Array.size_setIfInBounds

lemma stands_clear {id i : Nat} (hid : id < d.slots.size) :
    (d.clear id).Stands i ↔ i ≠ id ∧ d.Stands i := by
  simp only [Stands, getElem?_slots_clear d hid]
  by_cases hi : i = id
  · simp [hi, Slot.isRewritten]
  · simp [hi]

/-- Erasing the links at a slot one after the other. -/
lemma mem_foldl_erase (ls : List Link) (m : Std.HashSet Link) (k : Link) :
    k ∈ ls.foldl Std.HashSet.erase m ↔ k ∈ m ∧ k ∉ ls := by
  induction ls generalizing m with
  | nil => simp
  | cons l ls ih =>
      rw [List.foldl_cons, ih, Std.HashSet.mem_erase, List.mem_cons]
      simp only [beq_eq_false_iff_ne, ne_eq, not_or]
      constructor
      · rintro ⟨⟨hne, hm⟩, hout⟩; exact ⟨hm, fun hk => hne hk.symm, hout⟩
      · rintro ⟨hm, hne, hout⟩; exact ⟨⟨fun hk => hne hk.symm, hm⟩, hout⟩

/-- The draft without the links at slot `id`, the slot given up and no longer to be rewritten. -/
def withdraw (d : Draft α) (id : Nat) : Draft α :=
  { d.clear id with pending := d.pending.erase id }

lemma clear_eq_withdraw {id : Nat} {rest : List Nat} (hp : d.pending = id :: rest) :
    d.clear id = d.withdraw id := by
  rw [withdraw, hp, List.erase_cons_head, clear, hp, List.tail_cons]

/-- Withdrawing a slot keeps the records in agreement. -/
lemma Consistent.withdraw (h : d.Consistent) {id : Nat} {e : Expr α}
    (he : d.slots[id]? = some (.composite e)) : (d.withdraw id).Consistent := by
  have hid : id < d.slots.size := (Array.getElem?_eq_some_iff.mp he).1
  have hslot := getElem?_slots_clear d hid
  have hsize : (d.clear id).links.size = d.links.size := by
    have hfold : ∀ (ps : List Nat) (xs : Array (Option Link)),
        (ps.foldl (fun links p => links.setIfInBounds p none) xs).size = xs.size := by
      intro ps
      induction ps with
      | nil => intro xs; rfl
      | cons p ps ih => intro xs; rw [List.foldl_cons, ih, Array.size_setIfInBounds]
    rw [← hfold (d.positionsAt id) d.links, positionsAt, Array.foldl_toList]
    rfl
  exact {
    touching_size := by
      show (d.clear id).touching.size = (d.clear id).slots.size
      rw [size_slots_clear, ← h.touching_size]
      exact Array.size_setIfInBounds
    mem_present := fun l => by
      show l ∈ (d.clear id).present ↔ l ∈ (d.clear id).live
      have hpresent : (d.clear id).present = (d.linksAt id).foldl Std.HashSet.erase d.present :=
        rfl
      rw [hpresent, mem_foldl_erase, h.mem_present, linksAt_eq h, mem_live_clear h,
        List.mem_filter]
      simp only [decide_eq_true_eq]
      tauto
    nodup := by
      show (d.clear id).live.Nodup
      rw [live_clear h]
      exact h.nodup.filter _
    increasing := fun i => by
      show ((d.clear id).positionsAt i).Pairwise (· < ·)
      rw [positionsAt_clear]
      split_ifs
      · exact List.Pairwise.nil
      · exact h.increasing i
    position_lt := fun i p hi => by
      change p ∈ (d.clear id).positionsAt i at hi
      show p < (d.clear id).links.size
      rw [positionsAt_clear] at hi
      rw [hsize]
      split_ifs at hi
      · simp at hi
      · exact h.position_lt i p hi
    mem_positionsAt := fun i p l hl => by
      obtain ⟨hl, hnot⟩ := (getElem?_links_detach_eq_some h).mp hl
      show p ∈ (d.clear id).positionsAt i ↔ l.Touches i
      rw [positionsAt_clear]
      split_ifs with hi
      · subst hi; simp [hnot]
      · exact h.mem_positionsAt i p l hl
    stands := fun l hl i hi => by
      obtain ⟨hl, hnot⟩ := (mem_live_clear h).mp hl
      show (d.clear id).Stands i
      rw [stands_clear hid]
      exact ⟨fun hc => hnot (hc ▸ hi), h.stands l hl i hi⟩
    sentinel_iff := fun i => by
      show (d.clear id).slots[i]? = _ ↔ _
      rw [hslot]
      split_ifs with hi
      · have := (h.sentinel_iff i).not.mp (by rw [hi, he]; simp)
        simp [this]
      · exact h.sentinel_iff i
    children_ne := fun i f hf => by
      change (d.clear id).slots[i]? = _ at hf
      rw [hslot] at hf
      split_ifs at hf with hi
      · simp at hf
      · exact h.children_ne i f hf
    mem_pending := fun i => by
      show i ∈ d.pending.erase id ↔ ∃ f, (d.clear id).slots[i]? = _
      rw [hslot, h.pending_nodup.mem_erase_iff, h.mem_pending]
      split_ifs with hi
      · simp [hi]
      · simp [hi]
    pending_decreasing := h.pending_decreasing.sublist List.erase_sublist }

/-- Rewrites any slot, whatever its place in `pending`. -/
def pick (d : Draft α) (id : Nat) : Draft α :=
  rewrite { d with pending := d.pending.erase id } id

/-- A step of the compiler picks the slot that is first. -/
lemma step_eq_pick {id : Nat} {rest : List Nat} (hp : d.pending = id :: rest) :
    d.step = d.pick id := by
  rw [step, pick, hp, List.erase_cons_head]

/-- **One pick**: the slot is withdrawn, the operands get slots, and links are added. -/
theorem pick_eq_addLinks_withdraw {id : Nat} {e : Expr α}
    (he : d.slots[id]? = some (.composite e)) :
    d.pick id = (e.children.foldl alloc (d.withdraw id)).addLinks
      (e.rewire (Detached.ofLinks id (d.linksAt id)) d.slots.size) := by
  simp only [pick, rewrite, he]
  rfl

/-- **One step of the compiler**: the next slot is cleared, the operands get slots, and links are
added. -/
theorem step_eq_addLinks_clear {id : Nat} {rest : List Nat} {e : Expr α}
    (hp : d.pending = id :: rest) (he : d.slots[id]? = some (.composite e)) :
    d.step = (e.children.foldl alloc (d.clear id)).addLinks
      (e.rewire (Detached.ofLinks id (d.linksAt id)) d.slots.size) := by
  rw [step_eq_pick hp, pick_eq_addLinks_withdraw he, clear_eq_withdraw hp]

end Draft

end TokenPattern
