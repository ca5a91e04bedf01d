import Mathlib.Algebra.GroupWithZero.Nat
import TokenPattern.Proofs.Draft.Detach
import TokenPattern.Proofs.Net.Unfolding

/-!
# A draft as a net

Without its bookkeeping a draft is a net: the expressions in its slots, and the set of its links.
This file shows that picking a slot is a rewrite of that net (`net_pick`) and so is a step of the
compiler (`net_step`), and that the compiler stops with every expression taken apart.

**Induction over a compilation.**  `drain_induction` is the only place where the fuel of `drainFor`
appears: what holds of the first draft and is kept by every rewrite holds of the last one, in which
nothing is pending.
-/

namespace TokenPattern

universe u v

/-- What a slot stands for in the net. -/
def Slot.expr? {α : Type u} : Slot α → Option (Expr α)
  | .leaf m => some (.leaf m)
  | .composite e => some e
  | .sentinel | .rewritten => none

@[simp] lemma Slot.expr?_ofExpr {α : Type u} (e : Expr α) : (Slot.ofExpr e).expr? = some e := by
  cases e <;> rfl

lemma Marker.spell_pure (markers : List Marker) : Marker.spell pure markers = markers :=
  List.flatMap_singleton' markers

namespace Expr

variable {α : Type u}

lemma mem_around_iff (D : Detached) (x p s : Nat) (c : List Marker) :
    (⟨p, s, c⟩ : Link) ∈ D.around x ↔
      (∃ a b, (p, a) ∈ D.incoming ∧ (s, b) ∈ D.outgoing ∧ c = a ++ b) ∨
        ((p, c) ∈ D.incoming ∧ s = x) ∨ ((s, c) ∈ D.outgoing ∧ p = x) ∨
          (c ∈ D.loops ∧ p = x ∧ s = x) := by
  simp only [Detached.around, List.mem_append, List.mem_flatMap, List.mem_map, Prod.exists,
    Link.mk.injEq, or_assoc]
  grind

/-- **The links that replace those of an expression are the ones its wiring asks for.** -/
lemma mem_rewire_iff (D : Detached) (x : Nat) (e : Expr α) (p s : Nat) (c : List Marker) :
    (⟨p, s, c⟩ : Link) ∈ e.rewire D x ↔
      (∃ a i m, (p, a) ∈ D.incoming ∧ (i, m) ∈ e.entries ∧ s = x + i ∧ c = a ++ m) ∨
      (∃ a i m, (s, a) ∈ D.outgoing ∧ (i, m) ∈ e.exits ∧ p = x + i ∧ c = m ++ a) ∨
      (∃ a i m j k, a ∈ D.loops ∧ (i, m) ∈ e.exits ∧ (j, k) ∈ e.entries ∧ p = x + i ∧ s = x + j ∧
        c = m ++ a ++ k) ∨
      (∃ i j, (i, j) ∈ e.inner ∧ p = x + i ∧ s = x + j ∧ c = []) ∨
      ∃ a b, e.skips = true ∧ (p, a) ∈ D.incoming ∧ (s, b) ∈ D.outgoing ∧ c = a ++ b := by
  cases e with
  | leaf m => simp [rewire, entries, exits, inner, skips]
  | concat l r =>
      simp [rewire, entries, exits, inner, skips]
      grind
  | alt l r =>
      simp [rewire, entries, exits, inner, skips, or_and_right, and_or_left, exists_or]
      grind
  | maybe y =>
      simp [rewire, mem_around_iff, entries, exits, inner, skips]
      grind
  | star y =>
      simp [rewire, mem_around_iff, entries, exits, inner, skips]
      grind
  | capture n y =>
      simp [rewire, entries, exits, inner, skips]
      grind

end Expr

namespace Draft

variable {α : Type u} {d : Draft α}

/-- The net of a draft. -/
def net (d : Draft α) : Net α Marker where
  node i := (d.slots[i]?).bind Slot.expr?
  link p a s := (⟨p, s, a⟩ : Link) ∈ d.live

lemma net_node (d : Draft α) (i : Nat) : d.net.node i = (d.slots[i]?).bind Slot.expr? := rfl

lemma Consistent.below (h : d.Consistent) : d.net.Below d.slots.size where
  node hi := by simp [net, Array.getElem?_eq_none hi]
  source hl := (h.stands _ hl _ (Or.inl rfl)).lt
  target hl := (h.stands _ hl _ (Or.inr rfl)).lt

/-! ## One step -/

lemma size_slots_foldl_alloc (d : Draft α) (es : List (Expr α)) :
    (es.foldl alloc d).slots.size = d.slots.size + es.length := by
  induction es generalizing d with
  | nil => rfl
  | cons e es ih =>
      rw [List.foldl_cons, ih, slots_alloc, Array.size_push, List.length_cons]
      omega

lemma getElem?_slots_foldl_alloc (d : Draft α) (es : List (Expr α)) (i : Nat) :
    (es.foldl alloc d).slots[i]? =
      if i < d.slots.size then d.slots[i]? else (es[i - d.slots.size]?).map Slot.ofExpr := by
  induction es generalizing d with
  | nil =>
      split_ifs with hi
      · rfl
      · simp [Array.getElem?_eq_none (Nat.le_of_not_lt hi)]
  | cons e es ih =>
      rw [List.foldl_cons, ih, getElem?_slots_alloc, slots_alloc, Array.size_push]
      by_cases hlt : i < d.slots.size
      · rw [if_pos (by omega), if_neg (by omega), if_pos hlt]
      · rw [if_neg hlt]
        by_cases heq : i = d.slots.size
        · simp [heq]
        · rw [if_neg (by omega), show i - d.slots.size = (i - (d.slots.size + 1)) + 1 by omega,
            List.getElem?_cons_succ]

lemma live_foldl_alloc (d : Draft α) (es : List (Expr α)) :
    (es.foldl alloc d).live = d.live := by
  induction es generalizing d with
  | nil => rfl
  | cons e es ih => rw [List.foldl_cons, ih, live_alloc]

lemma stands_foldl_alloc (d : Draft α) (es : List (Expr α)) {i : Nat}
    (h : d.Stands i ∨ ∃ j, j < es.length ∧ i = d.slots.size + j) :
    (es.foldl alloc d).Stands i := by
  simp only [Stands, getElem?_slots_foldl_alloc]
  rcases h with hs | ⟨j, hj, rfl⟩
  · rw [if_pos hs.lt]; exact hs
  · rw [if_neg (by omega), Nat.add_sub_cancel_left, List.getElem?_eq_getElem hj]
    exact ⟨_, rfl, Slot.isRewritten_ofExpr _⟩

lemma Consistent.foldl_alloc (h : d.Consistent) (hs : 2 ≤ d.slots.size) (es : List (Expr α)) :
    (es.foldl Draft.alloc d).Consistent := by
  induction es generalizing d with
  | nil => exact h
  | cons e es ih =>
      refine ih (h.alloc e hs) ?_
      rw [slots_alloc, Array.size_push]
      omega

/-- The sentinels are slots. -/
lemma Consistent.two_le_size (h : d.Consistent) : 2 ≤ d.slots.size :=
  (Array.getElem?_eq_some_iff.mp ((h.sentinel_iff 1).mpr Nat.one_lt_two)).1

section

variable {id : Nat} {rest : List Nat} {e : Expr α}

lemma mem_incoming (h : d.Consistent) {p : Nat} {a : List Marker} :
    (p, a) ∈ (Detached.ofLinks id (d.linksAt id)).incoming ↔ d.net.link p a id ∧ p ≠ id := by
  simp only [Detached.ofLinks, linksAt_eq h, List.mem_filterMap, List.mem_filter, net]
  constructor
  · rintro ⟨⟨p', s', a'⟩, ⟨hl, _⟩, hsome⟩
    split_ifs at hsome with hc
    obtain ⟨rfl, hp⟩ := hc
    simp only [Option.some.injEq, Prod.mk.injEq] at hsome
    obtain ⟨rfl, rfl⟩ := hsome
    exact ⟨hl, hp⟩
  · rintro ⟨hl, hp⟩
    exact ⟨_, ⟨hl, by simp [Link.Touches]⟩, by simp [hp]⟩

lemma mem_outgoing (h : d.Consistent) {s : Nat} {a : List Marker} :
    (s, a) ∈ (Detached.ofLinks id (d.linksAt id)).outgoing ↔ d.net.link id a s ∧ s ≠ id := by
  simp only [Detached.ofLinks, linksAt_eq h, List.mem_filterMap, List.mem_filter, net]
  constructor
  · rintro ⟨⟨p', s', a'⟩, ⟨hl, _⟩, hsome⟩
    split_ifs at hsome with hc
    obtain ⟨rfl, hs⟩ := hc
    simp only [Option.some.injEq, Prod.mk.injEq] at hsome
    obtain ⟨rfl, rfl⟩ := hsome
    exact ⟨hl, hs⟩
  · rintro ⟨hl, hs⟩
    exact ⟨_, ⟨hl, by simp [Link.Touches]⟩, by simp [hs]⟩

lemma mem_loops (h : d.Consistent) {a : List Marker} :
    a ∈ (Detached.ofLinks id (d.linksAt id)).loops ↔ d.net.link id a id := by
  simp only [Detached.ofLinks, linksAt_eq h, List.mem_filterMap, List.mem_filter, net]
  constructor
  · rintro ⟨⟨p', s', a'⟩, ⟨hl, _⟩, hsome⟩
    split_ifs at hsome with hc
    obtain ⟨hp, hs⟩ := hc
    simp only [Option.some.injEq] at hp hs hsome
    subst hp hs hsome
    exact hl
  · exact fun hl => ⟨_, ⟨hl, by simp [Link.Touches]⟩, by simp⟩

/-- A link that replaces those of an expression is a link of the rewritten net. -/
lemma mem_rewire_iff_rewired (h : d.Consistent) {p s : Nat} {c : List Marker} :
    Net.Rewired pure d.net id d.slots.size e p c s ↔
      (d.net.link p c s ∧ p ≠ id ∧ s ≠ id) ∨
        (⟨p, s, c⟩ : Link) ∈ e.rewire (Detached.ofLinks id (d.linksAt id)) d.slots.size := by
  rw [Expr.mem_rewire_iff]
  simp only [mem_incoming h, mem_outgoing h, mem_loops h]
  constructor
  · intro hr
    cases hr with
    | kept hl hp hs => exact Or.inl ⟨hl, hp, hs⟩
    | enter hl hp hi =>
        exact Or.inr (Or.inl ⟨_, _, _, ⟨hl, hp⟩, hi, rfl, by rw [Marker.spell_pure]⟩)
    | leave hl hs hi =>
        exact Or.inr (Or.inr (Or.inl ⟨_, _, _, ⟨hl, hs⟩, hi, rfl, by rw [Marker.spell_pure]⟩))
    | again hl hi hj =>
        exact Or.inr (Or.inr (Or.inr (Or.inl ⟨_, _, _, _, _, hl, hi, hj, rfl, rfl,
          by rw [Marker.spell_pure, Marker.spell_pure]⟩)))
    | inner hij => exact Or.inr (Or.inr (Or.inr (Or.inr (Or.inl ⟨_, _, hij, rfl, rfl, rfl⟩))))
    | past hk hl hp hl' hs =>
        exact Or.inr (Or.inr (Or.inr (Or.inr (Or.inr ⟨_, _, hk, ⟨hl, hp⟩, ⟨hl', hs⟩, rfl⟩))))
  · rintro (⟨hl, hp, hs⟩ | ⟨a, i, m, ⟨hl, hp⟩, hi, rfl, rfl⟩ | ⟨a, i, m, ⟨hl, hs⟩, hi, rfl, rfl⟩ |
      ⟨a, i, m, j, k, hl, hi, hj, rfl, rfl, rfl⟩ | ⟨i, j, hij, rfl, rfl, rfl⟩ |
      ⟨a, b, hk, ⟨hl, hp⟩, ⟨hl', hs⟩, rfl⟩)
    · exact .kept hl hp hs
    · have hr : Net.Rewired pure d.net id d.slots.size e _ _ _ := .enter hl hp hi
      simpa [Marker.spell_pure] using hr
    · have hr : Net.Rewired pure d.net id d.slots.size e _ _ _ := .leave hl hs hi
      simpa [Marker.spell_pure] using hr
    · have hr : Net.Rewired pure d.net id d.slots.size e _ _ _ := .again hl hi hj
      simpa [Marker.spell_pure] using hr
    · exact .inner hij
    · exact .past hk hl hp hl' hs

end

section

variable {id : Nat} {rest : List Nat} {e : Expr α}

/-- The new links run between slots that stand once the operands have theirs. -/
lemma stands_of_mem_rewire (h : d.Consistent) (he : d.slots[id]? = some (.composite e)) {l : Link}
    (hnew : l ∈ e.rewire (Detached.ofLinks id (d.linksAt id)) d.slots.size) {i : Nat}
    (hi : l.Touches i) : (e.children.foldl alloc (d.withdraw id)).Stands i := by
  have hid : id < d.slots.size := (Array.getElem?_eq_some_iff.mp he).1
  obtain ⟨p, s, c⟩ := l
  have hr : Net.Rewired pure d.net id d.slots.size e p c s :=
    (mem_rewire_iff_rewired h).mpr (Or.inr hnew)
  -- Both ends of a link of the rewritten net are old slots that stand or slots of operands.
  have hend : ∀ j, j = p ∨ j = s →
      (j ≠ id ∧ d.Stands j) ∨ ∃ k, k < e.children.length ∧ j = d.slots.size + k := by
    have hsource : ∀ {p s : Nat} {a : List Marker}, d.net.link p a s → d.Stands p :=
      fun hl => h.stands _ hl _ (Or.inl rfl)
    have htarget : ∀ {p s : Nat} {a : List Marker}, d.net.link p a s → d.Stands s :=
      fun hl => h.stands _ hl _ (Or.inr rfl)
    rintro j (rfl | rfl)
    · cases hr with
      | kept hl hp _ => exact Or.inl ⟨hp, hsource hl⟩
      | enter hl hp _ => exact Or.inl ⟨hp, hsource hl⟩
      | leave _ _ hx => exact Or.inr ⟨_, e.lt_length_of_mem_exits hx, rfl⟩
      | again _ hx _ => exact Or.inr ⟨_, e.lt_length_of_mem_exits hx, rfl⟩
      | inner hx => exact Or.inr ⟨_, (e.lt_length_of_mem_inner hx).1, rfl⟩
      | past _ hl hp _ _ => exact Or.inl ⟨hp, hsource hl⟩
    · cases hr with
      | kept hl _ hs => exact Or.inl ⟨hs, htarget hl⟩
      | enter _ _ hx => exact Or.inr ⟨_, e.lt_length_of_mem_entries hx, rfl⟩
      | leave hl hs _ => exact Or.inl ⟨hs, htarget hl⟩
      | again _ _ hx => exact Or.inr ⟨_, e.lt_length_of_mem_entries hx, rfl⟩
      | inner hx => exact Or.inr ⟨_, (e.lt_length_of_mem_inner hx).2, rfl⟩
      | past _ _ _ hl hs => exact Or.inl ⟨hs, htarget hl⟩
  refine stands_foldl_alloc _ _ ?_
  show (d.clear id).Stands i ∨ ∃ j, j < e.children.length ∧ i = (d.clear id).slots.size + j
  rw [stands_clear hid, size_slots_clear]
  exact hend i (hi.imp Eq.symm Eq.symm)

/-- With the operands in their slots, the records agree. -/
lemma Consistent.withdraw_alloc (h : d.Consistent) (he : d.slots[id]? = some (.composite e)) :
    (e.children.foldl Draft.alloc (d.withdraw id)).Consistent := by
  refine (h.withdraw he).foldl_alloc ?_ e.children
  show 2 ≤ (d.clear id).slots.size
  rw [size_slots_clear]
  exact h.two_le_size

/-- A pick keeps the records in agreement. -/
lemma Consistent.pick (h : d.Consistent) (he : d.slots[id]? = some (.composite e)) :
    (d.pick id).Consistent := by
  rw [pick_eq_addLinks_withdraw he]
  exact (h.withdraw_alloc he).addLinks fun l hl i hi => stands_of_mem_rewire h he hl hi

lemma Consistent.step (h : d.Consistent) (hp : d.pending = id :: rest)
    (he : d.slots[id]? = some (.composite e)) : d.step.Consistent :=
  step_eq_pick hp ▸ h.pick he

lemma slots_pick (he : d.slots[id]? = some (.composite e)) (i : Nat) :
    (d.pick id).slots[i]? = if i = id then some .rewritten
      else if i < d.slots.size then d.slots[i]?
      else (e.children[i - d.slots.size]?).map Slot.ofExpr := by
  have hid : id < d.slots.size := (Array.getElem?_eq_some_iff.mp he).1
  have hslot := getElem?_slots_clear d hid
  rw [pick_eq_addLinks_withdraw he, slots_addLinks, getElem?_slots_foldl_alloc]
  show (if i < (d.clear id).slots.size then (d.clear id).slots[i]?
    else (e.children[i - (d.clear id).slots.size]?).map Slot.ofExpr) = _
  rw [size_slots_clear, hslot]
  by_cases hi : i = id
  · rw [if_pos hi, if_pos (by omega), if_pos hi]
  · rw [if_neg hi, if_neg hi]

/-- **A pick is a rewrite of the net.** -/
theorem net_pick (h : d.Consistent) (he : d.slots[id]? = some (.composite e)) :
    (d.pick id).net = d.net.rewrite pure id d.slots.size e := by
  have hnode : (d.pick id).net.node = (d.net.rewrite pure id d.slots.size e).node := by
    funext i
    simp only [net, slots_pick he, Net.rewrite]
    split_ifs
    · rfl
    · rfl
    · cases e.children[i - d.slots.size]? <;> simp
  have hlink : (d.pick id).net.link = (d.net.rewrite pure id d.slots.size e).link := by
    funext p c s
    refine propext ?_
    simp only [net, pick_eq_addLinks_withdraw he, Net.rewrite]
    rw [mem_live_addLinks (h.withdraw_alloc he) fun l hl i hi => stands_of_mem_rewire h he hl hi,
      live_foldl_alloc]
    show (⟨p, s, c⟩ : Link) ∈ (d.clear id).live ∨ _ ↔ _
    rw [mem_live_clear h]
    refine Iff.trans ?_ (mem_rewire_iff_rewired h).symm
    simp only [net, Link.Touches, not_or]
  calc (d.pick id).net = ⟨(d.pick id).net.node, (d.pick id).net.link⟩ := rfl
    _ = d.net.rewrite pure id d.slots.size e := by rw [hnode, hlink]

/-- **A step of the compiler is a rewrite of the net.** -/
theorem net_step (h : d.Consistent) (hp : d.pending = id :: rest)
    (he : d.slots[id]? = some (.composite e)) :
    d.step.net = d.net.rewrite pure id d.slots.size e :=
  step_eq_pick hp ▸ net_pick h he

/-! ## All steps -/

lemma toList_slots_foldl_alloc (d : Draft α) (es : List (Expr α)) :
    (es.foldl alloc d).slots.toList = d.slots.toList ++ es.map Slot.ofExpr := by
  induction es generalizing d with
  | nil => simp
  | cons e es ih => rw [List.foldl_cons, ih, slots_alloc]; simp

lemma toList_slots_pick (he : d.slots[id]? = some (.composite e)) :
    (d.pick id).slots.toList =
      d.slots.toList.set id .rewritten ++ e.children.map Slot.ofExpr := by
  have hslots : (d.withdraw id).slots.toList = d.slots.toList.set id .rewritten :=
    Array.toList_setIfInBounds
  rw [pick_eq_addLinks_withdraw he, slots_addLinks, toList_slots_foldl_alloc, hslots]

lemma toList_slots_step (hp : d.pending = id :: rest) (he : d.slots[id]? = some (.composite e)) :
    d.step.slots.toList = d.slots.toList.set id .rewritten ++ e.children.map Slot.ofExpr :=
  step_eq_pick hp ▸ toList_slots_pick he

lemma slotWork_ofExpr (e : Expr α) : slotWork (Slot.ofExpr e) = e.compositeCount := by
  cases e <;> rfl

/-- An operator and the operators below it. -/
lemma compositeCount_eq (h : e.children ≠ []) :
    e.compositeCount = (e.children.map Expr.compositeCount).sum + 1 := by
  cases e with
  | leaf m => exact absurd rfl h
  | concat l r => simp [Expr.compositeCount, Expr.children]
  | alt l r => simp [Expr.compositeCount, Expr.children]
  | maybe x => simp [Expr.compositeCount, Expr.children]
  | star x => simp [Expr.compositeCount, Expr.children]
  | capture n x => simp [Expr.compositeCount, Expr.children]

/-- Replacing a member changes a sum by the two values. -/
lemma sum_map_set {β : Type u} {M : Type v} [AddCommMonoid M] (f : β → M) {l : List β} {i : Nat}
    {a b : β} (h : l[i]? = some a) :
    ((l.set i b).map f).sum + f a = (l.map f).sum + f b := by
  induction l generalizing i with
  | nil => simp at h
  | cons c l ih =>
      cases i with
      | zero =>
          simp only [List.getElem?_cons_zero, Option.some.injEq] at h
          simp only [List.set_cons_zero, List.map_cons, List.sum_cons, h]
          rw [add_right_comm, add_comm (f b), add_right_comm]
      | succ i =>
          simp only [List.set_cons_succ, List.map_cons, List.sum_cons]
          rw [add_assoc, ih (by simpa using h), add_assoc]

/-- Every rewrite takes away one operator. -/
lemma work_pick (h : d.Consistent) (he : d.slots[id]? = some (.composite e)) :
    (d.pick id).work + 1 = d.work := by
  have hset := sum_map_set slotWork (b := .rewritten) (Array.getElem?_toList ▸ he)
  have hcount := compositeCount_eq (h.children_ne id e he)
  have hnew : (e.children.map (slotWork ∘ Slot.ofExpr)).sum =
      (e.children.map Expr.compositeCount).sum := by
    rw [show slotWork ∘ Slot.ofExpr = Expr.compositeCount from funext slotWork_ofExpr]
  simp only [slotWork] at hset
  calc (d.pick id).work + 1
      = ((d.slots.toList.set id .rewritten).map slotWork).sum +
          (e.children.map (slotWork ∘ Slot.ofExpr)).sum + 1 := by
        rw [work, toList_slots_pick he, List.map_append, List.map_map, ← List.sum_eq_foldr,
          List.sum_append]
    _ = (d.slots.toList.map slotWork).sum := by omega
    _ = d.work := by rw [work, List.sum_eq_foldr]

lemma work_step (h : d.Consistent) (hp : d.pending = id :: rest)
    (he : d.slots[id]? = some (.composite e)) : d.step.work + 1 = d.work :=
  step_eq_pick hp ▸ work_pick h he

end

/-! ## All steps -/

/-- What is next to be rewritten is composite. -/
lemma Consistent.exists_composite (h : d.Consistent) {id : Nat} {rest : List Nat}
    (hp : d.pending = id :: rest) : ∃ e, d.slots[id]? = some (.composite e) :=
  (h.mem_pending id).mp (by rw [hp]; exact List.mem_cons_self)

/-- Induction over at most `n` rewrites. -/
lemma drainFor_induction {P : Draft α → Prop}
    (hstep : ∀ {d : Draft α} {id rest e}, d.Consistent → d.pending = id :: rest →
      d.slots[id]? = some (.composite e) → P d → P d.step) (n : Nat) {d : Draft α}
    (h : d.Consistent) (h0 : P d) (hn : d.work ≤ n) :
    (drainFor n d).Consistent ∧ (drainFor n d).pending = [] ∧ P (drainFor n d) := by
  induction n generalizing d with
  | zero =>
      rw [drainFor]
      cases hp : d.pending with
      | nil => exact ⟨h, rfl, h0⟩
      | cons id rest =>
          obtain ⟨e, he⟩ := h.exists_composite hp
          have := work_step h hp he
          omega
  | succ n ih =>
      rw [drainFor]
      cases hp : d.pending with
      | nil => exact ⟨h, hp, h0⟩
      | cons id rest =>
          obtain ⟨e, he⟩ := h.exists_composite hp
          have := work_step h hp he
          exact ih (h.step hp he) (hstep h hp he h0) (by omega)

/-- **Induction over a compilation.**  What every rewrite keeps holds of the last draft, in which
nothing is pending. -/
theorem drain_induction {P : Draft α → Prop}
    (hstep : ∀ {d : Draft α} {id rest e}, d.Consistent → d.pending = id :: rest →
      d.slots[id]? = some (.composite e) → P d → P d.step) (h : d.Consistent) (h0 : P d) :
    d.drain.Consistent ∧ d.drain.pending = [] ∧ P d.drain :=
  drainFor_induction hstep d.work h h0 le_rfl

lemma size_slots_pick {id : Nat} {e : Expr α} (he : d.slots[id]? = some (.composite e)) :
    (d.pick id).slots.size = d.slots.size + e.children.length := by
  rw [pick_eq_addLinks_withdraw he, slots_addLinks, size_slots_foldl_alloc]
  exact congrArg (· + e.children.length) (size_slots_clear d id)

lemma size_slots_step {id : Nat} {rest : List Nat} {e : Expr α} (hp : d.pending = id :: rest)
    (he : d.slots[id]? = some (.composite e)) :
    d.step.slots.size = d.slots.size + e.children.length :=
  step_eq_pick hp ▸ size_slots_pick he

/-- When nothing is pending, only leaves are left. -/
lemma Consistent.children_eq_nil (h : d.Consistent) (hp : d.pending = []) {i : Nat} {e : Expr α}
    (hi : d.net.node i = some e) : e.children = [] := by
  simp only [net, Option.bind_eq_some_iff] at hi
  obtain ⟨slot, hslot, he⟩ := hi
  cases slot with
  | leaf m =>
      simp only [Slot.expr?, Option.some.injEq] at he
      rw [← he, Expr.children]
  | composite f => exact absurd hslot (h.ne_composite hp)
  | sentinel => simp [Slot.expr?] at he
  | rewritten => simp [Slot.expr?] at he

/-- What is next in a draft is next in its net. -/
lemma Consistent.next (h : d.Consistent) {id : Nat} {rest : List Nat} {e : Expr α}
    (hp : d.pending = id :: rest) (he : d.slots[id]? = some (.composite e)) :
    d.net.Next id e where
  node := by
    rw [net_node, he]
    rfl
  children_ne := h.children_ne id e he
  le {i f} hi hf := by
    obtain ⟨slot, hslot, hexpr⟩ := Option.bind_eq_some_iff.mp hi
    cases slot with
    | composite f' =>
        have hmem := (h.mem_pending i).mpr ⟨f', hslot⟩
        rw [hp, List.mem_cons] at hmem
        rcases hmem with rfl | hmem
        · exact Nat.le_refl i
        · have hdec := List.pairwise_cons.mp (hp ▸ h.pending_decreasing)
          exact Nat.le_of_lt (hdec.1 i hmem)
    | leaf m =>
        simp only [Slot.expr?, Option.some.injEq] at hexpr
        exact absurd (by rw [← hexpr]; rfl) hf
    | sentinel => simp [Slot.expr?] at hexpr
    | rewritten => simp [Slot.expr?] at hexpr

/-- **The compiler takes the net of a draft apart.** -/
theorem exists_unfolds (h : d.Consistent) :
    ∃ x', d.net.Unfolds pure d.slots.size d.drain.net x' ∧ d.drain.net.LeavesFrom 0 := by
  have hstep : ∀ {d' : Draft α} {id rest e}, d'.Consistent → d'.pending = id :: rest →
      d'.slots[id]? = some (.composite e) →
      d.net.Unfolds pure d.slots.size d'.net d'.slots.size →
      d.net.Unfolds pure d.slots.size d'.step.net d'.step.slots.size := by
    intro d' id rest e hc hp he hu
    rw [size_slots_step hp he, net_step hc hp he]
    exact hu.step (hc.next hp he)
  obtain ⟨hc, hp, hu⟩ := drain_induction hstep h .refl
  exact ⟨_, hu, fun _ hi => hc.children_eq_nil hp hi⟩

/-! ## The first draft -/

lemma consistent_empty : (empty : Draft α).Consistent where
  touching_size := rfl
  mem_present l := by simp [empty, live]
  nodup := List.nodup_nil
  increasing id := by
    rcases id with _ | _ | id <;> simp [positionsAt, empty]
  position_lt id p hp := by
    rcases id with _ | _ | id <;> simp [positionsAt, empty] at hp
  mem_positionsAt id p l hl := by simp [empty] at hl
  stands l hl := by simp [empty, live] at hl
  sentinel_iff id := by
    rcases id with _ | _ | id <;> simp [empty]
  children_ne id e he := by
    rcases id with _ | _ | id <;> simp [empty] at he
  mem_pending id := by
    rcases id with _ | _ | id <;> simp [empty]
  pending_decreasing := List.Pairwise.nil

lemma stands_start (e : Expr α) {l : Link} (hl : l ∈ [(⟨NodeId.initial, 2, []⟩ : Link),
    ⟨2, NodeId.terminal, []⟩]) {i : Nat} (hi : l.Touches i) : (empty.alloc e).Stands i := by
  have hsent : ∀ j < 2, (empty.alloc e).Stands j := fun j hj =>
    Stands.alloc ⟨.sentinel, (consistent_empty.sentinel_iff j).mpr hj, rfl⟩ e
  have hself : (empty.alloc e).Stands 2 := stands_alloc_self empty e
  simp only [List.mem_cons, List.not_mem_nil, or_false] at hl
  rcases hl with rfl | rfl <;> rcases hi with rfl | rfl
  · exact hsent 0 (by decide)
  · exact hself
  · exact hself
  · exact hsent 1 (by decide)

lemma consistent_start (e : Expr α) : (start e).Consistent :=
  (consistent_empty.alloc e le_rfl).addLinks fun _ hl _ hi => stands_start e hl hi

/-- At first there is the expression between the sentinels and nothing else. -/
lemma link_start (e : Expr α) (p s : Nat) (a : List Marker) :
    (start e).net.link p a s ↔
      (p = 0 ∧ s = 2 ∧ a = []) ∨ (p = 2 ∧ s = 1 ∧ a = []) := by
  have hlive : (empty.alloc e).live = [] := by rw [live_alloc]; rfl
  simp only [net, start]
  rw [mem_live_addLinks (consistent_empty.alloc e le_rfl) fun _ hl _ hi => stands_start e hl hi,
    hlive]
  simp [NodeId.initial, NodeId.terminal]

lemma slots_start (e : Expr α) : (start e).slots = #[.sentinel, .sentinel, Slot.ofExpr e] := by
  rw [start, slots_addLinks, slots_alloc]
  rfl

lemma node_start (e : Expr α) (i : Nat) :
    (start e).net.node i = if i = 2 then some e else none := by
  rw [net, slots_start]
  rcases i with _ | _ | _ | i
  · rfl
  · rfl
  · simp
  · simp

end Draft

end TokenPattern
