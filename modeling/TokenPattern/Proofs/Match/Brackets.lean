import Mathlib.Data.Nat.Notation
import Mathlib.Tactic.Common
import TokenPattern.Marker

/-!
# Boundaries as brackets

A list of boundaries, each with the number of its item, is read as a list of brackets.  `opened` is
the stack of the groups that are open in front of a boundary, each known by the number of the
boundary that opened it; its head is the group that was innermost.

**One group on the stack.**  A group lies on the stack from the boundary that opens it to the one
that closes it, and always on the same groups: those that were open when it opened
(`opened_of_suffix`).  All else follows from this: a group is closed once (`Closes.unique`), the
groups inside another one are closed before it (`Closes.le_of_parent`), and a group is closed before
the next one with the same parent opens (`exists_closes_of_sibling`).
-/

namespace TokenPattern.Brackets

/-- Boundaries in order, each with the number of the item in front of which it stands. -/
abbrev Boundaries := List (ℕ × Marker)

variable (bs : Boundaries)

/-! ## Groups -/

/-- The name of the group that a boundary opens. -/
def name? (s : ℕ) : Option String := bs[s]?.bind fun b => b.2.start?

/-- The number of the item in front of which a boundary stands. -/
def place (s : ℕ) : ℕ := (bs[s]?.map Prod.fst).getD 0

/-- The groups that are open in front of a boundary, innermost first. -/
def opened : ℕ → List ℕ
  | 0 => []
  | k + 1 =>
    match bs[k]? with
    | some (_, .start _) => k :: opened k
    | some (_, .stop _) => (opened k).tail
    | none => opened k

/-- The group that was innermost when another one opened, if there was one. -/
def parent? (s : ℕ) : Option ℕ := (opened bs s).head?

/-- Whether a boundary closes a group, the innermost open one. -/
def Closes (s k : ℕ) : Prop := (∃ i n, bs[k]? = some (i, .stop n)) ∧ parent? bs k = some s

/-- Whether every boundary that closes a group has the name of the innermost open one. -/
def WellNested : Prop :=
  ∀ k i n, bs[k]? = some (i, .stop n) → ∃ s, parent? bs k = some s ∧ name? bs s = some n

/-- The name of the innermost of the groups that are open in front of a boundary. -/
def innermost? (k : ℕ) : Option String := (parent? bs k).bind (name? bs)

/-- Whether a boundary closes a group that is not the innermost open one. -/
def Misfit (k : ℕ) : Prop := ∃ i n, bs[k]? = some (i, .stop n) ∧ innermost? bs k ≠ some n

variable {bs} {s c k i : ℕ} {n : String} {rest : List ℕ}

lemma innermost?_eq_some_iff :
    innermost? bs k = some n ↔ ∃ s, parent? bs k = some s ∧ name? bs s = some n :=
  Option.bind_eq_some_iff

/-- A boundary that closes a group and fits has the name of the innermost open one. -/
lemma exists_parent_of_not_misfit (h : ¬ Misfit bs k) (hb : bs[k]? = some (i, .stop n)) :
    ∃ s, parent? bs k = some s ∧ name? bs s = some n := by
  rw [← innermost?_eq_some_iff]
  by_contra hne
  exact h ⟨i, n, hb, hne⟩

lemma wellNested_iff : WellNested bs ↔ ∀ k, ¬ Misfit bs k := by
  constructor
  · rintro h k ⟨i, n, hb, hne⟩
    exact hne (innermost?_eq_some_iff.2 (h k i n hb))
  · exact fun h k _ _ hb => exists_parent_of_not_misfit (h k) hb

lemma name?_eq_some_iff : name? bs s = some n ↔ ∃ i, bs[s]? = some (i, .start n) := by
  rw [name?, Option.bind_eq_some_iff]
  constructor
  · rintro ⟨⟨i, m⟩, hb, hm⟩
    cases m with
    | start n' =>
        obtain rfl : n' = n := Option.some.inj hm
        exact ⟨i, hb⟩
    | stop n' => cases hm
  · rintro ⟨i, hb⟩
    exact ⟨(i, .start n), hb, rfl⟩

lemma place_eq {m : Marker} (h : bs[s]? = some (i, m)) : place bs s = i := by
  simp [place, h]

lemma lt_length_of_name? (h : name? bs s = some n) : s < bs.length := by
  obtain ⟨i, hs⟩ := name?_eq_some_iff.1 h
  exact (List.getElem?_eq_some_iff.1 hs).1

lemma opened_succ_of_start (h : bs[k]? = some (i, .start n)) :
    opened bs (k + 1) = k :: opened bs k := by
  rw [opened, h]

lemma opened_succ_of_stop (h : bs[k]? = some (i, .stop n)) :
    opened bs (k + 1) = (opened bs k).tail := by
  rw [opened, h]

/-! ## The stack -/

/-- A group lies on the groups that were open when it opened, and stays where it is. -/
lemma opened_of_suffix (h : s :: rest <:+ opened bs k) :
    s < k ∧ (∃ n, name? bs s = some n) ∧ opened bs s = rest ∧
      ∀ c, s < c → c ≤ k → s :: rest <:+ opened bs c := by
  induction k with
  | zero => simp [opened] at h
  | succ k ih =>
      -- A suffix of the stack before the boundary was there before.
      have hbefore : s :: rest <:+ opened bs k →
          s < k + 1 ∧ (∃ n, name? bs s = some n) ∧ opened bs s = rest ∧
            ∀ c, s < c → c ≤ k + 1 → s :: rest <:+ opened bs c := by
        intro hk
        obtain ⟨hlt, hname, hopened, hstays⟩ := ih hk
        refine ⟨by omega, hname, hopened, fun c hc hck => ?_⟩
        rcases Nat.lt_or_ge k c with hkc | hkc
        · obtain rfl : c = k + 1 := by omega
          exact h
        · exact hstays c hc hkc
      cases hb : bs[k]? with
      | none =>
          rw [opened, hb] at h
          exact hbefore h
      | some b =>
          obtain ⟨i, m⟩ := b
          cases m with
          | stop n =>
              rw [opened_succ_of_stop hb] at h
              exact hbefore (h.trans (List.tail_suffix _))
          | start n =>
              have h' := h
              rw [opened_succ_of_start hb, List.suffix_cons_iff] at h'
              rcases h' with heq | hk
              · obtain ⟨rfl, rfl⟩ := List.cons.inj heq
                refine ⟨by omega, ⟨n, name?_eq_some_iff.2 ⟨i, hb⟩⟩, rfl, fun c hc hck => ?_⟩
                obtain rfl : c = s + 1 := by omega
                exact h
              · exact hbefore hk

lemma suffix_of_mem_opened (h : s ∈ opened bs k) : s :: opened bs s <:+ opened bs k := by
  obtain ⟨front, rest, heq⟩ := List.append_of_mem h
  have hsuffix : s :: rest <:+ opened bs k := ⟨front, heq.symm⟩
  rwa [(opened_of_suffix hsuffix).2.2.1]

lemma lt_of_mem_opened (h : s ∈ opened bs k) : s < k :=
  (opened_of_suffix (suffix_of_mem_opened h)).1

lemma exists_name_of_mem_opened (h : s ∈ opened bs k) : ∃ n, name? bs s = some n :=
  (opened_of_suffix (suffix_of_mem_opened h)).2.1

/-- A group that is open was open since it opened. -/
lemma mem_opened_of_le (h : s ∈ opened bs k) (hc : s < c) (hck : c ≤ k) : s ∈ opened bs c :=
  ((opened_of_suffix (suffix_of_mem_opened h)).2.2.2 c hc hck).subset List.mem_cons_self

lemma mem_opened_of_parent? (h : parent? bs c = some s) : s ∈ opened bs c := List.mem_of_head? h

lemma lt_of_parent? (h : parent? bs c = some s) : s < c :=
  lt_of_mem_opened (mem_opened_of_parent? h)

lemma opened_eq_of_parent? (h : parent? bs k = some s) : opened bs k = s :: opened bs s := by
  cases hopened : opened bs k with
  | nil => simp [parent?, hopened] at h
  | cons s' rest =>
      rw [parent?, hopened] at h
      obtain rfl : s' = s := Option.some.inj h
      have hsuffix : s' :: rest <:+ opened bs k := hopened ▸ List.suffix_refl _
      rw [(opened_of_suffix hsuffix).2.2.1]

/-- While a group is open, all groups open inside it. -/
lemma exists_parent_ge (h : s ∈ opened bs c) : ∃ p, parent? bs c = some p ∧ s ≤ p := by
  cases hopened : opened bs c with
  | nil => simp [hopened] at h
  | cons p rest =>
      have hp : parent? bs c = some p := by rw [parent?, hopened]; rfl
      refine ⟨p, hp, ?_⟩
      rw [opened_eq_of_parent? hp] at h
      rcases List.mem_cons.1 h with rfl | h
      · exact Nat.le_refl s
      · exact Nat.le_of_lt (lt_of_mem_opened h)

/-- A group is not open any more when one with the same parent opens. -/
lemma not_mem_opened_of_sibling (h : parent? bs c = parent? bs s) : s ∉ opened bs c := by
  intro hs
  obtain ⟨p, hp, hle⟩ := exists_parent_ge hs
  have hlt := lt_of_parent? (h.symm.trans hp)
  omega

/-! ## Closing -/

lemma Closes.lt (h : Closes bs s k) : s < k := lt_of_parent? h.2

/-- A group that is closed is not open afterwards. -/
lemma Closes.not_mem_opened (h : Closes bs s k) (hc : k < c) : s ∉ opened bs c := by
  intro hs
  obtain ⟨⟨i, n, hb⟩, hparent⟩ := h
  have hsk := lt_of_parent? hparent
  have hmem : s ∈ opened bs (k + 1) := mem_opened_of_le hs (by omega) hc
  rw [opened_succ_of_stop hb, opened_eq_of_parent? hparent, List.tail_cons] at hmem
  exact absurd (lt_of_mem_opened hmem) (Nat.lt_irrefl s)

lemma Closes.unique {k' : ℕ} (h : Closes bs s k) (h' : Closes bs s k') : k = k' := by
  rcases Nat.lt_trichotomy k k' with hlt | heq | hlt
  · exact absurd (mem_opened_of_parent? h'.2) (h.not_mem_opened hlt)
  · exact heq
  · exact absurd (mem_opened_of_parent? h.2) (h'.not_mem_opened hlt)

/-- A group that has opened and is not open any more has been closed. -/
lemma exists_closes (hname : name? bs s = some n) (hk : s < k) (h : s ∉ opened bs k) :
    ∃ k', k' < k ∧ Closes bs s k' := by
  induction k with
  | zero => omega
  | succ k ih =>
      by_cases hmem : s ∈ opened bs k
      · -- The boundary in front takes the group from the stack.
        cases hb : bs[k]? with
        | none =>
            rw [opened, hb] at h
            exact absurd hmem h
        | some b =>
            obtain ⟨i, m⟩ := b
            cases m with
            | start n' =>
                rw [opened_succ_of_start hb] at h
                exact absurd (List.mem_cons_of_mem k hmem) h
            | stop n' =>
                refine ⟨k, Nat.lt_succ_self k, ⟨i, n', hb⟩, ?_⟩
                rw [opened_succ_of_stop hb] at h
                obtain ⟨p, hp, _⟩ := exists_parent_ge hmem
                rw [opened_eq_of_parent? hp] at hmem h
                rcases List.mem_cons.1 hmem with rfl | hrest
                · exact hp
                · exact absurd hrest h
      · obtain ⟨j, hj⟩ := name?_eq_some_iff.1 hname
        have hne : s ≠ k := by
          rintro rfl
          rw [opened_succ_of_start hj] at h
          exact h List.mem_cons_self
        obtain ⟨k', hk', hcloses⟩ := ih (by omega) hmem
        exact ⟨k', by omega, hcloses⟩

/-- A group is closed in front of the next one with the same parent. -/
lemma exists_closes_of_sibling (hname : name? bs s = some n) (hs : s < c)
    (h : parent? bs c = parent? bs s) : ∃ k < c, Closes bs s k :=
  exists_closes hname hs (not_mem_opened_of_sibling h)

/-- A group is closed no later than its parent. -/
lemma Closes.exists_of_parent (h : Closes bs s k) (hname : name? bs c = some n)
    (hparent : parent? bs c = some s) : ∃ k' < k, Closes bs c k' := by
  have hck : c < k := by
    rcases Nat.lt_trichotomy c k with hlt | rfl | hlt
    · exact hlt
    · obtain ⟨i, hstart⟩ := name?_eq_some_iff.1 hname
      obtain ⟨j, n', hstop⟩ := h.1
      simp [hstart] at hstop
    · exact absurd (mem_opened_of_parent? hparent) (h.not_mem_opened hlt)
  refine exists_closes hname hck fun hmem => ?_
  obtain ⟨p, hp, hle⟩ := exists_parent_ge hmem
  obtain rfl := Option.some.inj (hp.symm.trans h.2)
  have := lt_of_parent? hparent
  omega

/-! ## Groups inside groups -/

variable (bs) in
/-- The groups that open directly in another one, or on the top level. -/
def children (p : Option ℕ) : List ℕ :=
  (List.range bs.length).filter fun c => (name? bs c).isSome ∧ parent? bs c = p

lemma mem_children_iff {p : Option ℕ} :
    c ∈ children bs p ↔ (∃ n, name? bs c = some n) ∧ parent? bs c = p := by
  rw [children, List.mem_filter, List.mem_range]
  simp only [Bool.decide_and, Bool.and_eq_true, decide_eq_true_eq, Option.isSome_iff_exists]
  constructor
  · rintro ⟨_, h⟩
    exact h
  · rintro ⟨⟨n, hn⟩, hp⟩
    exact ⟨lt_length_of_name? hn, ⟨n, hn⟩, hp⟩

lemma nodup_children (p : Option ℕ) : (children bs p).Nodup := List.nodup_range.filter _

/-! ## Extents -/

variable (bs) in
/-- The number of the item in front of which a group is closed; one that stays open is closed in
front of item `last`. -/
def ending (last s : ℕ) : ℕ :=
  ((List.range bs.length).find? fun k =>
    (bs[k]?.bind fun b => b.2.stop?).isSome ∧ parent? bs k = some s).elim last (place bs)

lemma closes_iff : Closes bs s k ↔
    k < bs.length ∧ (bs[k]?.bind fun b => b.2.stop?).isSome ∧ parent? bs k = some s := by
  constructor
  · rintro ⟨⟨i, n, hb⟩, hp⟩
    exact ⟨(List.getElem?_eq_some_iff.1 hb).1, by simp [hb, Marker.stop?], hp⟩
  · rintro ⟨_, hstop, hp⟩
    refine ⟨?_, hp⟩
    cases hb : bs[k]? with
    | none => simp [hb] at hstop
    | some b =>
        obtain ⟨i, m⟩ := b
        cases m with
        | start n => simp [hb, Marker.stop?] at hstop
        | stop n => exact ⟨i, n, rfl⟩

lemma ending_of_closes (h : Closes bs s k) (last : ℕ) : ending bs last s = place bs k := by
  rw [ending]
  cases hfind : (List.range bs.length).find? fun k =>
      (bs[k]?.bind fun b => b.2.stop?).isSome ∧ parent? bs k = some s with
  | none =>
      obtain ⟨hlt, hstop⟩ := closes_iff.1 h
      have hnone := List.find?_eq_none.1 hfind k (List.mem_range.2 hlt)
      exact absurd (decide_eq_true hstop) hnone
  | some k' =>
      have hk' := List.find?_some hfind
      have hlt := List.mem_range.1 (List.mem_of_find?_eq_some hfind)
      simp only [decide_eq_true_eq] at hk'
      rw [h.unique (closes_iff.2 ⟨hlt, hk'⟩)]
      rfl

lemma ending_of_not_closes (h : ∀ k, ¬ Closes bs s k) (last : ℕ) : ending bs last s = last := by
  have hfind : (List.range bs.length).find? (fun k =>
      (bs[k]?.bind fun b => b.2.stop?).isSome ∧ parent? bs k = some s) = none := by
    refine List.find?_eq_none.2 fun k hk hcloses => ?_
    simp only [decide_eq_true_eq] at hcloses
    exact h k (closes_iff.2 ⟨List.mem_range.1 hk, hcloses⟩)
  rw [ending, hfind]
  rfl

/-- A group that is open at the end is not closed. -/
lemma not_closes_of_mem_opened (h : s ∈ opened bs bs.length) (k : ℕ) : ¬ Closes bs s k :=
  fun hcloses => hcloses.not_mem_opened (closes_iff.1 hcloses).1 h

variable (bs) in
/-- Whether the boundaries stand in order, none of them behind item `last`. -/
structure Ordered (last : ℕ) : Prop where
  pairwise : bs.Pairwise fun b c => b.1 ≤ c.1
  le_last : ∀ b ∈ bs, b.1 ≤ last

variable {last : ℕ}

lemma Ordered.place_le_place (h : Ordered bs last) (hs : s ≤ k) (hk : k < bs.length) :
    place bs s ≤ place bs k := by
  have hplace : ∀ (j) (hj : j < bs.length), place bs j = bs[j].1 := by
    intro j hj
    simp [place, hj]
  rcases Nat.lt_or_eq_of_le hs with hlt | rfl
  · rw [hplace s (by omega), hplace k hk]
    exact List.pairwise_iff_getElem.1 h.pairwise s k (by omega) hk hlt
  · exact Nat.le_refl _

lemma Ordered.place_le_last (h : Ordered bs last) (hs : s < bs.length) : place bs s ≤ last := by
  have hplace : place bs s = bs[s].1 := by simp [place, hs]
  rw [hplace]
  exact h.le_last _ (List.getElem_mem hs)

variable (bs) in
lemma ending_cases (last s : ℕ) :
    (∃ k, Closes bs s k ∧ ending bs last s = place bs k) ∨
      (∀ k, ¬ Closes bs s k) ∧ ending bs last s = last := by
  by_cases h : ∃ k, Closes bs s k
  · obtain ⟨k, hk⟩ := h
    exact Or.inl ⟨k, hk, ending_of_closes hk last⟩
  · have hno := not_exists.1 h
    exact Or.inr ⟨hno, ending_of_not_closes hno last⟩

lemma Ordered.ending_le_last (h : Ordered bs last) (s : ℕ) : ending bs last s ≤ last := by
  rcases ending_cases bs last s with ⟨k, hk, heq⟩ | ⟨_, heq⟩
  · rw [heq]
    exact h.place_le_last (closes_iff.1 hk).1
  · exact Nat.le_of_eq heq

lemma Ordered.place_le_ending (h : Ordered bs last) (hname : name? bs s = some n) :
    place bs s ≤ ending bs last s := by
  rcases ending_cases bs last s with ⟨k, hk, heq⟩ | ⟨_, heq⟩
  · rw [heq]
    exact h.place_le_place (Nat.le_of_lt hk.lt) (closes_iff.1 hk).1
  · rw [heq]
    exact h.place_le_last (lt_length_of_name? hname)

/-- A group ends no later than its parent. -/
lemma Ordered.ending_le_of_parent (h : Ordered bs last) (hname : name? bs c = some n)
    (hparent : parent? bs c = some s) : ending bs last c ≤ ending bs last s := by
  rcases ending_cases bs last s with ⟨k, hk, heq⟩ | ⟨_, heq⟩
  · obtain ⟨k', hlt, hk'⟩ := hk.exists_of_parent hname hparent
    rw [heq, ending_of_closes hk']
    exact h.place_le_place (Nat.le_of_lt hlt) (closes_iff.1 hk).1
  · rw [heq]
    exact h.ending_le_last c

/-- A group ends before the next one with the same parent starts. -/
lemma Ordered.ending_le_of_sibling (h : Ordered bs last) (hname : name? bs s = some n)
    (hs : s < c) (hc : c < bs.length) (hparent : parent? bs c = parent? bs s) :
    ending bs last s ≤ place bs c := by
  obtain ⟨k, hlt, hk⟩ := exists_closes_of_sibling hname hs hparent
  rw [ending_of_closes hk]
  exact h.place_le_place (Nat.le_of_lt hlt) hc

end TokenPattern.Brackets
