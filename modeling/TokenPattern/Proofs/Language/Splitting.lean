import Mathlib.Computability.Language

/-!
# Sequences with separators

A sequence that is made of parts with separators between them can be taken apart at its separators, if
there are none in the parts: this way of reading it is the only one.

* `mem_separated_iff` — parts of one kind;
* `mem_separated_last_iff` — parts of one kind, and at the end one of another kind.
-/

namespace TokenPattern

open scoped Computability

universe u

variable {α : Type u} {p : α → Bool} {w : List α}

/-! ## Places where a sequence is split -/

/-- Between two pieces there is a separator. -/
lemma exists_of_splitOnP_eq_append {A B : List (List α)} (hA : A ≠ []) (hB : B ≠ [])
    (h : w.splitOnP p = A ++ B) :
    ∃ u c v, w = u ++ c :: v ∧ p c = true ∧ u.splitOnP p = A ∧ v.splitOnP p = B := by
  induction w generalizing A with
  | nil =>
      rw [List.splitOnP_nil] at h
      have hlen := congrArg List.length h
      rw [List.length_append, List.length_singleton] at hlen
      have := List.length_pos_of_ne_nil hA
      have := List.length_pos_of_ne_nil hB
      omega
  | cons x w ih =>
      obtain ⟨a, A, rfl⟩ := List.exists_cons_of_ne_nil hA
      rw [List.splitOnP_cons_eq_if_modifyHead, List.cons_append] at h
      split_ifs at h with hx
      · obtain ⟨rfl, hpieces⟩ := List.cons.inj h
        by_cases hA' : A = []
        · subst hA'
          exact ⟨[], x, w, rfl, hx, List.splitOnP_nil, hpieces⟩
        · obtain ⟨u, c, v, rfl, hc, rfl, hv⟩ := ih hA' hpieces
          refine ⟨x :: u, c, v, rfl, hc, ?_, hv⟩
          rw [List.splitOnP_cons_eq_if_modifyHead, if_pos hx]
      · obtain ⟨b, rest, hb⟩ := List.exists_cons_of_ne_nil (List.splitOnP_ne_nil p w)
        rw [hb, List.modifyHead_cons] at h
        obtain ⟨rfl, rfl⟩ := List.cons.inj h
        obtain ⟨u, c, v, rfl, hc, hu, hv⟩ := ih (List.cons_ne_nil b A) hb
        refine ⟨x :: u, c, v, rfl, hc, ?_, hv⟩
        rw [List.splitOnP_cons_eq_if_modifyHead, if_neg hx, hu, List.modifyHead_cons]

/-- A single piece is everything. -/
lemma eq_of_splitOnP_eq_singleton {a : List α} (h : w.splitOnP p = [a]) : w = a := by
  by_cases hnone : ∀ c ∈ w, p c = false
  · rw [List.splitOnP_eq_singleton hnone] at h
    exact (List.cons.inj h).1
  · push Not at hnone
    obtain ⟨c, hc, hpc⟩ := hnone
    obtain ⟨u, v, rfl⟩ := List.append_of_mem hc
    rw [List.splitOnP_append_cons u v (Bool.eq_true_of_not_eq_false hpc)] at h
    have hlen := congrArg List.length h
    rw [List.length_append, List.length_singleton] at hlen
    have := List.length_pos_of_ne_nil (List.splitOnP_ne_nil p u)
    have := List.length_pos_of_ne_nil (List.splitOnP_ne_nil p v)
    omega

/-! ## Languages with separators -/

/-- The separators as a language. -/
def separators (p : α → Bool) : Language α := {s | ∃ c, p c = true ∧ s = [c]}

variable {L M : Language α}

/-- **Parts of one kind.** -/
theorem mem_separated_iff (hL : ∀ v ∈ L, ∀ c ∈ v, p c = false) :
    w ∈ L * (separators p * L)∗ ↔ ∀ v ∈ w.splitOnP p, v ∈ L := by
  constructor
  · rintro ⟨u, hu, _, hrest, rfl⟩
    obtain ⟨rest, rfl, hparts⟩ := Language.mem_kstar.1 hrest
    clear hrest
    show ∀ v ∈ (u ++ rest.flatten).splitOnP p, v ∈ L
    induction rest generalizing u with
    | nil =>
        rw [List.flatten_nil, List.append_nil, List.splitOnP_eq_singleton (hL u hu)]
        exact List.forall_mem_singleton.2 hu
    | cons part rest ih =>
        obtain ⟨_, ⟨c, hc, rfl⟩, v, hv, rfl⟩ := hparts part List.mem_cons_self
        have hpieces := ih v hv fun y hy => hparts y (List.mem_cons_of_mem _ hy)
        have happend : u ++ (([c] ++ v) :: rest).flatten = u ++ c :: (v ++ rest.flatten) := by simp
        rw [happend, List.splitOnP_append_cons_of_forall_mem (hL u hu) c hc]
        exact List.forall_mem_cons.2 ⟨hu, hpieces⟩
  · intro h
    generalize hpieces : w.splitOnP p = pieces at h
    induction pieces generalizing w with
    | nil => exact absurd hpieces (List.splitOnP_ne_nil p w)
    | cons a rest ih =>
        obtain ⟨ha, hrest⟩ := List.forall_mem_cons.1 h
        by_cases hlast : rest = []
        · subst hlast
          rw [eq_of_splitOnP_eq_singleton hpieces, ← List.append_nil a]
          exact Language.append_mem_mul ha (Language.nil_mem_kstar _)
        · obtain ⟨u, c, v, rfl, hc, hu, hv⟩ :=
            exists_of_splitOnP_eq_append (List.cons_ne_nil a []) hlast hpieces
          obtain rfl := eq_of_splitOnP_eq_singleton hu
          have hround : [c] ++ v ∈ separators p * L * (separators p * L)∗ := by
            rw [mul_assoc]
            exact Language.append_mem_mul ⟨c, hc, rfl⟩ (ih hv hrest)
          exact Language.append_mem_mul ha
            (mul_kstar_le_kstar (a := separators p * L) hround)

/-- **Parts of one kind, and a last one of another kind.** -/
theorem mem_separated_last_iff (hL : ∀ v ∈ L, ∀ c ∈ v, p c = false)
    (hM : ∀ v ∈ M, ∀ c ∈ v, p c = false) :
    w ∈ L * (separators p * L)∗ * (separators p * M) ↔
      2 ≤ (w.splitOnP p).length ∧ (∀ v ∈ (w.splitOnP p).getLast?, v ∈ M) ∧
        ∀ v ∈ (w.splitOnP p).dropLast, v ∈ L := by
  constructor
  · rintro ⟨u, hu, _, ⟨_, ⟨c, hc, rfl⟩, v, hv, rfl⟩, rfl⟩
    have hpieces : (u ++ ([c] ++ v)).splitOnP p = u.splitOnP p ++ [v] := by
      rw [List.singleton_append, List.splitOnP_append_cons u v hc,
        List.splitOnP_eq_singleton (hM v hv)]
    have hpos := List.length_pos_of_ne_nil (List.splitOnP_ne_nil p u)
    rw [hpieces, List.length_append, List.getLast?_concat, List.dropLast_concat]
    refine ⟨Nat.succ_le_succ hpos, ?_, (mem_separated_iff hL).1 hu⟩
    rintro _ ⟨⟩
    exact hv
  · rintro ⟨hlen, hlast, hparts⟩
    obtain ⟨parts, last, hpieces⟩ :=
      (List.eq_nil_or_concat' (w.splitOnP p)).resolve_left (List.splitOnP_ne_nil p w)
    rw [hpieces] at hlen hlast hparts
    rw [List.dropLast_concat] at hparts
    have hne : parts ≠ [] := by
      rintro rfl
      exact absurd hlen (by simp)
    obtain ⟨u, c, v, rfl, hc, rfl, hv⟩ :=
      exists_of_splitOnP_eq_append hne (List.cons_ne_nil last []) hpieces
    obtain rfl := eq_of_splitOnP_eq_singleton hv
    have hseparator : [c] ∈ separators p := ⟨c, hc, rfl⟩
    exact Language.append_mem_mul ((mem_separated_iff hL).2 hparts)
      (Language.append_mem_mul hseparator (hlast v List.getLast?_concat))

end TokenPattern
