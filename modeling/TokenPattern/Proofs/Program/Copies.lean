import TokenPattern.Proofs.Language.Copies

/-!
# Bounded repetitions mean what they say

A bounded repetition is unrolled, by a loop of its own where the number of copies is exact and as the
concatenation of a list where it lies between two bounds.  Both put the copies one behind the other, to
the left: `Expr.Copies` says so copy by copy, and what holds of all these patterns is proved by
induction on it.

`decides_repetitions` says for which counts there is such a pattern, that the two ways agree, how many
leaves there are, and that the compiled pattern matches the powers of the language between the bounds
and nothing else.
-/

namespace TokenPattern

/-! ## Copies one behind the other -/

namespace Expr

universe u

variable {α : Type u} {a e : Expr α} {lo hi : ℕ}

/-- `Copies a lo hi e`: the pattern `e` is a concatenation of `hi` copies of `a`, of which all but the
first `lo` are optional. -/
inductive Copies (a : Expr α) : ℕ → ℕ → Expr α → Prop
  | one : Copies a 1 1 a
  | option : Copies a 0 1 (maybe a)
  | mandatory {n : ℕ} {e : Expr α} : Copies a n n e → Copies a (n + 1) (n + 1) (concat e a)
  | optional {lo hi : ℕ} {e : Expr α} :
      Copies a lo hi e → Copies a lo (hi + 1) (concat e (maybe a))

namespace Copies

lemma le (h : Copies a lo hi e) : lo ≤ hi := by
  induction h with
  | one => exact le_rfl
  | option => exact Nat.zero_le 1
  | mandatory _ _ => exact le_rfl
  | optional _ ih => exact Nat.le_succ_of_le ih

/-- There is a copy. -/
lemma pos (h : Copies a lo hi e) : 0 < hi := by
  cases h <;> exact Nat.succ_pos _

/-- There are the leaves of all copies. -/
lemma leafCount_eq (h : Copies a lo hi e) : e.leafCount = hi * a.leafCount := by
  induction h with
  | one => exact (Nat.one_mul _).symm
  | option => exact (Nat.one_mul _).symm
  | mandatory _ ih => rw [leafCount, ih, Nat.succ_mul]
  | optional _ ih => rw [leafCount, ih, leafCount, Nat.succ_mul]

end Copies

/-! ## What the operators build -/

/-- One copy more at the end of a chain. -/
lemma chainFrom_replicate_succ (x y : Expr α) (n : ℕ) :
    chainFrom x (List.replicate (n + 1) y) = concat (chainFrom x (List.replicate n y)) y := by
  rw [chainFrom, List.replicate_succ', List.foldl_append, chainFrom]
  rfl

lemma copies_unroll (a : Expr α) (n : ℕ) : Copies a (n + 1) (n + 1) (unroll a n) := by
  induction n with
  | zero => exact .one
  | succ n ih =>
      rw [unroll, chainFrom_replicate_succ]
      exact .mandatory ih

lemma Copies.options (h : Copies a lo hi e) (d : ℕ) :
    Copies a lo (hi + d) (chainFrom e (List.replicate d (maybe a))) := by
  induction d with
  | zero => exact h
  | succ d ih =>
      rw [chainFrom_replicate_succ]
      exact .optional ih

/-- Between two bounds that fit there is a pattern, made of copies. -/
lemma exists_between (a : Expr α) (h : lo ≤ hi) (hpos : 0 < hi) :
    ∃ e, a.between lo hi = .ok e ∧ Copies a lo hi e := by
  have hvalid : ¬ (hi < lo ∨ hi = 0) := by omega
  rw [between, if_neg hvalid]
  obtain ⟨d, rfl⟩ := Nat.exists_eq_add_of_le h
  rw [Nat.add_sub_cancel_left]
  cases lo with
  | zero =>
      obtain ⟨d, rfl⟩ := Nat.exists_eq_succ_of_ne_zero (by omega : d ≠ 0)
      refine ⟨_, rfl, ?_⟩
      have hcopies := Copies.option (a := a) |>.options d
      rwa [Nat.add_comm 1 d, ← Nat.zero_add (d + 1)] at hcopies
  | succ n =>
      refine ⟨chainFrom a (List.replicate n a ++ List.replicate d (maybe a)), rfl, ?_⟩
      rw [chainFrom, List.foldl_append]
      exact (copies_unroll a n).options d

/-- The two ways of unrolling agree where both bounds are the same. -/
lemma times_eq_between (a : Expr α) (n : ℕ) : a.times n = a.between n n := by
  cases n with
  | zero => rfl
  | succ n =>
      have hvalid : ¬ (n + 1 < n + 1 ∨ n + 1 = 0) := by omega
      rw [between, if_neg hvalid, Nat.sub_self, List.replicate_zero, List.append_nil]
      rfl

lemma times_eq_error_iff (a : Expr α) (n : ℕ) : (∃ x, a.times n = .error x) ↔ n = 0 := by
  cases n with
  | zero => exact iff_of_true ⟨_, rfl⟩ rfl
  | succ n =>
      refine iff_of_false ?_ (Nat.succ_ne_zero n)
      rintro ⟨x, hx⟩
      cases hx

lemma between_eq_error_iff (a : Expr α) (lo hi : ℕ) :
    (∃ x, a.between lo hi = .error x) ↔ hi < lo ∨ hi = 0 := by
  by_cases hvalid : hi < lo ∨ hi = 0
  · exact iff_of_true ⟨_, if_pos hvalid⟩ hvalid
  · refine iff_of_false ?_ hvalid
    obtain ⟨e, he, _⟩ := exists_between a (by omega : lo ≤ hi) (by omega)
    rintro ⟨x, hx⟩
    rw [he] at hx
    cases hx

lemma copies_of_between (h : a.between lo hi = .ok e) : Copies a lo hi e := by
  have hvalid : ¬ (hi < lo ∨ hi = 0) := by
    rw [← between_eq_error_iff a, h]
    rintro ⟨x, hx⟩
    cases hx
  obtain ⟨e', he', hcopies⟩ := exists_between a (by omega : lo ≤ hi) (by omega)
  obtain rfl := Except.ok.inj (h.symm.trans he')
  exact hcopies

lemma leafCount_atLeast (a : Expr α) (lo : ℕ) :
    (a.atLeast lo).leafCount = (lo + 1) * a.leafCount := by
  cases lo with
  | zero => exact (Nat.one_mul _).symm
  | succ n => rw [atLeast, leafCount, leafCount_unroll, leafCount, Nat.succ_mul (n + 1)]

end Expr

/-! ## What they match -/

variable {τ ο : Type}

/-- Whether a program matches the sequences of a language and refuses all others. -/
def Program.Decides (p : Program τ ο) (L : Language τ) : Prop :=
  ∀ w, (p.isMatch w = .ok true ↔ w ∈ L) ∧ (p.isMatch w = .ok false ↔ w ∉ L)

/-- A compiled pattern without limits decides what its language is. -/
lemma Program.decides_of_mem_language_iff {e : Expr (Matcher τ ο)} {L : Language τ}
    (h : ∀ w, w ∈ e.language ↔ w ∈ L) :
    ((compile e).withLimits Limits.unbounded).Decides L := by
  intro w
  obtain ⟨verdict, hmatch, hverdict⟩ := exists_isMatch e w
  exact verdict_iff hmatch (hverdict.trans (h w))

/-- **Bounded repetitions mean what they say.**  An exact number of copies is refused only if it is
zero, and is the same pattern as between equal bounds; bounds are refused only if they are out of order
or both zero.  What is not refused matches the sequences made of so many words of the repeated pattern,
and has the leaves of all its copies; with no upper bound there is one copy more, the one that is
repeated. -/
theorem decides_repetitions (a : Expr (Matcher τ ο)) :
    let program (e : Expr (Matcher τ ο)) := (Program.compile e).withLimits Limits.unbounded
    (∀ n, ((∃ x, a.times n = .error x) ↔ n = 0) ∧ a.times n = a.between n n ∧
      ∀ e, a.times n = .ok e →
        (program e).Decides (a.language ^ n) ∧ e.leafCount = n * a.leafCount) ∧
    (∀ lo hi, ((∃ x, a.between lo hi = .error x) ↔ hi < lo ∨ hi = 0) ∧
      ∀ e, a.between lo hi = .ok e →
        (program e).Decides {w | ∃ k, lo ≤ k ∧ k ≤ hi ∧ w ∈ a.language ^ k} ∧
          e.leafCount = hi * a.leafCount) ∧
    ∀ lo, (program (a.atLeast lo)).Decides {w | ∃ k, lo ≤ k ∧ w ∈ a.language ^ k} ∧
      (a.atLeast lo).leafCount = (lo + 1) * a.leafCount := by
  intro program
  refine ⟨fun n => ⟨a.times_eq_error_iff n, a.times_eq_between n, fun e he => ?_⟩,
    fun lo hi => ⟨a.between_eq_error_iff lo hi, fun e he => ?_⟩, fun lo => ?_⟩
  · rw [a.times_eq_between] at he
    refine ⟨Program.decides_of_mem_language_iff fun w => ?_, (Expr.copies_of_between he).leafCount_eq⟩
    rw [Expr.mem_language_between he]
    constructor
    · rintro ⟨k, hlo, hhi, hw⟩
      rwa [Nat.le_antisymm hlo hhi]
    · intro hw
      exact ⟨n, le_rfl, le_rfl, hw⟩
  · exact ⟨Program.decides_of_mem_language_iff fun w => Expr.mem_language_between he,
      (Expr.copies_of_between he).leafCount_eq⟩
  · exact ⟨Program.decides_of_mem_language_iff fun w => Expr.mem_language_atLeast a lo,
      a.leafCount_atLeast lo⟩

end TokenPattern
