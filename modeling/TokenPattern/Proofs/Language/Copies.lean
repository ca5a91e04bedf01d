import Mathlib.Algebra.BigOperators.Group.List.Basic
import TokenPattern.Proofs.Language

/-!
# The languages of sequences, choices and bounded repetitions

The operators that are no constructors of patterns are made of several copies of their operand, and
their languages are products, sums and powers.

* `Expr.language_of_chain?`, `Expr.language_of_choice?` — a sequence has the product of the
  languages, a choice their sum.
* `Expr.mem_language_atLeast`, `Expr.mem_language_between` — a bounded repetition has the powers
  between its bounds.
* `Expr.mem_language_seq?` — exact leaves one after the other match one sequence.
* `Expr.mem_language_atLeast_leaf` — a repeated leaf matches as many tokens that it accepts as one likes.
-/

namespace TokenPattern

open scoped Computability

/-! ## Powers -/

section

variable {α : Type} {L : Language α} {w : List α}

lemma mem_kstar_iff_exists_pow : w ∈ L∗ ↔ ∃ k : ℕ, w ∈ L ^ k := by
  rw [Language.kstar_eq_iSup_pow, Language.mem_iSup]

/-- Optional copies are any number of copies up to theirs. -/
lemma mem_one_add_pow {n : ℕ} : w ∈ (1 + L) ^ n ↔ ∃ k ≤ n, w ∈ L ^ k := by
  induction n generalizing w with
  | zero => simp
  | succ n ih =>
      rw [pow_succ, mul_add, mul_one, Language.mem_add, ih]
      constructor
      · rintro (⟨k, hk, hw⟩ | ⟨u, hu, v, hv, rfl⟩)
        · exact ⟨k, by omega, hw⟩
        · obtain ⟨k, hk, hu⟩ := ih.1 hu
          refine ⟨k + 1, by omega, ?_⟩
          rw [pow_succ]
          exact Language.append_mem_mul hu hv
      · rintro ⟨k, hk, hw⟩
        cases k with
        | zero => exact Or.inl ⟨0, by omega, hw⟩
        | succ k =>
            rw [pow_succ] at hw
            obtain ⟨u, hu, v, hv, rfl⟩ := hw
            exact Or.inr (Language.append_mem_mul (ih.2 ⟨k, by omega, hu⟩) hv)

lemma mem_pow_mul {lo : ℕ} {M : Language α} {P : ℕ → Prop}
    (hM : ∀ v, v ∈ M ↔ ∃ k, P k ∧ v ∈ L ^ k) :
    w ∈ L ^ lo * M ↔ ∃ k, P k ∧ w ∈ L ^ (lo + k) := by
  constructor
  · rintro ⟨u, hu, v, hv, rfl⟩
    obtain ⟨k, hk, hv⟩ := (hM v).1 hv
    refine ⟨k, hk, ?_⟩
    rw [pow_add]
    exact Language.append_mem_mul hu hv
  · rintro ⟨k, hk, hw⟩
    rw [pow_add] at hw
    obtain ⟨u, hu, v, hv, rfl⟩ := hw
    exact Language.append_mem_mul hu ((hM v).2 ⟨k, hk, hv⟩)

/-- One token after the other. -/
lemma mem_prod_singletons {ts : List α} :
    w ∈ (ts.map fun t => ({[t]} : Language α)).prod ↔ w = ts := by
  induction ts generalizing w with
  | nil => simp
  | cons t ts ih =>
      rw [List.map_cons, List.prod_cons, Language.mem_mul]
      constructor
      · rintro ⟨u, hu, v, hv, rfl⟩
        obtain rfl : u = [t] := hu
        obtain rfl := ih.1 hv
        rfl
      · rintro rfl
        exact ⟨[t], rfl, ts, ih.2 rfl, rfl⟩

end

/-! ## Sequences and choices -/

namespace Expr

variable {τ ο : Type} {e a : Expr (Matcher τ ο)} {w : List τ}

lemma language_chainFrom (first : Expr (Matcher τ ο)) (rest : List (Expr (Matcher τ ο))) :
    (chainFrom first rest).language = first.language * (rest.map language).prod := by
  induction rest generalizing first with
  | nil => simp [chainFrom]
  | cons second rest ih =>
      have hcons : chainFrom first (second :: rest) = chainFrom (concat first second) rest := rfl
      rw [hcons, ih, language, List.map_cons, List.prod_cons, mul_assoc]

lemma language_of_chain? {es : List (Expr (Matcher τ ο))} (h : chain? es = some e) :
    e.language = (es.map language).prod := by
  cases es with
  | nil => cases h
  | cons first rest =>
      cases h
      rw [language_chainFrom, List.map_cons, List.prod_cons]

lemma language_foldl_alt (first : Expr (Matcher τ ο)) (rest : List (Expr (Matcher τ ο))) :
    (rest.foldl alt first).language = first.language + (rest.map language).sum := by
  induction rest generalizing first with
  | nil => simp
  | cons second rest ih =>
      rw [List.foldl_cons, ih, language, List.map_cons, List.sum_cons, add_assoc]

lemma language_leaf_exact {τ : Type} [DecidableEq τ] [Diagnostic τ] (t : τ) :
    (leaf (Matcher.exact t)).language = {[t]} := by
  ext w
  constructor
  · rintro ⟨s, rfl, hs⟩
    have hst : s = t := by
      by_contra hne
      simp [Matcher.exact, hne] at hs
    rw [hst]
    rfl
  · intro hw
    obtain rfl : w = [t] := hw
    exact ⟨t, rfl, by simp [Matcher.exact]⟩

/-- Exact leaves one after the other match their tokens and nothing else. -/
lemma mem_language_seq? {τ : Type} [DecidableEq τ] [Diagnostic τ] {ts w : List τ}
    {e : Expr (Matcher τ τ)} (h : seq? (ts.map Matcher.exact) = some e) :
    w ∈ e.language ↔ w = ts := by
  rw [language_of_chain? h, List.map_map, List.map_map, ← mem_prod_singletons]
  have hleaf : (language ∘ leaf ∘ Matcher.exact) = fun t : τ => ({[t]} : Language τ) :=
    funext language_leaf_exact
  rw [← hleaf]
  rfl

/-! ## Bounded repetitions -/

lemma language_unroll (a : Expr (Matcher τ ο)) (n : ℕ) :
    (unroll a n).language = a.language ^ (n + 1) := by
  rw [unroll, language_chainFrom, List.map_replicate, List.prod_replicate, pow_succ']

lemma mem_language_atLeast (a : Expr (Matcher τ ο)) (lo : ℕ) :
    w ∈ (a.atLeast lo).language ↔ ∃ k, lo ≤ k ∧ w ∈ a.language ^ k := by
  cases lo with
  | zero =>
      rw [atLeast, language, mem_kstar_iff_exists_pow]
      simp
  | succ n =>
      have hstar : ∀ v : List τ,
          v ∈ a.language∗ ↔ ∃ k, True ∧ v ∈ a.language ^ k := by
        simp [mem_kstar_iff_exists_pow]
      rw [atLeast, language, language_unroll, language, mem_pow_mul hstar]
      constructor
      · rintro ⟨k, _, hw⟩
        exact ⟨n + 1 + k, by omega, hw⟩
      · rintro ⟨k, hk, hw⟩
        refine ⟨k - (n + 1), trivial, ?_⟩
        rwa [Nat.add_sub_cancel' hk]

lemma mem_language_between {lo hi : ℕ} (h : a.between lo hi = .ok e) :
    w ∈ e.language ↔ ∃ k, lo ≤ k ∧ k ≤ hi ∧ w ∈ a.language ^ k := by
  rw [between] at h
  split at h
  · cases h
  · rename_i hbounds
    split at h
    · rename_i e' hchain
      cases h
      rw [language_of_chain? hchain, List.map_append, List.map_replicate, List.map_replicate,
        List.prod_append, List.prod_replicate, List.prod_replicate, language,
        mem_pow_mul fun v => mem_one_add_pow]
      constructor
      · rintro ⟨k, hk, hw⟩
        exact ⟨lo + k, by omega, by omega, hw⟩
      · rintro ⟨k, hlo, hhi, hw⟩
        refine ⟨k - lo, by omega, ?_⟩
        rwa [Nat.add_sub_cancel' hlo]
    · cases h

/-! ## Repeated leaves -/

/-- Copies of a leaf match as many tokens as there are copies, if it accepts all of them. -/
lemma mem_language_leaf_pow {m : Matcher τ ο} {k : ℕ} :
    w ∈ (leaf m).language ^ k ↔ w.length = k ∧ ∀ t ∈ w, m.outputs t ≠ [] := by
  induction k generalizing w with
  | zero =>
      rw [pow_zero, Language.mem_one, List.length_eq_zero_iff]
      exact ⟨fun h => ⟨h, by simp [h]⟩, fun h => h.1⟩
  | succ k ih =>
      rw [pow_succ', Language.mem_mul]
      constructor
      · rintro ⟨_, ⟨t, rfl, ht⟩, v, hv, rfl⟩
        obtain ⟨hlen, hall⟩ := ih.1 hv
        exact ⟨congrArg Nat.succ hlen, List.forall_mem_cons.2 ⟨ht, hall⟩⟩
      · rintro ⟨hlen, hall⟩
        obtain ⟨t, v, rfl⟩ := List.exists_cons_of_length_eq_add_one hlen
        obtain ⟨ht, hall⟩ := List.forall_mem_cons.1 hall
        exact ⟨[t], ⟨t, rfl, ht⟩, v, ih.2 ⟨Nat.succ.inj hlen, hall⟩, rfl⟩

lemma mem_language_atLeast_leaf {m : Matcher τ ο} {lo : ℕ} :
    w ∈ ((leaf m).atLeast lo).language ↔ lo ≤ w.length ∧ ∀ t ∈ w, m.outputs t ≠ [] := by
  simp only [mem_language_atLeast, mem_language_leaf_pow]
  constructor
  · rintro ⟨k, hk, rfl, hall⟩
    exact ⟨hk, hall⟩
  · rintro ⟨hlo, hall⟩
    exact ⟨w.length, hlo, rfl, hall⟩

lemma mem_language_star_leaf {m : Matcher τ ο} :
    w ∈ (star (leaf m)).language ↔ ∀ t ∈ w, m.outputs t ≠ [] := by
  have hatLeast : w ∈ ((leaf m).atLeast 0).language ↔ _ := mem_language_atLeast_leaf
  exact hatLeast.trans (and_iff_right (Nat.zero_le _))

end Expr

end TokenPattern
