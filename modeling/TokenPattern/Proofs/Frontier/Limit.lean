import TokenPattern.Proofs.Frontier.Runs

/-!
# What the limit on explorers does

The limit is checked whenever an explorer is added, in the middle of building a frontier.  This file
says what that comes to for a whole run.

`alive` is the number of explorers after some tokens of a run without limits.  If it never rises above
the limit, the limited run is the unlimited one (`runFrom_eq_ok`).  Otherwise the first token that
makes it rise above is where the limited run fails, with one explorer too many
(`runFrom_eq_error`).  `paths_limited` puts the two together.
-/

namespace TokenPattern

variable {τ ο : Type}

/-! ## One token -/

/-- A token adds the explorers of the next frontier one by one. -/
lemma advance_eq_foldlM (g : Graph (Matcher τ ο)) (limits : Limits) (position : Nat)
    (frontier : Array (Explorer ο)) (t : τ) :
    advance g limits position frontier t =
      (frontier.toList.flatMap fun x => x.successors g t).foldlM (limits.pushWithin position) #[] := by
  have hfold : ∀ (xs : List (Explorer ο)) (next : Array (Explorer ο)),
      xs.foldlM (fun next x => (x.successors g t).foldlM (limits.pushWithin position) next) next =
        (xs.flatMap fun x => x.successors g t).foldlM (limits.pushWithin position) next := by
    intro xs
    induction xs with
    | nil => intro next; rfl
    | cons x xs ih =>
        intro next
        rw [List.flatMap_cons, List.foldlM_append, List.foldlM_cons]
        exact bind_congr ih
  rw [advance, ← Array.foldlM_toList, hfold]

/-- Explorers are added until there is one too many. -/
lemma foldlM_pushWithin {max : Nat} (position : Nat) (xs : List (Explorer ο))
    {next : Array (Explorer ο)} (hnext : next.size ≤ max) :
    xs.foldlM ((⟨some max⟩ : Limits).pushWithin position) next =
      if next.size + xs.length ≤ max then .ok (next ++ xs)
      else .error (.frontierExceeded (max + 1) max position) := by
  induction xs generalizing next with
  | nil =>
      rw [List.length_nil, Nat.add_zero, if_pos hnext, Array.appendList_nil]
      rfl
  | cons x xs ih =>
      have hsize : (next.push x).size = next.size + 1 := Array.size_push x
      rw [List.foldlM_cons, Limits.pushWithin, List.length_cons]
      simp only [hsize]
      by_cases hroom : next.size + 1 ≤ max
      · have hrest := ih (hsize ▸ hroom)
        rw [hsize, show next.size + 1 + xs.length = next.size + (xs.length + 1) by omega] at hrest
        rw [if_neg (Nat.not_lt.mpr hroom), Array.appendList_cons]
        exact hrest
      · have hfull : next.size = max := by omega
        rw [if_pos (Nat.lt_of_not_le hroom), if_neg (by omega), hfull]
        rfl

/-- **One token under a limit**: the whole next frontier, or an error that names the limit, one
explorer more, and the token. -/
theorem advance_limited (g : Graph (Matcher τ ο)) (max position : Nat)
    (frontier : Array (Explorer ο)) (t : τ) :
    advance g ⟨some max⟩ position frontier t =
      if (frontier.toList.flatMap fun x => x.successors g t).length ≤ max then
        .ok (frontier.toList.flatMap fun x => x.successors g t).toArray
      else .error (.frontierExceeded (max + 1) max position) := by
  rw [advance_eq_foldlM, foldlM_pushWithin position _ (Nat.zero_le max)]
  simp

/-! ## Whole runs -/

/-- While the frontiers stay within the limit, nothing is different. -/
lemma runFrom_eq_ok (g : Graph (Matcher τ ο)) {max : Nat} {frontier : Array (Explorer ο)}
    {input : List τ} (position : Nat)
    (h : ∀ k < input.length, (exploreAll g (input.take (k + 1)) frontier.toList).length ≤ max) :
    runFrom g ⟨some max⟩ position frontier input =
      .ok (exploreAll g input frontier.toList).toArray := by
  induction input generalizing position frontier with
  | nil => rfl
  | cons t rest ih =>
      rw [runFrom]
      by_cases hempty : frontier.isEmpty = true
      · obtain rfl : frontier = #[] := Array.isEmpty_iff.mp hempty
        rw [if_pos hempty, exploreAll_nil]
      · have hfirst : (frontier.toList.flatMap fun x => x.successors g t).length ≤ max :=
          h 0 (Nat.succ_pos _)
        rw [if_neg hempty, advance_limited, if_pos hfirst]
        exact ih (position + 1) fun k hk => h (k + 1) (Nat.succ_lt_succ hk)

/-- The first token after which there are too many explorers is where a run fails. -/
lemma runFrom_eq_error (g : Graph (Matcher τ ο)) {max : Nat} {frontier : Array (Explorer ο)}
    {input : List τ} (position : Nat) {k : Nat} (hk : k < input.length)
    (hover : max < (exploreAll g (input.take (k + 1)) frontier.toList).length)
    (hfirst : ∀ j < k, (exploreAll g (input.take (j + 1)) frontier.toList).length ≤ max) :
    runFrom g ⟨some max⟩ position frontier input =
      .error (.frontierExceeded (max + 1) max (position + k)) := by
  induction input generalizing position frontier k with
  | nil => exact absurd hk (Nat.not_lt_zero k)
  | cons t rest ih =>
      have halive : frontier.isEmpty ≠ true := by
        intro hempty
        obtain rfl : frontier = #[] := Array.isEmpty_iff.mp hempty
        rw [exploreAll_nil] at hover
        exact Nat.not_lt_zero max hover
      rw [runFrom, if_neg halive, advance_limited]
      cases k with
      | zero =>
          have hone : ¬ (frontier.toList.flatMap fun x => x.successors g t).length ≤ max :=
            Nat.not_le.mpr hover
          rw [if_neg hone]
          rfl
      | succ k =>
          have hone : (frontier.toList.flatMap fun x => x.successors g t).length ≤ max :=
            hfirst 0 (Nat.succ_pos k)
          rw [if_pos hone, show position + (k + 1) = position + 1 + k by omega]
          exact ih (position + 1) (Nat.lt_of_succ_lt_succ hk) hover
            fun j hj => hfirst (j + 1) (Nat.succ_lt_succ hj)

/-- The number of explorers after the first `k` tokens of a run without limits. -/
def alive (g : Graph (Matcher τ ο)) (input : List τ) (k : Nat) : Nat :=
  match run g Limits.unbounded (input.take k) with
  | .ok frontier => frontier.size
  | .error _ => 0

/-- A run without limits does not fail. -/
lemma exists_run_unbounded (g : Graph (Matcher τ ο)) (input : List τ) :
    ∃ frontier, run g Limits.unbounded input = .ok frontier ∧
      frontier.toList = exploreAll g input [Explorer.initial] :=
  (allows_runFrom g 0 initialFrontier input).exists_ok

lemma alive_eq (g : Graph (Matcher τ ο)) (input : List τ) (k : Nat) :
    alive g input k = (exploreAll g (input.take k) [Explorer.initial]).length := by
  obtain ⟨frontier, hrun, hl⟩ := exists_run_unbounded g (input.take k)
  rw [alive, hrun, ← hl, Array.length_toList]

/-- A run that stays within its limit is the run without limits. -/
lemma run_eq_unbounded (g : Graph (Matcher τ ο)) {max : Nat} {input : List τ}
    (h : ∀ k, 1 ≤ k → k ≤ input.length → alive g input k ≤ max) :
    run g ⟨some max⟩ input = run g Limits.unbounded input := by
  obtain ⟨frontier, hrun, hl⟩ := exists_run_unbounded g input
  have hwithin : ∀ k < input.length,
      (exploreAll g (input.take (k + 1)) [Explorer.initial]).length ≤ max := fun k hk => by
    rw [← alive_eq]
    exact h (k + 1) (Nat.succ_pos k) hk
  have hlimited : run g ⟨some max⟩ input = .ok (exploreAll g input [Explorer.initial]).toArray :=
    runFrom_eq_ok g 0 hwithin
  rw [hlimited, hrun, ← hl, Array.toArray_toList]

/-- A run that does not stay within its limit fails at the first token that makes it leave it. -/
lemma run_eq_error (g : Graph (Matcher τ ο)) {max : Nat} {input : List τ} {k : Nat} (hk : 1 ≤ k)
    (hlen : k ≤ input.length) (hover : max < alive g input k)
    (hfirst : ∀ j, 1 ≤ j → j < k → alive g input j ≤ max) :
    run g ⟨some max⟩ input = .error (.frontierExceeded (max + 1) max (k - 1)) := by
  obtain ⟨k, rfl⟩ := Nat.exists_eq_add_of_le' hk
  rw [alive_eq] at hover
  have hbefore : ∀ j < k,
      (exploreAll g (input.take (j + 1)) [Explorer.initial]).length ≤ max := fun j hj => by
    rw [← alive_eq]
    exact hfirst (j + 1) (Nat.succ_pos j) (Nat.succ_lt_succ hj)
  have herror : run g ⟨some max⟩ input = .error (.frontierExceeded (max + 1) max (0 + k)) :=
    runFrom_eq_error g 0 hlen hover hbefore
  rw [herror, Nat.zero_add, Nat.add_sub_cancel]

/-- If a limit is exceeded at all, then at a first token. -/
lemma exists_first_over {s : Nat → Nat} {max n : Nat} (h : ∃ k, 1 ≤ k ∧ k ≤ n ∧ max < s k) :
    ∃ k, (1 ≤ k ∧ k ≤ n ∧ max < s k) ∧ ∀ j, 1 ≤ j → j < k → s j ≤ max := by
  classical
  refine ⟨Nat.find h, Nat.find_spec h, fun j hj hlt => ?_⟩
  have hle := (Nat.find_spec h).2.1
  by_contra hover
  exact Nat.find_min h hlt ⟨hj, by omega, by omega⟩

/-- **The limit only abandons runs, and does so exactly when it must.**  A limited run fails if and
only if some frontier of the unlimited run is larger than the limit; it fails at the first token that
makes it so, with one explorer more than the limit allows; otherwise it has the paths of the unlimited
run in their order.  So what succeeds under a limit succeeds in the same way under a higher one. -/
theorem paths_limited (g : Graph (Matcher τ ο)) (max : Nat) (input : List τ) :
    ((∃ e, paths g ⟨some max⟩ input = .error e) ↔
        ∃ k, 1 ≤ k ∧ k ≤ input.length ∧ max < alive g input k) ∧
      (∀ k, 1 ≤ k → k ≤ input.length → max < alive g input k →
        (∀ j, 1 ≤ j → j < k → alive g input j ≤ max) →
          paths g ⟨some max⟩ input = .error (.frontierExceeded (max + 1) max (k - 1))) ∧
      ((∀ k, 1 ≤ k → k ≤ input.length → alive g input k ≤ max) →
        ∃ found, paths g Limits.unbounded input = .ok found ∧
          paths g ⟨some max⟩ input = .ok found) ∧
      ∀ max', max ≤ max' → ∀ found, paths g ⟨some max⟩ input = .ok found →
        paths g ⟨some max'⟩ input = .ok found := by
  have hover : ∀ k, 1 ≤ k → k ≤ input.length → max < alive g input k →
      (∀ j, 1 ≤ j → j < k → alive g input j ≤ max) →
        paths g ⟨some max⟩ input = .error (.frontierExceeded (max + 1) max (k - 1)) := by
    intro k hk hlen hover hfirst
    rw [paths, run_eq_error g hk hlen hover hfirst]
    rfl
  have hwithin : ∀ max', (∀ k, 1 ≤ k → k ≤ input.length → alive g input k ≤ max') →
      paths g ⟨some max'⟩ input = paths g Limits.unbounded input := by
    intro max' h
    rw [paths, run_eq_unbounded g h, paths]
  have hiff : (∃ e, paths g ⟨some max⟩ input = .error e) ↔
      ∃ k, 1 ≤ k ∧ k ≤ input.length ∧ max < alive g input k := by
    constructor
    · rintro ⟨e, he⟩
      by_contra hnone
      have hle : ∀ k, 1 ≤ k → k ≤ input.length → alive g input k ≤ max := fun k hk hlen =>
        Nat.le_of_not_lt fun hlt => hnone ⟨k, hk, hlen, hlt⟩
      rw [hwithin max hle, paths_unbounded] at he
      exact absurd he (by simp)
    · intro h
      obtain ⟨k, ⟨hk, hlen, hlt⟩, hfirst⟩ := exists_first_over h
      exact ⟨_, hover k hk hlen hlt hfirst⟩
  refine ⟨hiff, hover, fun h => ⟨_, paths_unbounded g input, ?_⟩, ?_⟩
  · rw [hwithin max h, paths_unbounded]
  · intro max' hmax found hfound
    have hle : ∀ k, 1 ≤ k → k ≤ input.length → alive g input k ≤ max := by
      intro k hk hlen
      by_contra hlt
      obtain ⟨e, he⟩ := hiff.mpr ⟨k, hk, hlen, by omega⟩
      exact absurd (hfound.symm.trans he) (by simp)
    rw [hwithin max' fun k hk hlen => (hle k hk hlen).trans hmax, ← hwithin max hle, hfound]

/-- The repeated group of a repeated leaf: from the leaf one may go on in the group or begin the next
one, so that every token doubles the number of explorers. -/
def doubling : Graph (Matcher Char Char) where
  nodes := #[.initial, .terminal, .leaf (Matcher.exact 'a')]
  successors := #[[⟨1, []⟩, ⟨2, [.start "g"]⟩], [],
    [⟨1, [.stop "g"]⟩, ⟨2, []⟩, ⟨2, [.stop "g", .start "g"]⟩]]

/-- Of the frontiers with one, two and four explorers, the second is the first that is too large for a
limit of one explorer.  A limit of four is never exceeded. -/
theorem paths_limited_doubling :
    alive doubling ['a', 'a', 'a'] 1 = 1 ∧ alive doubling ['a', 'a', 'a'] 2 = 2 ∧
      alive doubling ['a', 'a', 'a'] 3 = 4 ∧
      paths doubling ⟨some 1⟩ ['a', 'a', 'a'] = .error (.frontierExceeded 2 1 1) ∧
      ∃ found, paths doubling Limits.unbounded ['a', 'a', 'a'] = .ok found ∧
        paths doubling ⟨some 4⟩ ['a', 'a', 'a'] = .ok found := by
  have hone : alive doubling ['a', 'a', 'a'] 1 = 1 := by decide
  have htwo : alive doubling ['a', 'a', 'a'] 2 = 2 := by decide
  have hthree : alive doubling ['a', 'a', 'a'] 3 = 4 := by decide
  refine ⟨hone, htwo, hthree, ?_, ?_⟩
  · refine (paths_limited doubling 1 ['a', 'a', 'a']).2.1 2 (by decide) (by decide) (by omega) ?_
    intro j hj hlt
    obtain rfl : j = 1 := by omega
    exact hone.le
  · refine (paths_limited doubling 4 ['a', 'a', 'a']).2.2.1 fun k hk hlen => ?_
    have hlen : k ≤ 3 := hlen
    obtain rfl | rfl | rfl : k = 1 ∨ k = 2 ∨ k = 3 := by omega
    · exact hone.trans_le (by decide)
    · exact htwo.trans_le (by decide)
    · exact hthree.le

end TokenPattern
