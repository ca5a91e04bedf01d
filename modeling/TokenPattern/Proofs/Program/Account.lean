import Mathlib.Order.Bounds.Basic
import TokenPattern.Proofs.Frontier.Limit
import TokenPattern.Proofs.Position.Automaton

/-!
# The account of a run is faithful

The account of a run has a loop of its own beside that of the run.  This file says what its entries
have to do with the run, by way of the frontiers that the run reaches: the frontier at token `i` is
the result of the run on the first `i` tokens.

* `exists_of_getElem?_steps` — an entry tells of two frontiers next to each other.
* `RunTrace.Ending` — the ways in which an account ends: the input is exhausted, no explorer is left,
  or the limit abandons the run in the middle of a token.
* `isGreatest_peakFrontier` — the peak is the largest frontier that an entry tells of.

`trace_isAccount` draws the conclusions for compiled patterns, whose edges lead to leaves unless they
lead to the terminal node.
-/

namespace TokenPattern

variable {τ ο : Type}

/-! ## One token -/

section

variable {g : Graph (Matcher τ ο)} {limits : Limits} {position : Nat}
  {frontier next : Array (Explorer ο)} {t : τ} {x : MatchError}

/-- A token can only fail by the limit, and the error is about this token. -/
lemma eq_of_advance_eq_error (h : advance g limits position frontier t = .error x) :
    ∃ max, limits.maxFrontier = some max ∧ x = .frontierExceeded (max + 1) max position := by
  obtain ⟨_ | max⟩ := limits
  · have hallows : Limits.unbounded.Allows _ _ := allows_advance g position frontier t
    obtain ⟨_, hok, _⟩ := hallows.exists_ok
    exact absurd (hok.symm.trans h) (by simp)
  · rw [advance_limited] at h
    split_ifs at h
    exact ⟨max, rfl, (Except.error.inj h).symm⟩

/-- A frontier behind a token is within the limit. -/
lemma size_le_of_advance_eq_ok {max : Nat} (hmax : limits.maxFrontier = some max)
    (h : advance g limits position frontier t = .ok next) : next.size ≤ max := by
  obtain rfl : limits = ⟨some max⟩ := congrArg Limits.mk hmax
  rw [advance_limited] at h
  split_ifs at h with hle
  rw [← Except.ok.inj h, List.size_toArray]
  exact hle

/-- A run over some tokens reads the first of them first. -/
lemma runFrom_take_succ (hne : frontier.isEmpty = false)
    (h : advance g limits position frontier t = .ok next) (rest : List τ) (i : Nat) :
    runFrom g limits position frontier ((t :: rest).take (i + 1)) =
      runFrom g limits (position + 1) next (rest.take i) := by
  rw [List.take_succ_cons, runFrom, hne, h]
  rfl

end

/-! ## Entries -/

section

variable {g : Graph (Matcher τ ο)} {limits : Limits}

/-- **An entry tells of two frontiers next to each other.** -/
theorem exists_of_getElem?_steps {position : Nat} {frontier : Array (Explorer ο)} {input : List τ}
    (hne : frontier.isEmpty = false) {i : Nat} {s : StepTrace}
    (hs : (traceFrom g limits position frontier input).steps[i]? = some s) :
    ∃ before after, runFrom g limits position frontier (input.take i) = .ok before ∧
      runFrom g limits position frontier (input.take (i + 1)) = .ok after ∧
      s = ⟨position + i, before.size, edgesTried g before, after.size⟩ := by
  induction input generalizing position frontier i with
  | nil => simp [traceFrom] at hs
  | cons t rest ih =>
      cases hnext : advance g limits position frontier t with
      | error x => simp [traceFrom_of_advance_eq_error hnext] at hs
      | ok next =>
          have hfirst : runFrom g limits position frontier ((t :: rest).take (0 + 1)) = .ok next :=
            runFrom_take_succ hne hnext rest 0
          cases hempty : next.isEmpty with
          | true =>
              rw [traceFrom_of_advance_eq_empty hnext hempty, List.getElem?_singleton] at hs
              split_ifs at hs with hi
              obtain rfl : i = 0 := hi
              exact ⟨frontier, next, rfl, hfirst, (Option.some.inj hs).symm⟩
          | false =>
              rw [traceFrom_of_advance_eq_ok hnext hempty] at hs
              cases i with
              | zero => exact ⟨frontier, next, rfl, hfirst, (Option.some.inj hs).symm⟩
              | succ i =>
                  obtain ⟨before, after, hbefore, hafter, rfl⟩ := ih hempty hs
                  refine ⟨before, after, ?_, ?_, ?_⟩
                  · rw [runFrom_take_succ hne hnext, hbefore]
                  · rw [runFrom_take_succ hne hnext, hafter]
                  · rw [Nat.add_right_comm, Nat.add_assoc]

/-! ## Endings -/

/-- How an account ends, given the last frontier that the run reaches. -/
inductive RunTrace.Ending (g : Graph (Matcher τ ο)) (limits : Limits) (position : Nat)
    (input : List τ) (last : Array (Explorer ο)) (T : RunTrace) : Prop
  /-- All tokens are read and explorers are left. -/
  | exhausted : T.steps.length = input.length → last.isEmpty = false → T.error = none →
      T.haltedAt = none → RunTrace.Ending g limits position input last T
  /-- A token leaves no explorer, be it the last one or not. -/
  | died : 0 < T.steps.length → last.isEmpty = true → T.error = none →
      T.haltedAt = some (position + T.steps.length) →
      RunTrace.Ending g limits position input last T
  /-- A token leaves too many explorers. -/
  | abandoned {t : τ} {x : MatchError} : input[T.steps.length]? = some t →
      advance g limits (position + T.steps.length) last t = .error x → T.error = some x →
      T.haltedAt = some (position + T.steps.length) → T.accepted = 0 →
      RunTrace.Ending g limits position input last T

/-- One more token in front. -/
lemma RunTrace.Ending.cons {position : Nat} {rest : List τ} {last : Array (Explorer ο)}
    {T : RunTrace} (h : RunTrace.Ending g limits (position + 1) rest last T) (t : τ)
    (s : StepTrace) :
    RunTrace.Ending g limits position (t :: rest) last { T with steps := s :: T.steps } := by
  have hshift : position + 1 + T.steps.length = position + (s :: T.steps).length := by
    rw [List.length_cons]
    omega
  cases h with
  | exhausted hlen hlast herror hhalted =>
      exact .exhausted (congrArg Nat.succ hlen) hlast herror hhalted
  | died hpos hlast herror hhalted =>
      exact .died (Nat.succ_pos _) hlast herror (hshift ▸ hhalted)
  | abandoned hget hadvance herror hhalted haccepted =>
      exact .abandoned (t := _) hget (hshift ▸ hadvance) herror (hshift ▸ hhalted) haccepted

/-- A run that is not abandoned ends behind a token that leaves no explorer, or else with the input. -/
lemma RunTrace.Ending.of_error_eq_none {position : Nat} {input : List τ}
    {last : Array (Explorer ο)} {T : RunTrace}
    (h : RunTrace.Ending g limits position input last T) (hnone : T.error = none) :
    (last.isEmpty = true ∧ T.haltedAt = some (position + T.steps.length)) ∨
      last.isEmpty = false ∧ T.haltedAt = none ∧ T.steps.length = input.length := by
  cases h with
  | exhausted hlen halive _ hhalted => exact Or.inr ⟨halive, hhalted, hlen⟩
  | died _ hempty _ hhalted => exact Or.inl ⟨hempty, hhalted⟩
  | abandoned _ _ herror _ _ => exact absurd (hnone.symm.trans herror) (by simp)

/-- A run is abandoned by its limit, at the first token without an entry. -/
lemma RunTrace.Ending.of_error_eq_some {position : Nat} {input : List τ}
    {last : Array (Explorer ο)} {T : RunTrace} {x : MatchError}
    (h : RunTrace.Ending g limits position input last T) (hx : T.error = some x) :
    (∃ max, limits.maxFrontier = some max ∧
        x = .frontierExceeded (max + 1) max (position + T.steps.length)) ∧
      T.steps.length < input.length ∧ T.haltedAt = some (position + T.steps.length) ∧
      T.accepted = 0 := by
  cases h with
  | exhausted _ _ herror _ => exact absurd (hx.symm.trans herror) (by simp)
  | died _ _ herror _ => exact absurd (hx.symm.trans herror) (by simp)
  | abandoned hget hadvance herror hhalted haccepted =>
      obtain rfl := Option.some.inj (hx.symm.trans herror)
      have hlt := (List.getElem?_eq_some_iff.mp hget).1
      exact ⟨eq_of_advance_eq_error hadvance, hlt, hhalted, haccepted⟩

/-- **An account ends with the last frontier that the run reaches.** -/
theorem exists_ending {position : Nat} {frontier : Array (Explorer ο)} {input : List τ}
    (hne : frontier.isEmpty = false) :
    ∃ last, runFrom g limits position frontier
        (input.take (traceFrom g limits position frontier input).steps.length) = .ok last ∧
      (traceFrom g limits position frontier input).finalFrontier = last.size ∧
      RunTrace.Ending g limits position input last (traceFrom g limits position frontier input) := by
  induction input generalizing position frontier with
  | nil => exact ⟨frontier, rfl, rfl, .exhausted rfl hne rfl rfl⟩
  | cons t rest ih =>
      cases hnext : advance g limits position frontier t with
      | error x =>
          rw [traceFrom_of_advance_eq_error hnext]
          exact ⟨frontier, rfl, rfl, .abandoned (t := t) rfl hnext rfl rfl rfl⟩
      | ok next =>
          cases hempty : next.isEmpty with
          | true =>
              rw [traceFrom_of_advance_eq_empty hnext hempty]
              refine ⟨next, runFrom_take_succ hne hnext rest 0, ?_, .died Nat.one_pos hempty rfl rfl⟩
              exact (Array.isEmpty_iff_size_eq_zero.mp hempty).symm
          | false =>
              rw [traceFrom_of_advance_eq_ok hnext hempty]
              obtain ⟨last, hrun, hfinal, hending⟩ := ih hempty
              refine ⟨last, ?_, hfinal, hending.cons t _⟩
              exact (runFrom_take_succ hne hnext rest _).trans hrun

/-- The frontiers of a run are within its limit. -/
lemma size_le_of_runFrom_eq_ok {max bound position : Nat} {frontier final : Array (Explorer ο)}
    {input : List τ} (hmax : limits.maxFrontier = some max) (hbound : max ≤ bound)
    (hfrontier : frontier.size ≤ bound)
    (h : runFrom g limits position frontier input = .ok final) : final.size ≤ bound := by
  induction input generalizing position frontier with
  | nil => exact Except.ok.inj h ▸ hfrontier
  | cons t rest ih =>
      rw [runFrom] at h
      split_ifs at h with hempty
      · exact Except.ok.inj h ▸ hfrontier
      · cases hnext : advance g limits position frontier t with
        | error x => simp [hnext] at h
        | ok next =>
            rw [hnext] at h
            exact ih ((size_le_of_advance_eq_ok hmax hnext).trans hbound) h

end

/-! ## Peaks -/

lemma isGreatest_foldl_max {β : Type} (f : β → Nat) (l : List β) (a : Nat) :
    IsGreatest {n | n = a ∨ ∃ b ∈ l, f b = n} (l.foldl (fun m b => max m (f b)) a) := by
  induction l generalizing a with
  | nil => simp [IsGreatest, upperBounds]
  | cons b l ih =>
      obtain ⟨hmem, hle⟩ := ih (max a (f b))
      have hmax : max a (f b) ≤ l.foldl (fun m b => max m (f b)) (max a (f b)) := hle (Or.inl rfl)
      refine ⟨?_, ?_⟩
      · rcases hmem with hmem | ⟨c, hc, hmem⟩
        · rcases max_choice a (f b) with hab | hab
          · exact Or.inl (hmem.trans hab)
          · exact Or.inr ⟨b, List.mem_cons_self, (hmem.trans hab).symm⟩
        · exact Or.inr ⟨c, List.mem_cons_of_mem b hc, hmem⟩
      · rintro n (rfl | ⟨c, hc, rfl⟩)
        · exact (le_max_left _ _).trans hmax
        · rcases List.mem_cons.mp hc with rfl | hc
          · exact (le_max_right _ _).trans hmax
          · exact hle (Or.inr ⟨c, hc, rfl⟩)

/-- The peak is the largest frontier of an entry. -/
lemma RunTrace.isGreatest_peakFrontier {T : RunTrace} (h : T.steps ≠ []) :
    IsGreatest {n | ∃ s ∈ T.steps, stepPeak s = n} T.peakFrontier := by
  rw [peakFrontier]
  cases hsteps : T.steps with
  | nil => exact absurd hsteps h
  | cons s rest =>
      have hset : {n | ∃ b ∈ s :: rest, stepPeak b = n} =
          {n | n = stepPeak s ∨ ∃ b ∈ rest, stepPeak b = n} := by
        ext n
        simp [eq_comm]
      rw [hset]
      exact isGreatest_foldl_max stepPeak rest (stepPeak s)

/-! ## Edges -/

section

variable (e : Expr (Matcher τ ο))

/-- The edges of a compiled pattern lead to leaves or to the terminal node. -/
lemma length_moves_ofExpr (p : NodeId) : ((Graph.ofExpr e).moves p).length =
    ((Graph.ofExpr e).edgesFrom p).countP fun edge => edge.target ≠ NodeId.terminal := by
  rw [Graph.moves, List.length_filterMap_eq_countP]
  refine List.countP_congr fun edge hedge => ?_
  rw [Option.isSome_map, decide_eq_true_eq]
  rcases (Graph.Leads.ends e ⟨edge.markers, hedge⟩).2 with hterminal | ⟨k, hk, hleaf⟩
  · have hnone := Graph.matcher?_ofExpr_of_lt e (n := NodeId.terminal) (by decide)
    rw [hterminal, hnone]
    simp
  · have hsome : e.leaves[k]? = some (e.leaves.get ⟨k, e.length_leaves ▸ hk⟩) :=
      List.getElem?_eq_getElem _
    rw [hleaf, Graph.matcher?_leafNode e hk, hsome]
    simp [(Graph.mapsTo_leafNode e hk).2.2]

lemma edgesTried_ofExpr (frontier : Array (Explorer ο)) :
    edgesTried (Graph.ofExpr e) frontier = (frontier.toList.map fun x =>
      ((Graph.ofExpr e).edgesFrom x.node).countP fun edge =>
        edge.target ≠ NodeId.terminal).sum := by
  have hfold : ∀ (xs : List (Explorer ο)) (n : Nat),
      xs.foldl (fun n x => n + ((Graph.ofExpr e).moves x.node).length) n =
        n + (xs.map fun x => ((Graph.ofExpr e).edgesFrom x.node).countP fun edge =>
          edge.target ≠ NodeId.terminal).sum := by
    intro xs
    induction xs with
    | nil => exact fun n => rfl
    | cons x xs ih =>
        intro n
        rw [List.foldl_cons, ih, List.map_cons, List.sum_cons, length_moves_ofExpr, Nat.add_assoc]
  rw [edgesTried, ← Array.foldl_toList, hfold, Nat.zero_add]

end

/-! ## Whole runs -/

section

variable {g : Graph (Matcher τ ο)} {limits : Limits} {input : List τ}

/-- The end of the account of a whole run. -/
lemma exists_ending_traceRun (g : Graph (Matcher τ ο)) (limits : Limits) (input : List τ) :
    ∃ last, run g limits (input.take (traceRun g limits input).steps.length) = .ok last ∧
      (traceRun g limits input).finalFrontier = last.size ∧
      RunTrace.Ending g limits 0 input last (traceRun g limits input) :=
  exists_ending rfl

/-- The entries of the account of a whole run. -/
lemma exists_of_getElem?_traceRun {i : Nat} {s : StepTrace}
    (hs : (traceRun g limits input).steps[i]? = some s) :
    ∃ before after, run g limits (input.take i) = .ok before ∧
      run g limits (input.take (i + 1)) = .ok after ∧
      s = ⟨i, before.size, edgesTried g before, after.size⟩ := by
  obtain ⟨before, after, hbefore, hafter, heq⟩ := exists_of_getElem?_steps rfl hs
  rw [Nat.zero_add] at heq
  exact ⟨before, after, hbefore, hafter, heq⟩

/-- The last entry tells of the last frontier that the run reaches; without entries this is the
frontier in front of the first token. -/
lemma size_eq_getLast?_steps {last : Array (Explorer ο)}
    (h : run g limits (input.take (traceRun g limits input).steps.length) = .ok last) :
    last.size = ((traceRun g limits input).steps.getLast?.map StepTrace.frontierAfter).getD 1 := by
  rw [List.getLast?_eq_getElem?]
  cases hlen : (traceRun g limits input).steps.length with
  | zero =>
      rw [hlen] at h
      obtain rfl : initialFrontier = last := Except.ok.inj h
      rw [List.length_eq_zero_iff.mp hlen]
      rfl
  | succ k =>
      have hk : k < (traceRun g limits input).steps.length := hlen ▸ Nat.lt_succ_self k
      have hget : (traceRun g limits input).steps[k]? = some (traceRun g limits input).steps[k] :=
        List.getElem?_eq_getElem hk
      obtain ⟨_, after, _, hafter, heq⟩ := exists_of_getElem?_traceRun hget
      rw [hlen] at h
      obtain rfl := Except.ok.inj (hafter.symm.trans h)
      rw [Nat.add_sub_cancel, hget, heq]
      rfl

/-- The sizes of the frontiers that a run reaches while its account goes on. -/
def reachedSizes (g : Graph (Matcher τ ο)) (limits : Limits) (input : List τ) (k : Nat) : Set Nat :=
  {n | ∃ j ≤ k, ∃ frontier, run g limits (input.take j) = .ok frontier ∧ frontier.size = n}

/-- **The peak of an account is the largest frontier that the run reaches.** -/
theorem isGreatest_peakFrontier_traceRun (g : Graph (Matcher τ ο)) (limits : Limits)
    (input : List τ) :
    IsGreatest (reachedSizes g limits input (traceRun g limits input).steps.length)
      (traceRun g limits input).peakFrontier := by
  obtain ⟨last, hlast, hfinal, _⟩ := exists_ending_traceRun g limits input
  by_cases hsteps : (traceRun g limits input).steps = []
  · -- Only the frontier in front of the first token is reached.
    have hpeak : (traceRun g limits input).peakFrontier = 1 := by
      have hsize : last.size = _ := size_eq_getLast?_steps hlast
      rw [hsteps] at hsize
      rw [RunTrace.peakFrontier, hsteps]
      exact hfinal.trans hsize
    rw [hpeak, hsteps]
    refine ⟨⟨0, Nat.le_refl 0, initialFrontier, rfl, rfl⟩, ?_⟩
    rintro n ⟨j, hj, frontier, hrun, rfl⟩
    obtain rfl : j = 0 := Nat.le_zero.mp hj
    obtain rfl : initialFrontier = frontier := Except.ok.inj hrun
    exact Nat.le_refl 1
  · obtain ⟨⟨s, hs, hpeak⟩, hle⟩ := RunTrace.isGreatest_peakFrontier hsteps
    refine ⟨?_, ?_⟩
    · obtain ⟨i, hi, rfl⟩ := List.mem_iff_getElem.mp hs
      obtain ⟨before, after, hbefore, hafter, heq⟩ :=
        exists_of_getElem?_traceRun (List.getElem?_eq_getElem hi)
      rw [heq, RunTrace.stepPeak] at hpeak
      rcases max_choice before.size after.size with hmax | hmax
      · exact ⟨i, Nat.le_of_lt hi, before, hbefore, hmax.symm.trans hpeak⟩
      · exact ⟨i + 1, hi, after, hafter, hmax.symm.trans hpeak⟩
    · -- Every frontier that is reached stands in front of a token with an entry or behind one.
      rintro n ⟨j, hj, frontier, hrun, rfl⟩
      have hentry : ∀ i (hi : i < (traceRun g limits input).steps.length),
          RunTrace.stepPeak (traceRun g limits input).steps[i] ≤
            (traceRun g limits input).peakFrontier := fun i hi =>
        hle ⟨_, List.getElem_mem hi, rfl⟩
      rcases Nat.lt_or_eq_of_le hj with hj | rfl
      · obtain ⟨before, _, hbefore, _, heq⟩ :=
          exists_of_getElem?_traceRun (List.getElem?_eq_getElem hj)
        obtain rfl := Except.ok.inj (hbefore.symm.trans hrun)
        refine le_trans ?_ (hentry j hj)
        rw [heq]
        exact le_max_left _ _
      · obtain ⟨k, hk⟩ := Nat.exists_eq_succ_of_ne_zero (mt List.length_eq_zero_iff.mp hsteps)
        have hlt : k < (traceRun g limits input).steps.length := hk ▸ Nat.lt_succ_self k
        obtain ⟨_, after, _, hafter, heq⟩ :=
          exists_of_getElem?_traceRun (List.getElem?_eq_getElem hlt)
        rw [hk] at hrun
        obtain rfl := Except.ok.inj (hafter.symm.trans hrun)
        refine le_trans ?_ (hentry k hlt)
        rw [heq]
        exact le_max_right _ _

end

/-! ## Accounts of compiled patterns -/

/-- Whether an account tells what a run does. -/
structure RunTrace.IsAccount (g : Graph (Matcher τ ο)) (limits : Limits) (input : List τ)
    (T : RunTrace) : Prop where
  length_le : T.steps.length ≤ input.length
  position : ∀ (i : Nat) (s : StepTrace), T.steps[i]? = some s → s.position = i
  first : ∀ s : StepTrace, T.steps[0]? = some s → s.frontierBefore = 1
  next : ∀ (i : Nat) (s s' : StepTrace), T.steps[i]? = some s → T.steps[i + 1]? = some s' →
    s'.frontierBefore = s.frontierAfter
  /-- The explorers that are alive in front of token `i` and behind it, and the edges from the former
  to other nodes than the terminal one. -/
  step : ∀ (i : Nat) (s : StepTrace), T.steps[i]? = some s → ∃ before after,
    run g limits (input.take i) = .ok before ∧
    run g limits (input.take (i + 1)) = .ok after ∧ s.frontierBefore = before.size ∧
    s.edgesTried = (before.toList.map fun x =>
      (g.edgesFrom x.node).countP fun edge => edge.target ≠ NodeId.terminal).sum ∧
    s.frontierAfter = after.size
  final : T.finalFrontier = (T.steps.getLast?.map StepTrace.frontierAfter).getD 1
  /-- A run that is not abandoned ends where no explorer is left, or else at the end of the input. -/
  ended : T.error = none → if T.steps.getLast?.map StepTrace.frontierAfter = some 0
    then T.haltedAt = some T.steps.length
    else T.haltedAt = none ∧ T.steps.length = input.length
  /-- A run is abandoned by its limit at the first token that is not accounted for, and what is told
  of the end is what was there in front of this token. -/
  abandoned : ∀ x, T.error = some x →
    (∃ max, limits.maxFrontier = some max ∧
      x = .frontierExceeded (max + 1) max T.steps.length) ∧
    T.steps.length < input.length ∧ T.haltedAt = some T.steps.length ∧ T.accepted = 0 ∧
    ∃ before, run g limits (input.take T.steps.length) = .ok before ∧ T.finalFrontier = before.size
  peak : IsGreatest (reachedSizes g limits input T.steps.length) T.peakFrontier
  peak_le : ∀ bound, limits.maxFrontier = some bound → T.peakFrontier ≤ max 1 bound

/-- **The account of a run of a compiled pattern tells what the run does**, however it ends. -/
theorem trace_isAccount (e : Expr (Matcher τ ο)) (limits : Limits) (input : List τ) :
    (((Program.compile e).withLimits limits).trace input).IsAccount (Graph.ofExpr e) limits
      input := by
  have htrace : ((Program.compile e).withLimits limits).trace input =
      traceRun (Graph.ofExpr e) limits input := rfl
  rw [htrace]
  obtain ⟨last, hlast, hfinal, hending⟩ := exists_ending_traceRun (Graph.ofExpr e) limits input
  have hsize : last.size = _ := size_eq_getLast?_steps hlast
  constructor
  case length_le => exact length_steps_traceFrom_le _ _ _ _ _
  case position =>
    intro i s hs
    obtain ⟨_, _, _, _, rfl⟩ := exists_of_getElem?_traceRun hs
    rfl
  case first =>
    intro s hs
    obtain ⟨before, _, hbefore, _, rfl⟩ := exists_of_getElem?_traceRun hs
    obtain rfl : initialFrontier = before := Except.ok.inj hbefore
    rfl
  case next =>
    intro i s s' hs hs'
    obtain ⟨_, after, _, hafter, rfl⟩ := exists_of_getElem?_traceRun hs
    obtain ⟨before, _, hbefore, _, rfl⟩ := exists_of_getElem?_traceRun hs'
    obtain rfl := Except.ok.inj (hafter.symm.trans hbefore)
    rfl
  case step =>
    intro i s hs
    obtain ⟨before, after, hbefore, hafter, rfl⟩ := exists_of_getElem?_traceRun hs
    exact ⟨before, after, hbefore, hafter, rfl, edgesTried_ofExpr e before, rfl⟩
  case final => exact hfinal.trans hsize
  case ended =>
    intro hnone
    rcases hending.of_error_eq_none hnone with ⟨hempty, hhalted⟩ | ⟨halive, hended⟩
    · rw [Array.isEmpty_iff_size_eq_zero.mp hempty] at hsize
      rw [Nat.zero_add] at hhalted
      rwa [if_pos]
      cases hmap : (traceRun (Graph.ofExpr e) limits input).steps.getLast?.map
          StepTrace.frontierAfter with
      | none => simp [hmap] at hsize
      | some n => simpa [hmap] using hsize.symm
    · rwa [if_neg]
      intro hzero
      rw [hzero] at hsize
      rw [Array.isEmpty_iff_size_eq_zero.mpr hsize] at halive
      cases halive
  case abandoned =>
    intro x hx
    obtain ⟨hlimit, hlt, hhalted, haccepted⟩ := hending.of_error_eq_some hx
    rw [Nat.zero_add] at hlimit hhalted
    exact ⟨hlimit, hlt, hhalted, haccepted, last, hlast, hfinal⟩
  case peak => exact isGreatest_peakFrontier_traceRun _ _ _
  case peak_le =>
    intro bound hbound
    obtain ⟨⟨_, _, frontier, hrun, hpeak⟩, _⟩ :=
      isGreatest_peakFrontier_traceRun (Graph.ofExpr e) limits input
    have hsize : (initialFrontier : Array (Explorer ο)).size ≤ max 1 bound := le_max_left 1 bound
    rw [← hpeak]
    exact size_le_of_runFrom_eq_ok hbound (le_max_right 1 bound) hsize hrun

end TokenPattern
