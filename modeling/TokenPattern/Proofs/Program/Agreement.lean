import Mathlib.Data.List.TFAE
import Mathlib.Tactic.TFAE
import TokenPattern.Proofs.Groups

/-!
# The ways to run a program agree

A program can be asked for its matches, for its matches with joined trails, for a verdict, and for an
account of its run.  The verdict and the account have loops of their own, which end when no explorer is
left, and matches can fail for a reason of their own, a trail that cannot be replayed.  `entries_agree`
says that nevertheless all of them fail together and with the same error, and otherwise tell of the
same matches.

**Joined trails.**  `Match.surfaceAt?` shows what a match tree looks like at an address.  Joining
changes the trails at all addresses and nothing else (`surfaceAt?_joined`).
-/

namespace TokenPattern

/-! ## Match trees by address -/

namespace Match

variable {T U : Type}

/-- The group at an address: every number is a place among the groups directly inside. -/
def at? : Match T → List Nat → Option (Match T)
  | m, [] => some m
  | m, i :: address => (m.groups[i]?).bind fun g => g.2.at? address

/-- What a match shows without its groups: start, trail, and the names of the groups directly
inside. -/
def surface (m : Match T) : Nat × T × List String := (m.start, m.trail, m.groups.map Prod.fst)

/-- What the group at an address shows. -/
def surfaceAt? (m : Match T) (address : List Nat) : Option (Nat × T × List String) :=
  (m.at? address).map surface

lemma groups_mapTrail (f : T → U) (m : Match T) :
    (m.mapTrail f).groups = m.groups.map fun g => (g.1, g.2.mapTrail f) := by
  cases m with
  | mk start trail groups => exact mapGroups_eq_map f groups

lemma at?_mapTrail (f : T → U) (m : Match T) (address : List Nat) :
    (m.mapTrail f).at? address = (m.at? address).map (mapTrail f) := by
  induction address generalizing m with
  | nil => rfl
  | cons i address ih =>
      rw [at?, at?, groups_mapTrail, List.getElem?_map]
      cases m.groups[i]? with
      | none => rfl
      | some g => exact ih g.2

lemma surface_mapTrail (f : T → U) (m : Match T) :
    (m.mapTrail f).surface = (m.start, f m.trail, m.groups.map Prod.fst) := by
  have hnames : (m.mapTrail f).groups.map Prod.fst = m.groups.map Prod.fst := by
    rw [groups_mapTrail, List.map_map]
    rfl
  rw [surface, hnames]
  cases m with
  | mk start trail groups => rfl

/-- Joining joins the trail at every address and changes nothing else. -/
lemma surfaceAt?_joined {ο T : Type} [Joins ο T] (m : Match (List ο)) (address : List Nat) :
    (m.joined : Match T).surfaceAt? address =
      (m.surfaceAt? address).map fun s => (s.1, Joins.join s.2.1, s.2.2) := by
  rw [surfaceAt?, joined, at?_mapTrail, surfaceAt?, Option.map_map, Option.map_map]
  exact congrArg (fun f => (m.at? address).map f) (funext (surface_mapTrail Joins.join))

end Match

/-! ## Accounts of runs -/

variable {τ ο : Type}

/-- The account of a run that does not fail counts the explorers that may stop. -/
lemma traceFrom_of_runFrom_eq_ok {g : Graph (Matcher τ ο)} {limits : Limits} {position : Nat}
    {frontier final : Array (Explorer ο)} {input : List τ} (hne : frontier.isEmpty = false)
    (h : runFrom g limits position frontier input = .ok final) :
    (traceFrom g limits position frontier input).error = none ∧
      (traceFrom g limits position frontier input).accepted = (accepting g final).length := by
  induction input generalizing position frontier with
  | nil =>
      obtain rfl := Except.ok.inj h
      exact ⟨rfl, rfl⟩
  | cons t rest ih =>
      rw [runFrom, hne] at h
      cases hnext : advance g limits position frontier t with
      | error x => simp [hnext] at h
      | ok next =>
          simp only [hnext, Bool.false_eq_true, if_false] at h
          cases hempty : next.isEmpty with
          | false =>
              rw [traceFrom_of_advance_eq_ok hnext hempty]
              exact ih hempty h
          | true =>
              -- A frontier that has died is the final one.
              rw [traceFrom_of_advance_eq_empty hnext hempty]
              obtain rfl : next = #[] := Array.isEmpty_iff.mp hempty
              rw [runFrom_empty] at h
              obtain rfl := Except.ok.inj h
              exact ⟨rfl, rfl⟩

/-- The account of a run that fails has the error. -/
lemma traceFrom_of_runFrom_eq_error {g : Graph (Matcher τ ο)} {limits : Limits} {position : Nat}
    {frontier : Array (Explorer ο)} {input : List τ} {x : MatchError}
    (hne : frontier.isEmpty = false)
    (h : runFrom g limits position frontier input = .error x) :
    (traceFrom g limits position frontier input).error = some x := by
  induction input generalizing position frontier with
  | nil => exact absurd h (by simp [runFrom])
  | cons t rest ih =>
      rw [runFrom, hne] at h
      cases hnext : advance g limits position frontier t with
      | error y =>
          simp only [hnext, Bool.false_eq_true, if_false] at h
          obtain rfl := Except.error.inj h
          rw [traceFrom_of_advance_eq_error hnext]
      | ok next =>
          simp only [hnext, Bool.false_eq_true, if_false] at h
          cases hempty : next.isEmpty with
          | false =>
              rw [traceFrom_of_advance_eq_ok hnext hempty]
              exact ih hempty h
          | true =>
              obtain rfl : next = #[] := Array.isEmpty_iff.mp hempty
              rw [runFrom_empty] at h
              exact absurd h (by simp)

/-! ## Programs -/

/-- The paths of a run that does not fail. -/
lemma paths_of_run_eq_ok {g : Graph (Matcher τ ο)} {limits : Limits} {input : List τ}
    {frontier : Array (Explorer ο)} (h : run g limits input = .ok frontier) :
    paths g limits input = .ok ((acceptingTrails g input).map AcceptingPath.ofTrail) ∧
      (accepting g frontier).length = (acceptingTrails g input).length := by
  obtain ⟨final, hfinal, hl⟩ | ⟨_, _, _, _, herr⟩ := (allows_run g limits input).eq_ok_or
  · obtain rfl := Except.ok.inj (h.symm.trans hfinal)
    have hpaths := accepting_map_along g frontier input hl
    refine ⟨?_, by simpa using congrArg List.length hpaths⟩
    rw [paths, h, ← hpaths]
    rfl
  · exact absurd (h.symm.trans herr) (by simp)

/-- **All ways to run a compiled pattern agree.**  They fail together and with one error, which is that
of the run.  Otherwise the verdict is whether there are matches, the account counts them, and they are
the reconstructions of the paths of the run in their order; and the matches with joined trails are
these matches with the trail at every address joined. -/
theorem entries_agree {T : Type} [Joins ο T] (e : Expr (Matcher τ ο)) (limits : Limits)
    (input : List τ) :
    let p := (Program.compile e).withLimits limits
    (∀ x, [p.allMatches input = .error x, p.isMatch input = .error x,
        (p.trace input).error = some x, p.joinedMatches input = .error x,
        paths (Graph.ofExpr e) limits input = .error x].TFAE) ∧
      ((∃ x, paths (Graph.ofExpr e) limits input = .error x) ∨
        ∃ found ms joined verdict, paths (Graph.ofExpr e) limits input = .ok found ∧
          p.allMatches input = .ok ms ∧ p.joinedMatches input = .ok joined ∧
          p.isMatch input = .ok verdict ∧ (verdict = true ↔ ms ≠ []) ∧
          (p.trace input).error = none ∧ (p.trace input).accepted = ms.length ∧
          ms.length = found.length ∧
          List.Forall₂ (fun path m => reconstruct path.trail = .ok m) found ms ∧
          List.Forall₂ (fun m j => ∀ address, j.surfaceAt? address =
            (m.surfaceAt? address).map fun s => (s.1, Joins.join s.2.1, s.2.2)) ms joined) := by
  intro p
  have hmatches : p.allMatches input =
      (paths (Graph.ofExpr e) limits input).bind (·.mapM fun path => reconstruct path.trail) := rfl
  have hisMatch : p.isMatch input = (run (Graph.ofExpr e) limits input).map
      fun frontier => frontier.any fun x => (Graph.ofExpr e).accepts x.node := p.isMatch_eq input
  have hjoined : p.joinedMatches input = (p.allMatches input).map (·.map Match.joined) := rfl
  have hstart : (initialFrontier : Array (Explorer ο)).isEmpty = false := rfl
  cases hrun : run (Graph.ofExpr e) limits input with
  | error y =>
      have hpaths : paths (Graph.ofExpr e) limits input = .error y := by
        rw [paths, hrun]
        rfl
      have htrace : (p.trace input).error = some y := traceFrom_of_runFrom_eq_error hstart hrun
      refine ⟨fun x => ?_, Or.inl ⟨y, hpaths⟩⟩
      rw [hjoined, hmatches, hpaths, hisMatch, hrun, htrace]
      simp [Except.bind, Except.map]
  | ok frontier =>
      obtain ⟨hpaths, hlen⟩ := paths_of_run_eq_ok hrun
      obtain ⟨ms, hms, hall⟩ := exists_allMatches_of_paths e hpaths
      obtain ⟨herror, haccepted⟩ := traceFrom_of_runFrom_eq_ok hstart hrun
      have hcount : ms.length = (acceptingTrails (Graph.ofExpr e) input).length :=
        hall.length_eq.symm
      have hnone : (p.trace input).error = none := herror
      refine ⟨fun x => ?_, Or.inr ⟨_, ms, ms.map Match.joined, _, hpaths, hms, ?_,
        by rw [hisMatch, hrun]; rfl, ?_, hnone, haccepted.trans (hlen.trans hcount.symm),
        by rw [hcount, List.length_map], ?_, ?_⟩⟩
      · -- None of them fails.
        rw [hjoined, hms, hisMatch, hrun, hnone, hpaths]
        simp [Except.map]
      · rw [hjoined, hms]
        rfl
      · show (frontier.any fun x => (Graph.ofExpr e).accepts x.node) = true ↔ ms ≠ []
        rw [any_accepts, decide_eq_true_eq, hlen, ← hcount, List.length_pos_iff]
      · rwa [List.forall₂_map_left_iff]
      · rw [List.forall₂_map_right_iff, List.forall₂_same]
        exact fun m _ address => m.surfaceAt?_joined address

end TokenPattern
