import TokenPattern.Frontier

/-!
# The account of a run

`traceRun` runs a pattern and keeps, for every token, how many explorers there were before and
after it and how many edges were tried, instead of what the explorers collected.  A run that the
limits abandon is not a failure here: the error is part of the account.
-/

namespace TokenPattern

/-- What one token did. -/
structure StepTrace where
  position : Nat
  frontierBefore : Nat
  edgesTried : Nat
  frontierAfter : Nat
deriving DecidableEq

/-- What a whole run did. -/
structure RunTrace where
  /-- One entry for every token that was read. -/
  steps : List StepTrace
  /-- The number of explorers that may stop at the end. -/
  accepted : Nat
  /-- The number of explorers at the end; before the failing token if there was one. -/
  finalFrontier : Nat
  /-- Where the run ended early: behind the token that left no explorer, or at the failing one. -/
  haltedAt : Option Nat
  /-- Why the run was abandoned. -/
  error : Option MatchError
deriving DecidableEq

namespace RunTrace

/-- Whether the input matched. -/
def matched (t : RunTrace) : Bool := 0 < t.accepted

/-- The larger frontier of a step. -/
def stepPeak (s : StepTrace) : Nat := max s.frontierBefore s.frontierAfter

/-- The largest frontier of the run. -/
def peakFrontier (t : RunTrace) : Nat :=
  match t.steps with
  | [] => t.finalFrontier
  | s :: rest => rest.foldl (fun peak s => max peak (stepPeak s)) (stepPeak s)

/-- The number of edges tried in all. -/
def edgesTried (t : RunTrace) : Nat := (t.steps.map StepTrace.edgesTried).foldr (· + ·) 0

end RunTrace

instance : Diagnostic StepTrace :=
  ⟨fun s => Diagnostic.record "StepTrace"
    [("position", diagnostic s.position), ("frontier_before", diagnostic s.frontierBefore),
      ("edges_tried", diagnostic s.edgesTried), ("frontier_after", diagnostic s.frontierAfter)]⟩

instance : Diagnostic RunTrace :=
  ⟨fun t => Diagnostic.record "RunTrace"
    [("steps", diagnostic t.steps), ("accepted", diagnostic t.accepted),
      ("final_frontier", diagnostic t.finalFrontier), ("halted_at", diagnostic t.haltedAt),
      ("error", diagnostic t.error)]⟩

section

variable {τ ο : Type}

/-- The number of edges to leaves that leave the explorers of a frontier. -/
def edgesTried (g : Graph (Matcher τ ο)) (frontier : Array (Explorer ο)) : Nat :=
  frontier.foldl (fun n x => n + (g.moves x.node).length) 0

/-- The account of the tokens that are left. -/
def traceFrom (g : Graph (Matcher τ ο)) (limits : Limits) :
    Nat → Array (Explorer ο) → List τ → RunTrace
  | _, frontier, [] =>
    { steps := [], accepted := (accepting g frontier).length, finalFrontier := frontier.size
      haltedAt := none, error := none }
  | position, frontier, t :: rest =>
    match advance g limits position frontier t with
    | .error e =>
      { steps := [], accepted := 0, finalFrontier := frontier.size, haltedAt := some position
        error := some e }
    | .ok next =>
      let step : StepTrace := ⟨position, frontier.size, edgesTried g frontier, next.size⟩
      if next.isEmpty then
        { steps := [step], accepted := 0, finalFrontier := 0, haltedAt := some (position + 1)
          error := none }
      else
        let later := traceFrom g limits (position + 1) next rest
        { later with steps := step :: later.steps }

/-- The account of a run. -/
def traceRun (g : Graph (Matcher τ ο)) (limits : Limits) (input : List τ) : RunTrace :=
  traceFrom g limits 0 initialFrontier input

section

variable {g : Graph (Matcher τ ο)} {limits : Limits} {position : Nat}
  {frontier next : Array (Explorer ο)} {t : τ}

/-- A token at which the run is abandoned. -/
theorem traceFrom_of_advance_eq_error {x : MatchError}
    (h : advance g limits position frontier t = .error x) (rest : List τ) :
    traceFrom g limits position frontier (t :: rest) =
      { steps := [], accepted := 0, finalFrontier := frontier.size, haltedAt := some position
        error := some x } := by
  rw [traceFrom, h]

/-- A token that leaves no explorer. -/
theorem traceFrom_of_advance_eq_empty (h : advance g limits position frontier t = .ok next)
    (hempty : next.isEmpty = true) (rest : List τ) :
    traceFrom g limits position frontier (t :: rest) =
      { steps := [⟨position, frontier.size, edgesTried g frontier, next.size⟩], accepted := 0
        finalFrontier := 0, haltedAt := some (position + 1), error := none } := by
  simp only [traceFrom, h, hempty, if_true]

/-- A token behind which the run goes on. -/
theorem traceFrom_of_advance_eq_ok (h : advance g limits position frontier t = .ok next)
    (hempty : next.isEmpty = false) (rest : List τ) :
    traceFrom g limits position frontier (t :: rest) =
      { traceFrom g limits (position + 1) next rest with
        steps := ⟨position, frontier.size, edgesTried g frontier, next.size⟩ ::
          (traceFrom g limits (position + 1) next rest).steps } := by
  simp only [traceFrom, h, hempty, Bool.false_eq_true, if_false]

end

/-- There is at most one step for every token. -/
theorem length_steps_traceFrom_le (g : Graph (Matcher τ ο)) (limits : Limits) (position : Nat)
    (frontier : Array (Explorer ο)) (input : List τ) :
    (traceFrom g limits position frontier input).steps.length ≤ input.length := by
  induction input generalizing position frontier with
  | nil => exact Nat.le_refl _
  | cons t rest ih =>
    simp only [traceFrom]
    split
    · exact Nat.zero_le _
    · split
      · simp
      · simpa using ih _ _

end

end TokenPattern
