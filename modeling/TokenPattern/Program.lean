import TokenPattern.Graph.Draft
import TokenPattern.Match
import TokenPattern.Trace

/-!
# Programs

A `Program` is a compiled pattern together with the limits of its runs.  `Program.allMatches` gives
every way in which a whole input matches, `Program.isMatch` whether there is one, and
`Program.trace` an account of the run.

A verdict has a loop of its own, which stops reading as soon as no explorer is left.
`Program.isMatch_eq` says that it is the verdict on the last frontier of a run all the same.
-/

namespace TokenPattern

/-! ## Verdicts -/

section

variable {τ ο : Type}

/-- Whether an explorer may stop behind the tokens that are left.  They are not read any further once no
explorer is left. -/
def verdictFrom (g : Graph (Matcher τ ο)) (limits : Limits) :
    Nat → Array (Explorer ο) → List τ → Except MatchError Bool
  | _, frontier, [] => .ok (0 < (accepting g frontier).length)
  | position, frontier, t :: rest =>
    match advance g limits position frontier t with
    | .error e => .error e
    | .ok next => if next.isEmpty then .ok false else verdictFrom g limits (position + 1) next rest

/-- Whether some explorer of a frontier may stop is a matter of their number. -/
theorem any_accepts (g : Graph (Matcher τ ο)) (frontier : Array (Explorer ο)) :
    (frontier.any fun x => g.accepts x.node) = decide (0 < (accepting g frontier).length) := by
  rw [← Array.any_toList, accepting, Bool.eq_iff_iff, List.any_eq_true, decide_eq_true_eq,
    List.length_pos_iff, Ne, List.filter_eq_nil_iff]
  simp only [Classical.not_forall, Classical.not_not, exists_prop]

/-- A verdict is that on the last frontier of the run. -/
theorem verdictFrom_eq (g : Graph (Matcher τ ο)) (limits : Limits) (position : Nat)
    {frontier : Array (Explorer ο)} (input : List τ) (hne : frontier.isEmpty = false) :
    verdictFrom g limits position frontier input =
      (runFrom g limits position frontier input).map fun frontier =>
        frontier.any fun x => g.accepts x.node := by
  induction input generalizing position frontier with
  | nil => exact congrArg Except.ok (any_accepts g frontier).symm
  | cons t rest ih =>
    rw [verdictFrom, runFrom, hne]
    cases hnext : advance g limits position frontier t with
    | error e => rfl
    | ok next =>
      cases hempty : next.isEmpty with
      | false =>
        simp only [hempty, Bool.false_eq_true, if_false]
        exact ih (position + 1) hempty
      | true =>
        -- The run goes on with no explorer and ends with none.
        obtain rfl : next = #[] := Array.isEmpty_iff.mp hempty
        simp [runFrom_empty, Except.map]

end

/-- A compiled pattern that is ready to run. -/
structure Program (τ ο : Type) where
  graph : Graph (Matcher τ ο)
  limits : Limits

namespace Program

variable {τ ο : Type}

/-- Compiles a pattern, with the default limits. -/
def compile (e : Expr (Matcher τ ο)) : Program τ ο := ⟨Graph.ofExpr e, Limits.default⟩

/-- The same program under other limits. -/
def withLimits (p : Program τ ο) (limits : Limits) : Program τ ο := { p with limits := limits }

/-- The paths on which the whole input is accepted. -/
def paths (p : Program τ ο) (input : List τ) : Except MatchError (List (AcceptingPath ο)) :=
  TokenPattern.paths p.graph p.limits input

/-- Every way in which the whole input matches, in the order of the frontier. -/
def allMatches (p : Program τ ο) (input : List τ) : Except MatchError (List (Match (List ο))) := do
  let found ← p.paths input
  found.mapM fun path => reconstruct path.trail

/-- The matches with every trail joined. -/
def joinedMatches {T : Type} [Joins ο T] (p : Program τ ο) (input : List τ) :
    Except MatchError (List (Match T)) :=
  (p.allMatches input).map (·.map Match.joined)

/-- Whether the whole input matches in some way.  Groups are not looked at. -/
def isMatch (p : Program τ ο) (input : List τ) : Except MatchError Bool :=
  verdictFrom p.graph p.limits 0 initialFrontier input

/-- The account of a run. -/
def trace (p : Program τ ο) (input : List τ) : RunTrace := traceRun p.graph p.limits input

instance : Diagnostic (Program τ ο) :=
  ⟨fun p => Diagnostic.record "Program"
    [("nodes", diagnostic p.graph.nodeCount), ("edges", diagnostic p.graph.edgeCount),
      ("limits", diagnostic p.limits)]⟩

/-- The verdict is whether some explorer of the last frontier of the run may stop. -/
theorem isMatch_eq (p : Program τ ο) (input : List τ) :
    p.isMatch input = (run p.graph p.limits input).map fun frontier =>
      frontier.any fun x => p.graph.accepts x.node :=
  verdictFrom_eq p.graph p.limits 0 input rfl

end Program

end TokenPattern
