import TokenPattern.Proofs.Graph.Routes
import TokenPattern.Program

/-!
# Runs as lists of trails

A run keeps its explorers in an array that is checked against a limit at every push.  What comes out
of it is a list that can be written down at once: `trailsFrom`, the trails by recursion over the
input.  `Limits.Allows` is the relation between the two, and `allows_run` says that a run gives
these trails in this order unless it exceeds its limits.

**Routes and outputs.**  Up to order, the trails are the routes of the graph, each with every choice
of one output of its leaves for their tokens (`perm_trailsFrom`, `fillings`).
-/

namespace TokenPattern

section

variable {τ ο : Type}

/-! ## Limits -/

/-- `limits.Allows l r`: the result is the list `l`, or an error since the limits were exceeded. -/
inductive Limits.Allows {χ : Type} (limits : Limits) (l : List χ) :
    Except MatchError (Array χ) → Prop
  | ok {a : Array χ} : a.toList = l → Limits.Allows limits l (.ok a)
  | exceeded {size max position : Nat} : limits.maxFrontier = some max →
      Limits.Allows limits l (.error (.frontierExceeded size max position))

variable {limits : Limits}

lemma Limits.Allows.eq_ok_or {χ : Type} {l : List χ} {result : Except MatchError (Array χ)}
    (h : limits.Allows l result) : (∃ a, result = .ok a ∧ a.toList = l) ∨
      ∃ size max position, limits.maxFrontier = some max ∧
        result = .error (.frontierExceeded size max position) := by
  cases h with
  | ok h => exact Or.inl ⟨_, rfl, h⟩
  | exceeded hmax => exact Or.inr ⟨_, _, _, hmax, rfl⟩

/-- Without limits there is a result. -/
lemma Limits.Allows.exists_ok {χ : Type} {l : List χ} {result : Except MatchError (Array χ)}
    (h : Limits.unbounded.Allows l result) : ∃ a, result = .ok a ∧ a.toList = l := by
  rcases h.eq_ok_or with h | ⟨_, _, _, hmax, _⟩
  · exact h
  · exact absurd hmax (by simp [Limits.unbounded])

lemma allows_foldlM_push (position : Nat) (xs : List (Explorer ο)) (next : Array (Explorer ο)) :
    limits.Allows (next.toList ++ xs) (xs.foldlM (limits.pushWithin position) next) := by
  induction xs generalizing next with
  | nil => exact .ok (List.append_nil _).symm
  | cons x xs ih =>
      have hrest := ih (next.push x)
      rw [Array.toList_push, List.append_assoc, List.singleton_append] at hrest
      rw [List.foldlM_cons, Limits.pushWithin]
      cases hmax : limits.maxFrontier with
      | none => exact hrest
      | some max =>
          by_cases hlt : max < (next.push x).size
          · simp only [hlt, if_true]
            exact .exceeded hmax
          · simp only [hlt, if_false]
            exact hrest

/-- One token moves every explorer along every edge with every output, in this order. -/
lemma allows_advance (g : Graph (Matcher τ ο)) (position : Nat) (frontier : Array (Explorer ο))
    (t : τ) : limits.Allows (frontier.toList.flatMap fun x => x.successors g t)
      (advance g limits position frontier t) := by
  have hacc : ∀ (xs : List (Explorer ο)) (next : Array (Explorer ο)),
      limits.Allows (next.toList ++ xs.flatMap fun x => x.successors g t)
        (xs.foldlM (fun next x => (x.successors g t).foldlM (limits.pushWithin position) next)
          next) := by
    intro xs
    induction xs with
    | nil => exact fun next => .ok (List.append_nil _).symm
    | cons x xs ih =>
        intro next
        rw [List.foldlM_cons, List.flatMap_cons, ← List.append_assoc]
        have hpush : limits.Allows _ _ := allows_foldlM_push position (x.successors g t) next
        rcases hpush.eq_ok_or with ⟨a, ha, hl⟩ | ⟨_, _, _, hmax, herr⟩
        · rw [ha, ← hl]
          exact ih a
        · rw [herr]
          exact .exceeded hmax
  rw [advance, ← Array.foldlM_toList]
  exact hacc frontier.toList #[]

/-- All explorers after a number of tokens. -/
def exploreAll (g : Graph (Matcher τ ο)) (input : List τ) (xs : List (Explorer ο)) :
    List (Explorer ο) :=
  input.foldl (fun xs t => xs.flatMap fun x => x.successors g t) xs

lemma exploreAll_nil (g : Graph (Matcher τ ο)) (input : List τ) : exploreAll g input [] = [] := by
  induction input with
  | nil => rfl
  | cons t rest ih => exact ih

lemma allows_runFrom (g : Graph (Matcher τ ο)) (position : Nat) (frontier : Array (Explorer ο))
    (input : List τ) : limits.Allows (exploreAll g input frontier.toList)
      (runFrom g limits position frontier input) := by
  induction input generalizing position frontier with
  | nil => exact .ok rfl
  | cons t rest ih =>
      rw [runFrom]
      by_cases hempty : frontier.isEmpty = true
      · rw [if_pos hempty]
        obtain rfl : frontier = #[] := Array.isEmpty_iff.mp hempty
        exact .ok (exploreAll_nil g (t :: rest)).symm
      · rw [if_neg hempty]
        have hone : limits.Allows _ _ := allows_advance g position frontier t
        rcases hone.eq_ok_or with ⟨next, hnext, hl⟩ | ⟨_, _, _, hmax, herr⟩
        · have hrest := ih (position + 1) next
          rw [hl] at hrest
          rw [hnext]
          exact hrest
        · rw [herr]
          exact .exceeded hmax

end

/-! ## Trails -/

section

variable {τ ο : Type} {g : Graph (Matcher τ ο)} {p : NodeId}

/-- The trails from node `p` through a whole input, oldest item first, in the order of the
frontier. -/
def trailsFrom (g : Graph (Matcher τ ο)) : NodeId → List τ → List (List (TrailItem ο))
  | _, [] => [[]]
  | p, t :: rest => (g.moves p).flatMap fun m => (m.2.outputs t).flatMap fun o =>
      (trailsFrom g m.1.target rest).map (⟨m.1.target, m.1.markers, o⟩ :: ·)

/-- The node on which a trail from `p` ends. -/
def trailEnd : NodeId → List (TrailItem ο) → NodeId
  | p, [] => p
  | _, i :: trail => trailEnd i.node trail

/-- An explorer at the end of a trail. -/
def Explorer.along (x : Explorer ο) (trail : List (TrailItem ο)) : Explorer ο :=
  ⟨trailEnd x.node trail, trail.reverse ++ x.trail⟩

lemma Explorer.along_follow (x : Explorer ο) (e : Edge) (o : ο) (trail : List (TrailItem ο)) :
    (x.follow e o).along trail = x.along (⟨e.target, e.markers, o⟩ :: trail) := by
  simp [along, follow, trailEnd]

lemma exploreAll_eq (g : Graph (Matcher τ ο)) (input : List τ) (xs : List (Explorer ο)) :
    exploreAll g input xs = xs.flatMap fun x => (trailsFrom g x.node input).map x.along := by
  induction input generalizing xs with
  | nil => exact (List.flatMap_singleton' xs).symm
  | cons t rest ih =>
      have hone : ∀ x : Explorer ο, (x.successors g t).flatMap
          (fun y => (trailsFrom g y.node rest).map y.along) =
          (trailsFrom g x.node (t :: rest)).map x.along := by
        intro x
        simp only [Explorer.successors, trailsFrom, List.flatMap_assoc, List.flatMap_map,
          List.map_flatMap, List.map_map]
        refine List.flatMap_congr fun m _ => List.flatMap_congr fun o _ => ?_
        exact List.map_congr_left fun trail _ => x.along_follow m.1 o trail
      calc exploreAll g (t :: rest) xs
          = (xs.flatMap fun x => x.successors g t).flatMap
              fun y => (trailsFrom g y.node rest).map y.along := ih _
        _ = xs.flatMap fun x => (trailsFrom g x.node (t :: rest)).map x.along := by
            rw [List.flatMap_assoc]
            exact List.flatMap_congr fun x _ => hone x

/-- **A run gives the trails in order**, unless it exceeds its limits. -/
theorem allows_run (g : Graph (Matcher τ ο)) (limits : Limits) (input : List τ) :
    limits.Allows ((trailsFrom g NodeId.initial input).map Explorer.initial.along)
      (run g limits input) := by
  have h : limits.Allows _ _ := allows_runFrom g 0 initialFrontier input
  rw [exploreAll_eq, initialFrontier, List.flatMap_singleton] at h
  exact h

/-- The trails on which a run may stop. -/
def acceptingTrails (g : Graph (Matcher τ ο)) (input : List τ) : List (List (TrailItem ο)) :=
  (trailsFrom g NodeId.initial input).filter fun trail =>
    g.accepts (trailEnd NodeId.initial trail)

/-- The path with a trail. -/
def AcceptingPath.ofTrail (trail : List (TrailItem ο)) : AcceptingPath ο :=
  ⟨trailEnd NodeId.initial trail, trail⟩

lemma accepting_map_along (g : Graph (Matcher τ ο)) (frontier : Array (Explorer ο)) (input : List τ)
    (h : frontier.toList = (trailsFrom g NodeId.initial input).map Explorer.initial.along) :
    (accepting g frontier).map Explorer.path =
      (acceptingTrails g input).map AcceptingPath.ofTrail := by
  have hpath : ∀ trail : List (TrailItem ο),
      (Explorer.initial.along trail).path = AcceptingPath.ofTrail trail := by
    intro trail
    simp [Explorer.along, Explorer.path, Explorer.initial, AcceptingPath.ofTrail]
  rw [accepting, h, List.filter_map, List.map_map, acceptingTrails]
  exact List.map_congr_left fun trail _ => hpath trail

/-- The paths of a run, unless it exceeds its limits. -/
lemma paths_eq (g : Graph (Matcher τ ο)) (limits : Limits) (input : List τ) :
    paths g limits input = .ok ((acceptingTrails g input).map AcceptingPath.ofTrail) ∨
      ∃ size max position, limits.maxFrontier = some max ∧
        paths g limits input = .error (.frontierExceeded size max position) := by
  rw [paths]
  rcases (allows_run g limits input).eq_ok_or with ⟨frontier, hrun, hl⟩ | ⟨_, _, _, hmax, herr⟩
  · rw [hrun]
    exact Or.inl (congrArg Except.ok (accepting_map_along g frontier input hl))
  · rw [herr]
    exact Or.inr ⟨_, _, _, hmax, rfl⟩

lemma paths_unbounded (g : Graph (Matcher τ ο)) (input : List τ) :
    paths g Limits.unbounded input = .ok ((acceptingTrails g input).map AcceptingPath.ofTrail) := by
  obtain ⟨frontier, hrun, hl⟩ := (allows_run g Limits.unbounded input).exists_ok
  rw [paths, hrun]
  exact congrArg Except.ok (accepting_map_along g frontier input hl)

/-! ## Routes and outputs -/

/-- The trails along a route: for every leaf one output for its token. -/
def fillings : List (Move (Matcher τ ο)) → List τ → List (List (TrailItem ο))
  | [], [] => [[]]
  | (e, m) :: r, t :: rest => (m.outputs t).flatMap fun o =>
      (fillings r rest).map (⟨e.target, e.markers, o⟩ :: ·)
  | _, _ => []

/-- Two nested choices can be made in either order. -/
lemma flatMap_flatMap_perm {α β γ : Type*} (l : List α) (l' : List β) (f : α → β → List γ) :
    (l.flatMap fun a => l'.flatMap fun b => f a b).Perm
      (l'.flatMap fun b => l.flatMap fun a => f a b) := by
  induction l with
  | nil => simp
  | cons a l ih =>
      simp only [List.flatMap_cons]
      exact (ih.append_left _).trans (List.flatMap_append_perm l' _ _)

/-- **The trails are the routes with all choices of outputs.** -/
theorem perm_trailsFrom (g : Graph (Matcher τ ο)) (p : NodeId) (input : List τ) :
    (trailsFrom g p input).Perm
      ((g.routesFrom p input.length).flatMap fun r => fillings r input) := by
  induction input generalizing p with
  | nil => simp [trailsFrom, Graph.routesFrom, fillings]
  | cons t rest ih =>
      have hroutes : ((g.routesFrom p (t :: rest).length).flatMap fun r => fillings r (t :: rest)) =
          (g.moves p).flatMap fun m => (g.routesFrom m.1.target rest.length).flatMap fun r =>
            (m.2.outputs t).flatMap fun o =>
              (fillings r rest).map (⟨m.1.target, m.1.markers, o⟩ :: ·) := by
        simp only [List.length_cons, Graph.routesFrom, List.flatMap_assoc, List.flatMap_map,
          fillings]
      rw [hroutes, trailsFrom]
      refine List.Perm.flatMap_left _ fun m _ => ?_
      refine List.Perm.trans ?_ (flatMap_flatMap_perm _ _ _)
      refine List.Perm.flatMap_left _ fun o _ => ?_
      rw [← List.map_flatMap]
      exact (ih m.1.target).map _

lemma length_eq_of_mem_fillings {r : List (Move (Matcher τ ο))} {input : List τ}
    {trail : List (TrailItem ο)} (h : trail ∈ fillings r input) : r.length = input.length := by
  induction r generalizing input trail with
  | nil =>
      cases input with
      | nil => rfl
      | cons t rest => simp [fillings] at h
  | cons m r ih =>
      cases input with
      | nil => simp [fillings] at h
      | cons t rest =>
          simp only [fillings, List.mem_flatMap, List.mem_map] at h
          obtain ⟨o, _, trail', h, _⟩ := h
          rw [List.length_cons, List.length_cons, ih h]

/-- A trail is along a route if a run can go there. -/
lemma mem_trailsFrom_iff {input : List τ} {trail : List (TrailItem ο)} :
    trail ∈ trailsFrom g p input ↔ ∃ r, g.IsRoute p r ∧ trail ∈ fillings r input := by
  rw [(perm_trailsFrom g p input).mem_iff, List.mem_flatMap]
  constructor
  · rintro ⟨r, hr, h⟩
    exact ⟨r, (Graph.mem_routesFrom.mp hr).1, h⟩
  · rintro ⟨r, hr, h⟩
    exact ⟨r, Graph.mem_routesFrom.mpr ⟨hr, length_eq_of_mem_fillings h⟩, h⟩

/-- A trail visits the nodes of its route, crossing the same boundaries. -/
lemma steps_of_mem_fillings {r : List (Move (Matcher τ ο))} {input : List τ}
    {trail : List (TrailItem ο)} (h : trail ∈ fillings r input) :
    trail.map (fun i => (⟨i.node, i.markers⟩ : Edge)) = r.map Prod.fst := by
  induction r generalizing input trail with
  | nil =>
      cases input with
      | nil =>
          obtain rfl : trail = [] := by simpa [fillings] using h
          rfl
      | cons t rest => simp [fillings] at h
  | cons m r ih =>
      cases input with
      | nil => simp [fillings] at h
      | cons t rest =>
          simp only [fillings, List.mem_flatMap, List.mem_map] at h
          obtain ⟨o, _, trail', h, rfl⟩ := h
          simp [ih h]

lemma trailEnd_of_steps {r : List (Move (Matcher τ ο))} {trail : List (TrailItem ο)}
    (h : trail.map (fun i => (⟨i.node, i.markers⟩ : Edge)) = r.map Prod.fst) :
    trailEnd p trail = Graph.routeEnd p r := by
  induction r generalizing p trail with
  | nil =>
      obtain rfl : trail = [] := by simpa using h
      rfl
  | cons m r ih =>
      cases trail with
      | nil => simp at h
      | cons i trail =>
          simp only [List.map_cons, List.cons.injEq] at h
          rw [trailEnd, Graph.routeEnd, ih h.2, ← h.1]

lemma flatMap_filter_eq {α β : Type*} (p : α → Bool) (f : α → List β) (l : List α) :
    (l.filter p).flatMap f = l.flatMap fun a => if p a then f a else [] := by
  induction l with
  | nil => rfl
  | cons a l ih =>
      rw [List.filter_cons, List.flatMap_cons]
      split_ifs with h
      · rw [List.flatMap_cons, ih]
      · rw [ih, List.nil_append]

/-- **The accepting trails are the accepting routes with all choices of outputs.** -/
theorem perm_acceptingTrails (g : Graph (Matcher τ ο)) (input : List τ) :
    (acceptingTrails g input).Perm
      ((g.acceptingRoutes input.length).flatMap fun r => fillings r input) := by
  have hfill : ∀ r : List (Move (Matcher τ ο)),
      (fillings r input).filter (fun trail => g.accepts (trailEnd NodeId.initial trail)) =
        if g.accepts (Graph.routeEnd NodeId.initial r) then fillings r input else [] := by
    intro r
    split_ifs with h
    · refine List.filter_eq_self.mpr fun trail ht => ?_
      rw [trailEnd_of_steps (steps_of_mem_fillings ht), h]
    · refine List.filter_eq_nil_iff.mpr fun trail ht => ?_
      rwa [trailEnd_of_steps (steps_of_mem_fillings ht)]
  refine ((perm_trailsFrom g NodeId.initial input).filter _).trans (List.Perm.of_eq ?_)
  rw [List.filter_flatMap, Graph.acceptingRoutes, flatMap_filter_eq]
  exact List.flatMap_congr fun r _ => hfill r

/-- A route can be filled if every leaf accepts its token. -/
lemma exists_mem_fillings_iff {r : List (Move (Matcher τ ο))} {input : List τ} :
    (∃ trail, trail ∈ fillings r input) ↔
      List.Forall₂ (fun m t => m.2.outputs t ≠ []) r input := by
  induction r generalizing input with
  | nil => cases input <;> simp [fillings]
  | cons m r ih =>
      cases input with
      | nil => simp [fillings]
      | cons t rest =>
          rw [List.forall₂_cons, ← ih]
          simp only [fillings, List.mem_flatMap, List.mem_map]
          constructor
          · rintro ⟨_, o, ho, trail, h, _⟩
            exact ⟨List.ne_nil_of_mem ho, trail, h⟩
          · rintro ⟨hne, trail, h⟩
            obtain ⟨o, ho⟩ := List.exists_mem_of_ne_nil _ hne
            exact ⟨_, o, ho, trail, h, rfl⟩

end

end TokenPattern
