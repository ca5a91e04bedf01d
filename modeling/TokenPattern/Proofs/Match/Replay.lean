import TokenPattern.Match

/-!
# Replaying boundaries with finished groups

A replay reads the boundaries of a trail whose outputs are known as a whole.  A group becomes a match
at the moment at which it is closed: its outputs are a slice of those of the trail, and the groups in
it are matches already.  The state of a replay is therefore made of open groups and finished matches.

This is how the matches of patterns are reasoned about.  `reconstruct` itself collects the outputs one
by one, in an arena of all groups, and makes the matches at the end; `reconstruct_eq_replay` in
`Proofs.Match.Arena` shows that both give the same.
-/

namespace TokenPattern

/-! ## Replays -/

section

variable {ο : Type}

/-- A group that has not been closed yet, with the groups inside it, newest first. -/
structure OpenGroup (ο : Type) where
  name : String
  start : Nat
  inside : List (String × Match (List ο))

/-- The state of a replay: the groups on the top level, newest first, and the open groups, innermost
first. -/
structure Replay (ο : Type) where
  top : List (String × Match (List ο))
  opened : List (OpenGroup ο)

/-- Inserts a group in front of the groups whose names are not smaller. -/
def insertGroup {T : Type} (g : String × Match T) :
    List (String × Match T) → List (String × Match T)
  | [] => [g]
  | h :: rest => if h.1 < g.1 then h :: insertGroup g rest else g :: h :: rest

/-- Sorts groups by name and keeps the order within a name. -/
def sortGroups {T : Type} (groups : List (String × Match T)) : List (String × Match T) :=
  groups.foldr insertGroup []

/-- The outputs of the items from `first` up to, but without, `last`. -/
def slice (outputs : List ο) (first last : Nat) : List ο := (outputs.drop first).take (last - first)

namespace Replay

/-- Nothing read. -/
def initial : Replay ο := ⟨[], []⟩

/-- Adds a closed group to the innermost open one, or on the top level. -/
def add (r : Replay ο) (name : String) (m : Match (List ο)) : Replay ο :=
  match r.opened with
  | [] => { r with top := (name, m) :: r.top }
  | g :: rest => { r with opened := { g with inside := (name, m) :: g.inside } :: rest }

/-- The match that an open group becomes when it is closed in front of item `position`. -/
def closed (outputs : List ο) (position : Nat) (g : OpenGroup ο) : Match (List ο) :=
  .mk g.start (slice outputs g.start position) (sortGroups g.inside.reverse)

/-- Replays one boundary in front of item `position`. -/
def boundary (outputs : List ο) (position : Nat) (r : Replay ο) :
    Marker → Except MatchError (Replay ο)
  | .start name => .ok { r with opened := ⟨name, position, []⟩ :: r.opened }
  | .stop name =>
    match r.opened with
    | [] => .error (.malformedGraph none name position)
    | g :: rest =>
      if g.name = name then
        .ok (({ r with opened := rest } : Replay ο).add name (closed outputs position g))
      else .error (.malformedGraph (some g.name) name position)

/-- Replays the boundaries of the items that are left, the first of which is item `position`. -/
def items (outputs : List ο) : Nat → Replay ο → List (List Marker) → Except MatchError (Replay ο)
  | _, r, [] => .ok r
  | position, r, markers :: rest => do
    let r ← markers.foldlM (boundary outputs position) r
    items outputs (position + 1) r rest

/-- Closes a list of open groups, innermost first, at the end of the trail. -/
def closeAll (outputs : List ο) (top : List (String × Match (List ο))) :
    List (OpenGroup ο) → List (String × Match (List ο))
  | [] => top
  | [g] => (g.name, closed outputs outputs.length g) :: top
  | g :: h :: rest =>
    closeAll outputs top
      ({ h with inside := (g.name, closed outputs outputs.length g) :: h.inside } :: rest)
termination_by opened => opened.length

/-- The match at the end of the trail. -/
def finish (outputs : List ο) (r : Replay ο) : Match (List ο) :=
  .mk 0 outputs (sortGroups (closeAll outputs r.top r.opened).reverse)

end Replay

/-- The match of a trail, by a replay of its boundaries. -/
def replay (trail : List (TrailItem ο)) : Except MatchError (Match (List ο)) :=
  let outputs := trail.map TrailItem.output
  (Replay.items outputs 0 Replay.initial (trail.map TrailItem.markers)).map
    (Replay.finish outputs)

/-! ## Slices -/

/-- A slice has the outputs of all items between its ends. -/
theorem length_slice {outputs : List ο} {last : Nat} (h : last ≤ outputs.length) (first : Nat) :
    (slice outputs first last).length = last - first := by
  rw [slice, List.length_take, List.length_drop]
  omega

/-! ## Sorting groups -/

/-- Insertion adds one group and keeps the others. -/
theorem insertGroup_perm {T : Type} (g : String × Match T) (groups : List (String × Match T)) :
    (insertGroup g groups).Perm (g :: groups) := by
  induction groups with
  | nil => exact List.Perm.refl _
  | cons h rest ih =>
    simp only [insertGroup]
    split
    · exact (List.Perm.cons h ih).trans (List.Perm.swap g h rest)
    · exact List.Perm.refl _

/-- Sorting loses and invents no group. -/
theorem sortGroups_perm {T : Type} (groups : List (String × Match T)) :
    (sortGroups groups).Perm groups := by
  induction groups with
  | nil => exact List.Perm.refl _
  | cons g rest ih => exact (insertGroup_perm g _).trans (List.Perm.cons g ih)

/-- Sorting keeps the groups of one name in their order. -/
theorem filter_sortGroups {T : Type} (name : String) (groups : List (String × Match T)) :
    (sortGroups groups).filter (fun g => g.1 = name) = groups.filter fun g => g.1 = name := by
  have insert_filter (g : String × Match T) (l : List (String × Match T)) :
      (insertGroup g l).filter (fun g => g.1 = name) = (g :: l).filter fun g => g.1 = name := by
    induction l with
    | nil => rfl
    | cons h rest ih =>
      simp only [insertGroup]
      split
      · rename_i hlt
        rw [List.filter_cons, ih]
        by_cases hg : g.1 = name
        · have hne : h.1 ≠ name := fun hh => by
            rw [hg, hh] at hlt
            exact absurd hlt (String.lt_irrefl _)
          simp [hg, hne]
        · simp [hg, List.filter_cons]
      · rfl
  induction groups with
  | nil => rfl
  | cons g rest ih =>
    rw [show sortGroups (g :: rest) = insertGroup g (sortGroups rest) from rfl, insert_filter,
      List.filter_cons, List.filter_cons, ih]

end

end TokenPattern
