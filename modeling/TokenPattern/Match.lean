import TokenPattern.Frontier

/-!
# Matches and their groups

The trail of an accepting path is a flat list of outputs with the group boundaries crossed before
each of them.  `reconstruct` makes a tree of groups of it, a `Match`, in two passes.

**Forwards.**  The boundaries are replayed with a stack of open groups.  Every group gets a place in
an arena when it opens, and is entered among the children of the group that is innermost then.  An
output is added to the whole match and to every open group, so that a group holds the outputs up to
the item whose markers close it, or up to the end of the trail.

**Backwards.**  A group stands behind the one in which it opened, so that the groups are finished
from the last to the first: each takes over the matches of its children, which are finished already.
The groups of a match are kept sorted by name, those of one name in the order in which they opened.
-/

namespace TokenPattern

/-- A match or a group in it: where it starts, what it holds, and the groups directly inside. -/
inductive Match (T : Type) where
  | mk (start : Nat) (trail : T) (groups : List (String × Match T))

namespace Match

variable {T U : Type}

/-! ## Parts of a match -/

/-- The index of the first token. -/
def start : Match T → Nat
  | mk start _ _ => start

/-- What the match holds. -/
def trail : Match T → T
  | mk _ trail _ => trail

/-- The groups directly inside, sorted by name. -/
def groups : Match T → List (String × Match T)
  | mk _ _ groups => groups

/-- The names of the groups directly inside, each once. -/
def groupNames (m : Match T) : List String := (m.groups.map Prod.fst).eraseDups

/-- The groups of one name directly inside, in the order in which they opened. -/
def group (m : Match T) (name : String) : List (Match T) :=
  m.groups.filterMap fun (n, g) => if n = name then some g else none

/-- The first group of a name. -/
def get? (m : Match T) (name : String) : Option (Match T) := (m.group name).head?

/-- A name that no group directly inside has. -/
structure MissingGroup where
  name : String
deriving DecidableEq

/-- The wording for a missing group. -/
def MissingGroup.message (e : MissingGroup) : String :=
  "no capture group named \"" ++ e.name ++ "\" in this match"

/-- The first group of a name, which must be there. -/
def get (m : Match T) (name : String) : Except MissingGroup (Match T) :=
  match m.get? name with
  | some g => .ok g
  | none => .error ⟨name⟩

/-- The group found by following names inwards. -/
def descend (m : Match T) (names : List String) : Except MissingGroup (Match T) :=
  names.foldlM get m

mutual

/-- The match with every trail in it replaced. -/
def mapTrail (f : T → U) : Match T → Match U
  | mk start trail groups => mk start (f trail) (mapGroups f groups)

/-- `mapTrail` on every group. -/
def mapGroups (f : T → U) : List (String × Match T) → List (String × Match U)
  | [] => []
  | (name, m) :: rest => (name, mapTrail f m) :: mapGroups f rest

end

/-- The first group of a name in the first match. -/
def firstGroup? (found : List (Match T)) (name : String) : Option (Match T) :=
  found.head?.bind (·.get? name)

/-- `mapGroups` replaces the matches one by one. -/
theorem mapGroups_eq_map (f : T → U) (groups : List (String × Match T)) :
    mapGroups f groups = groups.map fun g => (g.1, g.2.mapTrail f) := by
  induction groups with
  | nil => rfl
  | cons g rest ih =>
    obtain ⟨name, m⟩ := g
    simp only [mapGroups, List.map_cons, ih]

end Match

/-! ## Joined trails -/

/-- Outputs whose lists can be written as one value. -/
class Joins (ο : Type) (T : outParam Type) where
  join : List ο → T

instance : Joins Char String := ⟨String.ofList⟩

instance : Joins String String := ⟨String.join⟩

instance : Joins UInt8 (List UInt8) := ⟨id⟩

/-- A match with joined trails. -/
def Match.joined {ο T : Type} [Joins ο T] (m : Match (List ο)) : Match T := m.mapTrail Joins.join

/-! ## The arena -/

section

variable {ο : Type}

/-- A group in the arena: where it starts, the outputs it holds so far, and its children, by their
names and places in the order in which they opened. -/
structure Arena.Group (ο : Type) where
  start : Nat
  trail : Array ο
  children : Array (String × Nat)

/-- The groups that have opened so far, behind the whole match at place 0, and the stack of those
that are open, innermost first, by their names and places. -/
structure Arena (ο : Type) where
  groups : Array (Arena.Group ο)
  stack : List (String × Nat)

namespace Arena

namespace Group

/-- A group that opens. -/
def opening (start : Nat) : Group ο := ⟨start, #[], #[]⟩

/-- The group with one more output. -/
def collect (output : ο) (g : Group ο) : Group ο := { g with trail := g.trail.push output }

/-- The group with one more child. -/
def adopt (child : String × Nat) (g : Group ο) : Group ο :=
  { g with children := g.children.push child }

end Group

/-- Nothing read. -/
def initial : Arena ο := ⟨#[.opening 0], []⟩

/-- The place of the innermost open group, or that of the whole match. -/
def innermost (a : Arena ο) : Nat := (a.stack.head?.map Prod.snd).getD 0

/-- Replays one boundary in front of item `position`. -/
def boundary (position : Nat) (a : Arena ο) : Marker → Except MatchError (Arena ο)
  | .start name =>
    let child := (name, a.groups.size)
    .ok ⟨(a.groups.push (.opening position)).modify a.innermost (.adopt child), child :: a.stack⟩
  | .stop name =>
    match a.stack with
    | [] => .error (.malformedGraph none name position)
    | (n, _) :: rest =>
      if n = name then .ok { a with stack := rest }
      else .error (.malformedGraph (some n) name position)

/-- Adds an output to the whole match and to all open groups, outermost first. -/
def collect (a : Arena ο) (output : ο) : Arena ο :=
  { a with
    groups := a.stack.foldr (fun g groups => groups.modify g.2 (.collect output))
      (a.groups.modify 0 (.collect output)) }

/-- Replays the items that are left, the first of which is item `position`. -/
def items : Nat → Arena ο → List (TrailItem ο) → Except MatchError (Arena ο)
  | _, a, [] => .ok a
  | position, a, item :: rest => do
    let a ← item.markers.foldlM (boundary position) a
    items (position + 1) (a.collect item.output) rest

/-! ## Folding the arena into a tree -/

/-- Adds a group behind all groups whose names are not larger. -/
def pushGroup {T : Type} (g : String × Match T) : List (String × Match T) → List (String × Match T)
  | [] => [g]
  | h :: rest => if g.1 < h.1 then g :: h :: rest else h :: pushGroup g rest

/-- The finished matches, at the places of their groups; the slot of a group is empty until the group
is finished, and again when its parent has taken the match over. -/
abbrev Slots (ο : Type) := Array (Option (Match (List ο)))

/-- Takes the match of a child from its slot. -/
def claim (taken : List (String × Match (List ο)) × Slots ο) (child : String × Nat) :
    List (String × Match (List ο)) × Slots ο :=
  match taken.2[child.2]?.join with
  | some m => (pushGroup (child.1, m) taken.1, taken.2.setIfInBounds child.2 none)
  | none => taken

/-- Finishes a group whose children are finished. -/
def finish (g : Group ο) (place : Nat) (slots : Slots ο) : Slots ο :=
  let (groups, slots) := g.children.foldl claim ([], slots)
  slots.setIfInBounds place (some (.mk g.start g.trail.toList groups))

/-- The match of the whole trail. -/
def assemble (groups : Array (Group ο)) : Match (List ο) :=
  let slots := groups.zipIdx.foldr (fun g slots => finish g.1 g.2 slots)
    (Array.replicate groups.size none)
  slots[0]?.join.getD (.mk 0 [] [])

end Arena

/-- The tree of groups of a trail. -/
def reconstruct (trail : List (TrailItem ο)) : Except MatchError (Match (List ο)) :=
  (Arena.items 0 Arena.initial trail).map fun a => Arena.assemble a.groups

end

end TokenPattern
