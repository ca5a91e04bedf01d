import Mathlib.Data.List.Forall2
import Mathlib.Tactic.SplitIfs
import TokenPattern.Proofs.Match.Replay

/-!
# The boundaries behind the last item

A trail has no item for the edge on which a run stops, so the boundaries on this edge are not
replayed.  The groups that are open then are closed at the end of the trail instead (`closeAll`).

`part_finish` compares the match with the one that replaying these boundaries would give.  Closing a
group there makes no difference.  Opening one does: it adds an empty group, and this group stands in
another one if one is open.  Every group of the match is there in both, with the same outputs.

`Match.groupsAt` are the groups of a match by the names that lead to them, of which
`Match.descend` takes the first.
-/

namespace TokenPattern

/-! ## Groups by names -/

namespace Match

variable {T : Type}

/-- The groups found by following names inwards. -/
def groupsAt (m : Match T) : List String → List (Match T)
  | [] => [m]
  | n :: names => (m.group n).flatMap fun g => g.groupsAt names

variable {m m' : Match T}

lemma mem_group_iff {n : String} {g : Match T} : g ∈ m.group n ↔ (n, g) ∈ m.groups := by
  simp only [group, List.mem_filterMap, Option.ite_none_right_eq_some, Option.some.injEq,
    Prod.exists]
  constructor
  · rintro ⟨_, _, h, rfl, rfl⟩
    exact h
  · intro h
    exact ⟨n, g, h, rfl, rfl⟩

lemma mem_groupsAt_cons_iff {n : String} {names : List String} {g : Match T} :
    g ∈ m.groupsAt (n :: names) ↔ ∃ g', (n, g') ∈ m.groups ∧ g ∈ g'.groupsAt names := by
  simp only [groupsAt, List.mem_flatMap, mem_group_iff]

/-- The group that `descend` finds is one of them. -/
theorem mem_groupsAt_of_descend {names : List String} {g : Match T}
    (h : m.descend names = .ok g) : g ∈ m.groupsAt names := by
  induction names generalizing m with
  | nil =>
      obtain rfl := Except.ok.inj h
      exact List.mem_singleton_self m
  | cons n names ih =>
      rw [descend, List.foldlM_cons] at h
      cases hget : m.get? n with
      | none => simp [get, hget, bind, Except.bind] at h
      | some g' =>
          simp only [get, hget, bind, Except.bind] at h
          have hmem : g' ∈ m.group n := List.mem_of_head? hget
          exact List.mem_flatMap.mpr ⟨g', hmem, ih h⟩

/-! ## Parts -/

/-- Whether all groups of a match are also groups of another, under the same names and with the same
outputs. -/
def Part (m m' : Match T) : Prop :=
  ∀ names, ∀ g ∈ m.groupsAt names,
    ∃ g' ∈ m'.groupsAt names, g'.start = g.start ∧ g'.trail = g.trail

/-- The same of the groups of two lists. -/
def Parts (groups groups' : List (String × Match T)) : Prop :=
  ∀ n g, (n, g) ∈ groups → ∃ g', (n, g') ∈ groups' ∧ g.Part g'

lemma Part.refl (m : Match T) : m.Part m := fun _ g hg => ⟨g, hg, rfl, rfl⟩

lemma Part.trans {m'' : Match T} (h : m.Part m') (h' : m'.Part m'') : m.Part m'' := by
  intro names g hg
  obtain ⟨g', hg', hstart, htrail⟩ := h names g hg
  obtain ⟨g'', hg'', hstart', htrail'⟩ := h' names g' hg'
  exact ⟨g'', hg'', hstart'.trans hstart, htrail'.trans htrail⟩

lemma Part.intro (hstart : m'.start = m.start) (htrail : m'.trail = m.trail)
    (h : Parts m.groups m'.groups) : m.Part m' := by
  rintro (_ | ⟨n, names⟩) g hg
  · obtain rfl := List.mem_singleton.mp hg
    exact ⟨m', List.mem_singleton_self m', hstart, htrail⟩
  · obtain ⟨h', hmem, hg⟩ := mem_groupsAt_cons_iff.mp hg
    obtain ⟨h'', hmem', hpart⟩ := h n h' hmem
    obtain ⟨g', hg', heq⟩ := hpart names g hg
    exact ⟨g', mem_groupsAt_cons_iff.mpr ⟨h'', hmem', hg'⟩, heq⟩

variable {groups groups' : List (String × Match T)}

lemma Parts.of_subset (h : groups ⊆ groups') : Parts groups groups' :=
  fun _ g hg => ⟨g, h hg, Part.refl g⟩

lemma Parts.cons (h : Parts groups groups') (n : String) (hm : m.Part m') :
    Parts ((n, m) :: groups) ((n, m') :: groups') := by
  intro n' g hg
  rcases List.mem_cons.mp hg with heq | hg
  · obtain ⟨rfl, rfl⟩ := Prod.mk.inj heq
    exact ⟨m', List.mem_cons_self, hm⟩
  · obtain ⟨g', hg', hpart⟩ := h n' g hg
    exact ⟨g', List.mem_cons_of_mem _ hg', hpart⟩

/-- The order of the groups does not matter. -/
lemma Parts.sortGroups_reverse (h : Parts groups groups') :
    Parts (sortGroups groups.reverse) (sortGroups groups'.reverse) := by
  intro n g hg
  have hmem : (n, g) ∈ groups := List.mem_reverse.mp ((sortGroups_perm _).mem_iff.mp hg)
  obtain ⟨g', hg', hpart⟩ := h n g hmem
  exact ⟨g', (sortGroups_perm _).mem_iff.mpr (List.mem_reverse.mpr hg'), hpart⟩

end Match

/-! ## Closing all groups -/

section

variable {ο : Type} {outputs : List ο}

/-- Whether an open group is part of another: they have the same name and start, and the groups in
the first are parts of those in the second. -/
structure OpenGroup.Part (g g' : OpenGroup ο) : Prop where
  name : g'.name = g.name
  start : g'.start = g.start
  inside : Match.Parts g.inside g'.inside

namespace Replay

open Match (Parts)

lemma part_closed {g g' : OpenGroup ο} (h : g.Part g') (position : Nat) :
    (closed outputs position g).Part (closed outputs position g') := by
  refine Match.Part.intro h.start ?_ h.inside.sortGroups_reverse
  show slice outputs g'.start position = slice outputs g.start position
  rw [h.start]

/-- More groups before closing are more groups afterwards. -/
lemma parts_closeAll {top top' : List (String × Match (List ο))}
    {opened opened' : List (OpenGroup ο)} (htop : Parts top top')
    (h : List.Forall₂ OpenGroup.Part opened opened') :
    Parts (closeAll outputs top opened) (closeAll outputs top' opened') := by
  fun_induction closeAll outputs top opened generalizing opened' with
  | case1 =>
      obtain rfl := List.forall₂_nil_left_iff.mp h
      rwa [closeAll]
  | case2 g =>
      obtain ⟨g', _, hg, hnil, rfl⟩ := List.forall₂_cons_left_iff.mp h
      obtain rfl := List.forall₂_nil_left_iff.mp hnil
      rw [closeAll, hg.name]
      exact htop.cons g.name (part_closed hg _)
  | case3 g h' rest ih =>
      obtain ⟨g', _, hg, hrest, rfl⟩ := List.forall₂_cons_left_iff.mp h
      obtain ⟨h'', rest', hh, hrest', rfl⟩ := List.forall₂_cons_left_iff.mp hrest
      rw [closeAll, hg.name]
      have hclosed : (closed outputs outputs.length g).Part (closed outputs outputs.length g') :=
        part_closed hg outputs.length
      exact ih (.cons ⟨hh.name, hh.start, hh.inside.cons g.name hclosed⟩ hrest')

/-- Closing the innermost group first. -/
lemma closeAll_cons (top : List (String × Match (List ο))) (g : OpenGroup ο)
    (rest : List (OpenGroup ο)) :
    closeAll outputs top (g :: rest) =
      closeAll outputs ((⟨top, rest⟩ : Replay ο).add g.name (closed outputs outputs.length g)).top
        ((⟨top, rest⟩ : Replay ο).add g.name (closed outputs outputs.length g)).opened := by
  cases rest with
  | nil => simp only [closeAll, add]
  | cons h rest => simp only [closeAll, add]

lemma forall₂_part_refl (opened : List (OpenGroup ο)) :
    List.Forall₂ OpenGroup.Part opened opened :=
  List.forall₂_same.mpr fun _ _ => ⟨rfl, rfl, Parts.of_subset (List.Subset.refl _)⟩

/-- One group more. -/
lemma part_finish_add (r : Replay ο) (n : String) (m : Match (List ο)) :
    (finish outputs r).Part (finish outputs (r.add n m)) := by
  refine Match.Part.intro rfl rfl (Parts.sortGroups_reverse ?_)
  rw [add]
  cases hr : r.opened with
  | nil =>
      exact parts_closeAll (Parts.of_subset (List.subset_cons_self _ _)) .nil
  | cons g rest =>
      refine parts_closeAll (Parts.of_subset (List.Subset.refl _))
        (.cons ⟨rfl, rfl, ?_⟩ (forall₂_part_refl rest))
      exact Parts.of_subset (List.subset_cons_self _ _)

/-- A boundary at the end of a trail takes no group away. -/
lemma part_finish_boundary {r r' : Replay ο} {m : Marker}
    (h : boundary outputs outputs.length r m = .ok r') :
    (finish outputs r).Part (finish outputs r') := by
  cases m with
  | start n =>
      obtain rfl := Except.ok.inj h
      have heq : finish outputs { r with opened := ⟨n, outputs.length, []⟩ :: r.opened } =
          finish outputs (r.add n (closed outputs outputs.length ⟨n, outputs.length, []⟩)) := by
        rw [finish, closeAll_cons, finish]
      rw [heq]
      exact part_finish_add r n _
  | stop n =>
      cases hr : r.opened with
      | nil => simp [boundary, hr] at h
      | cons g rest =>
          simp only [boundary, hr] at h
          split_ifs at h with hn
          obtain rfl := Except.ok.inj h
          have heq : finish outputs r =
              finish outputs (({ r with opened := rest } : Replay ο).add n
                (closed outputs outputs.length g)) := by
            rw [finish, hr, closeAll_cons, hn, finish]
          rw [heq]
          exact Match.Part.refl _

/-- **The boundaries behind the last item take no group away.** -/
theorem part_finish {a : List Marker} {r r' : Replay ο}
    (h : a.foldlM (boundary outputs outputs.length) r = .ok r') :
    (finish outputs r).Part (finish outputs r') := by
  induction a generalizing r with
  | nil =>
      obtain rfl := Except.ok.inj h
      exact Match.Part.refl _
  | cons m a ih =>
      rw [List.foldlM_cons] at h
      cases hm : boundary outputs outputs.length r m with
      | error x => simp [hm, bind, Except.bind] at h
      | ok r₁ =>
          rw [hm] at h
          exact (part_finish_boundary hm).trans (ih h)

end Replay

end

end TokenPattern
