import Mathlib.Tactic.IntervalCases
import TokenPattern.Proofs.Match.Arena

/-!
# The match of a trail is the tree of its boundaries

* `reconstruct_eq_node` — the match of a trail whose boundaries are well nested is the node of the
  whole trail.
* `exists_reconstruct_mirrors` — what this says of the occurrences in a match (`Mirrors`).
-/

namespace TokenPattern

open Brackets

/-- Rebuilding a match replays all boundaries of its trail and closes what is left open. -/
lemma reconstruct_eq_foldlM {ο : Type} (trail : List (TrailItem ο)) :
    reconstruct trail =
      ((boundaries trail).foldlM
        (fun r b => Replay.boundary (trail.map TrailItem.output) b.1 r b.2) Replay.initial).map
          (Replay.finish (trail.map TrailItem.output)) := by
  rw [reconstruct_eq_replay, replay, Replay.items_eq_foldlM]
  rfl

/-- The match of a trail is the node of the whole trail. -/
theorem reconstruct_eq_node {ο : Type} {trail : List (TrailItem ο)}
    (h : WellNested (boundaries trail)) :
    reconstruct trail =
      .ok (node (boundaries trail) (trail.map TrailItem.output) none) := by
  have hrun := Replay.foldlM_boundary (trail.map TrailItem.output)
    (fun k _ => wellNested_iff.1 h k) (Nat.le_refl _)
  rw [List.take_length] at hrun
  rw [reconstruct_eq_foldlM, hrun]
  exact congrArg Except.ok (Replay.finish_after _)

/-! ## What a match shows of its boundaries -/

/-- How a match mirrors boundaries: `address` and `occurrence` give the place and the match of every
group, known by the number of the boundary that opens it, and of the whole trail. -/
structure Mirrors {ο : Type} (bs : Boundaries) (outputs : List ο) (m : Match (List ο))
    (address : Option ℕ → List (String × ℕ)) (occurrence : Option ℕ → Match (List ο)) : Prop where
  /-- The whole trail starts at its first item and holds all outputs. -/
  whole : address none = [] ∧ occurrence none = m ∧ m.start = 0 ∧ m.trail = outputs
  /-- Every group stands at its own place, and nothing else stands in the match. -/
  bijOn : Set.BijOn (fun s => address (some s)) {s | ∃ n, name? bs s = some n}
    {a | a ≠ [] ∧ ∃ g, m.occurrence? a = some g}
  found : ∀ s n, name? bs s = some n →
    m.occurrence? (address (some s)) = some (occurrence (some s))
  start : ∀ s i n, bs[s]? = some (i, .start n) → (occurrence (some s)).start = i
  /-- A group holds the outputs up to the item in front of which it is closed. -/
  closed : ∀ s i n k j n', bs[s]? = some (i, .start n) → bs[k]? = some (j, .stop n') →
    parent? bs k = some s → (occurrence (some s)).trail = slice outputs i j
  /-- A group that is not closed holds the outputs up to the end. -/
  unclosed : ∀ s i n, bs[s]? = some (i, .start n) → (∀ k, ¬ Closes bs s k) →
    (occurrence (some s)).trail = slice outputs i outputs.length
  /-- The parent is the group that was innermost when the group opened. -/
  parent : ∀ s n, name? bs s = some n →
    ∃ j, address (some s) = address (parent? bs s) ++ [(n, j)]
  /-- The groups of one name are those that open directly in a group, in this order. -/
  group : ∀ p n, (occurrence p).group n = (named bs p n).map fun s => occurrence (some s)
  /-- Groups lie within their parents. -/
  within : ∀ s n, name? bs s = some n →
    (occurrence (parent? bs s)).start ≤ (occurrence (some s)).start ∧
      (occurrence (some s)).start + (occurrence (some s)).trail.length ≤
        (occurrence (parent? bs s)).start + (occurrence (parent? bs s)).trail.length
  /-- Groups with the same parent do not overlap. -/
  apart : ∀ s c n n', name? bs s = some n → name? bs c = some n' → s < c →
    parent? bs s = parent? bs c →
      (occurrence (some s)).start + (occurrence (some s)).trail.length ≤
        (occurrence (some c)).start

section

variable {ο : Type} {bs : Boundaries} {outputs : List ο} {s : ℕ} {n : String}

/-- A group and its outputs end together. -/
lemma start_add_length_node (h : Ordered bs outputs.length) (hname : name? bs s = some n) :
    (node bs outputs (some s)).start + (node bs outputs (some s)).trail.length =
      ending bs outputs.length s := by
  have hlength : (node bs outputs (some s)).trail.length =
      ending bs outputs.length s - place bs s := by
    rw [trail_node]
    exact length_slice (h.ending_le_last s) _
  rw [start_node, hlength]
  exact Nat.add_sub_cancel' (h.place_le_ending hname)

lemma mirrors_node (h : Ordered bs outputs.length) :
    Mirrors bs outputs (node bs outputs none) (address bs) (node bs outputs) where
  whole := by
    refine ⟨address_eq_nil_iff.2 rfl, rfl, start_node outputs none, ?_⟩
    rw [trail_node]
    simp [first, last, slice]
  bijOn := bijOn_address bs outputs
  found s n hname := by
    refine occurrence?_address outputs ?_
    rintro _ ⟨⟩
    exact ⟨n, hname⟩
  start s i n hs := by
    rw [start_node]
    exact place_eq hs
  closed s i n k j n' hs hk hparent := by
    have hcloses : Closes bs s k := ⟨⟨j, n', hk⟩, hparent⟩
    rw [trail_node, ← place_eq hs, ← place_eq hk, ← ending_of_closes hcloses outputs.length]
    rfl
  unclosed s i n hs hno := by
    have hlast : last bs outputs.length (some s) = outputs.length :=
      ending_of_not_closes hno outputs.length
    rw [trail_node, hlast, ← place_eq hs]
    rfl
  parent s n hname := ⟨_, address_some hname⟩
  group := group_node outputs
  within s n hname := by
    rw [start_add_length_node h hname]
    cases hp : parent? bs s with
    | none =>
        have hall : (node bs outputs none).trail.length = outputs.length := by
          rw [trail_node]
          simp [first, last, slice]
        rw [start_node, hall]
        exact ⟨Nat.zero_le _, by simpa [first] using h.ending_le_last s⟩
    | some q =>
        obtain ⟨n', hn'⟩ := exists_name_of_parent? s hp
        rw [start_add_length_node h hn', start_node, start_node]
        refine ⟨h.place_le_place (Nat.le_of_lt (lt_of_parent? hp)) (lt_length_of_name? hname), ?_⟩
        exact h.ending_le_of_parent hname hp
  apart s c n n' hs hc hlt hparent := by
    rw [start_add_length_node h hs, start_node]
    exact h.ending_le_of_sibling hs hlt (lt_length_of_name? hc) hparent.symm

end

/-- **A trail whose boundaries are well nested has a match, and the match mirrors them.** -/
theorem exists_reconstruct_mirrors {ο : Type} (trail : List (TrailItem ο))
    (h : WellNested (boundaries trail)) :
    ∃ m, reconstruct trail = .ok m ∧ ∃ address occurrence,
      Mirrors (boundaries trail) (trail.map TrailItem.output) m address occurrence :=
  ⟨_, reconstruct_eq_node h, _, _, mirrors_node (ordered_boundaries trail)⟩

/-- A group that is closed inside one that stays open. -/
theorem exists_reconstruct_mirrors_nested :
    ∃ m, reconstruct [⟨.initial, [.start "x", .start "y"], 'a'⟩, ⟨.initial, [.stop "y"], 'b'⟩] =
        .ok m ∧ ∃ address occurrence,
      Mirrors [(0, .start "x"), (0, .start "y"), (1, .stop "y")] ['a', 'b'] m address
        occurrence := by
  refine exists_reconstruct_mirrors
    [⟨.initial, [.start "x", .start "y"], 'a'⟩, ⟨.initial, [.stop "y"], 'b'⟩] ?_
  intro k i n hk
  have hlt : k < 3 := (List.getElem?_eq_some_iff.1 hk).1
  interval_cases k
  · cases hk
  · cases hk
  · cases hk
    exact ⟨1, rfl, rfl⟩

end TokenPattern
