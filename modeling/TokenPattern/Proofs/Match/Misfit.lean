import TokenPattern.Proofs.Match.Reconstruction

/-!
# Where a replay fails

A trail has no match if a boundary closes a group that is not the innermost open one.  Groups that
are left open do not matter, since they are closed at the end of the trail.

Up to the first such boundary all others fit, so a replay comes that far and knows which groups are
open (`foldlM_boundary`).  There it ends with an error that says what it has found
(`boundary_misfit`).  `reconstruct_fails_iff` puts this together for whole trails.
-/

namespace TokenPattern

open Brackets

namespace Replay

variable {ο : Type} (outputs : List ο) {bs : Boundaries} {k i : ℕ} {n : String}

/-- A replay fails at the first boundary that does not fit. -/
lemma foldlM_boundary_misfit (hb : bs[k]? = some (i, .stop n)) (hne : innermost? bs k ≠ some n)
    (hfirst : ∀ j < k, ¬ Misfit bs j) :
    bs.foldlM (fun r b => boundary outputs b.1 r b.2) initial =
      .error (.malformedGraph (innermost? bs k) n i) := by
  obtain ⟨hk, hget⟩ := List.getElem?_eq_some_iff.1 hb
  have hsplit : bs = bs.take k ++ (i, .stop n) :: bs.drop (k + 1) := by
    rw [← hget, ← List.drop_eq_getElem_cons hk, List.take_append_drop]
  have hbefore := foldlM_boundary outputs hfirst (Nat.le_of_lt hk)
  conv_lhs => rw [hsplit]
  rw [List.foldlM_append, hbefore]
  show List.foldlM _ _ _ = _
  rw [List.foldlM_cons, boundary_misfit outputs hne]
  rfl

end Replay

variable {ο : Type}

/-- If a boundary does not fit, then one is the first. -/
lemma exists_first_misfit {bs : Boundaries} (h : ∃ k, Misfit bs k) :
    ∃ k, Misfit bs k ∧ ∀ j < k, ¬ Misfit bs j := by
  classical
  exact ⟨Nat.find h, Nat.find_spec h, fun _ hj => Nat.find_min h hj⟩

/-- **A trail has no match exactly if a boundary in it does not fit.**  The error is that of the first
such boundary: it names the group that the boundary closes, the innermost group that is open there, if
there is one, and the item in front of which the boundary stands. -/
theorem reconstruct_fails_iff (trail : List (TrailItem ο)) :
    ((∃ x, reconstruct trail = .error x) ↔ ∃ k, Misfit (boundaries trail) k) ∧
      ∀ k i n, (boundaries trail)[k]? = some (i, .stop n) →
        innermost? (boundaries trail) k ≠ some n → (∀ j < k, ¬ Misfit (boundaries trail) j) →
          reconstruct trail = .error (.malformedGraph (innermost? (boundaries trail) k) n i) := by
  have hreport : ∀ k i n, (boundaries trail)[k]? = some (i, .stop n) →
      innermost? (boundaries trail) k ≠ some n → (∀ j < k, ¬ Misfit (boundaries trail) j) →
        reconstruct trail = .error (.malformedGraph (innermost? (boundaries trail) k) n i) := by
    intro k i n hb hne hfirst
    rw [reconstruct_eq_foldlM, Replay.foldlM_boundary_misfit _ hb hne hfirst]
    rfl
  refine ⟨⟨?_, fun h => ?_⟩, hreport⟩
  · rintro ⟨x, hx⟩
    by_contra hfits
    have hnested : WellNested (boundaries trail) := wellNested_iff.2 fun k hk => hfits ⟨k, hk⟩
    rw [reconstruct_eq_node hnested] at hx
    cases hx
  · obtain ⟨k, ⟨i, n, hb, hne⟩, hfirst⟩ := exists_first_misfit h
    exact ⟨_, hreport k i n hb hne hfirst⟩

/-- Of two boundaries that do not fit the first is reported: in front of the second item, "x" is closed
although "y" is open in it. -/
theorem reconstruct_fails_crossed :
    let trail : List (TrailItem Char) := [⟨.initial, [.start "x"], 'a'⟩,
      ⟨.initial, [.start "y", .stop "x"], 'b'⟩, ⟨.initial, [.stop "z"], 'c'⟩]
    (boundaries trail)[2]? = some (1, .stop "x") ∧
      innermost? (boundaries trail) 2 = some "y" ∧
      (∀ j < 2, ¬ Misfit (boundaries trail) j) ∧ Misfit (boundaries trail) 3 ∧
      reconstruct trail = .error (.malformedGraph (some "y") "x" 1) := by
  intro trail
  have hfirst : ∀ j < 2, ¬ Misfit (boundaries trail) j := by
    rintro j hj ⟨i, n, hb, _⟩
    interval_cases j <;> cases hb
  refine ⟨rfl, by decide, hfirst, ⟨2, "z", rfl, by decide⟩, ?_⟩
  exact (reconstruct_fails_iff trail).2 2 1 "x" rfl (by decide) hfirst

end TokenPattern
