import TokenPattern.Proofs.Match.Occurrences

/-!
# Rounds

Going round the ring several times reads several words, with the boundaries of the group in front of
each (`rounds`).  The groups that a match has then on its top level are the places where these words
stand one after the other, `cuts` (`tally_rounds`).
-/

namespace TokenPattern

universe u

/-- Where the pieces of a sequence stand, the first one at `position`, and how long they are. -/
def cuts {τ : Type u} : Nat → List (List τ) → List (Nat × Nat)
  | _, [] => []
  | position, p :: ps => (position, p.length) :: cuts (position + p.length) ps

/-- The places depend on the lengths only. -/
lemma cuts_eq_of_forall₂ {τ : Type u} {υ : Type*} {r : List τ → List υ → Prop}
    (hr : ∀ {p q}, r p q → p.length = q.length) {ps : List (List τ)} {qs : List (List υ)}
    (h : List.Forall₂ r ps qs) (position : Nat) : cuts position ps = cuts position qs := by
  induction h generalizing position with
  | nil => rfl
  | cons hpq _ ih => rw [cuts, cuts, hr hpq, ih]

section

variable {α : Type u} {n : String}

/-- A word of leaves with boundaries in front of it. -/
def round (markers : List Marker) : List α → List (List Marker × α)
  | [] => []
  | l :: z => (markers, l) :: z.map fun l => ([], l)

/-- Words of leaves one after the other: boundaries in front of the first, and in front of each of
the others those that close a group and open it again. -/
def roundsFrom (n : String) : List Marker → List (List α) → List (List Marker × α)
  | _, [] => []
  | markers, z :: zs => round markers z ++ roundsFrom n [.stop n, .start n] zs

/-- Several rounds. -/
def rounds (n : String) (zs : List (List α)) : List (List Marker × α) := roundsFrom n [.start n] zs

lemma spell_round {markers : List Marker} {z : List α} (hz : z ≠ []) :
    spell (round markers z) = markers.map .inl ++ z.map .inr := by
  cases z with
  | nil => exact absurd rfl hz
  | cons l z => rw [round, spell_cons, spell_bare, List.map_cons]

lemma map_snd_round (markers : List Marker) (z : List α) :
    (round markers z).map Prod.snd = z := by
  cases z with
  | nil => rfl
  | cons l z => simp [round]

lemma map_snd_roundsFrom (markers : List Marker) (zs : List (List α)) :
    (roundsFrom n markers zs).map Prod.snd = zs.flatten := by
  induction zs generalizing markers with
  | nil => rfl
  | cons z zs ih => rw [roundsFrom, List.map_append, ih, map_snd_round, List.flatten_cons]

/-- The words of rounds, with the boundaries at the end of each round but the last instead of in
front of the next. -/
lemma spell_roundsFrom {markers : List Marker} {zs : List (List α)} {z : List α}
    (hzs : ∀ y ∈ zs, y ≠ []) (hz : z ≠ []) :
    spell (roundsFrom n markers (zs ++ [z])) =
      markers.map .inl ++
        (zs.map fun y => y.map Sum.inr ++ [.inl (.stop n), .inl (.start n)]).flatten ++
          z.map .inr := by
  induction zs generalizing markers with
  | nil =>
      show spell (round markers z ++ []) = _
      rw [List.append_nil, spell_round hz]
      simp
  | cons y zs ih =>
      obtain ⟨hy, hzs⟩ := List.forall_mem_cons.mp hzs
      rw [List.cons_append, roundsFrom, spell_append, spell_round hy, ih hzs]
      simp

/-! ## What rounds report -/

namespace Tally

lemma items_append (position : Nat) (k : Tally) (a b : List (List Marker)) :
    items position k (a ++ b) = items (position + a.length) (items position k a) b := by
  induction a generalizing position k with
  | nil => rfl
  | cons m a ih =>
      rw [List.cons_append, items, ih, items, List.length_cons]
      congr 1
      omega

/-- Items without boundaries change nothing. -/
lemma items_bare (position : Nat) (k : Tally) (z : List α) :
    items position k (z.map fun _ => []) = k := by
  induction z generalizing position with
  | nil => rfl
  | cons l z ih => exact ih (position + 1)

lemma items_round (position : Nat) (k : Tally) {markers : List Marker} {z : List α} (hz : z ≠ []) :
    items position k ((round markers z).map Prod.fst) = markers.foldl (boundary position) k := by
  cases z with
  | nil => exact absurd rfl hz
  | cons l z =>
      rw [round, List.map_cons, List.map_map]
      exact items_bare (position + 1) _ z

lemma length_round (markers : List Marker) (z : List α) :
    ((round markers z).map Prod.fst).length = z.length := by
  have h := congrArg List.length (map_snd_round markers z)
  rwa [List.length_map] at h ⊢

/-- With a group open since item `first`, rounds from item `position` on close this group and add
one each. -/
lemma finish_roundsFrom {zs : List (List α)} (hzs : ∀ z ∈ zs, z ≠ []) (closed : List (Nat × Nat))
    (first position : Nat) :
    (items position ⟨closed, some first⟩
        ((roundsFrom n [.stop n, .start n] zs).map Prod.fst)).finish
          (position + ((roundsFrom n [.stop n, .start n] zs).map Prod.fst).length) =
      closed.reverse ++ (first, position - first) :: cuts position zs := by
  induction zs generalizing closed first position with
  | nil => simp [roundsFrom, items, finish, cuts]
  | cons z zs ih =>
      obtain ⟨hz, hzs⟩ := List.forall_mem_cons.mp hzs
      have hboundary : [Marker.stop n, .start n].foldl (boundary position)
          ⟨closed, some first⟩ = ⟨(first, position - first) :: closed, some position⟩ := rfl
      rw [roundsFrom, List.map_append, items_append, items_round position _ hz, hboundary,
        List.length_append, length_round, ← Nat.add_assoc, ih hzs]
      simp [cuts]

end Tally

/-- **Rounds report where their words stand.** -/
theorem tally_rounds {zs : List (List α)} (hne : zs ≠ []) (hzs : ∀ z ∈ zs, z ≠ []) :
    tally ((rounds n zs).map Prod.fst) = cuts 0 zs := by
  cases zs with
  | nil => exact absurd rfl hne
  | cons z zs =>
      obtain ⟨hz, hzs⟩ := List.forall_mem_cons.mp hzs
      have h := Tally.finish_roundsFrom (n := n) hzs [] 0 z.length
      have hboundary : [Marker.start n].foldl (Tally.boundary 0) .initial = ⟨[], some 0⟩ := rfl
      rw [tally, rounds, roundsFrom, List.map_append, Tally.items_append,
        Tally.items_round 0 _ hz, hboundary, List.length_append, Tally.length_round, Nat.zero_add, h]
      simp [cuts]

end

end TokenPattern
