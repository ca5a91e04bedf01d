import TokenPattern.Proofs.Repetition.Paint
import TokenPattern.Proofs.Repetition.Ring
import TokenPattern.Proofs.Repetition.Rounds

/-!
# Rings around what reads

Options, repetitions and captures have one operand.  When they are taken off a pattern, the ring
remains a ring: it can be passed by once more, and after a repetition the operand follows itself also
within a round.  What remains is the core of the pattern (`Expr.core`).

**When the core reads.**  If the core is not nullable, no rewrite behind it loses a word, and the
words of the ring are those of rounds, each of which is a word of the pattern and not empty
(`Net.walk_ring_iff`).  The empty words of the pattern come from what has been taken off, and taking
it off leaves no empty round behind.
-/

namespace TokenPattern

open scoped Computability

universe u v

/-- Repeating a choice is repeating one side between repetitions of the other. -/
lemma kstar_add {K : Type*} [KleeneAlgebra K] (a b : K) : (a + b)∗ = (b∗ * a)∗ * b∗ := by
  refine le_antisymm ?_ ?_
  · refine kstar_le_of_mul_le_left ?_ ?_
    · calc (1 : K) = 1 * 1 := (one_mul 1).symm
        _ ≤ (b∗ * a)∗ * b∗ := mul_le_mul' one_le_kstar one_le_kstar
    · rw [mul_add]
      refine add_le ?_ ?_
      · calc (b∗ * a)∗ * b∗ * a = (b∗ * a)∗ * (b∗ * a) := mul_assoc _ _ _
          _ ≤ (b∗ * a)∗ := kstar_mul_le_kstar
          _ = (b∗ * a)∗ * 1 := (mul_one _).symm
          _ ≤ (b∗ * a)∗ * b∗ := by gcongr; exact one_le_kstar
      · calc (b∗ * a)∗ * b∗ * b = (b∗ * a)∗ * (b∗ * b) := mul_assoc _ _ _
          _ ≤ (b∗ * a)∗ * b∗ := by gcongr; exact kstar_mul_le_kstar
  · have ha : a ≤ (a + b)∗ := le_self_add.trans le_kstar
    have hb : b∗ ≤ (a + b)∗ := kstar_mono le_add_self
    have hround : b∗ * a ≤ (a + b)∗ := (mul_le_mul' hb ha).trans_eq (kstar_mul_kstar _)
    calc (b∗ * a)∗ * b∗ ≤ (a + b)∗∗ * (a + b)∗ := mul_le_mul' (kstar_mono hround) hb
      _ = (a + b)∗ := by rw [kstar_idem, kstar_mul_kstar]

namespace Expr

variable {α : Type u}

/-- With boundaries that have no word, a pattern has the words of its leaves. -/
lemma denote_kept_silent {κ : Type v} (e : Expr α) :
    e.denote (Reading.kept Marker.silent : Reading α (κ ⊕ α)) = Language.map Sum.inr e.words := by
  induction e with
  | leaf m => exact (Set.image_singleton (f := List.map Sum.inr) (a := [m])).symm
  | concat l r ihl ihr => rw [denote, ihl, ihr, words_concat, map_mul]
  | alt l r ihl ihr => rw [denote, ihl, ihr, words_alt, map_add]
  | maybe x ih => rw [denote, ih, words_maybe, map_add, map_one]
  | star x ih => rw [denote, ih, words_star, Language.map_kstar]
  | capture n x ih =>
      have hone : (capture n x).denote (Reading.kept Marker.silent : Reading α (κ ⊕ α)) =
          1 * x.denote (Reading.kept Marker.silent) * 1 := rfl
      rw [hone, one_mul, mul_one, ih, words_capture]

end Expr

/-! ## Words that are not empty -/

section

variable {σ : Type u} {Y F : Language σ}

/-- Languages that differ in the empty word only. -/
lemma sub_one_congr {L M : Language σ} (h : L ≤ 1 + M) (h' : M ≤ 1 + L) : L - 1 = M - 1 := by
  refine Language.ext fun t => ?_
  rw [Language.mem_sub, Language.mem_sub]
  constructor
  · rintro ⟨ht, hne⟩
    exact ⟨(h ht).resolve_left hne, hne⟩
  · rintro ⟨ht, hne⟩
    exact ⟨(h' ht).resolve_left hne, hne⟩

/-- Words that may follow each other within a round, in front of a last one: an option around them
adds no word but the empty one. -/
lemma sub_one_maybe (hF : F ≤ 1) :
    ((1 + Y) * F)∗ * (1 + Y) - 1 = (Y * F)∗ * Y - 1 := by
  have hYF : Y * F ≤ Y := by
    calc Y * F ≤ Y * 1 := by gcongr
      _ = Y := mul_one Y
  refine sub_one_congr ?_ ?_
  · have hstar : ((1 + Y) * F)∗ ≤ (Y * F)∗ := by
      calc ((1 + Y) * F)∗ ≤ (Y * F)∗∗ := by
            refine kstar_mono ?_
            rw [add_mul, one_mul]
            exact add_le (hF.trans one_le_kstar) le_kstar
        _ = (Y * F)∗ := kstar_idem _
    calc ((1 + Y) * F)∗ * (1 + Y) ≤ (Y * F)∗ * (1 + Y) := by gcongr
      _ = (Y * F)∗ + (Y * F)∗ * Y := by rw [mul_add, mul_one]
      _ = 1 + (Y * F)∗ * (Y * F) + (Y * F)∗ * Y := by rw [one_add_kstar_mul]
      _ ≤ 1 + (Y * F)∗ * Y + (Y * F)∗ * Y := by gcongr
      _ = 1 + (Y * F)∗ * Y := by rw [add_assoc, add_idem]
  · calc (Y * F)∗ * Y ≤ ((1 + Y) * F)∗ * (1 + Y) := by
          gcongr <;> exact le_add_self
      _ ≤ 1 + ((1 + Y) * F)∗ * (1 + Y) := le_add_self

/-- A repetition lets them follow each other. -/
lemma sub_one_star (hF : F ≤ 1) :
    (Y∗ * F)∗ * Y∗ - 1 = (Y * (F + 1))∗ * Y - 1 := by
  have hone : F + 1 = 1 := add_eq_right_iff_le.mpr hF
  rw [hone, mul_one]
  refine sub_one_congr ?_ ?_
  · have hstar : (Y∗ * F)∗ ≤ Y∗ := by
      calc (Y∗ * F)∗ ≤ (Y∗ * 1)∗ := by gcongr
        _ = Y∗ := by rw [mul_one, kstar_idem]
    calc (Y∗ * F)∗ * Y∗ ≤ Y∗ * Y∗ := by gcongr
      _ = Y∗ := kstar_mul_kstar Y
      _ = 1 + Y∗ * Y := (one_add_kstar_mul).symm
  · calc Y∗ * Y ≤ 1 * Y∗ := kstar_mul_le_kstar.trans_eq (one_mul _).symm
      _ ≤ (Y∗ * F)∗ * Y∗ := by gcongr; exact one_le_kstar
      _ ≤ 1 + (Y∗ * F)∗ * Y∗ := le_add_self

/-- Without the empty word, nothing is taken away. -/
lemma sub_one_of_nil_notMem (hY : [] ∉ Y) : (Y * F)∗ * Y - 1 = (Y * F)∗ * Y := by
  refine Language.ext fun t => ?_
  rw [Language.mem_sub]
  refine ⟨And.left, fun ht => ⟨ht, ?_⟩⟩
  rintro rfl
  obtain ⟨a, _, b, hb, hab⟩ := ht
  obtain ⟨_, rfl⟩ := List.append_eq_nil_iff.mp hab
  exact hY hb

end

namespace Net

variable {α : Type u} {κ : Type v}

/-- The words that can be read in one round. -/
abbrev turn (e : Expr α) (F : Language (κ ⊕ α)) : Language (κ ⊕ α) :=
  (e.denote (Reading.kept Marker.silent) * F)∗ * e.denote (Reading.kept Marker.silent) - 1

/-- The words of a ring around a pattern that reads. -/
lemma walk_alone_of_not_nullable {e : Expr α} (he : e.nullable = false) {v x' : Nat}
    {I O B F P : Language (κ ⊕ α)} {G' : Net α (κ ⊕ α)} (hv : 2 ≤ v)
    (hu : (alone v e I O (B + F) P).Unfolds Marker.silent (v + 1) G' x') (t : List (κ ⊕ α)) :
    G'.Walk (Reading.kept Marker.silent) 0 t 1 ↔
      t ∈ P + I * (turn e F * B)∗ * turn e F * O := by
  have hne : [] ∉ e.denote (Reading.kept Marker.silent : Reading α (κ ⊕ α)) := by
    intro hmem
    rw [Expr.denote_kept_silent] at hmem
    obtain ⟨u, hu, hnil⟩ := hmem
    obtain rfl := List.map_eq_nil_iff.mp hnil
    rw [(Expr.nullable_iff_nil_mem_words e).mpr hu] at he
    exact absurd he (by simp)
  have hquiet : (alone v e I O (B + F) P).Quiet {[]} := quiet_alone hv (Or.inl he) (Or.inr rfl)
  have hwords : (e.denote (Reading.kept Marker.silent) * (B + F))∗ *
      e.denote (Reading.kept Marker.silent) = (turn e F * B)∗ * turn e F := by
    rw [turn, sub_one_of_nil_notMem hne, mul_add, kstar_add, mul_assoc _ _ B, mul_assoc]
  have hwalk := Rewrites.walk_iff_of_quiet (R := Reading.kept Marker.silent) hu.rewrites
    (below_alone hv) rfl hquiet (p := 0) (s := 1) (by omega) (by omega) (if_neg (by omega))
    (if_neg (by omega)) (t := t)
  rw [hwalk, walk_alone_iff hv, mul_assoc I, hwords, ← mul_assoc I]

/-- **The words of a ring around a pattern whose core reads.** -/
theorem walk_alone_of_core {e : Expr α} (he : e.core.nullable = false) {v x' : Nat}
    {I O B F P : Language (κ ⊕ α)} {G' : Net α (κ ⊕ α)} (hv : 2 ≤ v) (hF : F ≤ 1)
    (hu : (alone v e I O (B + F) P).Unfolds Marker.silent (v + 1) G' x')
    (hleaves : G'.LeavesFrom 0) :
    ∃ P' ≤ P + I * O, ∀ t, G'.Walk (Reading.kept Marker.silent) 0 t 1 ↔
      t ∈ P' + I * (turn e F * B)∗ * turn e F * O := by
  induction e generalizing v F P with
  | leaf m => exact ⟨P, le_self_add, walk_alone_of_not_nullable he hv hu⟩
  | concat l r _ _ => exact ⟨P, le_self_add, walk_alone_of_not_nullable he hv hu⟩
  | alt l r _ _ => exact ⟨P, le_self_add, walk_alone_of_not_nullable he hv hu⟩
  | maybe y ih =>
      have hu' := hu.of_alone_maybe hv (Nat.lt_succ_self v) hleaves
      obtain ⟨P', hP', hwalk⟩ := ih he (by omega) hF hu'
      rw [add_assoc, add_idem] at hP'
      have hturn : turn (.maybe y) F = turn y F := sub_one_maybe hF
      exact ⟨P', hP', hturn ▸ hwalk⟩
  | star y ih =>
      have hu' := hu.of_alone_star hv (Nat.lt_succ_self v) hleaves
      rw [add_assoc B] at hu'
      obtain ⟨P', hP', hwalk⟩ := ih he (by omega) (add_le hF le_rfl) hu'
      rw [add_assoc, add_idem] at hP'
      have hturn : turn (.star y) F = turn y (F + 1) := sub_one_star hF
      exact ⟨P', hP', hturn ▸ hwalk⟩
  | capture n y ih =>
      have hone : ({[]} : Language (κ ⊕ α)) = 1 := rfl
      have hu' := hu.of_alone_capture hv (Nat.lt_succ_self v) hleaves
      simp only [Marker.silent, hone, one_mul, mul_one] at hu'
      obtain ⟨P', hP', hwalk⟩ := ih he (by omega) hF hu'
      have hturn : turn (.capture n y) F = turn y F := by
        have hdenote : (Expr.capture n y).denote (Reading.kept Marker.silent) =
            (1 * y.denote (Reading.kept Marker.silent) * 1 : Language (κ ⊕ α)) := rfl
        rw [turn, hdenote, one_mul, mul_one]
      exact ⟨P', hP', hturn ▸ hwalk⟩

/-- Going round as a regular expression, and round by round. -/
lemma mem_rounds_iff {n : String} {X : Language α} {t : List (Marker ⊕ α)} :
    t ∈ ({[.inl (.start n)]} * ((Language.map Sum.inr X - 1) *
        {[.inl (.stop n), .inl (.start n)]})∗ * (Language.map Sum.inr X - 1) *
          {[.inl (.stop n)]} : Language (Marker ⊕ α)) ↔
      ∃ zs, zs ≠ [] ∧ (∀ z ∈ zs, z ≠ [] ∧ z ∈ X) ∧
        t = spell (rounds n zs) ++ [Marker.stop n].map .inl := by
  have hne : ∀ {z : List α}, z.map (Sum.inr : α → Marker ⊕ α) ∉ (1 : Language (Marker ⊕ α)) ↔
      z ≠ [] := by
    intro z
    rw [Language.mem_one, List.map_eq_nil_iff]
  constructor
  · rintro ⟨_, ⟨_, ⟨_, rfl, b, hb, rfl⟩, _, ⟨⟨z, hz, rfl⟩, hz'⟩, rfl⟩, _, rfl, rfl⟩
    obtain ⟨L, rfl, hL⟩ := Language.mem_kstar.mp hb
    have hzs : ∃ zs : List (List α), (∀ y ∈ zs, y ≠ [] ∧ y ∈ X) ∧
        zs.map (fun y => y.map Sum.inr ++ [.inl (.stop n), .inl (.start n)]) = L := by
      clear hb
      induction L with
      | nil => exact ⟨[], by simp, rfl⟩
      | cons r L ih =>
          obtain ⟨hr, hrest⟩ := List.forall_mem_cons.mp hL
          obtain ⟨zs, hzs, rfl⟩ := ih hrest
          obtain ⟨_, ⟨⟨y, hy, rfl⟩, hy'⟩, _, rfl, rfl⟩ := hr
          exact ⟨y :: zs, List.forall_mem_cons.mpr ⟨⟨hne.mp hy', hy⟩, hzs⟩, rfl⟩
    obtain ⟨zs, hzs, rfl⟩ := hzs
    refine ⟨zs ++ [z], by simp, ?_, ?_⟩
    · intro y hy
      rcases List.mem_append.mp hy with hy | hy
      · exact hzs y hy
      · rw [List.mem_singleton.mp hy]
        exact ⟨hne.mp hz', hz⟩
    · rw [rounds, spell_roundsFrom (fun y hy => (hzs y hy).1) (hne.mp hz')]
      rfl
  · rintro ⟨pieces, hpieces, hX, rfl⟩
    obtain ⟨zs, z, rfl⟩ := (List.eq_nil_or_concat' pieces).resolve_left hpieces
    have hzs : ∀ y ∈ zs, y ≠ [] ∧ y ∈ X := fun y hy => hX y (List.mem_append_left _ hy)
    have hz : z ≠ [] ∧ z ∈ X := hX z (by simp)
    rw [rounds, spell_roundsFrom (fun y hy => (hzs y hy).1) hz.1]
    refine Language.append_mem_mul (Language.append_mem_mul (Language.append_mem_mul rfl ?_)
      ⟨⟨z, hz.2, rfl⟩, hne.mpr hz.1⟩) rfl
    refine Language.join_mem_kstar ?_
    intro r hr
    obtain ⟨y, hy, rfl⟩ := List.mem_map.mp hr
    exact Language.append_mem_mul ⟨⟨y, (hzs y hy).2, rfl⟩, hne.mpr (hzs y hy).1⟩ rfl

/-- **The words of a repeated group** with a body whose core reads are those of rounds. -/
theorem walk_ring_iff {n : String} {x : Expr α} (hx : x.core.nullable = false) {x' : Nat}
    {G' : Net α Marker} (hu : (ring n x).Unfolds Marker.silent 5 G' x')
    (hleaves : G'.LeavesFrom 0) {s : List (List Marker × α)} (hs : s ≠ []) {a : List Marker} :
    G'.lettered.Walk (Reading.kept Marker.silent) 0 (spell s ++ a.map .inl) 1 ↔
      a = [.stop n] ∧ ∃ zs, zs ≠ [] ∧ (∀ z ∈ zs, z ≠ [] ∧ z ∈ x.words) ∧ s = rounds n zs := by
  have hsingle : ∀ b : List Marker,
      Language.map Sum.inl {b} = ({b.map .inl} : Language (Marker ⊕ α)) :=
    fun b => Set.image_singleton (f := List.map Sum.inl) (a := b)
  have hu' : (alone 4 x {[.inl (.start n)]} {[.inl (.stop n)]}
      ({[.inl (.stop n), .inl (.start n)]} + 0) 1).Unfolds Marker.silent 5 G'.lettered x' := by
    have hmap := hu.map fun k => [(.inl k : Marker ⊕ α)]
    have hring : (ring n x).lettered = alone 4 x {[.inl (.start n)]} {[.inl (.stop n)]}
        ({[.inl (.stop n), .inl (.start n)]} + 0) 1 := by
      rw [ring, lettered_alone, hsingle, hsingle, hsingle, map_one, add_zero]
      rfl
    rw [← hring]
    exact hmap
  obtain ⟨P', hP', hwalk⟩ := walk_alone_of_core hx (by decide) zero_le hu' hleaves
  have hturn : turn x (0 : Language (Marker ⊕ α)) = Language.map Sum.inr x.words - 1 := by
    rw [turn, mul_zero, kstar_zero, one_mul, Expr.denote_kept_silent]
  rw [hwalk, hturn, Language.mem_add, mem_rounds_iff]
  constructor
  · rintro (h | ⟨zs, hne, hzs, h⟩)
    · -- What leads past the body has no leaves.
      have hbare : ∃ b : List Marker, spell s ++ a.map .inl = spell [] ++ b.map .inl := by
        rcases hP' h with h | ⟨_, rfl, _, rfl, h⟩
        · exact ⟨[], h⟩
        · exact ⟨[.start n, .stop n], h.symm⟩
      obtain ⟨b, hb⟩ := hbare
      exact absurd (spell_append_inj hb).1 hs
    · obtain ⟨rfl, rfl⟩ := spell_append_inj h
      exact ⟨rfl, zs, hne, hzs, rfl⟩
  · rintro ⟨rfl, zs, hne, hzs, rfl⟩
    exact Or.inr ⟨zs, hne, hzs, rfl⟩

end Net

end TokenPattern
