import TokenPattern.Proofs.Frontier.Runs

/-!
# What a compiled pattern matches

`Expr.language` is the textbook reading of a pattern as a set of token sequences; groups do not
matter in it.  `Program.isMatch_iff` says that a compiled pattern without limits matches exactly
these sequences, and answers `false` on all others.

The proof goes through the words of the pattern over its own leaves: a sequence is in the language if
some word of leaves accepts it token by token (`mem_language_iff`), and the trails on which a run may
stop come from words of the graph (`exists_acceptingTrail_iff`).
-/

namespace TokenPattern

open scoped Computability

variable {τ ο : Type}

/-- The token sequences that a pattern matches. -/
def Expr.language : Expr (Matcher τ ο) → Language τ
  | leaf m => {w | ∃ t, w = [t] ∧ m.outputs t ≠ []}
  | concat l r => l.language * r.language
  | alt l r => l.language + r.language
  | maybe x => 1 + x.language
  | star x => x.language∗
  | capture _ x => x.language

namespace Expr

universe u

variable {α : Type u}

lemma words_concat (l r : Expr α) : (concat l r).words = l.words * r.words := rfl

lemma words_alt (l r : Expr α) : (alt l r).words = l.words + r.words := rfl

lemma words_maybe (x : Expr α) : (maybe x).words = 1 + x.words := rfl

lemma words_star (x : Expr α) : (star x).words = x.words∗ := rfl

lemma words_capture (n : String) (x : Expr α) : (capture n x).words = x.words := by
  have hone : (capture n x).words = 1 * x.words * 1 := rfl
  rw [hone, one_mul, mul_one]

/-- A pattern is nullable if it has the empty word. -/
lemma nullable_iff_nil_mem_words (e : Expr α) : e.nullable = true ↔ [] ∈ e.words := by
  have happend : ∀ A B : Language α, [] ∈ A * B ↔ [] ∈ A ∧ [] ∈ B := by
    intro A B
    rw [Language.mem_mul]
    constructor
    · rintro ⟨a, ha, b, hb, hab⟩
      obtain ⟨rfl, rfl⟩ := List.append_eq_nil_iff.mp hab
      exact ⟨ha, hb⟩
    · rintro ⟨ha, hb⟩
      exact ⟨[], ha, [], hb, rfl⟩
  induction e with
  | leaf m =>
      have hleaf : ([] : List α) ∉ (leaf m).words := fun h => List.cons_ne_nil m [] h.symm
      simp only [nullable, Bool.false_eq_true, hleaf]
  | concat l r ihl ihr =>
      rw [words_concat, happend, nullable, Bool.and_eq_true]
      exact and_congr ihl ihr
  | alt l r ihl ihr =>
      rw [words_alt, Language.mem_add, nullable, Bool.or_eq_true]
      exact or_congr ihl ihr
  | maybe x ih => exact iff_of_true rfl (Or.inl rfl)
  | star x ih => exact iff_of_true rfl (Language.nil_mem_kstar _)
  | capture n x ih =>
      rw [words_capture]
      exact ih

/-- Every pattern has a word that is not empty. -/
lemma exists_word (e : Expr α) : ∃ u ∈ e.words, u ≠ [] := by
  induction e with
  | leaf m => exact ⟨[m], rfl, List.cons_ne_nil m []⟩
  | concat l r ihl ihr =>
      obtain ⟨u, hu, hne⟩ := ihl
      obtain ⟨u', hu', _⟩ := ihr
      exact ⟨u ++ u', Language.append_mem_mul hu hu', by simp [hne]⟩
  | alt l r ihl _ =>
      obtain ⟨u, hu, hne⟩ := ihl
      exact ⟨u, Or.inl hu, hne⟩
  | maybe x ih =>
      obtain ⟨u, hu, hne⟩ := ih
      exact ⟨u, Or.inr hu, hne⟩
  | star x ih =>
      obtain ⟨u, hu, hne⟩ := ih
      exact ⟨u, le_kstar (a := x.words) hu, hne⟩
  | capture n x ih =>
      rw [words_capture]
      exact ih

/-- Its words are made of its leaves. -/
lemma mem_leaves_of_mem_words {e : Expr α} {u : List α} (hu : u ∈ e.words) {m : α} (hm : m ∈ u) :
    m ∈ e.leaves := by
  induction e generalizing u with
  | leaf l =>
      obtain rfl : u = [l] := hu
      exact hm
  | concat l r ihl ihr =>
      obtain ⟨a, ha, b, hb, rfl⟩ := hu
      rcases List.mem_append.mp hm with hm | hm
      · exact List.mem_append_left _ (ihl ha hm)
      · exact List.mem_append_right _ (ihr hb hm)
  | alt l r ihl ihr =>
      rcases hu with hu | hu
      · exact List.mem_append_left _ (ihl hu hm)
      · exact List.mem_append_right _ (ihr hu hm)
  | maybe x ih =>
      rcases hu with rfl | hu
      · exact absurd hm (List.not_mem_nil)
      · exact ih hu hm
  | star x ih =>
      obtain ⟨L, rfl, hL⟩ := Language.mem_kstar.mp hu
      obtain ⟨w, hw, hm⟩ := List.mem_flatten.mp hm
      exact ih (hL w hw) hm
  | capture n x ih =>
      rw [words_capture] at hu
      exact ih hu hm

end Expr

/-! ## Words of leaves and sequences of tokens -/

/-- Whether every leaf accepts its token. -/
def Accepts (u : List (Matcher τ ο)) (w : List τ) : Prop :=
  List.Forall₂ (fun m t => m.outputs t ≠ []) u w

lemma Accepts.length_eq {u : List (Matcher τ ο)} {w : List τ} (h : Accepts u w) :
    u.length = w.length := List.Forall₂.length_eq h

lemma accepts_append_left {u u' : List (Matcher τ ο)} {w : List τ} :
    Accepts (u ++ u') w ↔ ∃ a b, Accepts u a ∧ Accepts u' b ∧ a ++ b = w := by
  constructor
  · intro h
    refine ⟨w.take u.length, w.drop u.length, ?_, ?_, List.take_append_drop _ _⟩
    · simpa [Accepts] using List.forall₂_take u.length h
    · simpa [Accepts] using List.forall₂_drop u.length h
  · rintro ⟨a, b, ha, hb, rfl⟩
    exact List.rel_append ha hb

/-- Words one after the other accept what they accept, one after the other. -/
lemma accepts_flatten_iff {U : List (List (Matcher τ ο))} {w : List τ} :
    Accepts U.flatten w ↔ ∃ L, List.Forall₂ Accepts U L ∧ L.flatten = w := by
  constructor
  · intro h
    induction U generalizing w with
    | nil =>
        obtain rfl : w = [] := List.forall₂_nil_left_iff.mp h
        exact ⟨[], .nil, rfl⟩
    | cons u U ih =>
        rw [List.flatten_cons] at h
        obtain ⟨a, b, ha, hb, rfl⟩ := accepts_append_left.mp h
        obtain ⟨L, hL, rfl⟩ := ih hb
        exact ⟨a :: L, .cons ha hL, rfl⟩
  · rintro ⟨L, hL, rfl⟩
    induction hL with
    | nil => exact List.Forall₂.nil
    | cons hu _ ih => exact accepts_append_left.mpr ⟨_, _, hu, ih, rfl⟩

/-- What holds of the words of leaves and the sequences that they accept, holds piece by piece. -/
lemma exists_pieces_iff {X : List (Matcher τ ο) → Prop} {Y : List τ → Prop}
    (h : ∀ w, Y w ↔ ∃ u, X u ∧ Accepts u w) (L : List (List τ)) :
    (∀ w ∈ L, Y w) ↔ ∃ U : List (List (Matcher τ ο)), (∀ u ∈ U, X u) ∧ List.Forall₂ Accepts U L := by
  induction L with
  | nil => exact ⟨fun _ => ⟨[], by simp, .nil⟩, fun _ => by simp⟩
  | cons w L ih =>
      rw [List.forall_mem_cons, ih, h]
      constructor
      · rintro ⟨⟨u, hu, huw⟩, U, hU, hUL⟩
        exact ⟨u :: U, List.forall_mem_cons.mpr ⟨hu, hU⟩, .cons huw hUL⟩
      · rintro ⟨_, hU, hUL⟩
        cases hUL with
        | cons huw hUL =>
            obtain ⟨hu, hU⟩ := List.forall_mem_cons.mp hU
            exact ⟨⟨_, hu, huw⟩, _, hU, hUL⟩

/-- A sequence is in the language if some word of leaves accepts it token by token. -/
lemma mem_language_iff (e : Expr (Matcher τ ο)) (w : List τ) :
    w ∈ e.language ↔ ∃ u ∈ e.words, Accepts u w := by
  induction e generalizing w with
  | leaf m =>
      constructor
      · rintro ⟨t, rfl, ht⟩
        exact ⟨[m], rfl, .cons ht .nil⟩
      · rintro ⟨u, hu, h⟩
        obtain rfl : u = [m] := hu
        obtain ⟨t, w, ht, hw, rfl⟩ := List.forall₂_cons_left_iff.mp h
        obtain rfl : w = [] := List.forall₂_nil_left_iff.mp hw
        exact ⟨t, rfl, ht⟩
  | concat l r ihl ihr =>
      rw [Expr.language, Expr.words_concat, Language.mem_mul]
      constructor
      · rintro ⟨a, ha, b, hb, rfl⟩
        obtain ⟨u, hu, hua⟩ := (ihl a).mp ha
        obtain ⟨v, hv, hvb⟩ := (ihr b).mp hb
        exact ⟨u ++ v, Language.append_mem_mul hu hv, accepts_append_left.mpr ⟨a, b, hua, hvb, rfl⟩⟩
      · rintro ⟨_, ⟨u, hu, v, hv, rfl⟩, h⟩
        obtain ⟨a, b, ha, hb, rfl⟩ := accepts_append_left.mp h
        exact ⟨a, (ihl a).mpr ⟨u, hu, ha⟩, b, (ihr b).mpr ⟨v, hv, hb⟩, rfl⟩
  | alt l r ihl ihr =>
      rw [Expr.language, Expr.words_alt, Language.mem_add, ihl, ihr]
      simp only [Language.mem_add, or_and_right, exists_or]
  | maybe x ih =>
      rw [Expr.language, Expr.words_maybe, Language.mem_add, ih]
      simp only [Language.mem_add, Language.mem_one, or_and_right, exists_or]
      refine or_congr ⟨?_, ?_⟩ Iff.rfl
      · rintro rfl
        exact ⟨[], rfl, .nil⟩
      · rintro ⟨_, rfl, h⟩
        exact List.forall₂_nil_left_iff.mp h
  | star x ih =>
      rw [Expr.language, Expr.words_star]
      simp only [Language.mem_kstar]
      constructor
      · rintro ⟨L, rfl, hL⟩
        obtain ⟨U, hU, hUL⟩ := (exists_pieces_iff ih L).mp hL
        exact ⟨U.flatten, ⟨U, rfl, hU⟩, accepts_flatten_iff.mpr ⟨L, hUL, rfl⟩⟩
      · rintro ⟨_, ⟨U, rfl, hU⟩, h⟩
        obtain ⟨L, hUL, rfl⟩ := accepts_flatten_iff.mp h
        exact ⟨L, rfl, (exists_pieces_iff ih L).mpr ⟨U, hU, hUL⟩⟩
  | capture n x ih =>
      rw [Expr.words_capture]
      exact ih w

/-! ## Runs -/

/-- The boundaries of the trails on which a run may stop are those of the words of the graph whose
leaves accept the input. -/
lemma exists_acceptingTrail_iff {g : Graph (Matcher τ ο)} {w : List τ}
    {markers : List (List Marker)} :
    (∃ trail ∈ acceptingTrails g w, trail.map TrailItem.markers = markers) ↔
      ∃ (s : List (List Marker × Matcher τ ο)) (a : List Marker),
        spell s ++ a.map .inl ∈ g.markedWords ∧ Accepts (s.map Prod.snd) w ∧
          s.map Prod.fst = markers := by
  have haccepts : ∀ r : List (Move (Matcher τ ο)), Accepts ((Move.items r).map Prod.snd) w ↔
      ∃ trail, trail ∈ fillings r w := by
    intro r
    rw [exists_mem_fillings_iff, Move.items, List.map_map, Accepts, List.forall₂_map_left_iff]
    rfl
  have hmarkers : ∀ {r : List (Move (Matcher τ ο))} {trail}, trail ∈ fillings r w →
      trail.map TrailItem.markers = (Move.items r).map Prod.fst := by
    intro r trail hfill
    have h := congrArg (List.map Edge.markers) (steps_of_mem_fillings hfill)
    rw [List.map_map, List.map_map] at h
    rw [Move.items, List.map_map]
    exact h
  constructor
  · rintro ⟨trail, htrail, rfl⟩
    obtain ⟨hmem, hacc⟩ := List.mem_filter.mp htrail
    obtain ⟨r, hr, hfill⟩ := mem_trailsFrom_iff.mp hmem
    rw [trailEnd_of_steps (steps_of_mem_fillings hfill)] at hacc
    obtain ⟨⟨_, a⟩, ha, rfl⟩ := Graph.accepts_iff.mp hacc
    exact ⟨_, a, Graph.mem_markedWords_iff.mpr ⟨r, a, hr, ha, rfl⟩,
      (haccepts r).mpr ⟨trail, hfill⟩, (hmarkers hfill).symm⟩
  · rintro ⟨s, a, h, hs, rfl⟩
    obtain ⟨r, a', hr, ha, heq⟩ := Graph.mem_markedWords_iff.mp h
    obtain ⟨rfl, rfl⟩ := spell_append_inj heq
    obtain ⟨trail, hfill⟩ := (haccepts r).mp hs
    refine ⟨trail, List.mem_filter.mpr ⟨mem_trailsFrom_iff.mpr ⟨r, hr, hfill⟩, ?_⟩, hmarkers hfill⟩
    rw [trailEnd_of_steps (steps_of_mem_fillings hfill)]
    exact Graph.accepts_iff.mpr ⟨_, ha, rfl⟩

lemma isMatch_eq_true_iff_exists_trail (e : Expr (Matcher τ ο)) (w : List τ) :
    ∃ b, ((Program.compile e).withLimits Limits.unbounded).isMatch w = .ok b ∧
      (b = true ↔ ∃ trail, trail ∈ acceptingTrails (Graph.ofExpr e) w) := by
  obtain ⟨frontier, hrun, hl⟩ := (allows_run (Graph.ofExpr e) Limits.unbounded w).exists_ok
  refine ⟨_, (Program.isMatch_eq _ w).trans (congrArg (Except.map _) hrun), ?_⟩
  show frontier.any _ = true ↔ _
  rw [← Array.any_toList, hl, List.any_map, List.any_eq_true]
  simp only [acceptingTrails, List.mem_filter]
  rfl

/-- There are trails on which a run may stop for the inputs in the language. -/
lemma exists_trail_iff_mem_language (e : Expr (Matcher τ ο)) (w : List τ) :
    (∃ trail, trail ∈ acceptingTrails (Graph.ofExpr e) w) ↔ w ∈ e.language := by
  rw [mem_language_iff]
  constructor
  · rintro ⟨trail, htrail⟩
    obtain ⟨s, a, hword, hs, _⟩ := exists_acceptingTrail_iff.mp ⟨trail, htrail, rfl⟩
    exact ⟨_, (Graph.mem_words_iff e _).mpr ⟨_, hword, forget_spell s a⟩, hs⟩
  · rintro ⟨u, hu, haccepts⟩
    obtain ⟨t, ht, rfl⟩ := (Graph.mem_words_iff e u).mp hu
    obtain ⟨s, a, rfl⟩ := exists_spell t
    rw [forget_spell] at haccepts
    obtain ⟨trail, htrail, _⟩ := exists_acceptingTrail_iff.mpr ⟨s, a, ht, haccepts, rfl⟩
    exact ⟨trail, htrail⟩

/-- Without limits there is a verdict, and it tells whether the input is in the language. -/
lemma Program.exists_isMatch (e : Expr (Matcher τ ο)) (w : List τ) :
    ∃ verdict, ((compile e).withLimits Limits.unbounded).isMatch w = .ok verdict ∧
      (verdict = true ↔ w ∈ e.language) := by
  obtain ⟨b, hb, hiff⟩ := isMatch_eq_true_iff_exists_trail e w
  exact ⟨b, hb, hiff.trans (exists_trail_iff_mem_language e w)⟩

/-- What a verdict tells, it tells with both of its answers. -/
lemma verdict_iff {result : Except MatchError Bool} {verdict : Bool} {P : Prop}
    (h : result = .ok verdict) (hverdict : verdict = true ↔ P) :
    (result = .ok true ↔ P) ∧ (result = .ok false ↔ ¬ P) := by
  rw [h, ← hverdict]
  cases verdict <;> simp

/-- **A compiled pattern matches its language and nothing else.** -/
theorem Program.isMatch_iff (e : Expr (Matcher τ ο)) (w : List τ) :
    (((compile e).withLimits Limits.unbounded).isMatch w = .ok true ↔ w ∈ e.language) ∧
      (((compile e).withLimits Limits.unbounded).isMatch w = .ok false ↔ w ∉ e.language) := by
  obtain ⟨verdict, hmatch, hverdict⟩ := exists_isMatch e w
  exact verdict_iff hmatch hverdict

end TokenPattern
