import TokenPattern.Proofs.Repetition.Lost

/-!
# Repeating a group

A run of a repeated group can report every way of cutting the input into rounds: each match tells
where the rounds of one way start and how long they are.  `Reports` says that a run reports all ways
of cutting its input into words of the body that are not empty, and no other.

**When it does.**  Options, repetitions and captures around the body do no harm.  What they are put
around is the core of the body, and `reports_iff` says that all bodies of one shape report all ways if
and only if this core is not nullable.

**What goes wrong otherwise.**  If the core is an alternative with a nullable side, a match may have an
empty round.  If it is a concatenation of two nullable operands, there may be a way that no match
reports.
-/

namespace TokenPattern

variable {τ ο : Type}

/-- The pieces of a sequence at the places `c` are words of the body, and none of them is empty. -/
def IsCut (x : Expr (Matcher τ ο)) (w : List τ) (c : List (Nat × Nat)) : Prop :=
  ∃ pieces : List (List τ),
    pieces.flatten = w ∧ (∀ p ∈ pieces, p ≠ [] ∧ p ∈ x.language) ∧ cuts 0 pieces = c

/-- Whether the matches of a repeated group on an input tell all ways of cutting the input into words
of the body that are not empty, and no other. -/
def Reports (x : Expr (Matcher τ ο)) (n : String) (w : List τ) : Prop :=
  ∃ ms, ((Program.compile (.star (.capture n x))).withLimits Limits.unbounded).allMatches w = .ok ms ∧
    ∀ c, (∃ m ∈ ms, m.occurrences n = c) ↔ IsCut x w c

/-- The net that the ring is taken apart into tells whether they do. -/
lemma exists_reports_iff (x : Expr (Matcher τ ο)) (n : String) : ∃ G' x',
    (Net.ring n x).Unfolds Marker.silent 5 G' x' ∧ G'.LeavesFrom 0 ∧
      ∀ w, Reports x n w ↔ ∀ c, G'.Tells w c ↔ IsCut x w c := by
  obtain ⟨G', x', hu, hleaves, hreports⟩ := exists_reports x n
  refine ⟨G', x', hu, hleaves, fun w => ?_⟩
  obtain ⟨ms, hms, hmatches⟩ := hreports w
  constructor
  · rintro ⟨ms', hms', hcuts⟩ c
    obtain rfl := Except.ok.inj (hms.symm.trans hms')
    rw [← hmatches, hcuts]
  · intro hcuts
    exact ⟨ms, hms, fun c => (hmatches c).trans (hcuts c)⟩

/-! ## Bodies whose core reads -/

/-- A ring around a body whose core reads tells all ways. -/
lemma tells_iff_of_core {x : Expr (Matcher τ ο)} (hx : x.core.nullable = false) {n : String}
    {G' : Net (Matcher τ ο) Marker} {x' : Nat} (hu : (Net.ring n x).Unfolds Marker.silent 5 G' x')
    (hleaves : G'.LeavesFrom 0) {w : List τ} (hw : w ≠ []) (c : List (Nat × Nat)) :
    G'.Tells w c ↔ IsCut x w c := by
  -- Words of leaves that are not empty accept the sequences that are not empty.
  have hpieces : ∀ p : List τ, (p ≠ [] ∧ p ∈ x.language) ↔
      ∃ u : List (Matcher τ ο), (u ≠ [] ∧ u ∈ x.words) ∧ Accepts u p := by
    intro p
    rw [mem_language_iff]
    constructor
    · rintro ⟨hp, u, hu, hup⟩
      refine ⟨u, ⟨?_, hu⟩, hup⟩
      rintro rfl
      exact hp (List.forall₂_nil_left_iff.mp hup)
    · rintro ⟨u, ⟨hu, hmem⟩, hup⟩
      refine ⟨?_, u, hmem, hup⟩
      rintro rfl
      exact hu (List.forall₂_nil_right_iff.mp hup)
  constructor
  · rintro ⟨s, a, hwalk, haccepts, rfl⟩
    have hs : s ≠ [] := by
      rintro rfl
      exact hw (List.forall₂_nil_left_iff.mp haccepts)
    obtain ⟨_, zs, hne, hzs, rfl⟩ := (Net.walk_ring_iff hx hu hleaves hs).mp hwalk
    rw [rounds, map_snd_roundsFrom] at haccepts
    obtain ⟨pieces, hacc, rfl⟩ := accepts_flatten_iff.mp haccepts
    refine ⟨pieces, rfl, (exists_pieces_iff hpieces pieces).mpr ⟨zs, hzs, hacc⟩, ?_⟩
    rw [tally_rounds hne fun z hz => (hzs z hz).1]
    exact (cuts_eq_of_forall₂ Accepts.length_eq hacc 0).symm
  · rintro ⟨pieces, rfl, hmem, rfl⟩
    obtain ⟨zs, hzs, hacc⟩ := (exists_pieces_iff hpieces pieces).mp hmem
    have haccepts : Accepts ((rounds n zs).map Prod.snd) pieces.flatten := by
      rw [rounds, map_snd_roundsFrom]
      exact accepts_flatten_iff.mpr ⟨pieces, hacc, rfl⟩
    have hne : zs ≠ [] := by
      rintro rfl
      exact hw (List.forall₂_nil_left_iff.mp haccepts)
    have hs : rounds n zs ≠ [] := by
      intro hnil
      rw [hnil] at haccepts
      exact hw (List.forall₂_nil_left_iff.mp haccepts)
    refine ⟨rounds n zs, [.stop n], ?_, haccepts, ?_⟩
    · exact (Net.walk_ring_iff hx hu hleaves hs).mpr ⟨rfl, zs, hne, hzs, rfl⟩
    · rw [tally_rounds hne fun z hz => (hzs z hz).1]
      exact cuts_eq_of_forall₂ Accepts.length_eq hacc 0

/-- **A body whose core reads** reports all ways. -/
theorem reports_of_core {x : Expr (Matcher τ ο)} (hx : x.core.nullable = false) (n : String)
    {w : List τ} (hw : w ≠ []) : Reports x n w := by
  obtain ⟨G', x', hu, hleaves, hreports⟩ := exists_reports_iff x n
  exact (hreports w).mpr (tells_iff_of_core hx hu hleaves hw)

/-! ## Bodies whose core is nullable -/

/-- A matcher that accepts one token and rejects another. -/
def Separates (a b : τ) (m : Matcher τ ο) : Prop := m.outputs a ≠ [] ∧ m.outputs b = []

lemma accepts_replicate {a : τ} {u : List (Matcher τ ο)} (h : ∀ m ∈ u, m.outputs a ≠ []) :
    Accepts u (List.replicate u.length a) := by
  rw [← List.map_const', Accepts, List.forall₂_map_right_iff, List.forall₂_same]
  exact h

/-- No way of cutting an input has an empty piece in front. -/
lemma not_isCut_of_empty {x : Expr (Matcher τ ο)} {w : List τ} {c : List (Nat × Nat)} :
    ¬ IsCut x w ((0, 0) :: c) := by
  rintro ⟨pieces, _, hmem, hcuts⟩
  cases pieces with
  | nil => exact absurd hcuts.symm (List.cons_ne_nil _ c)
  | cons p pieces =>
      obtain ⟨hhead, _⟩ := List.cons.inj hcuts
      exact (hmem p List.mem_cons_self).1 (List.length_eq_zero_iff.mp (congrArg Prod.snd hhead))

/-- After an empty round the words do not tell ways of cutting their input. -/
lemma exists_tells_of_emptyRound {n : String} {a b : τ} {G' : Net (Matcher τ ο) Marker}
    (h : G'.EmptyRound n (Separates a b)) : ∃ w c, w ≠ [] ∧ G'.Tells w ((0, 0) :: c) := by
  obtain ⟨z, hne, hz, hwalk⟩ := h
  have hs : spell (round [.start n, .stop n, .start n] z) =
      [.inl (.start n), .inl (.stop n), .inl (.start n)] ++ z.map .inr := spell_round hne
  refine ⟨List.replicate z.length a, [(0, z.length)], by simpa using hne,
    round [.start n, .stop n, .start n] z, [.stop n], ?_, ?_, ?_⟩
  · rwa [hs]
  · rw [map_snd_round]
    exact accepts_replicate fun m hm => (hz m hm).1
  · rw [tally, Tally.items_round 0 _ hne, List.length_map, ← List.length_map Prod.fst,
      Tally.length_round]
    simp [Tally.boundary, Tally.initial, Tally.finish]

/-- Where a boundary is lost, the words do not tell of a piece that starts behind it. -/
lemma not_tells_of_allJoined {a b : τ} {G' : Net (Matcher τ ο) Marker}
    (h : G'.AllJoined (Separates a b) (Separates b a)) {i j : Nat} (hi : i ≠ 0) (hj : j ≠ 0) :
    ¬ G'.Tells (List.replicate i a ++ List.replicate j b) [(0, i), (i, j)] := by
  rintro ⟨s, ends, hwalk, haccepts, htally⟩
  obtain ⟨k, rfl⟩ := Nat.exists_eq_succ_of_ne_zero hi
  have hlen : s.length = k + 1 + j := by simpa using Accepts.length_eq haccepts
  have hmem : (k + 1, j) ∈ tally (s.map Prod.fst) := by simp [htally]
  obtain ⟨m, hm, hne⟩ := exists_markers_of_mem_tally hmem
  have haccept : ∀ {p : Nat} {t : τ} (hp : p < s.length),
      (List.replicate (k + 1) a ++ List.replicate j b)[p]? = some t → s[p].2.outputs t ≠ [] := by
    intro p t hp ht
    obtain ⟨hp', rfl⟩ := List.getElem?_eq_some_iff.mp ht
    have hget := haccepts.get (by rwa [List.length_map]) hp'
    rwa [List.get_eq_getElem, List.getElem_map] at hget
  -- The last leaf of the first piece accepts `a`, and the first leaf of the second one accepts `b`.
  have hfront : s[k].2.outputs a ≠ [] := haccept (by omega) (by simp [List.getElem?_append])
  have hbehind : s[k + 1].2.outputs b ≠ [] := by
    refine haccept (by omega) ?_
    rw [List.getElem?_append_right (by simp)]
    simp [Nat.pos_of_ne_zero hj]
  have hjoin := List.isChain_iff_getElem.mp (h s ends hwalk) k (by omega)
  have hnil : s[k + 1].1 = [] := hjoin (fun hB => hfront hB.2) fun hA => hbehind hA.2
  rw [List.getElem?_map, List.getElem?_eq_getElem (by omega)] at hm
  exact hne (Option.some.inj hm ▸ hnil)

section

variable {x : Expr (Matcher τ ο)} {a b : τ} (n : String)

/-- A body with a nullable tip makes empty rounds. -/
lemma exists_not_reports_of_nullable_tip (hp : x.Painted (Separates a b) (Separates b a))
    (htip : x.tip.nullable = true) : ∃ w, w ≠ [] ∧ ¬ Reports x n w := by
  obtain ⟨G', x', hu, hleaves, hreports⟩ := exists_reports_iff x n
  have hempty := (Net.stage_ring n (Separates b a) x).emptyRound hp htip hu hleaves
  obtain ⟨w, c, hw, htells⟩ := exists_tells_of_emptyRound hempty
  exact ⟨w, hw, fun h => not_isCut_of_empty (((hreports w).mp h _).mp htells)⟩

/-- A body with a tip that reads does not report a round that starts behind the tip. -/
lemma not_reports_of_tip (hp : x.Painted (Separates a b) (Separates b a))
    (htip : x.tip.nullable = false) {u u' : List (Matcher τ ο)} (hu : u ∈ x.words)
    (hne : u ≠ []) (hfront : ∀ m ∈ u, Separates a b m) (hu' : u' ∈ x.words) (hne' : u' ≠ [])
    (hbehind : ∀ m ∈ u', Separates b a m) :
    ¬ Reports x n (List.replicate u.length a ++ List.replicate u'.length b) := by
  obtain ⟨G', x', hunfolds, hleaves, hreports⟩ := exists_reports_iff x n
  have hjoined := (Net.stage_ring n (Separates b a) x).allJoined hp htip hunfolds hleaves
  have hlen : u.length ≠ 0 := List.length_eq_zero_iff.not.mpr hne
  have hlen' : u'.length ≠ 0 := List.length_eq_zero_iff.not.mpr hne'
  have hcut : IsCut x (List.replicate u.length a ++ List.replicate u'.length b)
      [(0, u.length), (u.length, u'.length)] := by
    refine ⟨[List.replicate u.length a, List.replicate u'.length b], by simp, ?_, by simp [cuts]⟩
    have hmem := (mem_language_iff x _).mpr ⟨u, hu, accepts_replicate fun m hm => (hfront m hm).1⟩
    have hmem' := (mem_language_iff x _).mpr
      ⟨u', hu', accepts_replicate fun m hm => (hbehind m hm).1⟩
    simp [hmem, hmem', hlen, hlen']
  exact fun h => not_tells_of_allJoined hjoined hlen hlen' (((hreports _).mp h _).mpr hcut)

/-- Two options one after the other do not report that each of them can make a round. -/
theorem not_reports_two_options :
    ¬ Reports (.concat (.maybe (.leaf (Matcher.exact 'a'))) (.maybe (.leaf (Matcher.exact 'b'))))
      "n" ['a', 'b'] := by
  have hfront : Separates 'a' 'b' (Matcher.exact 'a') := by simp [Separates, Matcher.exact]
  have hbehind : Separates 'b' 'a' (Matcher.exact 'b') := by simp [Separates, Matcher.exact]
  have hfirst : [Matcher.exact 'a'] ∈
      (Expr.concat (.maybe (.leaf (Matcher.exact 'a'))) (.maybe (.leaf (.exact 'b')))).words :=
    ⟨[.exact 'a'], Or.inr rfl, [], Or.inl rfl, rfl⟩
  have hsecond : [Matcher.exact 'b'] ∈
      (Expr.concat (.maybe (.leaf (Matcher.exact 'a'))) (.maybe (.leaf (.exact 'b')))).words :=
    ⟨[], Or.inl rfl, [.exact 'b'], Or.inr rfl, rfl⟩
  have hpainted : (Expr.concat (.maybe (.leaf (Matcher.exact 'a')))
      (.maybe (.leaf (Matcher.exact 'b')))).Painted (Separates 'a' 'b') (Separates 'b' 'a') :=
    ⟨hfront, fun m hm => List.mem_singleton.mp hm ▸ hbehind⟩
  exact not_reports_of_tip "n" hpainted rfl hfirst (List.cons_ne_nil _ _)
    (fun m hm => List.mem_singleton.mp hm ▸ hfront) hsecond (List.cons_ne_nil _ _)
    fun m hm => List.mem_singleton.mp hm ▸ hbehind

/-- **A body whose core is nullable** does not report all ways, if tokens tell the leaves of the tip
from those behind it. -/
theorem exists_not_reports (hp : x.Painted (Separates a b) (Separates b a))
    (hx : x.core.nullable = true) : ∃ w, w ≠ [] ∧ ¬ Reports x n w := by
  cases htip : x.tip.nullable with
  | true => exact exists_not_reports_of_nullable_tip n hp htip
  | false =>
      obtain ⟨u, hu, hne, hfront⟩ := Expr.exists_word_of_painted hp
      obtain ⟨u', hu', hne', hbehind⟩ := Expr.exists_word_behind hp hx htip
      exact ⟨_, by simp [hne], not_reports_of_tip n hp htip hu hne hfront hu' hne' hbehind⟩

end

/-! ## The exact condition -/

/-- The matcher that yields an output from one token and nothing from any other. -/
def Matcher.only [DecidableEq τ] (a : τ) (o : ο) : Matcher τ ο where
  outputs t := if t = a then [o] else []
  text := ""

lemma separates_only [DecidableEq τ] {a b : τ} (o : ο) (h : a ≠ b) :
    Separates a b (Matcher.only a o) :=
  ⟨by simp [Matcher.only], if_neg h.symm⟩

/-- **All bodies of one shape report all ways** of cutting all inputs if and only if their core is
not nullable. -/
theorem reports_iff [Nontrivial τ] [Nonempty ο] (x : Expr (Matcher τ ο)) (n : String) :
    (∀ y : Expr (Matcher τ ο), y.shape = x.shape → ∀ w, w ≠ [] → Reports y n w) ↔
      x.core.nullable = false := by
  constructor
  · intro h
    by_contra hcore
    obtain ⟨a, b, hab⟩ := exists_pair_ne τ
    obtain ⟨o⟩ := ‹Nonempty ο›
    classical
    have hy : (x.paint (Matcher.only a o) (Matcher.only b o)).shape = x.shape := x.shape_paint
    have hpainted := x.painted_paint (separates_only o hab) (separates_only o hab.symm)
    rw [Bool.not_eq_false, ← Expr.nullable_core_of_shape_eq hy] at hcore
    obtain ⟨w, hw, hnot⟩ := exists_not_reports n hpainted hcore
    exact hnot (h _ hy w hw)
  · intro hcore y hy w hw
    exact reports_of_core ((Expr.nullable_core_of_shape_eq hy).trans hcore) n hw

/-- An option reports all ways, and two options one after the other do not. -/
theorem reports_option :
    (∀ w, w ≠ [] → Reports (.maybe (.leaf (Matcher.exact 'a'))) "word" w) ∧
      ¬ ∀ y : Expr (Matcher Char Char),
        y.shape = .concat (.maybe (.leaf ())) (.maybe (.leaf ())) →
          ∀ w, w ≠ [] → Reports y "word" w := by
  have hchar : Nontrivial Char := ⟨'a', 'b', by decide⟩
  constructor
  · exact (reports_iff (.maybe (.leaf (Matcher.exact 'a'))) "word").mpr rfl _ rfl
  · intro h
    have hcore := (reports_iff (.concat (.maybe (.leaf (Matcher.exact 'a')))
      (.maybe (.leaf (Matcher.exact 'b')))) "word").mp h
    exact Bool.false_ne_true hcore.symm

end TokenPattern
