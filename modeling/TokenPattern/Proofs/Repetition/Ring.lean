import TokenPattern.Proofs.Match.Occurrences

/-!
# A repeated group

The group of a repetition has a part of its own in the graph.  After two rewrites, that of the
repetition and that of the group, the body stands alone in a ring: one link opens the group, one
closes it, and one that leads from the body to itself closes it and opens it again (`Net.ring`).

**What is left out.**  All other boundaries belong to captures inside the body, and they never end on
the top level.  So they can be given the empty word while the ring keeps its boundaries: what the
compiler makes of the ring under `Marker.silent` tells which groups a match has on its top level
(`exists_reports`).
-/

namespace TokenPattern

open scoped Computability

universe u v

namespace Net

variable {α : Type u}

/-- The body of a repeated group, at the number that it has after two rewrites. -/
def ring (n : String) (x : Expr α) : Net α Marker :=
  alone 4 x {[.start n]} {[.stop n]} {[.stop n, .start n]} 1

/-- The compiler comes to the ring. -/
lemma unfolds_ring {n : String} {x : Expr α} {G' : Net α Marker} {x' : Nat}
    (h : (Draft.start (.star (.capture n x))).net.Unfolds pure 3 G' x')
    (hleaves : G'.LeavesFrom 0) : (ring n x).Unfolds pure 5 G' x' := by
  rw [Draft.net_start] at h
  have h3 := h.of_alone_star le_rfl (Nat.lt_succ_self 2) hleaves
  have h4 := h3.of_alone_capture (by decide) (Nat.lt_succ_self 3) hleaves
  have hback : ({pure (.stop n)} * {pure (.start n)} : Language Marker) = {[.stop n, .start n]} :=
    Set.image2_singleton
  rwa [zero_add, zero_add, one_mul, one_mul, mul_one, hback] at h4

/-! ## Tags -/

/-- The ring with its own boundaries tagged as outermost. -/
def taggedRing (n : String) (x : Expr α) : Net α (Marker × Bool) :=
  (ring n x).map fun m => [(m, true)]

lemma map_fst_taggedRing (n : String) (x : Expr α) :
    (taggedRing n x).map (fun p => [p.1]) = ring n x := by
  rw [taggedRing, map_map]
  exact map_pure (ring n x)

lemma map_outer_taggedRing (n : String) (x : Expr α) :
    (taggedRing n x).map Marker.outer = ring n x := by
  rw [taggedRing, map_map]
  exact map_pure (ring n x)

/-- The tags fit the open groups. -/
lemma framed_taggedRing (n : String) (x : Expr α) :
    (taggedRing n x).Framed (Framing.outermost n) Set.univ fun i => if i = 4 then [n] else [] where
  link {p s a} hl := by
    obtain ⟨b, hl, rfl⟩ := hl
    rcases hl with ⟨rfl, rfl, rfl⟩ | ⟨rfl, rfl, rfl⟩ | ⟨rfl, rfl, rfl⟩ | ⟨rfl, rfl, rfl⟩
    · simp [Framing.run, Framing.outermost, Marker.act, Marker.name]
    · simp [Framing.run, Framing.outermost, Marker.act, Marker.name]
    · simp [Framing.run, Framing.outermost, Marker.act, Marker.name]
    · rfl
  inside {i f} hi := by
    have hi' : (ring n x).node i = some f := hi
    obtain ⟨rfl, _⟩ := node_alone_eq_some hi'
    exact List.cons_ne_nil n []
  leaf _ _ _ := trivial

/-- The words of a repeated group are those of a net that the tagged ring is taken apart into. -/
lemma exists_unfolds_taggedRing (n : String) (x : Expr α) : ∃ T' x',
    (taggedRing n x).Unfolds (fun m => [(m, false)]) 5 T' x' ∧ T'.LeavesFrom 0 ∧
      ∀ t, t ∈ (Graph.ofExpr (.star (.capture n x))).markedWords ↔
        (T'.map fun p => [p.1]).lettered.Walk (Reading.kept pure) 0 t 1 := by
  obtain ⟨hc, hp, _⟩ := Draft.drain_start (.star (.capture n x))
  obtain ⟨x', hu, hleaves⟩ := Draft.exists_unfolds (Draft.consistent_start (.star (.capture n x)))
  rw [Draft.slots_start] at hu
  have hring := unfolds_ring hu hleaves
  rw [← map_fst_taggedRing] at hring
  obtain ⟨T', hT, hnet⟩ : ∃ T', (taggedRing n x).Unfolds (fun m => [(m, false)]) 5 T' x' ∧
      _ = T'.map fun p => [p.1] := hring.exists_of_map rfl
  have hren := Draft.renames_freeze hc hp
  rw [hnet] at hleaves hren
  refine ⟨T', x', hT, hleaves, fun t => ?_⟩
  exact (hren.map (Reading.marked : Reading α _).mark).walk_iff
    (Draft.number_of_lt_two hc (by decide)) (Draft.number_of_lt_two hc (by decide))

end Net

/-! ## What is reported -/

section

variable {τ ο : Type}

/-- A word of a net that matches an input has its outermost groups at the places `c`. -/
def Net.Tells (G : Net (Matcher τ ο) Marker) (w : List τ) (c : List (Nat × Nat)) : Prop :=
  ∃ (s : List (List Marker × Matcher τ ο)) (a : List Marker),
    G.lettered.Walk (Reading.kept Marker.silent) 0 (spell s ++ a.map .inl) 1 ∧
      Accepts (s.map Prod.snd) w ∧ tally (s.map Prod.fst) = c

/-- **What a repeated group reports.** -/
theorem exists_reports (x : Expr (Matcher τ ο)) (n : String) : ∃ G' x',
    (Net.ring n x).Unfolds Marker.silent 5 G' x' ∧ G'.LeavesFrom 0 ∧
      ∀ w, ∃ ms, ((Program.compile (.star (.capture n x))).withLimits
          Limits.unbounded).allMatches w = .ok ms ∧
        ∀ c, (∃ m ∈ ms, m.occurrences n = c) ↔ G'.Tells w c := by
  obtain ⟨T', x', hu, hleaves, hwords⟩ := Net.exists_unfolds_taggedRing n x
  have hbelow : (Net.taggedRing n x).Below 5 :=
    Net.Below.map (Net.below_alone (v := 4) (by decide)) _
  obtain ⟨ctx, hframed, hctx⟩ := Net.Unfolds.exists_framed (F := Framing.outermost n) hu hbelow
    (Net.framed_taggedRing n x)
  have hctx0 : ctx 0 = [] := hctx 0 (by decide)
  -- The groups of a trail are those of the tagged word that it comes from.
  have htally : ∀ {s : List (List (Marker × Bool) × Matcher τ ο)} {b : List (Marker × Bool)}
      {trail : List (TrailItem ο)} {m : Match (List ο)},
      T'.lettered.Walk (Reading.kept Marker.silent) 0 (spell s ++ b.map .inl) 1 →
      trail.map TrailItem.markers = (respellItems (fun p => [p.1]) s).map Prod.fst →
      reconstruct trail = .ok m →
      m.occurrences n = tally ((respellItems Marker.outer s).map Prod.fst) := by
    intro s b trail m hw htrail hm
    have hrun := hframed.run_letters hleaves hw
    rw [letters_append, letters_spell, letters_map_inl, Framing.run_append, hctx0] at hrun
    obtain ⟨d, hd, _⟩ := Option.bind_eq_some_iff.mp hrun
    rw [map_fst_respellItems] at htrail ⊢
    have hfst : (List.flatMap fun p : Marker × Bool => [p.1]) = List.map Prod.fst :=
      funext fun a => List.map_eq_flatMap.symm
    rw [hfst] at htrail
    exact occurrences_of_reconstruct htrail hd hm
  refine ⟨T'.map Marker.outer, x', ?_, hleaves, fun w => ?_⟩
  · have hmap := hu.map Marker.outer
    rwa [Net.map_outer_taggedRing] at hmap
  obtain ⟨ms, hms⟩ := exists_allMatches (.star (.capture n x)) w
  have hmem := mem_allMatches_iff (.star (.capture n x)) hms
  refine ⟨ms, hms, fun c => ?_⟩
  constructor
  · rintro ⟨m, hm, rfl⟩
    obtain ⟨trail, htrail, hm⟩ := (hmem m).mp hm
    obtain ⟨s₀, a, hword, haccepts, hmarkers⟩ := exists_acceptingTrail_iff.mp ⟨trail, htrail, rfl⟩
    obtain ⟨t, hw, ht⟩ := (Net.walk_lettered_map_iff hleaves).mp ((hwords _).mp hword)
    obtain ⟨s, b, rfl⟩ := exists_spell t
    rw [flatMap_respell_spell] at ht
    obtain ⟨rfl, _⟩ := spell_append_inj ht
    refine ⟨respellItems Marker.outer s, b.flatMap Marker.outer, ?_, ?_, ?_⟩
    · exact (Net.walk_lettered_map_iff hleaves).mpr ⟨_, hw, flatMap_respell_spell _ s b⟩
    · rwa [map_snd_respellItems] at haccepts ⊢
    · exact (htally hw hmarkers.symm hm).symm
  · rintro ⟨s₁, a, hw, haccepts, rfl⟩
    obtain ⟨t, hw, ht⟩ := (Net.walk_lettered_map_iff hleaves).mp hw
    obtain ⟨s, b, rfl⟩ := exists_spell t
    rw [flatMap_respell_spell] at ht
    obtain ⟨rfl, _⟩ := spell_append_inj ht
    have hword := (hwords _).mpr
      ((Net.walk_lettered_map_iff hleaves).mpr ⟨_, hw, flatMap_respell_spell _ s b⟩)
    rw [map_snd_respellItems] at haccepts
    obtain ⟨trail, htrail, hmarkers⟩ := exists_acceptingTrail_iff.mpr
      ⟨_, _, hword, by rwa [map_snd_respellItems], rfl⟩
    obtain ⟨m, hm⟩ := exists_reconstruct (.star (.capture n x)) htrail
    exact ⟨m, (hmem m).mpr ⟨trail, htrail, hm⟩, htally hw hmarkers hm⟩

end

end TokenPattern
