import TokenPattern.Proofs.Frontier.Crossings
import TokenPattern.Proofs.Graph.Operators
import TokenPattern.Proofs.Groups

/-!
# Laws of patterns that hold for all results

Textbook laws of patterns speak of languages.  Those in this file speak of everything that a program
tells: the matches with their groups and their multiplicity, the errors under all limits, and the sizes
of all frontiers.

* `runAlike_concat_assoc` — concatenation is associative.
* `runAlike_stacked` — optional operators directly inside each other collapse.
* `allMatches_alt_maybe` — the matches of an alternative are those of both sides together, and those of
  an option are those of its body, but for the empty input, which matches once at most.

All of them are laws of the words of graphs (`markedWords_concat` and those after it), since these words
settle the results (`runAlike_of_markedWords_eq`).
-/

namespace TokenPattern

universe u v

section

variable {τ ο : Type}

/-! ## Results up to order -/

/-- Results that differ in nothing but the order of the matches. -/
inductive SameResults {T : Type} :
    Except MatchError (List T) → Except MatchError (List T) → Prop
  | ok {ms ms' : List T} : ms.Perm ms' → SameResults (.ok ms) (.ok ms')
  | error (x : MatchError) : SameResults (.error x) (.error x)

/-- Whether two patterns have the same results under all limits, and frontiers of the same sizes. -/
structure RunAlike (e e' : Expr (Matcher τ ο)) : Prop where
  results : ∀ limits w, SameResults (((Program.compile e).withLimits limits).allMatches w)
    (((Program.compile e').withLimits limits).allMatches w)
  alive : ∀ w k, alive (Graph.ofExpr e) w k = alive (Graph.ofExpr e') w k

/-- The match of a trail without nodes. -/
def rebuild (c : List (List Marker × ο)) : Except MatchError (Match (List ο)) :=
  (Replay.items (c.map Prod.snd) 0 Replay.initial (c.map Prod.fst)).map
    (Replay.finish (c.map Prod.snd))

lemma rebuild_map_crossing (trail : List (TrailItem ο)) :
    rebuild (trail.map TrailItem.crossing) = reconstruct trail := by
  rw [rebuild, List.map_map, List.map_map, reconstruct_eq_replay, replay]
  rfl

lemma map_eq_map_ok_of_forall₂ {χ ψ ε : Type} {f : χ → Except ε ψ} {l : List χ} {ys : List ψ}
    (h : List.Forall₂ (fun x y => f x = .ok y) l ys) : l.map f = ys.map .ok := by
  induction h with
  | nil => rfl
  | cons hx _ ih => rw [List.map_cons, List.map_cons, hx, ih]

lemma perm_of_perm_map_ok {ψ ε : Type} {ys ys' : List ψ}
    (h : (ys.map (Except.ok (ε := ε))).Perm (ys'.map .ok)) : ys.Perm ys' := by
  have hvalues : ∀ l : List ψ, (l.map (Except.ok (ε := ε))).filterMap Except.toOption = l := by
    intro l
    rw [List.filterMap_map]
    exact List.filterMap_some
  have hperm := h.filterMap Except.toOption
  rwa [hvalues, hvalues] at hperm

variable {e e' : Expr (Matcher τ ο)}

/-- The matches of a run that does not fail are settled by its trails without nodes. -/
lemma exists_allMatches_map (e : Expr (Matcher τ ο)) {limits : Limits} {w : List τ}
    (h : paths (Graph.ofExpr e) limits w =
      .ok ((acceptingTrails (Graph.ofExpr e) w).map AcceptingPath.ofTrail)) :
    ∃ ms, ((Program.compile e).withLimits limits).allMatches w = .ok ms ∧
      (crossings (Graph.ofExpr e) w).map rebuild = ms.map .ok := by
  obtain ⟨ms, hms, hall⟩ := exists_allMatches_of_paths e h
  refine ⟨ms, hms, ?_⟩
  rw [← map_eq_map_ok_of_forall₂ hall, crossings, List.map_map]
  exact List.map_congr_left fun trail _ => rebuild_map_crossing trail

lemma allMatches_of_run_eq_error {limits : Limits} {w : List τ} {x : MatchError}
    (h : run (Graph.ofExpr e) limits w = .error x) :
    ((Program.compile e).withLimits limits).allMatches w = .error x := by
  have hpaths : ((Program.compile e).withLimits limits).paths w =
      (run (Graph.ofExpr e) limits w).map _ := rfl
  rw [Program.allMatches, hpaths, h]
  rfl

/-- Runs that do not fail have the same results if they have the same trails without nodes. -/
lemma sameResults_of_paths {limits : Limits} {w : List τ}
    (hperm : (crossings (Graph.ofExpr e) w).Perm (crossings (Graph.ofExpr e') w))
    (h : paths (Graph.ofExpr e) limits w =
      .ok ((acceptingTrails (Graph.ofExpr e) w).map AcceptingPath.ofTrail))
    (h' : paths (Graph.ofExpr e') limits w =
      .ok ((acceptingTrails (Graph.ofExpr e') w).map AcceptingPath.ofTrail)) :
    SameResults (((Program.compile e).withLimits limits).allMatches w)
      (((Program.compile e').withLimits limits).allMatches w) := by
  obtain ⟨ms, hms, hmap⟩ := exists_allMatches_map e h
  obtain ⟨ms', hms', hmap'⟩ := exists_allMatches_map e' h'
  rw [hms, hms']
  refine .ok (perm_of_perm_map_ok (ε := MatchError) ?_)
  rw [← hmap, ← hmap']
  exact hperm.map rebuild

/-- A limit that no frontier exceeds changes nothing. -/
lemma paths_of_alive_le {g : Graph (Matcher τ ο)} {max : Nat} {w : List τ}
    (h : ∀ k, 1 ≤ k → k ≤ w.length → alive g w k ≤ max) :
    paths g ⟨some max⟩ w = .ok ((acceptingTrails g w).map AcceptingPath.ofTrail) := by
  rw [← paths_unbounded, paths, run_eq_unbounded g h, paths]

/-- **The words of a graph settle what a program does.** -/
theorem runAlike_of_markedWords_eq (h : (Graph.ofExpr e.indexed).markedWords =
    (Graph.ofExpr e'.indexed).markedWords) : RunAlike e e' := by
  have halive : ∀ w k, alive (Graph.ofExpr e) w k = alive (Graph.ofExpr e') w k := alive_congr h
  have hperm : ∀ w, (crossings (Graph.ofExpr e) w).Perm (crossings (Graph.ofExpr e') w) :=
    fun w => perm_crossings fun s _ => by rw [Graph.Ends, Graph.Ends, h]
  refine ⟨fun limits w => ?_, halive⟩
  obtain ⟨_ | max⟩ := limits
  · exact sameResults_of_paths (hperm w) (paths_unbounded _ w) (paths_unbounded _ w)
  · by_cases hover : ∃ k, 1 ≤ k ∧ k ≤ w.length ∧ max < alive (Graph.ofExpr e) w k
    · obtain ⟨k, ⟨hk, hlen, hlt⟩, hfirst⟩ := exists_first_over hover
      have herr := run_eq_error (Graph.ofExpr e) hk hlen hlt hfirst
      simp only [halive] at hlt hfirst
      have herr' := run_eq_error (Graph.ofExpr e') hk hlen hlt hfirst
      rw [allMatches_of_run_eq_error herr, allMatches_of_run_eq_error herr']
      exact .error _
    · have hle : ∀ k, 1 ≤ k → k ≤ w.length → alive (Graph.ofExpr e) w k ≤ max :=
        fun k hk hlen => Nat.le_of_not_lt fun hlt => hover ⟨k, hk, hlen, hlt⟩
      refine sameResults_of_paths (hperm w) (paths_of_alive_le hle) (paths_of_alive_le ?_)
      simpa only [halive] using hle

/-! ## Concatenation -/

/-- **Concatenation is associative** in everything that a program tells. -/
theorem runAlike_concat_assoc (a b c : Expr (Matcher τ ο)) :
    RunAlike (a + b + c) (a + (b + c)) := by
  refine runAlike_of_markedWords_eq ?_
  have hindex : 0 + (a.leafCount + b.leafCount) = 0 + a.leafCount + b.leafCount :=
    (Nat.add_assoc _ _ _).symm
  show (Graph.ofExpr (.concat (.concat (a.indexFrom 0) (b.indexFrom (0 + a.leafCount)))
      (c.indexFrom (0 + (a.leafCount + b.leafCount))))).markedWords =
    (Graph.ofExpr (.concat (a.indexFrom 0) (.concat (b.indexFrom (0 + a.leafCount))
      (c.indexFrom (0 + a.leafCount + b.leafCount))))).markedWords
  simp only [Graph.markedWords_concat, hindex, mul_assoc]

/-! ## Stacked operators -/

/-- **Optional operators directly inside each other collapse**: they multiply neither matches nor
explorers. -/
theorem runAlike_stacked (x : Expr (Matcher τ ο)) :
    RunAlike (.star (.star x)) (.star x) ∧ RunAlike (.star (.maybe x)) (.star x) ∧
      RunAlike (.maybe (.star x)) (.star x) ∧ RunAlike (.maybe (.maybe x)) (.maybe x) :=
  ⟨runAlike_of_markedWords_eq (Graph.markedWords_star_star x.indexed),
    runAlike_of_markedWords_eq (Graph.markedWords_star_maybe x.indexed),
    runAlike_of_markedWords_eq (Graph.markedWords_maybe_star x.indexed),
    runAlike_of_markedWords_eq (Graph.markedWords_maybe_maybe x.indexed)⟩

/-! ## Alternatives and options -/

/-- The words of an alternative are those of both sides. -/
lemma Graph.ends_alt_iff {α : Type u} {l r : Expr α} {s : List (List Marker × α)} :
    (ofExpr (.alt l r)).Ends s ↔ (ofExpr l).Ends s ∨ (ofExpr r).Ends s := by
  simp only [Ends, markedWords_alt, Language.mem_add, exists_or]

/-- The words of an option are those of its body, and the empty one. -/
lemma Graph.ends_maybe_iff {α : Type u} {x : Expr α} {s : List (List Marker × α)} :
    (ofExpr (.maybe x)).Ends s ↔ s = [] ∨ (ofExpr x).Ends s := by
  simp only [Ends, markedWords_maybe, Language.mem_add, Language.mem_one, exists_or]
  refine or_congr_left ⟨?_, ?_⟩
  · rintro ⟨last, h⟩
    have hnil : spell s ++ last.map .inl = spell [] ++ [].map .inl := h
    exact (spell_append_inj hnil).1
  · rintro rfl
    exact ⟨[], rfl⟩

/-- Numbering from a higher number. -/
lemma Expr.indexFrom_add {α : Type u} (e : Expr α) (k n : Nat) :
    e.indexFrom (k + n) = (e.indexFrom k).map fun l => (l.1, l.2 + n) := by
  induction e generalizing k with
  | leaf m => rfl
  | concat l r ihl ihr => rw [indexFrom, indexFrom, map, ihl, Nat.add_right_comm, ihr]
  | alt l r ihl ihr => rw [indexFrom, indexFrom, map, ihl, Nat.add_right_comm, ihr]
  | maybe x ih => rw [indexFrom, indexFrom, map, ih]
  | star x ih => rw [indexFrom, indexFrom, map, ih]
  | capture n x ih => rw [indexFrom, indexFrom, map, ih]

/-- A sequence with higher numbers of leaves. -/
def renumbered {α : Type u} (n : Nat) (s : List (List Marker × (α × Nat))) :
    List (List Marker × (α × Nat)) := s.map fun i => (i.1, (i.2.1, i.2.2 + n))

lemma unnumbered_renumbered {α : Type u} (n : Nat) (s : List (List Marker × (α × Nat))) :
    unnumbered (renumbered n s) = unnumbered s := by
  rw [unnumbered, renumbered, List.map_map, unnumbered]
  rfl

lemma renumbered_injective {α : Type u} (n : Nat) :
    Function.Injective (renumbered (α := α) n) := by
  refine List.map_injective_iff.mpr fun i j h => ?_
  simp only [Prod.mk.injEq, Nat.add_right_cancel_iff] at h
  exact Prod.ext h.1 (Prod.ext h.2.1 h.2.2)

/-- The words of a numbered alternative: the numbers of the right side come after those of the left. -/
lemma ends_indexed_alt_iff {α : Type u} {a b : Expr α} {s : List (List Marker × (α × Nat))} :
    (Graph.ofExpr (Expr.alt a b).indexed).Ends s ↔ (Graph.ofExpr a.indexed).Ends s ∨
      ∃ s', (Graph.ofExpr b.indexed).Ends s' ∧ renumbered a.leafCount s' = s := by
  have hindex : (Expr.alt a b).indexed =
      .alt a.indexed (b.indexed.map fun l => (l.1, l.2 + a.leafCount)) :=
    congrArg (Expr.alt a.indexed) (b.indexFrom_add 0 a.leafCount)
  rw [hindex, Graph.ends_alt_iff, Graph.ends_map_iff]
  exact Iff.rfl

lemma lt_leafCount_of_ends {α : Type u} {e : Expr α} {s : List (List Marker × (α × Nat))}
    (h : (Graph.ofExpr e.indexed).Ends s) {i : List Marker × (α × Nat)} (hi : i ∈ s) :
    i.2.2 < e.leafCount := by
  obtain ⟨m, l, k⟩ := i
  have hmem : (l, k) ∈ e.indexed.leaves := h.mem_leaves hi
  rw [Expr.indexed, Expr.leaves_indexFrom, List.mk_mem_zipIdx_iff_getElem?] at hmem
  rw [← Expr.length_leaves]
  exact (List.getElem?_eq_some_iff.mp hmem).1

/-- **The trails of an alternative** are those of both sides together. -/
lemma perm_crossings_alt (a b : Expr (Matcher τ ο)) {w : List τ} (hw : w ≠ []) :
    (crossings (Graph.ofExpr (.alt a b)) w).Perm
      (crossings (Graph.ofExpr a) w ++ crossings (Graph.ofExpr b) w) := by
  obtain ⟨seqs, hnodup, hmem, hperm⟩ := exists_perm_crossings (.alt a b) w
  obtain ⟨as, hnodupA, hmemA, hpermA⟩ := exists_perm_crossings a w
  obtain ⟨bs, hnodupB, hmemB, hpermB⟩ := exists_perm_crossings b w
  have hdisjoint : List.Disjoint as (bs.map (renumbered a.leafCount)) := by
    intro s hs hs'
    obtain ⟨s', _, rfl⟩ := List.mem_map.mp hs'
    obtain ⟨hends, hlen⟩ := (hmemA _).mp hs
    rw [renumbered, List.length_map] at hlen
    obtain ⟨i, hi⟩ := List.exists_mem_of_length_pos (hlen ▸ List.length_pos_iff.mpr hw)
    have hlt := lt_leafCount_of_ends hends (List.mem_map_of_mem hi)
    exact Nat.not_lt.mpr (Nat.le_add_left _ _) hlt
  have hnodup' : (as ++ bs.map (renumbered a.leafCount)).Nodup :=
    List.nodup_append'.mpr ⟨hnodupA, hnodupB.map (renumbered_injective _), hdisjoint⟩
  have hseqs : seqs.Perm (as ++ bs.map (renumbered a.leafCount)) :=
    (List.perm_ext_iff_of_nodup hnodup hnodup').mpr fun s => by
      have hlen : ∀ s' : List (List Marker × (Matcher τ ο × Nat)),
          (renumbered a.leafCount s').length = s'.length := fun _ => List.length_map _
      rw [hmem, ends_indexed_alt_iff, List.mem_append, hmemA, List.mem_map, or_and_right]
      refine or_congr_right ⟨?_, ?_⟩
      · rintro ⟨⟨s', hs', rfl⟩, hw⟩
        exact ⟨s', (hmemB s').mpr ⟨hs', (hlen s').symm.trans hw⟩, rfl⟩
      · rintro ⟨s', hs', rfl⟩
        obtain ⟨hs', hw⟩ := (hmemB s').mp hs'
        exact ⟨⟨s', hs', rfl⟩, (hlen s').trans hw⟩
  refine hperm.trans ((hseqs.flatMap_right _).trans ?_)
  rw [List.flatMap_append, List.flatMap_map]
  simp only [unnumbered_renumbered]
  exact hpermA.symm.append hpermB.symm

/-- The trails of an option are those of its body. -/
lemma perm_crossings_maybe (a : Expr (Matcher τ ο)) {w : List τ} (hw : w ≠ []) :
    (crossings (Graph.ofExpr (.maybe a)) w).Perm (crossings (Graph.ofExpr a) w) := by
  refine perm_crossings fun s hs => ?_
  have hne : s ≠ [] := by
    rintro rfl
    exact hw (List.length_eq_zero_iff.mp hs.symm)
  exact Graph.ends_maybe_iff.trans (or_iff_right hne)

/-- A run may stop at once if the empty sequence is a word. -/
lemma accepts_initial_iff : (Graph.ofExpr e).accepts NodeId.initial = true ↔
    (Graph.ofExpr e).Ends [] := by
  rw [Graph.ends_iff_exists_route]
  constructor
  · exact fun h => ⟨[], trivial, h, rfl⟩
  · rintro ⟨r, _, hacc, hitems⟩
    obtain rfl : r = [] := List.map_eq_nil_iff.mp hitems
    exact hacc

/-- On the empty input there is one match without groups, or none. -/
lemma allMatches_nil (e : Expr (Matcher τ ο)) :
    ((Program.compile e).withLimits Limits.unbounded).allMatches [] =
      .ok (if (Graph.ofExpr e).accepts NodeId.initial then [.mk 0 [] []] else []) := by
  obtain ⟨ms, hms, hmap⟩ := exists_allMatches_map e (paths_unbounded _ [])
  have hcross : crossings (Graph.ofExpr e) [] =
      if (Graph.ofExpr e).accepts NodeId.initial then [[]] else [] := by
    rw [crossings, acceptingTrails, trailsFrom, List.filter_singleton, trailEnd]
    cases (Graph.ofExpr e).accepts NodeId.initial with
    | true => rfl
    | false => rfl
  have hempty : rebuild ([] : List (List Marker × ο)) = .ok (.mk 0 [] []) := by
    show Except.ok (Replay.finish [] Replay.initial) = _
    rw [Replay.finish, Replay.initial, Replay.closeAll]
    rfl
  rw [hcross] at hmap
  rw [hms]
  split_ifs at hmap ⊢ with hacc
  · obtain ⟨m, rfl, hm⟩ := List.map_eq_singleton_iff.mp hmap.symm
    rw [Except.ok.inj (hm.trans hempty)]
  · rw [List.map_eq_nil_iff.mp hmap.symm]

lemma isMatch_nil (e : Expr (Matcher τ ο)) :
    ((Program.compile e).withLimits Limits.unbounded).isMatch [] =
      .ok ((Graph.ofExpr e).accepts NodeId.initial) := by
  rw [Program.isMatch_eq]
  show Except.ok (#[Explorer.initial].any fun x : Explorer ο => (Graph.ofExpr e).accepts x.node) = _
  simp [Explorer.initial]

lemma accepts_initial_alt (a b : Expr (Matcher τ ο)) :
    (Graph.ofExpr (.alt a b)).accepts NodeId.initial =
      ((Graph.ofExpr a).accepts NodeId.initial || (Graph.ofExpr b).accepts NodeId.initial) := by
  rw [Bool.eq_iff_iff, Bool.or_eq_true, accepts_initial_iff, accepts_initial_iff,
    accepts_initial_iff, Graph.ends_alt_iff]

/-- **Alternatives and options add up.**  On an input that is not empty, the matches of an alternative
are those of one side and those of the other, and the matches of an option are those of its body.  On
the empty input, an alternative has one match if a side accepts it, and none otherwise; an option has
one match. -/
theorem allMatches_alt_maybe (a b : Expr (Matcher τ ο)) :
    let program (e : Expr (Matcher τ ο)) := (Program.compile e).withLimits Limits.unbounded
    (∀ t rest, ∃ as bs ms ns, (program a).allMatches (t :: rest) = .ok as ∧
      (program b).allMatches (t :: rest) = .ok bs ∧
      (program (a ||| b)).allMatches (t :: rest) = .ok ms ∧ ms.Perm (as ++ bs) ∧
      (program (.maybe a)).allMatches (t :: rest) = .ok ns ∧ ns.Perm as) ∧
    (∃ va vb, (program a).isMatch [] = .ok va ∧ (program b).isMatch [] = .ok vb ∧
      (program (a ||| b)).allMatches [] = .ok (if va || vb then [.mk 0 [] []] else [])) ∧
    (program (.maybe a)).allMatches [] = .ok [.mk 0 [] []] := by
  intro program
  refine ⟨fun t rest => ?_, ?_, ?_⟩
  · have hw : t :: rest ≠ [] := List.cons_ne_nil t rest
    obtain ⟨as, has, hmapA⟩ := exists_allMatches_map a (paths_unbounded _ (t :: rest))
    obtain ⟨bs, hbs, hmapB⟩ := exists_allMatches_map b (paths_unbounded _ (t :: rest))
    obtain ⟨ms, hms, hmap⟩ := exists_allMatches_map (.alt a b) (paths_unbounded _ (t :: rest))
    obtain ⟨ns, hns, hmapN⟩ := exists_allMatches_map (.maybe a) (paths_unbounded _ (t :: rest))
    refine ⟨as, bs, ms, ns, has, hbs, hms, perm_of_perm_map_ok (ε := MatchError) ?_, hns,
      perm_of_perm_map_ok (ε := MatchError) ?_⟩
    · rw [List.map_append, ← hmap, ← hmapA, ← hmapB, ← List.map_append]
      exact (perm_crossings_alt a b hw).map rebuild
    · rw [← hmapN, ← hmapA]
      exact (perm_crossings_maybe a hw).map rebuild
  · refine ⟨_, _, isMatch_nil a, isMatch_nil b, ?_⟩
    rw [← accepts_initial_alt]
    exact allMatches_nil _
  · rw [show (program (.maybe a)).allMatches [] = _ from allMatches_nil _, if_pos]
    exact accepts_initial_iff.mpr (Graph.ends_maybe_iff.mpr (Or.inl rfl))

end

end TokenPattern
