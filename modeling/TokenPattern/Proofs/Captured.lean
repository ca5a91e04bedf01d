import TokenPattern.Proofs.Groups
import TokenPattern.Proofs.Match.Cutoff

/-!
# What captured groups hold

A group is found in a match by the names that lead to it (`Match.groupsAt`), and a capture in a
pattern likewise (`Expr.bodiesAt`).  `covers_of_mem_groupsAt` says that behind every group of a match
there is a capture with the same names, and that the body of this capture matches the tokens under
the group.

**Replaying derivations.**  A derivation opens and closes its groups like brackets.  Replaying it
leaves the open groups as they were and adds closed groups to the innermost of them, each of which
mirrors a capture (`reads_of_mem_derivations`).  The induction is on the pattern; only a capture
touches the open groups, and it closes what it opens.

**The last boundaries.**  The trail of a match is a derivation without its last boundaries.  That it
has no more groups than the whole derivation is in `Replay.part_finish`.
-/

namespace TokenPattern

open scoped Computability

universe u

/-! ## Captures by names -/

namespace Expr

variable {α : Type u}

/-- The captures that no other capture encloses, each with its name and its body. -/
def captures : Expr α → List (String × Expr α)
  | leaf _ => []
  | concat l r | alt l r => l.captures ++ r.captures
  | maybe x | star x => x.captures
  | capture n x => [(n, x)]

/-- The bodies of the captures found by following names inwards: no capture encloses the first, and
each of the others is directly inside the one before it. -/
def bodiesAt (e : Expr α) : List String → List (Expr α)
  | [] => [e]
  | n :: names => (e.captures.filter fun c => c.1 = n).flatMap fun c => c.2.bodiesAt names

lemma mem_bodiesAt_cons_iff {e y : Expr α} {n : String} {names : List String} :
    y ∈ e.bodiesAt (n :: names) ↔ ∃ x, (n, x) ∈ e.captures ∧ y ∈ x.bodiesAt names := by
  simp only [bodiesAt, List.mem_flatMap, List.mem_filter, decide_eq_true_eq]
  constructor
  · rintro ⟨⟨_, x⟩, ⟨hx, rfl⟩, hy⟩
    exact ⟨x, hx, hy⟩
  · rintro ⟨x, hx, hy⟩
    exact ⟨(n, x), ⟨hx, rfl⟩, hy⟩

end Expr

/-! ## Groups and captures -/

section

variable {τ ο : Type}

/-- Whether a group lies over tokens that a pattern matches, and holds their outputs. -/
structure Match.Covers (input : List τ) (outputs : List ο) (x : Expr (Matcher τ ο))
    (g : Match (List ο)) : Prop where
  le : g.start + g.trail.length ≤ input.length
  trail : g.trail = slice outputs g.start (g.start + g.trail.length)
  tokens : slice input g.start (g.start + g.trail.length) ∈ x.language

/-- Whether all groups lie over tokens that the captures with the same names match. -/
def Match.Mirrors (input : List τ) (outputs : List ο) (e : Expr (Matcher τ ο))
    (m : Match (List ο)) : Prop :=
  ∀ names, ∀ g ∈ m.groupsAt names, ∃ x ∈ e.bodiesAt names, g.Covers input outputs x

/-- Whether one of the captures has the name of a group and is mirrored by it. -/
def Fits (input : List τ) (outputs : List ο) (captures : List (String × Expr (Matcher τ ο)))
    (g : String × Match (List ο)) : Prop :=
  ∃ x, (g.1, x) ∈ captures ∧ g.2.Mirrors input outputs x

variable {input : List τ} {outputs : List ο} {e : Expr (Matcher τ ο)} {m m' : Match (List ο)}

lemma Match.Mirrors.intro (h : m.Covers input outputs e)
    (hgroups : ∀ g ∈ m.groups, Fits input outputs e.captures g) : m.Mirrors input outputs e := by
  rintro (_ | ⟨n, names⟩) g hg
  · obtain rfl := List.mem_singleton.mp hg
    exact ⟨e, List.mem_singleton_self e, h⟩
  · obtain ⟨g', hmem, hg⟩ := Match.mem_groupsAt_cons_iff.mp hg
    obtain ⟨x, hx, hmirrors⟩ := hgroups (n, g') hmem
    obtain ⟨y, hy, hcovers⟩ := hmirrors names g hg
    exact ⟨y, Expr.mem_bodiesAt_cons_iff.mpr ⟨x, hx, hy⟩, hcovers⟩

lemma Match.Mirrors.of_part (h : m'.Mirrors input outputs e) (hpart : m.Part m') :
    m.Mirrors input outputs e := by
  intro names g hg
  obtain ⟨g', hg', hstart, htrail⟩ := hpart names g hg
  obtain ⟨x, hx, hle, houtputs, htokens⟩ := h names g' hg'
  rw [hstart, htrail] at hle houtputs htokens
  exact ⟨x, hx, hle, houtputs, htokens⟩

lemma slice_middle {χ : Type} (before v after : List χ) :
    slice (before ++ v ++ after) before.length (before.length + v.length) = v := by
  rw [slice, List.append_assoc, List.drop_left, Nat.add_sub_cancel_left, List.take_left]

/-- The items from `before` to `after` are covered if the tokens in between are matched. -/
lemma covers_slice {before v after : List τ} (hinput : before ++ v ++ after = input)
    (hlen : outputs.length = input.length) (hv : v ∈ e.language)
    (groups : List (String × Match (List ο))) :
    (Match.mk before.length (slice outputs before.length (before.length + v.length))
      groups).Covers input outputs e := by
  have htotal : before.length + v.length + after.length = input.length := by
    rw [← hinput, List.length_append, List.length_append]
  have htrail : (slice outputs before.length (before.length + v.length)).length = v.length := by
    rw [length_slice (by omega), Nat.add_sub_cancel_left]
  have htokens : slice input before.length (before.length + v.length) = v :=
    hinput ▸ slice_middle before v after
  refine ⟨?_, ?_, ?_⟩
  · simp only [Match.start, Match.trail, htrail]
    omega
  · simp only [Match.start, Match.trail, htrail]
  · simp only [Match.start, Match.trail, htrail, htokens]
    exact hv

/-- A match of the whole input is covered if the pattern matches the input. -/
lemma covers_whole (hlen : outputs.length = input.length) (hinput : input ∈ e.language)
    (groups : List (String × Match (List ο))) :
    (Match.mk 0 outputs groups).Covers input outputs e := by
  have hcovers := covers_slice (List.append_nil ([] ++ input)) hlen hinput groups
  have hslice : slice outputs 0 (0 + input.length) = outputs := by
    rw [slice, List.drop_zero, Nat.zero_add, Nat.sub_zero, ← hlen, List.take_length]
  rwa [List.length_nil, hslice] at hcovers

/-! ## Replaying words -/

namespace Replay

variable {α : Type u}

/-- Replays the boundaries in a word of boundaries and leaves, where every leaf is an item and the
first one is item `position`. -/
def word (outputs : List ο) : Nat → Replay ο → List (Marker ⊕ α) → Except MatchError (Replay ο)
  | _, r, [] => .ok r
  | position, r, .inl m :: t => do
    let r ← boundary outputs position r m
    word outputs position r t
  | position, r, .inr _ :: t => word outputs (position + 1) r t

/-- Adds closed groups one after the other. -/
def addAll (r : Replay ο) (gs : List (String × Match (List ο))) : Replay ο :=
  gs.foldl (fun r g => r.add g.1 g.2) r

lemma word_append (position : Nat) (r : Replay ο) (t t' : List (Marker ⊕ α)) :
    word outputs position r (t ++ t') = (do
      let r ← word outputs position r t
      word outputs (position + (t.flatMap Marker.forget).length) r t') := by
  induction t generalizing position r with
  | nil => rfl
  | cons k t ih =>
      cases k with
      | inl m =>
          rw [List.cons_append, word, word]
          cases boundary outputs position r m with
          | error x => rfl
          | ok r' => exact ih position r'
      | inr l =>
          rw [List.cons_append, word, word, ih, List.flatMap_cons, List.length_append,
            show (Marker.forget (.inr l : Marker ⊕ α)).length = 1 from rfl, Nat.add_assoc]

lemma word_map_inl (position : Nat) (r : Replay ο) (a : List Marker) (t : List (Marker ⊕ α)) :
    word outputs position r (a.map .inl ++ t) = (do
      let r ← a.foldlM (boundary outputs position) r
      word outputs position r t) := by
  induction a generalizing r with
  | nil => rfl
  | cons m a ih =>
      rw [List.map_cons, List.cons_append, word, List.foldlM_cons]
      cases boundary outputs position r m with
      | error x => rfl
      | ok r' => exact ih r'

/-- Replaying items is replaying the word that they spell. -/
lemma word_spell (position : Nat) (r : Replay ο) (s : List (List Marker × α)) (a : List Marker) :
    word outputs position r (spell s ++ a.map .inl) = (do
      let r ← items outputs position r (s.map Prod.fst)
      a.foldlM (boundary outputs (position + s.length)) r) := by
  induction s generalizing position r with
  | nil =>
      have h : word outputs position r (a.map .inl ++ ([] : List (Marker ⊕ α))) = _ :=
        word_map_inl position r a []
      rw [List.append_nil] at h
      rw [spell_nil, List.nil_append, h]
      exact bind_pure _
  | cons i s ih =>
      rw [spell_cons, List.append_assoc, word_map_inl, List.map_cons, items, List.length_cons]
      cases i.1.foldlM (boundary outputs position) r with
      | error x => rfl
      | ok r' =>
          show word outputs (position + 1) r' (spell s ++ a.map .inl) = _
          rw [ih, show position + 1 + s.length = position + (s.length + 1) by omega]
          rfl

lemma addAll_append (r : Replay ο) (gs gs' : List (String × Match (List ο))) :
    r.addAll (gs ++ gs') = (r.addAll gs).addAll gs' := List.foldl_append

lemma addAll_of_opened (top : List (String × Match (List ο))) (g : OpenGroup ο)
    (rest : List (OpenGroup ο)) (gs : List (String × Match (List ο))) :
    (⟨top, g :: rest⟩ : Replay ο).addAll gs =
      ⟨top, { g with inside := gs.reverse ++ g.inside } :: rest⟩ := by
  induction gs generalizing g with
  | nil => rfl
  | cons p gs ih =>
      rw [addAll, List.foldl_cons]
      refine (ih _).trans ?_
      simp

lemma addAll_of_not_opened (top gs : List (String × Match (List ο))) :
    (⟨top, []⟩ : Replay ο).addAll gs = ⟨gs.reverse ++ top, []⟩ := by
  induction gs generalizing top with
  | nil => rfl
  | cons p gs ih =>
      rw [addAll, List.foldl_cons]
      refine (ih _).trans ?_
      simp

/-- The match of a word that leaves no group open. -/
lemma finish_addAll (gs : List (String × Match (List ο))) :
    finish outputs ((initial : Replay ο).addAll gs) = .mk 0 outputs (sortGroups gs) := by
  rw [initial, addAll_of_not_opened, List.append_nil, finish, closeAll, List.reverse_reverse]

/-- The boundaries of a group around a word make one group of the groups that the word adds. -/
lemma word_group {position : Nat} {r : Replay ο} {n : String} {t : List (Marker ⊕ α)}
    {gs : List (String × Match (List ο))}
    (h : word outputs position { r with opened := ⟨n, position, []⟩ :: r.opened } t =
      .ok (addAll { r with opened := ⟨n, position, []⟩ :: r.opened } gs)) :
    word outputs position r ([.inl (.start n)] ++ t ++ [.inl (.stop n)]) =
      .ok (r.add n (closed outputs (position + (t.flatMap Marker.forget).length)
        ⟨n, position, gs.reverse⟩)) := by
  have hstop : boundary outputs (position + (t.flatMap Marker.forget).length)
      ⟨r.top, ⟨n, position, gs.reverse⟩ :: r.opened⟩ (.stop n) =
        .ok (r.add n (closed outputs (position + (t.flatMap Marker.forget).length)
          ⟨n, position, gs.reverse⟩)) := if_pos rfl
  rw [addAll_of_opened, List.append_nil] at h
  rw [List.append_assoc]
  show word outputs position { r with opened := ⟨n, position, []⟩ :: r.opened }
    (t ++ [.inl (.stop n)]) = _
  rw [word_append, h]
  exact congrArg (Except.bind · fun r => word outputs _ r ([] : List (Marker ⊕ α))) hstop

/-- Whether replaying a word in front of item `position` adds groups that fit captures, and does
nothing else. -/
def Adds (input : List τ) (outputs : List ο) (captures : List (String × Expr (Matcher τ ο)))
    (position : Nat) (t : List (Marker ⊕ α)) : Prop :=
  ∀ r : Replay ο, ∃ gs, word outputs position r t = .ok (r.addAll gs) ∧
    ∀ g ∈ gs, Fits input outputs captures g

section

variable {captures captures' : List (String × Expr (Matcher τ ο))} {position : Nat}
  {t t' : List (Marker ⊕ α)}

lemma Adds.of_forall (h : ∀ r : Replay ο, word outputs position r t = .ok r) :
    Adds input outputs captures position t :=
  fun r => ⟨[], h r, fun _ hg => absurd hg List.not_mem_nil⟩

lemma Adds.append (h : Adds input outputs captures position t)
    (h' : Adds input outputs captures (position + (t.flatMap Marker.forget).length) t') :
    Adds input outputs captures position (t ++ t') := by
  intro r
  obtain ⟨gs, hgs, hfits⟩ := h r
  obtain ⟨gs', hgs', hfits'⟩ := h' (r.addAll gs)
  refine ⟨gs ++ gs', ?_, fun g hg => ?_⟩
  · rw [word_append, hgs, addAll_append]
    exact hgs'
  · rcases List.mem_append.mp hg with hg | hg
    · exact hfits g hg
    · exact hfits' g hg

lemma Adds.mono (h : Adds input outputs captures position t) (hsub : captures ⊆ captures') :
    Adds input outputs captures' position t := by
  intro r
  obtain ⟨gs, hgs, hfits⟩ := h r
  refine ⟨gs, hgs, fun g hg => ?_⟩
  obtain ⟨x, hx, hmirrors⟩ := hfits g hg
  exact ⟨x, hsub hx, hmirrors⟩

end

/-- A capture around a word adds one group, in which are the groups of the word. -/
lemma Adds.capture {x : Expr (Matcher τ ο)} {before v after : List τ} {t : List (Marker ⊕ α)}
    (h : Adds input outputs x.captures before.length t)
    (hinput : before ++ v ++ after = input) (hlen : outputs.length = input.length)
    (hv : v ∈ x.language) (hleaves : (t.flatMap Marker.forget).length = v.length) (n : String) :
    Adds input outputs [(n, x)] before.length
      ([.inl (.start n)] ++ t ++ [.inl (.stop n)]) := by
  intro r
  obtain ⟨gs, hgs, hfits⟩ := h { r with opened := ⟨n, before.length, []⟩ :: r.opened }
  refine ⟨[(n, _)], word_group hgs, fun g hg => ?_⟩
  obtain rfl := List.mem_singleton.mp hg
  rw [hleaves]
  refine ⟨x, List.mem_singleton_self _,
    Match.Mirrors.intro (covers_slice hinput hlen hv _) fun g hg => hfits g ?_⟩
  rw [← List.reverse_reverse gs]
  exact (sortGroups_perm _).mem_iff.mp hg

end Replay

/-! ## Replaying derivations -/

/-- Whether the tokens that a word accepts are in a language, and replaying the word there adds groups
that fit captures. -/
def Reads (input : List τ) (outputs : List ο) (L : Language τ)
    (captures : List (String × Expr (Matcher τ ο))) (t : List (Marker ⊕ Matcher τ ο)) : Prop :=
  ∀ before v after : List τ, before ++ v ++ after = input → Accepts (t.flatMap Marker.forget) v →
    v ∈ L ∧ Replay.Adds input outputs captures before.length t

namespace Reads

variable {L L' : Language τ} {captures captures' : List (String × Expr (Matcher τ ο))}
  {t t' : List (Marker ⊕ Matcher τ ο)}

lemma mono (h : Reads input outputs L captures t) (hL : L ≤ L') (hsub : captures ⊆ captures') :
    Reads input outputs L' captures' t :=
  fun before v after hinput hv =>
    ⟨hL (h before v after hinput hv).1, (h before v after hinput hv).2.mono hsub⟩

lemma one : Reads input outputs 1 captures [] := by
  intro before v after _ hv
  exact ⟨List.forall₂_nil_left_iff.mp hv, .of_forall fun _ => rfl⟩

lemma mul (h : Reads input outputs L captures t) (h' : Reads input outputs L' captures t') :
    Reads input outputs (L * L') captures (t ++ t') := by
  intro before v after hinput hv
  rw [List.flatMap_append] at hv
  obtain ⟨a, b, ha, hb, rfl⟩ := accepts_append_left.mp hv
  obtain ⟨haL, hadds⟩ := h before a (b ++ after) (by simpa using hinput) ha
  obtain ⟨hbL, hadds'⟩ := h' (before ++ a) b after (by simpa using hinput) hb
  rw [List.length_append, ← ha.length_eq] at hadds'
  exact ⟨Language.append_mem_mul haL hbL, hadds.append hadds'⟩

lemma kstar {T : List (List (Marker ⊕ Matcher τ ο))}
    (h : ∀ t ∈ T, Reads input outputs L captures t) :
    Reads input outputs L∗ captures T.flatten := by
  induction T with
  | nil => exact one.mono one_le_kstar (List.Subset.refl _)
  | cons t T ih =>
      obtain ⟨ht, hT⟩ := List.forall_mem_cons.mp h
      exact (ht.mul (ih hT)).mono mul_kstar_le_kstar (List.Subset.refl _)

lemma leaf (m : Matcher τ ο) : Reads input outputs (Expr.leaf m).language captures [.inr m] := by
  intro before v after _ hv
  obtain ⟨a, _, ha, hnil, rfl⟩ := List.forall₂_cons_left_iff.mp hv
  obtain rfl := List.forall₂_nil_left_iff.mp hnil
  exact ⟨⟨a, rfl, ha⟩, .of_forall fun _ => rfl⟩

lemma capture {x : Expr (Matcher τ ο)} (hlen : outputs.length = input.length)
    (h : Reads input outputs x.language x.captures t) (n : String) :
    Reads input outputs x.language [(n, x)] ([.inl (.start n)] ++ t ++ [.inl (.stop n)]) := by
  intro before v after hinput hv
  have hv' : Accepts (t.flatMap Marker.forget) v := by
    simpa [List.flatMap_append, Marker.forget] using hv
  obtain ⟨hvL, hadds⟩ := h before v after hinput hv'
  exact ⟨hvL, hadds.capture hinput hlen hvL hv'.length_eq n⟩

end Reads

/-- **Replaying a derivation** adds groups that mirror captures, and does nothing else. -/
lemma reads_of_mem_derivations (hlen : outputs.length = input.length)
    {t : List (Marker ⊕ Matcher τ ο)} (ht : t ∈ e.derivations) :
    Reads input outputs e.language e.captures t := by
  induction e generalizing t with
  | leaf m =>
      obtain rfl : t = [.inr m] := ht
      exact .leaf m
  | concat l r ihl ihr =>
      obtain ⟨t, ht, t', ht', rfl⟩ := ht
      exact ((ihl ht).mono le_rfl (List.subset_append_left _ _)).mul
        ((ihr ht').mono le_rfl (List.subset_append_right _ _))
  | alt l r ihl ihr =>
      rcases ht with ht | ht
      · exact (ihl ht).mono (fun _ => Or.inl) (List.subset_append_left _ _)
      · exact (ihr ht).mono (fun _ => Or.inr) (List.subset_append_right _ _)
  | maybe x ih =>
      rcases ht with rfl | ht
      · exact Reads.one.mono (fun _ => Or.inl) (List.Subset.refl _)
      · exact (ih ht).mono (fun _ => Or.inr) (List.Subset.refl _)
  | star x ih =>
      obtain ⟨T, rfl, hT⟩ := ht
      exact .kstar fun t ht => ih (hT t ht)
  | capture n x ih =>
      obtain ⟨_, ⟨_, rfl, t, ht, rfl⟩, _, rfl, rfl⟩ := ht
      exact (ih ht).capture hlen n

/-! ## Matches -/

/-- A trail is replayed to a match that mirrors the pattern. -/
lemma mirrors_of_reconstruct {trail : List (TrailItem ο)}
    (htrail : trail ∈ acceptingTrails (Graph.ofExpr e) input) (hm : reconstruct trail = .ok m) :
    m.Mirrors input m.trail e := by
  obtain ⟨s, a, hword, haccepts, hmarkers⟩ := exists_acceptingTrail_iff.mp ⟨trail, htrail, rfl⟩
  have hlength : s.length = input.length := by
    have h := haccepts.length_eq
    rwa [List.length_map] at h
  have hlen : (trail.map TrailItem.output).length = input.length := by
    have h := congrArg List.length hmarkers
    rw [List.length_map, List.length_map] at h
    rw [List.length_map, ← h, hlength]
  rw [← forget_spell s a] at haccepts
  obtain ⟨hinput, hadds⟩ := reads_of_mem_derivations hlen (Graph.markedWords_ofExpr_le e hword)
    [] input [] (by simp) haccepts
  obtain ⟨gs, hgs, hfits⟩ := hadds Replay.initial
  have hmirrors : (Match.mk 0 (trail.map TrailItem.output) (sortGroups gs)).Mirrors input
      (trail.map TrailItem.output) e :=
    .intro (covers_whole hlen hinput _) fun g hg => hfits g ((sortGroups_perm gs).mem_iff.mp hg)
  rw [← Replay.finish_addAll] at hmirrors
  -- The boundaries behind the last item are in the derivation, but not in the trail.
  rw [Replay.word_spell, hmarkers, List.length_nil, Nat.zero_add, hlength, ← hlen] at hgs
  rw [reconstruct_eq_replay, replay] at hm
  cases hr : Replay.items (trail.map TrailItem.output) 0 Replay.initial
      (trail.map TrailItem.markers) with
  | error x => simp [hr, bind, Except.bind] at hgs
  | ok r =>
      rw [hr] at hgs hm
      obtain rfl := Except.ok.inj hm
      exact hmirrors.of_part (Replay.part_finish hgs)

/-- **Groups hold what captures match.**  Behind every group of a match, found by whatever names, is a
capture that the same names lead to in the pattern; the tokens under the group are matched by the
body of this capture, and the group holds their outputs. -/
theorem covers_of_mem_groupsAt (e : Expr (Matcher τ ο)) {limits : Limits} {input : List τ}
    {ms : List (Match (List ο))}
    (hms : ((Program.compile e).withLimits limits).allMatches input = .ok ms)
    {m : Match (List ο)} (hm : m ∈ ms) {names : List String} {g : Match (List ο)}
    (hg : g ∈ m.groupsAt names) : ∃ x ∈ e.bodiesAt names, g.Covers input m.trail x := by
  obtain ⟨trail, htrail, hreconstruct⟩ := (mem_allMatches_iff e hms m).mp hm
  exact mirrors_of_reconstruct htrail hreconstruct names g hg

end

/-- A word of one letter: neither the word nor the letter is closed when the trail ends. -/
theorem covers_of_mem_groupsAt_letter :
    let e := Expr.capture "word" (.capture "letter" (.leaf (Matcher.exact 'a')))
    ∃ ms m g, ((Program.compile e).withLimits Limits.unbounded).allMatches ['a'] = .ok ms ∧ m ∈ ms ∧
      g ∈ m.groupsAt ["word", "letter"] ∧
        ∃ x ∈ e.bodiesAt ["word", "letter"], g.Covers ['a'] m.trail x := by
  intro e
  have hletter : [.inl (.start "letter"), .inr (Matcher.exact 'a'), .inl (.stop "letter")] ∈
      (Expr.capture "letter" (.leaf (Matcher.exact 'a'))).derivations :=
    ⟨_, ⟨_, rfl, _, rfl, rfl⟩, _, rfl, rfl⟩
  have hword : spell [([.start "word", .start "letter"], Matcher.exact 'a')] ++
      [.stop "letter", .stop "word"].map .inl ∈ (Graph.ofExpr e).markedWords := by
    rw [Graph.markedWords_ofExpr e rfl]
    exact ⟨_, ⟨_, rfl, _, hletter, rfl⟩, _, rfl, rfl⟩
  have haccepts : Accepts [Matcher.exact 'a'] ['a'] := .cons (List.cons_ne_nil _ _) .nil
  obtain ⟨trail, htrail, hmarkers⟩ :=
    exists_acceptingTrail_iff.mpr ⟨_, _, hword, haccepts, rfl⟩
  obtain ⟨ms, hms⟩ := exists_allMatches e ['a']
  obtain ⟨m, hreconstruct⟩ := exists_reconstruct e htrail
  have hm : m ∈ ms := (mem_allMatches_iff e hms m).mpr ⟨trail, htrail, hreconstruct⟩
  have hreplay : ∀ outputs : List Char,
      (Replay.items outputs 0 .initial [[.start "word", .start "letter"]]).map
        (Replay.finish outputs) =
          .ok (Replay.finish outputs ⟨[], [⟨"letter", 0, []⟩, ⟨"word", 0, []⟩]⟩) := fun _ => rfl
  obtain ⟨g, hg⟩ : ∃ g, g ∈ m.groupsAt ["word", "letter"] := by
    rw [reconstruct_eq_replay, replay, hmarkers] at hreconstruct
    obtain rfl := Except.ok.inj ((hreplay _).symm.trans hreconstruct)
    simp [Match.groupsAt, Match.group, Match.groups, Replay.finish, Replay.closeAll, Replay.closed,
      sortGroups, insertGroup]
  exact ⟨ms, m, g, hms, hm, hg, covers_of_mem_groupsAt e hms hm hg⟩

end TokenPattern
