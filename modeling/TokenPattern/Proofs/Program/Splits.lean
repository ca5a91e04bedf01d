import Mathlib.Tactic.IntervalCases
import TokenPattern.Proofs.Captured
import TokenPattern.Proofs.Graph.Operators
import TokenPattern.Proofs.Match.Occurrences

/-!
# Two captures in sequence

Two captures, one behind the other, cut an input in two.  `allMatches_captures` says that the matches
show every cut that the bodies of the captures allow, and no other cut.

**The group that opens last.**  A trail ends with an item, so the boundaries behind its last item are
not replayed.  Among them is the end of the second group; or, if the second body is left with no items,
the end of the first group and all of the second one.  In both cases the group that holds the last item
is open when the trail ends, below whatever groups of its body are open then, and all groups in front
of it are closed (`outline_of_last`).

**Replays inside a group.**  What happens inside an open group does not depend on the group: replaying
there is replaying with nothing open, and putting the result into the group (`word_within`).
-/

namespace TokenPattern

universe u v

/-- The groups on the top level: their names, where they start, and how many items they hold. -/
def Match.outline {ο : Type} (m : Match (List ο)) : List (String × Nat × Nat) :=
  m.groups.map fun g => (g.1, g.2.start, g.2.trail.length)

/-- The groups over `n` items that are cut behind the first `k`, where no group is left over no
items at the end. -/
def cut (x y : String) (k n : Nat) : List (String × Nat × Nat) :=
  (x, 0, k) :: if k < n then [(y, k, n - k)] else []

/-- The groups tell where the items are cut. -/
lemma eq_of_cut_perm {x y : String} {k k' n : Nat} (hk : k ≤ n) (hk' : k' ≤ n)
    (h : (cut x y k n).Perm (cut x y k' n)) : k = k' := by
  have hmem : (x, 0, k) ∈ cut x y k' n := h.subset List.mem_cons_self
  have hlen := h.length_eq
  simp only [cut] at hmem hlen
  split_ifs at hmem hlen with hlt' hlt
  · -- A second group at the start would hold all items, and there would be only one group.
    simp only [List.mem_cons, Prod.mk.injEq, List.not_mem_nil, or_false] at hmem
    omega
  · simp at hlen
  · simp at hlen
  · omega

/-- A word in front of a sequence with a leaf is a part of it. -/
lemma exists_spell_append {κ : Type u} {α : Type v} (t : List (κ ⊕ α)) {s : List (List κ × α)}
    (hs : s ≠ []) : ∃ s', spell s' = t ++ spell s := by
  obtain ⟨s₀, a, rfl⟩ := exists_spell t
  cases s with
  | nil => exact absurd rfl hs
  | cons i s => exact ⟨s₀ ++ (a ++ i.1, i.2) :: s, by simp [spell_append, spell_cons]⟩

namespace Replay

variable {ο : Type} {α : Type u} {outputs : List ο} {position : Nat} {r r' : Replay ο}
  {t t' : List (Marker ⊕ α)}

/-! ## Replays inside a group -/

/-- A replay put into an open group: what it has on its top level comes into the group. -/
def within (top : List (String × Match (List ο))) (g : OpenGroup ο) (r : Replay ο) : Replay ο :=
  ⟨top, r.opened ++ [{ g with inside := r.top ++ g.inside }]⟩

variable {top : List (String × Match (List ο))} {g : OpenGroup ο}

lemma within_add (r : Replay ο) (n : String) (m : Match (List ο)) :
    (r.add n m).within top g = (r.within top g).add n m := by
  obtain ⟨inner, opened⟩ := r
  cases opened with
  | nil => rfl
  | cons h rest => rfl

lemma boundary_within {m : Marker} (h : boundary outputs position r m = .ok r') :
    boundary outputs position (r.within top g) m = .ok (r'.within top g) := by
  cases m with
  | start n =>
      obtain rfl := Except.ok.inj h
      rfl
  | stop n =>
      obtain ⟨inner, opened⟩ := r
      cases opened with
      | nil => simp [boundary] at h
      | cons g' rest =>
          simp only [boundary] at h
          split_ifs at h with hn
          obtain rfl := Except.ok.inj h
          rw [within_add]
          exact if_pos hn

/-- **Inside a group** a word does what it does outside. -/
lemma word_within (h : word outputs position r t = .ok r') :
    word outputs position (r.within top g) t = .ok (r'.within top g) := by
  induction t generalizing position r with
  | nil =>
      obtain rfl := Except.ok.inj h
      rfl
  | cons k t ih =>
      cases k with
      | inr l => exact ih h
      | inl m =>
          rw [word] at h ⊢
          cases hm : boundary outputs position r m with
          | error x => simp [hm, bind, Except.bind] at h
          | ok r₁ =>
              rw [hm] at h
              rw [boundary_within hm]
              exact ih h

lemma exists_word_of_append (h : word outputs position r (t ++ t') = .ok r') :
    ∃ r₁, word outputs position r t = .ok r₁ := by
  rw [word_append] at h
  cases ht : word outputs position r t with
  | error x => simp [ht, bind, Except.bind] at h
  | ok r₁ => exact ⟨r₁, rfl⟩

/-! ## The group that opens last -/

/-- A group below all open groups goes up to the end of the trail. -/
lemma outline_finish_within (outputs : List ο) (top : List (String × Match (List ο)))
    (g : OpenGroup ο) (r : Replay ο) :
    (finish outputs (r.within top g)).outline.Perm
      ((g.name, g.start, outputs.length - g.start) ::
        top.map fun g => (g.1, g.2.start, g.2.trail.length)) := by
  have hclosed := map_closeAll outputs top (r.within top g).opened
  rw [within, List.getLast?_concat] at hclosed
  refine (((sortGroups_perm _).trans (List.reverse_perm _)).map _).trans (List.Perm.of_eq ?_)
  exact hclosed

end Replay

variable {τ ο : Type}

lemma reconstruct_of_word {α : Type u} {trail : List (TrailItem ο)} {s : List (List Marker × α)}
    {r : Replay ο} (hs : trail.map TrailItem.markers = s.map Prod.fst)
    (h : Replay.word (trail.map TrailItem.output) 0 Replay.initial (spell s) = .ok r) :
    reconstruct trail = .ok (Replay.finish (trail.map TrailItem.output) r) := by
  have hitems : Replay.word (trail.map TrailItem.output) 0 Replay.initial
      (spell s ++ [].map .inl) = _ := Replay.word_spell 0 Replay.initial s []
  rw [List.map_nil, List.append_nil, h, ← hs] at hitems
  rw [reconstruct_eq_replay, replay]
  cases hr : Replay.items (trail.map TrailItem.output) 0 Replay.initial
      (trail.map TrailItem.markers) with
  | error x => simp [hr, bind, Except.bind] at hitems
  | ok r' =>
      rw [hr] at hitems
      obtain rfl : r = r' := Except.ok.inj hitems
      rfl

/-- **The group that opens last** goes up to the end of the trail. -/
lemma outline_of_last {α : Type u} {trail : List (TrailItem ο)} {s q : List (List Marker × α)}
    {last l : List Marker} {n : String} (before : List (Marker ⊕ α))
    {top : List (String × Match (List ο))} {r : Replay ο}
    (hs : trail.map TrailItem.markers = s.map Prod.fst)
    (hword : spell s ++ last.map .inl = before ++ .inl (.start n) :: (spell q ++ l.map .inl))
    (hq : q ≠ [])
    (hbefore : Replay.word (trail.map TrailItem.output) 0 Replay.initial before = .ok ⟨top, []⟩)
    (hinside : Replay.word (trail.map TrailItem.output) (before.flatMap Marker.forget).length
      Replay.initial (spell q) = .ok r) :
    ∃ m, reconstruct trail = .ok m ∧
      m.outline.Perm ((n, (before.flatMap Marker.forget).length,
        trail.length - (before.flatMap Marker.forget).length) ::
          top.map fun g => (g.1, g.2.start, g.2.trail.length)) := by
  obtain ⟨s', hs'⟩ := exists_spell_append (before ++ [.inl (.start n)]) hq
  obtain ⟨rfl, -⟩ : s = s' ∧ last = l := spell_append_inj (by simp [hs', hword])
  have hreplay : Replay.word (trail.map TrailItem.output) 0 Replay.initial (spell s) =
      .ok (r.within top ⟨n, (before.flatMap Marker.forget).length, []⟩) := by
    rw [hs', List.append_assoc, Replay.word_append, hbefore, Nat.zero_add]
    exact Replay.word_within (g := ⟨n, _, []⟩) hinside
  refine ⟨_, reconstruct_of_word hs hreplay, ?_⟩
  have hlen : (trail.map TrailItem.output).length = trail.length := List.length_map _
  rw [← hlen]
  exact Replay.outline_finish_within _ top _ r

/-! ## Two captures -/

section

variable {α : Type u} {x y : String} {input : List τ} {t ta tb : List (Marker ⊕ α)}
  {captures captures' : List (String × Expr (Matcher τ ο))}

/-- A word with the boundaries of a group around it. -/
def Marker.around (n : String) (t : List (Marker ⊕ α)) : List (Marker ⊕ α) :=
  [.inl (.start n)] ++ t ++ [.inl (.stop n)]

lemma forget_around (n : String) (t : List (Marker ⊕ α)) :
    (Marker.around n t).flatMap Marker.forget = t.flatMap Marker.forget := by
  rw [Marker.around, List.flatMap_append, List.flatMap_append]
  exact List.append_nil _

variable {trail : List (TrailItem ο)} {s : List (List Marker × α)} {last : List Marker}

/-- The items of a trail through two captures are those in the first and those in the second. -/
lemma length_of_captures (hs : trail.map TrailItem.markers = s.map Prod.fst)
    (hword : spell s ++ last.map .inl = Marker.around x ta ++ Marker.around y tb) :
    trail.length = (ta.flatMap Marker.forget).length + (tb.flatMap Marker.forget).length := by
  have hitems := congrArg List.length hs
  rw [List.length_map, List.length_map] at hitems
  have hforget := congrArg (List.flatMap Marker.forget) hword
  rw [forget_spell, List.flatMap_append, forget_around, forget_around] at hforget
  rw [← List.length_append, ← hforget, List.length_map, hitems]

/-- If no item is left for the second capture, the first one holds all items. -/
lemma outline_of_captures_nil {lb : List Marker} (hne : trail ≠ [])
    (hs : trail.map TrailItem.markers = s.map Prod.fst)
    (hword : spell s ++ last.map .inl = Marker.around x ta ++ Marker.around y (lb.map .inl))
    (hta : Replay.Adds input (trail.map TrailItem.output) captures 0 ta) :
    ∃ m, reconstruct trail = .ok m ∧ m.outline.Perm [(x, 0, trail.length)] := by
  have hlen : trail.length = (ta.flatMap Marker.forget).length + _ := length_of_captures hs hword
  have hlb : ((lb.map Sum.inl : List (Marker ⊕ α)).flatMap Marker.forget).length = 0 := by
    rw [← List.nil_append (lb.map Sum.inl), ← spell_nil, forget_spell]
    rfl
  obtain ⟨sa, la, rfl⟩ := exists_spell ta
  rw [hlb, forget_spell, List.length_map] at hlen
  have hsa : sa ≠ [] := by
    rintro rfl
    exact hne (List.length_eq_zero_iff.mp hlen)
  obtain ⟨gs, hgs, -⟩ := hta Replay.initial
  obtain ⟨r, hr⟩ := Replay.exists_word_of_append hgs
  exact outline_of_last [] (l := la ++ .stop x :: .start y :: (lb ++ [.stop y])) hs
    (hword.trans (by simp [Marker.around])) hsa rfl hr

/-- Otherwise the first capture is closed in front of the second one. -/
lemma outline_of_captures_spell {sb : List (List Marker × α)} {lb : List Marker} (hsb : sb ≠ [])
    (hs : trail.map TrailItem.markers = s.map Prod.fst)
    (hword : spell s ++ last.map .inl =
      Marker.around x ta ++ Marker.around y (spell sb ++ lb.map .inl))
    (hta : Replay.Adds input (trail.map TrailItem.output) captures 0 ta)
    (htb : Replay.Adds input (trail.map TrailItem.output) captures'
      (ta.flatMap Marker.forget).length (spell sb ++ lb.map .inl)) :
    ∃ m, reconstruct trail = .ok m ∧
      m.outline.Perm [(x, 0, (ta.flatMap Marker.forget).length),
        (y, (ta.flatMap Marker.forget).length,
          trail.length - (ta.flatMap Marker.forget).length)] := by
  have hle : (ta.flatMap Marker.forget).length ≤ (trail.map TrailItem.output).length := by
    rw [List.length_map, length_of_captures hs hword]
    exact Nat.le_add_right _ _
  obtain ⟨gs, hgs, -⟩ := hta { Replay.initial with opened := [⟨x, 0, []⟩] }
  have hfirst : Replay.word (trail.map TrailItem.output) 0 Replay.initial (Marker.around x ta) =
      .ok ⟨[(x, Replay.closed (trail.map TrailItem.output)
        (0 + (ta.flatMap Marker.forget).length) ⟨x, 0, gs.reverse⟩)], []⟩ :=
    Replay.word_group hgs
  obtain ⟨gs', hgs', -⟩ := htb Replay.initial
  rw [← forget_around x] at hgs'
  obtain ⟨r, hr⟩ := Replay.exists_word_of_append hgs'
  obtain ⟨m, hm, houtline⟩ := outline_of_last (Marker.around x ta) (n := y)
    (l := lb ++ [.stop y]) hs (hword.trans (by simp [Marker.around])) hsb hfirst hr
  have hclosed : (Replay.closed (trail.map TrailItem.output)
      (0 + (ta.flatMap Marker.forget).length) ⟨x, 0, gs.reverse⟩).trail.length =
        (ta.flatMap Marker.forget).length := by
    rw [Nat.zero_add]
    exact length_slice hle 0
  refine ⟨m, hm, houtline.trans ?_⟩
  rw [forget_around, List.map_singleton, hclosed]
  exact List.Perm.swap _ _ _

/-- **The groups of a trail through two captures**, given what it does inside of them. -/
lemma outline_of_captures (hne : trail ≠ []) (hs : trail.map TrailItem.markers = s.map Prod.fst)
    (hword : spell s ++ last.map .inl = Marker.around x ta ++ Marker.around y tb)
    (hta : Replay.Adds input (trail.map TrailItem.output) captures 0 ta)
    (htb : Replay.Adds input (trail.map TrailItem.output) captures'
      (ta.flatMap Marker.forget).length tb) :
    ∃ m, reconstruct trail = .ok m ∧
      m.outline.Perm (cut x y (ta.flatMap Marker.forget).length trail.length) := by
  have hlen := length_of_captures hs hword
  obtain ⟨sb, lb, rfl⟩ := exists_spell tb
  rw [forget_spell, List.length_map] at hlen
  by_cases hsb : sb = []
  · subst hsb
    rw [cut, ← hlen.trans (Nat.add_zero _), if_neg (Nat.lt_irrefl _)]
    exact outline_of_captures_nil hne hs hword hta
  · have hpos : 0 < sb.length := List.length_pos_iff.mpr hsb
    rw [cut, if_pos (by omega)]
    exact outline_of_captures_spell hsb hs hword hta htb

end

section

variable {a b : Expr (Matcher τ ο)} {x y : String} {w : List τ}

/-- The words of two captures. -/
lemma mem_markedWords_captures_iff {α : Type u} {a b : Expr α} {t : List (Marker ⊕ α)} :
    t ∈ (Graph.ofExpr (.concat (.capture x a) (.capture y b))).markedWords ↔
      ∃ ta ∈ (Graph.ofExpr a).markedWords, ∃ tb ∈ (Graph.ofExpr b).markedWords,
        t = Marker.around x ta ++ Marker.around y tb := by
  rw [Graph.markedWords_concat, Graph.markedWords_capture, Graph.markedWords_capture]
  constructor
  · rintro ⟨_, ⟨_, ⟨_, rfl, ta, hta, rfl⟩, _, rfl, rfl⟩,
      _, ⟨_, ⟨_, rfl, tb, htb, rfl⟩, _, rfl, rfl⟩, rfl⟩
    exact ⟨ta, hta, tb, htb, rfl⟩
  · rintro ⟨ta, hta, tb, htb, rfl⟩
    exact ⟨_, ⟨_, ⟨_, rfl, ta, hta, rfl⟩, _, rfl, rfl⟩,
      _, ⟨_, ⟨_, rfl, tb, htb, rfl⟩, _, rfl, rfl⟩, rfl⟩

/-- A trail through two captures has the groups of a cut of the input into words of both. -/
lemma exists_cut_of_word {trail : List (TrailItem ο)} {s : List (List Marker × Matcher τ ο)}
    {last : List Marker} {ta tb : List (Marker ⊕ Matcher τ ο)} (hw : w ≠ [])
    (hs : trail.map TrailItem.markers = s.map Prod.fst) (haccepts : Accepts (s.map Prod.snd) w)
    (hta : ta ∈ (Graph.ofExpr a).markedWords) (htb : tb ∈ (Graph.ofExpr b).markedWords)
    (hword : spell s ++ last.map .inl = Marker.around x ta ++ Marker.around y tb) :
    ∃ u v, u ++ v = w ∧ (ta.flatMap Marker.forget).length = u.length ∧ u ∈ a.language ∧
      v ∈ b.language ∧ ∃ m, reconstruct trail = .ok m ∧
        m.outline.Perm (cut x y u.length w.length) := by
  have hlen : trail.length = w.length := by
    have hitems := congrArg List.length hs
    rw [List.length_map, List.length_map] at hitems
    rw [hitems, ← haccepts.length_eq, List.length_map]
  have houtputs : (trail.map TrailItem.output).length = w.length := by
    rw [List.length_map, hlen]
  rw [← forget_spell s last, hword, List.flatMap_append, forget_around, forget_around] at haccepts
  obtain ⟨u, v, hu, hv, rfl⟩ := accepts_append_left.mp haccepts
  obtain ⟨hua, hadds⟩ := reads_of_mem_derivations houtputs (Graph.markedWords_ofExpr_le a hta)
    [] u v rfl hu
  obtain ⟨hvb, hadds'⟩ := reads_of_mem_derivations houtputs (Graph.markedWords_ofExpr_le b htb)
    u v [] (List.append_nil _) hv
  rw [← hu.length_eq] at hadds'
  have hne : trail ≠ [] := by
    rintro rfl
    exact hw (List.length_eq_zero_iff.mp hlen.symm)
  refine ⟨u, v, rfl, hu.length_eq, hua, hvb, ?_⟩
  rw [← hlen, ← hu.length_eq]
  exact outline_of_captures hne hs hword hadds hadds'

/-- Every match has the groups of a cut of the input into words of both bodies. -/
lemma exists_cut_of_mem {ms : List (Match (List ο))} (hw : w ≠ [])
    (hms : ((Program.compile (.concat (.capture x a) (.capture y b))).withLimits
      Limits.unbounded).allMatches w = .ok ms) {m : Match (List ο)} (hm : m ∈ ms) :
    ∃ u v, u ++ v = w ∧ u ∈ a.language ∧ v ∈ b.language ∧
      m.outline.Perm (cut x y u.length w.length) := by
  obtain ⟨trail, htrail, hreconstruct⟩ := (mem_allMatches_iff _ hms m).mp hm
  obtain ⟨s, last, hmem, haccepts, hs⟩ := exists_acceptingTrail_iff.mp ⟨trail, htrail, rfl⟩
  obtain ⟨ta, hta, tb, htb, hword⟩ := mem_markedWords_captures_iff.mp hmem
  obtain ⟨u, v, huv, _, hu, hv, m', hm', houtline⟩ :=
    exists_cut_of_word hw hs.symm haccepts hta htb hword
  obtain rfl := Except.ok.inj (hm'.symm.trans hreconstruct)
  exact ⟨u, v, huv, hu, hv, houtline⟩

/-- Every cut of the input into words of both bodies has a match with its groups. -/
lemma exists_mem_of_cut {ms : List (Match (List ο))} (hw : w ≠ [])
    (hms : ((Program.compile (.concat (.capture x a) (.capture y b))).withLimits
      Limits.unbounded).allMatches w = .ok ms) {u v : List τ} (huv : u ++ v = w)
    (hu : u ∈ a.language) (hv : v ∈ b.language) :
    ∃ m ∈ ms, m.outline.Perm (cut x y u.length w.length) := by
  obtain ⟨ua, hua, hau⟩ := (mem_language_iff a u).mp hu
  obtain ⟨ub, hub, hbv⟩ := (mem_language_iff b v).mp hv
  obtain ⟨ta, hta, rfl⟩ := (Graph.mem_words_iff a ua).mp hua
  obtain ⟨tb, htb, rfl⟩ := (Graph.mem_words_iff b ub).mp hub
  obtain ⟨s, last, hword⟩ := exists_spell (Marker.around x ta ++ Marker.around y tb)
  have hmem : spell s ++ last.map .inl ∈
      (Graph.ofExpr (.concat (.capture x a) (.capture y b))).markedWords :=
    mem_markedWords_captures_iff.mpr ⟨ta, hta, tb, htb, hword.symm⟩
  have haccepts : Accepts (s.map Prod.snd) w := by
    rw [← forget_spell s last, ← hword, List.flatMap_append, forget_around, forget_around]
    exact accepts_append_left.mpr ⟨u, v, hau, hbv, huv⟩
  obtain ⟨trail, htrail, hs⟩ := exists_acceptingTrail_iff.mpr ⟨s, last, hmem, haccepts, rfl⟩
  obtain ⟨u', v', _, hlen, _, _, m, hm, houtline⟩ :=
    exists_cut_of_word hw hs haccepts hta htb hword.symm
  rw [← hlen, hau.length_eq] at houtline
  exact ⟨m, (mem_allMatches_iff _ hms m).mpr ⟨trail, htrail, hm⟩, houtline⟩

/-- **Two captures in sequence report every cut of the input and only real cuts.**  Some match has the
groups of the cut behind the first `k` tokens exactly if one body matches these tokens and the other
one the rest; and every match has the groups of some cut. -/
theorem allMatches_captures (a b : Expr (Matcher τ ο)) (x y : String) {w : List τ} (hw : w ≠ []) :
    ∃ ms, ((Program.compile (.capture x a + .capture y b)).withLimits
        Limits.unbounded).allMatches w = .ok ms ∧
      (∀ k ≤ w.length, (∃ m ∈ ms, m.outline.Perm (cut x y k w.length)) ↔
        w.take k ∈ a.language ∧ w.drop k ∈ b.language) ∧
      ∀ m ∈ ms, ∃ k ≤ w.length, m.outline.Perm (cut x y k w.length) := by
  obtain ⟨ms, hms⟩ := exists_allMatches (.concat (.capture x a) (.capture y b)) w
  refine ⟨ms, hms, fun k hk => ⟨?_, ?_⟩, ?_⟩
  · rintro ⟨m, hm, houtline⟩
    obtain ⟨u, v, rfl, hu, hv, houtline'⟩ := exists_cut_of_mem hw hms hm
    have hle : u.length ≤ (u ++ v).length := by simp
    obtain rfl := eq_of_cut_perm hk hle (houtline.symm.trans houtline')
    rw [List.take_left, List.drop_left]
    exact ⟨hu, hv⟩
  · rintro ⟨hu, hv⟩
    obtain ⟨m, hm, houtline⟩ := exists_mem_of_cut hw hms (List.take_append_drop k w) hu hv
    rw [List.length_take, Nat.min_eq_left hk] at houtline
    exact ⟨m, hm, houtline⟩
  · intro m hm
    obtain ⟨u, v, rfl, _, _, houtline⟩ := exists_cut_of_mem hw hms hm
    exact ⟨u.length, by simp, houtline⟩

end

/-- Letters in a first group and at most one letter in a second one: two letters are cut behind the
first or behind both. -/
theorem allMatches_captures_letters :
    let letter := Expr.leaf (Matcher.exact 'a')
    ['a', 'a'] ≠ [] ∧ ∃ ms, ((Program.compile (.capture "x" (.star letter) +
        .capture "y" (.maybe letter))).withLimits Limits.unbounded).allMatches ['a', 'a'] = .ok ms ∧
      (∀ k ≤ 2, (∃ m ∈ ms, m.outline.Perm (cut "x" "y" k 2)) ↔ 1 ≤ k) ∧
      ∀ m ∈ ms, ∃ k ≤ 2, m.outline.Perm (cut "x" "y" k 2) := by
  intro letter
  have hne : ['a', 'a'] ≠ [] := List.cons_ne_nil _ _
  have hletter : ['a'] ∈ letter.language := ⟨'a', rfl, List.cons_ne_nil _ _⟩
  have hstar : ∀ n, List.replicate n 'a' ∈ (Expr.star letter).language := by
    intro n
    refine Language.mem_kstar.mpr ⟨List.replicate n ['a'], by simp, fun v hv => ?_⟩
    rw [List.eq_of_mem_replicate hv]
    exact hletter
  have hmaybe : ['a', 'a'] ∉ (Expr.maybe letter).language := by
    rintro (h | ⟨t, h, -⟩)
    · exact hne h
    · simp at h
  obtain ⟨ms, hms, hiff, hcuts⟩ :=
    allMatches_captures (.star letter) (.maybe letter) "x" "y" hne
  refine ⟨hne, ms, hms, fun k hk => (hiff k hk).trans ?_, hcuts⟩
  interval_cases k
  · exact iff_of_false (fun h => hmaybe h.2) (by decide)
  · exact iff_of_true ⟨hstar 1, Or.inr hletter⟩ le_rfl
  · exact iff_of_true ⟨hstar 2, Or.inl rfl⟩ (by decide)

end TokenPattern
