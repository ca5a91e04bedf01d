import Mathlib.Data.Multiset.MapFold
import Mathlib.Data.String.Basic
import TokenPattern.Fixture.Decode
import TokenPattern.Proofs.Match.Arena

/-!
# Verdicts on what was found

What a case expects is compared with what was found by sorting both.  `check_multisets` says what this
comes to: trails and groups are compared as multisets, each on its own, and in which order matches are
found or expected makes no difference, neither to the verdict nor to its wording.

**Sorting decides.**  Two lists become equal by sorting exactly if one is a permutation of the other
(`sortOn_eq_iff_perm`).  For this the order must tell apart what is different: for groups it looks at each
name in front of its texts, from which the groups can be read off again (`GroupTexts.key_injective`).
-/

namespace TokenPattern

/-! ## Equal when sorted -/

section

variable {α κ : Type} [Ord κ] [Std.TransOrd κ] [Std.LawfulEqOrd κ] {key : α → κ} {l l' : List α}

/-- Sorted lists are equal if they have the same members equally often. -/
lemma sortOn_eq_iff_perm (hkey : Function.Injective key) :
    sortOn key l = sortOn key l' ↔ l.Perm l' := by
  refine ⟨fun h => ?_, sortOn_eq_of_perm fun _ _ => @hkey _ _⟩
  exact (sortOn_perm key l).symm.trans (h ▸ sortOn_perm key l')

end

lemma sortTexts_eq_iff {l l' : List String} : sortTexts l = sortTexts l' ↔ l.Perm l' :=
  sortOn_eq_iff_perm Function.injective_id

lemma GroupTexts.key_injective : Function.Injective GroupTexts.key := by
  refine List.map_injective_iff.mpr fun e e' h => ?_
  obtain ⟨hname, htexts⟩ := List.cons.inj h
  exact Prod.ext hname htexts

lemma sortGroupTexts_eq_iff {l l' : List GroupTexts} :
    sortGroupTexts l = sortGroupTexts l' ↔ l.Perm l' :=
  sortOn_eq_iff_perm GroupTexts.key_injective

/-! ## Groups as maps -/

namespace GroupTexts

/-- The names are in order, so that each is there once. -/
def IsSorted (g : GroupTexts) : Prop := g.Pairwise fun e e' => e.1 < e'.1

variable {g g' : GroupTexts}

lemma IsSorted.mem_iff (h : g.IsSorted) {n : String} {texts : List String} :
    (n, texts) ∈ g ↔ g.lookup n = some texts := by
  rw [List.lookup_eq_some_iff]
  constructor
  · intro hmem
    obtain ⟨front, rest, rfl⟩ := List.append_of_mem hmem
    refine ⟨front, rest, rfl, fun e he => ?_⟩
    have hlt := (List.pairwise_append.mp h).2.2 e he _ List.mem_cons_self
    exact bne_iff_ne.mpr (ne_of_gt hlt)
  · rintro ⟨front, rest, rfl, -⟩
    exact List.mem_append_right front List.mem_cons_self

lemma IsSorted.nodup (h : g.IsSorted) : g.Nodup := by
  have hne : ∀ {e e' : String × List String}, e.1 < e'.1 → e ≠ e' := fun hlt heq =>
    hlt.ne (congrArg Prod.fst heq)
  exact List.Pairwise.imp hne h

/-- **Sorted texts of groups are maps**: they are the same if every name has the same texts in both. -/
theorem eq_of_lookup_eq (h : g.IsSorted) (h' : g'.IsSorted)
    (hlookup : ∀ n, g.lookup n = g'.lookup n) : g = g' := by
  refine List.Perm.eq_of_pairwise (fun e e' _ _ hlt hgt => absurd (hlt.trans hgt) (lt_irrefl _)) h h'
    ((List.perm_ext_iff_of_nodup h.nodup h'.nodup).mpr fun e => ?_)
  rw [h.mem_iff, h'.mem_iff, hlookup]

lemma IsSorted.insert (h : g.IsSorted) (e : String × List String) :
    (ofDocument.insert g e).IsSorted ∧
      ∀ e' ∈ ofDocument.insert g e, e'.1 = e.1 ∨ ∃ e'' ∈ g, e'.1 = e''.1 := by
  induction g with
  | nil => simp [ofDocument.insert, IsSorted]
  | cons d rest ih =>
      obtain ⟨hd, hrest⟩ := List.pairwise_cons.mp h
      rw [ofDocument.insert]
      split_ifs with hlt heq
      · refine ⟨List.pairwise_cons.mpr ⟨fun e' he' => ?_, h⟩, fun e' he' => ?_⟩
        · rcases List.mem_cons.mp he' with rfl | he'
          · exact hlt
          · exact hlt.trans (hd e' he')
        · exact (List.mem_cons.mp he').imp (congrArg Prod.fst) fun he' => ⟨e', he', rfl⟩
      · refine ⟨List.pairwise_cons.mpr ⟨fun e' he' => heq ▸ hd e' he', hrest⟩, fun e' he' => ?_⟩
        exact (List.mem_cons.mp he').imp (congrArg Prod.fst) fun he' =>
          ⟨e', List.mem_cons_of_mem d he', rfl⟩
      · obtain ⟨hsorted, hnames⟩ := ih hrest
        refine ⟨List.pairwise_cons.mpr ⟨fun e' he' => ?_, hsorted⟩, fun e' he' => ?_⟩
        · rcases hnames e' he' with hname | ⟨e'', he'', hname⟩
          · exact hname ▸ lt_of_le_of_ne (not_lt.mp hlt) (Ne.symm heq)
          · exact hname ▸ hd e'' he''
        · rcases List.mem_cons.mp he' with rfl | he'
          · exact Or.inr ⟨e', List.mem_cons_self, rfl⟩
          · exact (hnames e' he').imp_right fun ⟨e'', he'', hname⟩ =>
              ⟨e'', List.mem_cons_of_mem d he'', hname⟩

/-- What is read from a document is sorted. -/
theorem isSorted_of_ofDocument {d : Document} (h : ofDocument d = .ok g) : g.IsSorted := by
  obtain ⟨entries, -, h⟩ := bind_eq_ok h
  obtain rfl := Except.ok.inj h
  have hfold : ∀ (entries : List (String × List String)) (g : GroupTexts), g.IsSorted →
      GroupTexts.IsSorted (entries.foldl ofDocument.insert g) := by
    intro entries
    induction entries with
    | nil => exact fun g hg => hg
    | cons e entries ih => exact fun g hg => ih _ (hg.insert e).1
  exact hfold entries [] List.Pairwise.nil

end GroupTexts

lemma pairwise_insertGroup {T : Type} {groups : List (String × Match T)}
    (h : groups.Pairwise fun g g' => g.1 ≤ g'.1) (g : String × Match T) :
    (insertGroup g groups).Pairwise fun g g' => g.1 ≤ g'.1 := by
  induction groups with
  | nil => exact List.pairwise_singleton _ _
  | cons d rest ih =>
      obtain ⟨hd, hrest⟩ := List.pairwise_cons.mp h
      rw [insertGroup]
      split_ifs with hlt
      · refine List.pairwise_cons.mpr ⟨fun g' hg' => ?_, ih hrest⟩
        rcases List.mem_cons.mp ((insertGroup_perm g rest).mem_iff.mp hg') with rfl | hg'
        · exact hlt.le
        · exact hd g' hg'
      · refine List.pairwise_cons.mpr ⟨fun g' hg' => ?_, h⟩
        rcases List.mem_cons.mp hg' with rfl | hg'
        · exact not_lt.mp hlt
        · exact (not_lt.mp hlt).trans (hd g' hg')

/-- The names of sorted groups, each once. -/
lemma pairwise_eraseDups {l : List String} (h : l.Pairwise (· ≤ ·)) :
    l.eraseDups.Pairwise (· < ·) := by
  induction hn : l.length using Nat.strong_induction_on generalizing l with
  | _ n ih =>
      cases l with
      | nil => exact List.Pairwise.nil
      | cons a rest =>
          obtain ⟨ha, hrest⟩ := List.pairwise_cons.mp h
          rw [List.eraseDups_cons]
          have hshort : (rest.filter fun b => !b == a).length < n :=
            hn ▸ Nat.lt_succ_of_le (List.length_filter_le _ rest)
          refine List.pairwise_cons.mpr ⟨fun b hb => ?_, ih _ hshort (hrest.filter _) rfl⟩
          obtain ⟨hb, hne⟩ := List.mem_filter.mp (List.mem_eraseDups.mp hb)
          exact lt_of_le_of_ne (ha b hb) fun heq => by simp [heq] at hne

/-- The texts of the groups of a match are sorted. -/
theorem isSorted_matchText {τ : Type} (render : List τ → String) {trail : List (TrailItem τ)}
    {m : Match (List τ)} (h : reconstruct trail = .ok m) :
    (Fixture.matchText render m).groups.IsSorted := by
  rw [reconstruct_eq_replay] at h
  obtain ⟨r, -, rfl⟩ := map_eq_ok h
  have hsorted : ∀ groups : List (String × Match (List τ)),
      (sortGroups groups).Pairwise fun g g' => g.1 ≤ g'.1 := by
    intro groups
    induction groups with
    | nil => exact List.Pairwise.nil
    | cons g rest ih => exact pairwise_insertGroup ih g
  have hnames : (Replay.finish (trail.map TrailItem.output) r).groupNames.Pairwise (· < ·) :=
    pairwise_eraseDups (List.pairwise_map.mpr (hsorted _))
  exact List.pairwise_map.mpr hnames

/-! ## Verdicts -/

lemma Outcome.ofTexts_eq_of_perm {found found' : List MatchText} (h : found.Perm found') :
    Outcome.ofTexts found' = Outcome.ofTexts found := by
  rw [Outcome.ofTexts, Outcome.ofTexts, sortTexts_eq_iff.mpr (h.symm.map MatchText.trail),
    sortGroupTexts_eq_iff.mpr (h.symm.map MatchText.groups)]

namespace Expectation

variable {x x' : Expectation}

/-- The same expectation, with its trails and groups in another order. -/
structure Reordered (x x' : Expectation) : Prop where
  count : x'.count = x.count
  trails : Option.Rel List.Perm x.trails x'.trails
  groups : Option.Rel List.Perm x.groups x'.groups
  error : x'.error = x.error

/-- An outcome passes if nothing that is expected differs from it. -/
lemma passed_checkOutcome_iff {o : Outcome} : (x.checkOutcome o).passed = true ↔
    (∀ n ∈ x.count, n = o.trails.length) ∧ (∀ l ∈ x.trails, sortTexts l = o.trails) ∧
      ∀ l ∈ x.groups, sortGroupTexts l = o.groups := by
  have hdiffers : ∀ {α : Type} {o? : Option α} {p : α → Prop} [DecidablePred p],
      (o?.any fun a => decide ¬ p a) = true ↔ ¬ ∀ a ∈ o?, p a := by
    intro α o? p _
    cases o? <;> simp
  rw [checkOutcome]
  simp only [ne_eq, hdiffers]
  by_cases hcount : ∀ n ∈ x.count, n = o.trails.length
  · rw [if_neg (not_not.mpr hcount)]
    by_cases htrails : ∀ l ∈ x.trails, sortTexts l = o.trails
    · rw [if_neg (not_not.mpr htrails)]
      by_cases hgroups : ∀ l ∈ x.groups, sortGroupTexts l = o.groups
      · rw [if_neg (not_not.mpr hgroups)]
        exact iff_of_true rfl ⟨hcount, htrails, hgroups⟩
      · rw [if_pos hgroups]
        exact iff_of_false Bool.false_ne_true fun h => hgroups h.2.2
    · rw [if_pos htrails]
      exact iff_of_false Bool.false_ne_true fun h => htrails h.2.1
  · rw [if_pos hcount]
    exact iff_of_false Bool.false_ne_true fun h => hcount h.1

lemma Reordered.checkOutcome_eq (h : x.Reordered x') (o : Outcome) :
    x'.checkOutcome o = x.checkOutcome o := by
  obtain ⟨count, trails, groups, error⟩ := x
  obtain ⟨count', trails', groups', error'⟩ := x'
  obtain ⟨rfl, htrails, hgroups, rfl⟩ := h
  cases htrails with
  | none =>
      cases hgroups with
      | none => rfl
      | some hg =>
          simp only [checkOutcome, Option.any_some, Option.getD_some,
            sortGroupTexts_eq_iff.mpr hg.symm]
  | some ht =>
      cases hgroups with
      | none =>
          simp only [checkOutcome, Option.any_some, Option.getD_some,
            sortTexts_eq_iff.mpr ht.symm]
      | some hg =>
          simp only [checkOutcome, Option.any_some, Option.getD_some,
            sortTexts_eq_iff.mpr ht.symm, sortGroupTexts_eq_iff.mpr hg.symm]

/-- What was found passes if no error is expected and what is expected has the same members. -/
lemma passed_check_ok_iff {found : List MatchText} : (x.check (.ok found)).passed = true ↔
    x.error = none ∧ (∀ n ∈ x.count, n = found.length) ∧
      (∀ l ∈ x.trails, (l : Multiset String) = found.map MatchText.trail) ∧
        ∀ l ∈ x.groups, (l : Multiset GroupTexts) = found.map MatchText.groups := by
  cases herror : x.error with
  | some part =>
      refine iff_of_false ?_ fun h => nomatch h.1
      simp [check, herror, Verdict.fail]
  | none =>
      have hlength : (sortTexts (found.map MatchText.trail)).length = found.length :=
        (sortOn_perm id _).length_eq.trans (List.length_map _)
      simp only [check, herror, passed_checkOutcome_iff, Outcome.ofTexts, hlength,
        sortTexts_eq_iff, sortGroupTexts_eq_iff, Multiset.coe_eq_coe, true_and]

/-- An error passes if a part of its message is expected. -/
lemma passed_check_error_iff {e : MatchError} : (x.check (.error e)).passed = true ↔
    ∃ part, x.error = some part ∧ part.toList <:+: e.message.toList := by
  cases herror : x.error with
  | none => simp [check, herror, Verdict.fail]
  | some part => simp [check, herror, checkMessage, Text.includes, Text.occursIn_iff]

/-- **Verdicts compare multisets.**  Matches pass exactly if no error is expected and their number,
their trails and their groups are those expected, whatever the order; in no case does the order of
matches, or of trails and groups that are expected, make a difference to the verdict or its wording.  An
error passes exactly if an error is expected and its message includes the text expected, whatever else
is expected. -/
theorem check_multisets (x : Expectation) :
    (∀ found : List MatchText, (x.check (.ok found)).passed = true ↔
      x.error = none ∧ (∀ n ∈ x.count, n = found.length) ∧
        (∀ l ∈ x.trails, (l : Multiset String) = found.map MatchText.trail) ∧
          ∀ l ∈ x.groups, (l : Multiset GroupTexts) = found.map MatchText.groups) ∧
      (∀ found found' : List MatchText, found.Perm found' →
        x.check (.ok found') = x.check (.ok found)) ∧
      (∀ x', x.Reordered x' → ∀ result, x'.check result = x.check result) ∧
      ∀ e, (x.check (.error e)).passed = true ↔
        ∃ part, x.error = some part ∧ part.toList <:+: e.message.toList := by
  refine ⟨fun _ => passed_check_ok_iff, fun found found' hperm => ?_, fun x' hx result => ?_,
    fun _ => passed_check_error_iff⟩
  · cases herror : x.error with
    | none => simp only [check, herror, Outcome.ofTexts_eq_of_perm hperm]
    | some part => simp only [check, herror, hperm.length_eq]
  · simp only [check, hx.error, hx.checkOutcome_eq]

/-- Two matches, one with a group, against trails and groups in another order than theirs. -/
theorem check_multisets_reversed :
    let bare : MatchText := ⟨"a", []⟩
    let grouped : MatchText := ⟨"ab", [("n", ["b"])]⟩
    let x : Expectation := ⟨some 2, some ["ab", "a"], some [[], [("n", ["b"])]], none⟩
    let x' : Expectation := ⟨some 2, some ["a", "ab"], some [[], [("n", ["b"])]], none⟩
    [bare, grouped].Perm [grouped, bare] ∧ x.Reordered x' ∧
      (x.check (.ok [bare, grouped])).passed = true ∧
      x.check (.ok [grouped, bare]) = x.check (.ok [bare, grouped]) ∧
      x'.check (.ok [bare, grouped]) = x.check (.ok [bare, grouped]) := by
  intro bare grouped x x'
  have hfound : [bare, grouped].Perm [grouped, bare] := List.Perm.swap _ _ _
  have hexpected : x.Reordered x' := ⟨rfl, .some (List.Perm.swap _ _ _), .some (.refl _), rfl⟩
  obtain ⟨hpassed, horder, hreordered, -⟩ := check_multisets x
  refine ⟨hfound, hexpected, (hpassed _).mpr ⟨rfl, ?_, ?_, ?_⟩, horder _ _ hfound,
    hreordered x' hexpected _⟩
  · rintro n ⟨⟩
    rfl
  · rintro l ⟨⟩
    exact Multiset.coe_eq_coe.mpr (List.Perm.swap _ _ _)
  · rintro l ⟨⟩
    rfl

end Expectation

end TokenPattern
