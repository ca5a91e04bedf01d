import TokenPattern.Catalog
import TokenPattern.Proofs.Position.Rivals

/-!
# The larger patterns over characters are unambiguous

The parts of the larger patterns overlap.  A run of letters may be a label of a domain name or the last
one, the user of a web address or its domain, and `x` may begin the prefix `xn--` or a label without
it; blanks within a tag may stand before an attribute, before its equals sign, or before the end.
Several explorers are alive then, but never on one node (`unambiguous_catalog`).

**Samples.**  The leaves of these patterns are single characters, of which there are few (`specials`),
and classes that do not tell apart what is left but for white space.  So the special characters, the
blank and one letter can take the place of all characters (`sample`, `Tame`).
-/

namespace TokenPattern

/-! ## Letters, digits and ranges -/

/-- The letters and digits of ASCII by their code points. -/
lemma isAlphanum_iff {c : Char} : c.isAlphanum = true ↔ (65 ≤ c.toNat ∧ c.toNat ≤ 90) ∨
    (97 ≤ c.toNat ∧ c.toNat ≤ 122) ∨ (48 ≤ c.toNat ∧ c.toNat ≤ 57) := by
  unfold Char.isAlphanum Char.isAlpha Char.isUpper Char.isLower Char.isDigit
  simp only [Bool.or_eq_true, Bool.and_eq_true, decide_eq_true_eq, ge_iff_le,
    UInt32.le_iff_toNat_le]
  exact or_assoc

lemma space_eq_false_of_isAlphanum {c : Char} (h : c.isAlphanum = true) :
    CharClass.space.contains c = false := by
  rw [isAlphanum_iff] at h
  rw [← Bool.not_eq_true]
  simp only [CharClass.contains, Unicode.isWhiteSpace, Bool.or_eq_true, Bool.and_eq_true,
    decide_eq_true_eq, beq_iff_eq]
  omega

lemma isAlphanum_of_hexDigit {c : Char}
    (h : (Matcher.ranges [('a', 'f'), ('A', 'F'), ('0', '9')]).accepts c = true) :
    c.isAlphanum = true := by
  rw [Matcher.accepts_ranges] at h
  simp only [List.any_cons, List.any_nil, Matcher.inRange, Bool.or_eq_true, Bool.and_eq_true,
    decide_eq_true_eq, Char.le_def, UInt32.le_iff_toNat_le, Bool.false_eq_true, or_false] at h
  change (97 ≤ c.toNat ∧ c.toNat ≤ 102) ∨ (65 ≤ c.toNat ∧ c.toNat ≤ 70) ∨
    (48 ≤ c.toNat ∧ c.toNat ≤ 57) at h
  rw [isAlphanum_iff]
  omega

/-- Of ranges that do not meet, one at most holds a character. -/
lemma Matcher.length_outputs_ranges_le {rs : List (Char × Char)}
    (h : rs.Pairwise fun r s => r.2 < s.1 ∨ s.2 < r.1) (c : Char) :
    ((Matcher.ranges rs).outputs c).length ≤ 1 := by
  rw [ranges, List.length_map]
  induction h with
  | nil => exact Nat.zero_le 1
  | @cons r rs hr _ ih =>
      rw [List.filter_cons]
      split_ifs with hc
      · have hrest : rs.filter (inRange c) = [] := by
          refine List.filter_eq_nil_iff.2 fun s hs hcs => ?_
          simp only [inRange, Bool.and_eq_true, decide_eq_true_eq] at hc hcs
          rcases hr s hs with hlt | hlt
          · exact Char.not_lt.2 (Char.le_trans hcs.1 hc.2) hlt
          · exact Char.not_lt.2 (Char.le_trans hc.1 hcs.2) hlt
        rw [hrest, List.length_singleton]
      · exact ih

/-! ## Leaves of the parts of a pattern -/

namespace Expr

variable {α : Type} {m : α} {a : Expr α}

lemma leaves_chainFrom (first : Expr α) (rest : List (Expr α)) :
    (chainFrom first rest).leaves = first.leaves ++ rest.flatMap leaves := by
  induction rest generalizing first with
  | nil => rw [List.flatMap_nil, List.append_nil, chainFrom, List.foldl_nil]
  | cons second rest ih =>
      have hcons : chainFrom first (second :: rest) = chainFrom (concat first second) rest := rfl
      rw [hcons, ih, leaves, List.append_assoc, List.flatMap_cons]

/-- Copies bring no new leaves. -/
@[simp] lemma mem_leaves_atLeast {n : Nat} : m ∈ (a.atLeast n).leaves ↔ m ∈ a.leaves := by
  cases n with
  | zero => rfl
  | succ n =>
      rw [atLeast, leaves, leaves, unroll, leaves_chainFrom, List.mem_append, List.mem_append,
        List.mem_flatMap]
      refine ⟨?_, Or.inr⟩
      rintro ((h | ⟨b, hb, h⟩) | h)
      · exact h
      · exact List.eq_of_mem_replicate hb ▸ h
      · exact h

end Expr

namespace Catalog

open TokenPattern.Expr (leaf maybe star capture)

/-! ## Samples -/

/-- The characters that are leaves of the larger patterns. -/
def specials : List Char :=
  ['x', 'n', '-', '.', '+', '@', 'h', 't', 'p', 's', ':', '/', '%', '=', '?', '&', '#', '<', '>',
    '\'', '"']

/-- The character that takes the place of another one. -/
def sample (c : Char) : Char :=
  if c ∈ specials then c else if CharClass.space.contains c then ' ' else 'a'

/-- The characters that take the place of others. -/
def samples : List Char := ' ' :: 'a' :: specials

lemma sample_mem (c : Char) : sample c ∈ samples := by
  rw [sample]
  split_ifs with hspecial
  · exact List.mem_cons_of_mem _ (List.mem_cons_of_mem _ hspecial)
  · exact List.mem_cons_self
  · exact List.mem_cons_of_mem _ List.mem_cons_self

/-- Matchers with one output at most, that accept the sample of what they accept. -/
structure Tame (m : Matcher Char Char) : Prop where
  outputs : ∀ c, (m.outputs c).length ≤ 1
  accepts_sample : ∀ c, m.accepts c = true → m.accepts (sample c) = true

variable {m : Matcher Char Char} {text : String} {test : Char → Bool} {values : List Char}

/-- It is enough to look at the characters that are not special. -/
lemma tame_of (houtputs : ∀ c, (m.outputs c).length ≤ 1)
    (hspace : ∀ c ∉ specials, CharClass.space.contains c = true → m.accepts c = true →
      m.accepts ' ' = true)
    (hother : ∀ c ∉ specials, CharClass.space.contains c = false → m.accepts c = true →
      m.accepts 'a' = true) : Tame m := by
  refine ⟨houtputs, fun c hc => ?_⟩
  rw [sample]
  split_ifs with hspecial hblank
  · exact hc
  · exact hspace c hspecial hblank hc
  · exact hother c hspecial (Bool.eq_false_iff.2 hblank) hc

lemma tame_passing
    (hspace : ∀ c ∉ specials, CharClass.space.contains c = true → test c = true → test ' ' = true)
    (hother : ∀ c ∉ specials, CharClass.space.contains c = false → test c = true →
      test 'a' = true) : Tame (Matcher.passing text test) := by
  refine tame_of (fun c => ?_) ?_ ?_
  · rw [Matcher.outputs_passing]
    split_ifs
    · exact Nat.le_refl 1
    · exact Nat.zero_le 1
  · simpa only [Matcher.accepts_passing] using hspace
  · simpa only [Matcher.accepts_passing] using hother

/-! ## Tame leaves -/

lemma tame_inSet (h : values ⊆ specials) : Tame (Matcher.inSet values) := by
  refine tame_passing (fun c hc _ hmem => ?_) fun c hc _ hmem => ?_
  · exact absurd (h (of_decide_eq_true hmem)) hc
  · exact absurd (h (of_decide_eq_true hmem)) hc

lemma tame_not_inSet (hspace : ' ' ∉ values) (hother : 'a' ∉ values) :
    Tame (Matcher.not id (Matcher.inSet values)) := by
  refine tame_of (fun c => ?_) (fun _ _ _ _ => ?_) fun _ _ _ _ => ?_
  · show (if _ then [id c] else []).length ≤ 1
    split_ifs
    · exact Nat.le_refl 1
    · exact Nat.zero_le 1
  · simp [Matcher.inSet, hspace]
  · simp [Matcher.inSet, hother]

lemma tame_exact {d : Char} (h : d ∈ specials) : Tame (Matcher.exact d) := by
  refine tame_passing (fun c hc _ heq => ?_) fun c hc _ heq => ?_
  · exact absurd (of_decide_eq_true heq ▸ h) hc
  · exact absurd (of_decide_eq_true heq ▸ h) hc

lemma tame_space : Tame (Matcher.charClass .space) := by
  refine tame_passing (fun _ _ _ _ => rfl) fun c _ hother hspace => ?_
  rw [hspace] at hother
  cases hother

lemma tame_asciiAlnum : Tame (Matcher.charClass .asciiAlnum) := by
  refine tame_passing (fun c _ hspace halnum => ?_) fun _ _ _ _ => rfl
  rw [space_eq_false_of_isAlphanum halnum] at hspace
  cases hspace

lemma tame_hexDigit : Tame (Matcher.ranges [('a', 'f'), ('A', 'F'), ('0', '9')]) := by
  refine tame_of (Matcher.length_outputs_ranges_le (by decide)) (fun c _ hspace hhex => ?_)
    fun _ _ _ _ => rfl
  rw [space_eq_false_of_isAlphanum (isAlphanum_of_hexDigit hhex)] at hspace
  cases hspace

lemma tame_bare : Tame (Matcher.test "bare attribute value" isBare) := by
  refine tame_passing (fun c _ hspace hbare => ?_) fun _ _ _ _ => rfl
  rw [isBare, hspace] at hbare
  cases hbare

/-! ## Tame patterns -/

/-- Whether all leaves of a pattern are tame. -/
def IsTame (e : CharPattern) : Prop := ∀ m ∈ e.leaves, Tame m

variable {a l r : CharPattern}

@[simp] lemma isTame_leaf : IsTame (leaf m) ↔ Tame m := List.forall_mem_singleton

@[simp] lemma isTame_add : IsTame (l + r) ↔ IsTame l ∧ IsTame r := List.forall_mem_append

@[simp] lemma isTame_or : IsTame (l ||| r) ↔ IsTame l ∧ IsTame r := List.forall_mem_append

@[simp] lemma isTame_maybe : IsTame (maybe a) ↔ IsTame a := Iff.rfl

@[simp] lemma isTame_star : IsTame (star a) ↔ IsTame a := Iff.rfl

@[simp] lemma isTame_capture {n : String} : IsTame (capture n a) ↔ IsTame a := Iff.rfl

@[simp] lemma isTame_atLeast {n : Nat} : IsTame (a.atLeast n) ↔ IsTame a := by
  simp only [IsTame, Expr.mem_leaves_atLeast]

lemma isTame_lit {first : Char} {rest : String} (h : first :: rest.toList ⊆ specials) :
    IsTame (lit first rest) := by
  intro m hm
  rw [lit, Expr.leaves_chainFrom, List.flatMap_map] at hm
  rcases List.mem_append.1 hm with hm | hm
  · obtain rfl := List.mem_singleton.1 hm
    exact tame_exact (h List.mem_cons_self)
  · obtain ⟨c, hc, hm⟩ := List.mem_flatMap.1 hm
    obtain rfl := List.mem_singleton.1 hm
    exact tame_exact (h (List.mem_cons_of_mem _ hc))

lemma isTame_alnums : IsTame alnums := by
  simp [alnums, many, one, tame_asciiAlnum]

lemma isTame_domainName : IsTame domainName := by
  simp (disch := decide) [domainName, domainLabel, one, isTame_alnums, isTame_lit,
    tame_asciiAlnum]

lemma isTame_email : IsTame email := by
  simp (disch := decide) [email, mailbox, isTame_domainName, isTame_alnums, isTame_lit,
    tame_inSet]

lemma isTame_encoded : IsTame encoded := by
  simp (disch := decide) [encoded, one, hexDigit, isTame_lit, tame_asciiAlnum, tame_hexDigit]

lemma isTame_url : IsTame url := by
  simp (disch := decide) [url, queryVariable, isTame_encoded, isTame_domainName, isTame_lit]

lemma isTame_quoted {q : Char} (h : q ∈ specials) : IsTame (quoted q) := by
  have hspace : ' ' ≠ q := by
    rintro rfl
    exact absurd h (by decide)
  have hother : 'a' ≠ q := by
    rintro rfl
    exact absurd h (by decide)
  have hvalue : Tame (Matcher.not id (Matcher.inSet [q, '>'])) :=
    tame_not_inSet (by simp [hspace]) (by simp [hother])
  simp [quoted, char, tame_exact h, hvalue]

lemma isTame_attr : IsTame attr := by
  simp (disch := decide) [attr, ident, spacesMaybe, one, bare, isTame_quoted, isTame_alnums,
    isTame_lit, tame_space, tame_bare]

lemma isTame_htmlTag : IsTame htmlTag := by
  simp (disch := decide) [htmlTag, ident, spacesMaybe, many, one, isTame_attr, isTame_alnums,
    isTame_lit, tame_space]

/-! ## Rivals

Leaves go by their numbers, from left to right. -/

/-- The beginning of `xn--` and that of a label without it; and, from the first dot on, one more label
and the last one. -/
def domainNameRivals : List (Nat × Nat) :=
  [(0, 4), (1, 5), (2, 6), (9, 19), (10, 14), (10, 20), (11, 15), (11, 21), (12, 16), (14, 20),
    (15, 21), (15, 22)]

/-- Those of the domain name, behind the six leaves of the mailbox and the sign after it. -/
def emailRivals : List (Nat × Nat) := domainNameRivals.map fun p => (p.1 + 6, p.2 + 6)

/-- The user and the domain name, and what there is within the domain name. -/
def urlRivals : List (Nat × Nat) :=
  [(8, 30), (8, 34), (13, 31), (13, 35)] ++ domainNameRivals.map fun p => (p.1 + 30, p.2 + 30)

/-- The blanks before an attribute, those before its equals sign, and those before the end. -/
def htmlTagRivals : List (Nat × Nat) := [(7, 14), (7, 25), (8, 14), (8, 25), (14, 25)]

lemma rivals_domainName : domainName.Rivals samples domainNameRivals := by decide +kernel

lemma rivals_email : email.Rivals samples emailRivals := by decide +kernel

lemma rivals_url : url.Rivals samples urlRivals := by decide +kernel

lemma rivals_htmlTag : htmlTag.Rivals samples htmlTagRivals := by decide +kernel

/-- A strict pattern with tame leaves is unambiguous if it has rivals. -/
lemma unambiguous_of_rivals {e : CharPattern} {pairs : List (Nat × Nat)} (htame : IsTame e)
    (hstrict : e.strict = true) (hsize : e.leafCount ≤ maxFrontier)
    (h : e.Rivals samples pairs) : Unambiguous e :=
  h.unambiguous hstrict
    (fun c => ⟨sample c, sample_mem c, fun m hm => (htame m hm).accepts_sample c⟩)
    (fun m hm => (htame m hm).outputs) hsize

/-- **The larger patterns are unambiguous**: whatever is read, no two explorers stand on one node, so
the limit on explorers is never reached, and there is at most one match. -/
theorem unambiguous_catalog :
    Unambiguous domainName ∧ Unambiguous email ∧ Unambiguous url ∧ Unambiguous htmlTag :=
  ⟨unambiguous_of_rivals isTame_domainName (by decide) (by decide) rivals_domainName,
    unambiguous_of_rivals isTame_email (by decide) (by decide) rivals_email,
    unambiguous_of_rivals isTame_url (by decide) (by decide) rivals_url,
    unambiguous_of_rivals isTame_htmlTag (by decide) (by decide) rivals_htmlTag⟩

end Catalog

end TokenPattern
