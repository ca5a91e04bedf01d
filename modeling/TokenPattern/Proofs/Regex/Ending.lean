import Mathlib.Data.List.Infix
import TokenPattern.Error
import TokenPattern.Regex.Token

/-!
# Reading up to the end of a text

A pattern is read in front of a closing parenthesis and a dollar sign (`ending`).  `AtEnd` says what
this does to a reader of one part of a text.

* It stops in the text, and does the same whether the ending is there or not.
* The text ends in a comment, which takes in the ending.
* Without the ending it fails; with the ending it may fail, too, or be lost: go on into the ending.

Readers are put together from smaller ones, and so is this (`AtEnd.bind`).
-/

namespace TokenPattern.Regex

open Unicode (isWhiteSpace)

/-- What stands behind a pattern. -/
def ending : List Char := [')', '$']

/-- Whether the last line of a text has a number sign. -/
def HasOpenSign (cs : List Char) : Prop := ∃ before line, cs = before ++ '#' :: line ∧ '\n' ∉ line

/-- What a reader does in front of the ending; `lost` says how it can go on into it. -/
inductive AtEnd {α : Type} (lost : α → List Char → Prop)
    (read : List Char → Except Fault (α × List Char)) (cs : List Char) : Prop where
  | stops (x : α) (rest : List Char) (suffix : rest <:+ cs)
    (reads : ∀ t, t <+: ending → read (cs ++ t) = .ok (x, rest ++ t))
  | comment (x : α) (sign : HasOpenSign cs)
    (reads : ∀ t, t <+: ending → read (cs ++ t) = .ok (x, []))
  | fails (fault : Fault) (fails : read cs = .error fault)
    (reads : ∀ x rest, read (cs ++ ending) = .ok (x, rest) → lost x rest)

/-- No reader is lost. -/
def Never {α : Type} (_ : α) (_ : List Char) : Prop := False

/-- Whether a reader has left nothing of the ending but the dollar sign. -/
def Passed {α : Type} (_ : α) (rest : List Char) : Prop := rest <:+ ['$']

lemma HasOpenSign.of_suffix {rest cs : List Char} (h : HasOpenSign rest) (hrest : rest <:+ cs) :
    HasOpenSign cs := by
  obtain ⟨before, line, rfl, hline⟩ := h
  obtain ⟨front, rfl⟩ := hrest
  exact ⟨front ++ before, line, by simp, hline⟩

lemma not_hasOpenSign_nil : ¬ HasOpenSign [] := by
  rintro ⟨before, line, h, -⟩
  simp at h

/-- The parts of the ending, from its front. -/
lemma prefix_ending_cases {t : List Char} (h : t <+: ending) :
    t = [] ∨ t = [')'] ∨ t = ending := by
  simp only [ending, List.prefix_cons_iff, List.prefix_nil] at h
  obtain rfl | ⟨t, rfl, rfl | ⟨t, rfl, rfl⟩⟩ := h
  · exact .inl rfl
  · exact .inr (.inl rfl)
  · exact .inr (.inr rfl)

namespace AtEnd

variable {α β γ : Type} {lost : α → List Char → Prop} {lost' : β → List Char → Prop}
  {read : List Char → Except Fault (α × List Char)} {cs : List Char}

/-! ## Rests -/

/-- A reader leaves the end of what it was given. -/
lemma suffix_of_eq (h : AtEnd lost read cs) {x : α} {rest : List Char}
    (hread : read cs = .ok (x, rest)) : rest <:+ cs := by
  cases h with
  | stops y rest' hsuffix hreads =>
    have hnone := hreads [] (List.nil_prefix)
    simp only [List.append_nil, hread, Except.ok.injEq, Prod.mk.injEq] at hnone
    exact hnone.2 ▸ hsuffix
  | comment y hsign hreads =>
    have hnone := hreads [] (List.nil_prefix)
    simp only [List.append_nil, hread, Except.ok.injEq, Prod.mk.injEq] at hnone
    exact hnone.2 ▸ List.nil_suffix
  | fails fault hfails hreads => simp [hread] at hfails

lemma mono {lost' : α → List Char → Prop} (h : AtEnd lost read cs)
    (hlost : ∀ x rest, lost x rest → lost' x rest) : AtEnd lost' read cs := by
  cases h with
  | stops x rest hsuffix hreads => exact .stops x rest hsuffix hreads
  | comment x hsign hreads => exact .comment x hsign hreads
  | fails fault hfails hreads =>
    exact .fails fault hfails fun x rest hx => hlost x rest (hreads x rest hx)

/-- A reader that is never lost is lost in no way. -/
lemma never (h : AtEnd Never read cs) : AtEnd lost read cs := h.mono fun _ _ hnever => hnever.elim

/-! ## Small readers -/

lemma congr {read' : List Char → Except Fault (α × List Char)} (h : AtEnd lost read cs)
    (hread : ∀ t, t <+: ending → read' (cs ++ t) = read (cs ++ t)) : AtEnd lost read' cs := by
  cases h with
  | stops x rest hsuffix hreads =>
    exact .stops x rest hsuffix fun t ht => (hread t ht).trans (hreads t ht)
  | comment x hsign hreads => exact .comment x hsign fun t ht => (hread t ht).trans (hreads t ht)
  | fails fault hfails hreads =>
    refine .fails fault ?_ fun x rest hx => hreads x rest ?_
    · simpa [hfails] using hread [] List.nil_prefix
    · exact (hread ending List.prefix_rfl).symm.trans hx

/-- A reader that fails on the empty text. -/
lemma nil_of_error (fault : Fault) (hnil : read [] = .error fault)
    (hending : ∀ x rest, read ending = .ok (x, rest) → lost x rest) : AtEnd lost read [] :=
  .fails fault hnil hending

/-- A first character is read, whatever stands behind it. -/
lemma cons {c : Char} (h : AtEnd lost (fun cs => read (c :: cs)) cs) :
    AtEnd lost read (c :: cs) := by
  cases h with
  | stops x rest hsuffix hreads =>
    exact .stops x rest (hsuffix.trans (List.suffix_cons c cs)) hreads
  | comment x hsign hreads => exact .comment x (hsign.of_suffix (List.suffix_cons c cs)) hreads
  | fails fault hfails hreads => exact .fails fault hfails hreads

/-- Nothing is read. -/
lemma ok (x : α) : AtEnd lost (fun cs => .ok (x, cs)) cs :=
  .stops x cs List.suffix_rfl fun _ _ => rfl

/-- Every text is refused. -/
lemma error (fault : Fault) : AtEnd lost (fun _ => .error fault) cs :=
  .fails fault rfl fun _ _ h => nomatch h

/-- What does not depend on the text comes first. -/
lemma of_except (v : Except Fault γ) {next : γ → List Char → Except Fault (α × List Char)}
    (h : ∀ y, AtEnd lost (next y) cs) : AtEnd lost (fun cs => v >>= fun y => next y cs) cs := by
  cases v with
  | error fault => exact .error fault
  | ok y => exact h y

/-- A value is read, or refused, and the same is left in any case. -/
lemma of_map (v : Except Fault α) {rest : List Char} (hrest : rest <:+ cs)
    (h : ∀ t, t <+: ending → read (cs ++ t) = v.map fun x => (x, rest ++ t)) :
    AtEnd lost read cs := by
  cases v with
  | error fault =>
    have hnil := h [] List.nil_prefix
    rw [List.append_nil] at hnil
    exact .fails fault hnil fun x rest' hx => nomatch (h ending List.prefix_rfl).symm.trans hx
  | ok x => exact .stops x rest hrest h

/-- A value without a text. -/
lemma map (v : Except Fault α) : AtEnd lost (fun cs => v.map fun x => (x, cs)) cs :=
  .of_map v List.suffix_rfl fun _ _ => rfl

/-! ## One after the other -/

/-- One reader goes on where another has stopped. -/
lemma bind {next : α × List Char → Except Fault (β × List Char)} (hread : AtEnd lost read cs)
    (hnext : ∀ x rest, read cs = .ok (x, rest) → rest <:+ cs →
      AtEnd lost' (fun cs => next (x, cs)) rest)
    (hlost : ∀ x rest, lost x rest → ∀ y rest', next (x, rest) = .ok (y, rest') → lost' y rest') :
    AtEnd lost' (fun cs => read cs >>= next) cs := by
  cases hread with
  | stops x rest hsuffix hreads =>
    have hbind (t : List Char) (ht : t <+: ending) :
        read (cs ++ t) >>= next = next (x, rest ++ t) := by
      rw [hreads t ht]
      rfl
    have hx : read cs = .ok (x, rest) := by simpa using hreads [] List.nil_prefix
    cases hnext x rest hx hsuffix with
    | stops y rest' hsuffix' hreads' =>
      exact .stops y rest' (hsuffix'.trans hsuffix) fun t ht => (hbind t ht).trans (hreads' t ht)
    | comment y hsign hreads' =>
      exact .comment y (hsign.of_suffix hsuffix) fun t ht => (hbind t ht).trans (hreads' t ht)
    | fails fault hfails hreads' =>
      refine .fails fault ?_ fun y rest' h => hreads' y rest' ?_
      · simpa [hfails] using hbind [] List.nil_prefix
      · exact (hbind ending List.prefix_rfl).symm.trans h
  | comment x hsign hreads =>
    have hbind (t : List Char) (ht : t <+: ending) : read (cs ++ t) >>= next = next (x, []) := by
      rw [hreads t ht]
      rfl
    have hx : read cs = .ok (x, []) := by simpa using hreads [] List.nil_prefix
    -- The comment has taken in the ending, so the next reader is given the empty text either way.
    cases hnext x [] hx List.nil_suffix with
    | stops y rest' hsuffix' hreads' =>
      obtain rfl := List.suffix_nil.1 hsuffix'
      exact .comment y hsign fun t ht => (hbind t ht).trans (hreads' [] List.nil_prefix)
    | comment y hsign' hreads' => exact absurd hsign' not_hasOpenSign_nil
    | fails fault hfails hreads' =>
      refine .fails fault ?_ fun y rest' h => ?_
      · simpa [hfails] using hbind [] List.nil_prefix
      · simp [(hbind ending List.prefix_rfl).symm.trans h] at hfails
  | fails fault hfails hreads =>
    refine .fails fault (by rw [hfails]; rfl) fun y rest' h => ?_
    obtain ⟨⟨x, rest⟩, hx, hy⟩ := bind_eq_ok h
    exact hlost x rest (hreads x rest hx) y rest' hy

/-- A reader that is never lost comes first. -/
lemma bind_never {next : α × List Char → Except Fault (β × List Char)}
    (hread : AtEnd Never read cs)
    (hnext : ∀ x rest, read cs = .ok (x, rest) → rest <:+ cs →
      AtEnd lost' (fun cs => next (x, cs)) rest) :
    AtEnd lost' (fun cs => read cs >>= next) cs :=
  hread.bind hnext fun _ _ hnever => hnever.elim

/-- Readers that pass the closing parenthesis go on from the dollar sign. -/
lemma bind_passed {next : α × List Char → Except Fault (β × List Char)}
    (hread : AtEnd Passed read cs)
    (hnext : ∀ x rest, AtEnd Passed (fun cs => next (x, cs)) rest) :
    AtEnd Passed (fun cs => read cs >>= next) cs :=
  hread.bind (fun x rest _ _ => hnext x rest) fun x rest hlost _ _ hy =>
    ((hnext x rest).suffix_of_eq hy).trans hlost

end AtEnd

/-! ## Blanks -/

lemma HasOpenSign.cons {cs : List Char} (h : HasOpenSign cs) (c : Char) : HasOpenSign (c :: cs) :=
  h.of_suffix (List.suffix_cons c cs)

/-- A text has something that is no blank, or it ends outside of a comment, or inside of one. -/
lemma skipBlanks_append (inComment : Bool) (cs : List Char) :
    (∀ t, skipBlanks inComment (cs ++ t) = skipBlanks inComment cs ++ t) ∨
      (∀ t, skipBlanks inComment (cs ++ t) = skipBlanks false t) ∨
      (∀ t, skipBlanks inComment (cs ++ t) = skipBlanks true t) ∧
        (HasOpenSign cs ∨ inComment = true ∧ '\n' ∉ cs) := by
  induction cs generalizing inComment with
  | nil =>
    cases inComment with
    | false => exact .inr (.inl fun t => rfl)
    | true => exact .inr (.inr ⟨fun t => rfl, .inr ⟨rfl, List.not_mem_nil⟩⟩)
  | cons c rest ih =>
    simp only [List.cons_append, skipBlanks]
    split
    case isTrue hcomment =>
      refine (ih (c != '\n')).imp id (Or.imp id (And.imp id (Or.imp (·.cons c) ?_)))
      rintro ⟨hc, hline⟩
      have hne : '\n' ≠ c := fun h => by simp [← h] at hc
      exact ⟨hcomment, by simp [hne, hline]⟩
    case isFalse =>
      split
      · exact (ih false).imp id (Or.imp id (And.imp id (Or.imp (·.cons c) (by simp))))
      · split
        case isTrue hsign =>
          refine (ih true).imp id (Or.imp id (And.imp id fun h => .inl (h.elim (·.cons c) ?_)))
          rintro ⟨-, hline⟩
          exact ⟨[], rest, by simp [hsign], hline⟩
        case isFalse => exact .inl fun t => rfl

lemma skipBlanks_of_inLine {t : List Char} (h : '\n' ∉ t) : skipBlanks true t = [] := by
  induction t with
  | nil => rfl
  | cons c rest ih =>
    rw [List.mem_cons, not_or] at h
    have hc : (c != '\n') = true := by simpa using Ne.symm h.1
    simp only [skipBlanks, hc]
    exact ih h.2

lemma skipBlanks_skipBlanks (inComment : Bool) (cs : List Char) :
    skipBlanks false (skipBlanks inComment cs) = skipBlanks inComment cs := by
  induction cs generalizing inComment with
  | nil => rfl
  | cons c rest ih => grind [skipBlanks]

/-- Blanks are dropped at once. -/
lemma Flags.skip_skip (f : Flags) (cs : List Char) : f.skip (f.skip cs) = f.skip cs := by
  simp only [Flags.skip]
  split
  · exact skipBlanks_skipBlanks false cs
  · rfl

/-- What is no blank is none, whatever stands behind it. -/
lemma Flags.skip_cons_eq {f : Flags} {c : Char} {rest : List Char}
    (h : f.skip (c :: rest) = c :: rest) (cs : List Char) : f.skip (c :: cs) = c :: cs := by
  simp only [Flags.skip, skipBlanks] at h ⊢
  have hne (b : Bool) : skipBlanks b rest ≠ c :: rest := fun h => by
    have hlength := (skipBlanks_suffix b rest).length_le
    simp only [h, List.length_cons] at hlength
    omega
  grind

lemma Flags.collect_eq (f : Flags) (test : Char → Bool) {n m : Nat} {cs : List Char}
    (hn : cs.length ≤ n) (hm : cs.length ≤ m) : f.collect test n cs = f.collect test m cs := by
  induction n generalizing m cs with
  | zero =>
    obtain rfl := List.eq_nil_of_length_eq_zero (Nat.le_zero.1 hn)
    cases m <;> rfl
  | succ n ih =>
    cases cs with
    | nil => cases m <;> rfl
    | cons c rest =>
      cases m with
      | zero => simp at hm
      | succ m =>
        have hskip := (f.skip_suffix rest).length_le
        simp only [List.length_cons] at hn hm
        simp only [Flags.collect, @ih m (f.skip rest) (by omega) (by omega)]

lemma Flags.takeWhile_cons (f : Flags) (test : Char → Bool) (c : Char) (rest : List Char) :
    f.takeWhile test (c :: rest) =
      if test c then (c :: (f.takeWhile test (f.skip rest)).1, (f.takeWhile test (f.skip rest)).2)
      else ([], c :: rest) := by
  have hskip := (f.skip_suffix rest).length_le
  simp only [Flags.takeWhile, List.length_cons, Flags.collect,
    f.collect_eq test hskip (le_refl (f.skip rest).length)]

@[simp] lemma Flags.skip_nil (f : Flags) : f.skip [] = [] := List.suffix_nil.1 (f.skip_suffix [])

lemma Flags.skip_cons (f : Flags) {c : Char} (hc : isWhiteSpace c = false) (hsign : c ≠ '#')
    (cs : List Char) : f.skip (c :: cs) = c :: cs := by
  simp [Flags.skip, skipBlanks, hc, hsign]

@[simp] lemma Flags.skip_parenthesis (f : Flags) (cs : List Char) :
    f.skip (')' :: cs) = ')' :: cs :=
  f.skip_cons (by decide) (by decide) cs

@[simp] lemma Flags.skip_dollar (f : Flags) (cs : List Char) : f.skip ('$' :: cs) = '$' :: cs :=
  f.skip_cons (by decide) (by decide) cs

/-- The ending has no blanks. -/
lemma Flags.skip_ending (f : Flags) {t : List Char} (h : t <+: ending) : f.skip t = t := by
  obtain rfl | rfl | rfl := prefix_ending_cases h <;> simp [ending]

/-- The ending stays behind what is dropped, or it is dropped with a comment. -/
lemma Flags.skip_append (f : Flags) (cs : List Char) :
    (∀ t, t <+: ending → f.skip (cs ++ t) = f.skip cs ++ t) ∨
      HasOpenSign cs ∧ ∀ t, t <+: ending → f.skip (cs ++ t) = [] := by
  cases hf : f.extended with
  | false => exact .inl fun t _ => by simp [Flags.skip, hf]
  | true =>
    have hskip (cs : List Char) : f.skip cs = skipBlanks false cs := by simp [Flags.skip, hf]
    simp only [hskip]
    obtain happend | happend | ⟨happend, hsign⟩ := skipBlanks_append false cs
    · exact .inl fun t _ => happend t
    · have hnil : skipBlanks false cs = [] := by simpa [skipBlanks] using happend []
      refine .inl fun t ht => ?_
      rw [happend, hnil, List.nil_append, ← hskip, f.skip_ending ht]
    · refine .inr ⟨hsign.resolve_right (by simp), fun t ht => ?_⟩
      rw [happend, skipBlanks_of_inLine fun hmem => ?_]
      exact absurd (ht.subset hmem) (by decide)

/-- What has something that is no blank has it in front of the ending, too. -/
lemma Flags.skip_append_of_cons {f : Flags} {cs inner : List Char} {c : Char}
    (h : f.skip cs = c :: inner) {t : List Char} (ht : t <+: ending) :
    f.skip (cs ++ t) = c :: (inner ++ t) := by
  obtain hskip | ⟨-, hskip⟩ := f.skip_append cs
  · rw [hskip t ht, h, List.cons_append]
  · have hnil := hskip [] List.nil_prefix
    simp [h] at hnil

namespace AtEnd

variable {α : Type} {lost : α → List Char → Prop}
  {read : List Char → Except Fault (α × List Char)} {cs : List Char}

/-- Dropping blanks never fails. -/
lemma blanks (f : Flags) (cs : List Char) : AtEnd Never (fun cs => .ok ((), f.skip cs)) cs := by
  obtain hskip | ⟨hsign, hskip⟩ := f.skip_append cs
  · exact .stops () _ (f.skip_suffix cs) fun t ht => by rw [hskip t ht]
  · exact .comment () hsign fun t ht => by rw [hskip t ht]

/-- A reader may drop blanks first. -/
lemma skip (f : Flags) (h : ∀ rest, rest <:+ cs → AtEnd lost read rest) :
    AtEnd lost (fun cs => read (f.skip cs)) cs := by
  have hbind : AtEnd lost (fun cs => .ok ((), f.skip cs) >>= fun r => read r.2) cs :=
    (blanks f cs).bind_never fun _ rest _ hrest => h rest hrest
  exact hbind

/-- Blanks may be dropped last. -/
lemma ok_skip (f : Flags) (x : α) : AtEnd lost (fun cs => .ok (x, f.skip cs)) cs := by
  have hok (rest : List Char) : AtEnd lost (fun cs => .ok (x, cs)) rest := .ok x
  exact .skip f fun rest _ => hok rest

/-- A reader that does not see blanks in front need only be looked at without them. -/
lemma of_skip (f : Flags) (hread : ∀ cs, read (f.skip cs) = read cs)
    (h : ∀ rest, rest <:+ cs → f.skip rest = rest → AtEnd lost read rest) :
    AtEnd lost read cs := by
  have hbind : AtEnd lost (fun cs => .ok ((), f.skip cs) >>= fun r => read r.2) cs := by
    refine (blanks f cs).bind_never fun _ rest hskip hrest => h rest hrest ?_
    obtain rfl : f.skip cs = rest := by simpa using hskip
    exact f.skip_skip cs
  have hsame : (fun cs => read (f.skip cs)) = read := funext hread
  rw [← hsame]
  exact hbind

/-! ## Characters that pass a test -/

/-- Characters that pass a test can be dropped if the ending does not start with one of them. -/
lemma dropWhile (test : Char → Bool) (h : test ')' = false) (cs : List Char) :
    AtEnd Never (fun cs => .ok ((), cs.dropWhile test)) cs := by
  refine .stops () _ (List.dropWhile_suffix test) fun t ht => ?_
  congr 2
  induction cs with
  | nil => obtain rfl | rfl | rfl := prefix_ending_cases ht <;> simp [ending, h]
  | cons c rest ih => cases hc : test c <;> simp [hc, ih]

/-- The characters that pass a test end before the ending, if its first character does not pass. -/
lemma takeWhile (f : Flags) (test : Char → Bool) (h : test ')' = false) (cs : List Char) :
    AtEnd Never (fun cs => .ok (f.takeWhile test cs)) cs := by
  induction hn : cs.length using Nat.strong_induction_on generalizing cs with
  | _ n ih =>
    subst hn
    cases cs with
    | nil =>
      refine .stops [] [] List.nil_suffix fun t ht => ?_
      obtain rfl | rfl | rfl := prefix_ending_cases ht
      · rfl
      · simp [Flags.takeWhile_cons, h]
      · simp [ending, Flags.takeWhile_cons, h]
    | cons c rest =>
      cases hc : test c with
      | false =>
        exact .stops [] (c :: rest) List.suffix_rfl fun t _ => by simp [Flags.takeWhile_cons, hc]
      | true =>
        have hbind : AtEnd Never (fun cs =>
            (Except.ok (f.takeWhile test (f.skip cs)) : Except Fault _) >>= fun r =>
              .ok (c :: r.1, r.2)) rest := by
          refine (skip f fun rest' hrest => ih _ ?_ rest' rfl).bind_never
            fun taken rest' _ _ => .ok (c :: taken)
          exact Nat.lt_succ_of_le hrest.length_le
        refine AtEnd.cons ?_
        simp only [Flags.takeWhile_cons, hc, if_true]
        exact hbind

end AtEnd

end TokenPattern.Regex
