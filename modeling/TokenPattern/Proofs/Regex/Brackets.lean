import TokenPattern.Proofs.Regex.Readers

/-!
# Sets between brackets at the end of a pattern

Brackets that are not closed in a pattern are not closed behind it either, since the ending has no
closing bracket.  Up to there the reader may look ahead: over blanks, for the name of a set, for the
second character of an operation.  In none of these cases does the ending make a difference.

`readEntry` reads one entry between brackets; `readRest` reads one entry after the other
(`readRest_succ`).
-/

namespace TokenPattern.Regex

open Unicode (isWhiteSpace)

/-! ## Looking ahead -/

/-- The name in front of a colon and a closing bracket, and what is behind them. -/
def closedName? (cs : List Char) : Option (List Char × List Char) :=
  match cs.dropWhile (· != ':') with
  | ':' :: ']' :: rest => some (cs.takeWhile (· != ':'), rest)
  | _ => none

lemma closedName?_cons {c : Char} (hc : c ≠ ':') (rest : List Char) :
    closedName? (c :: rest) = (closedName? rest).map fun r => (c :: r.1, r.2) := by
  have hne : (c != ':') = true := by simpa using hc
  simp only [closedName?, List.dropWhile_cons, List.takeWhile_cons, hne, if_true]
  split <;> rfl

lemma closedName?_append (cs : List Char) {t : List Char} (ht : t <+: ending) :
    closedName? (cs ++ t) = (closedName? cs).map fun r => (r.1, r.2 ++ t) := by
  induction cs with
  | nil => obtain rfl | rfl | rfl := prefix_ending_cases ht <;> rfl
  | cons c rest ih =>
    by_cases hc : c = ':'
    · subst hc
      cases rest with
      | nil => obtain rfl | rfl | rfl := prefix_ending_cases ht <;> rfl
      | cons d rest =>
        by_cases hd : d = ']'
        · subst hd
          rfl
        · simp [closedName?, hd]
    · rw [List.cons_append, closedName?_cons hc, closedName?_cons hc, ih, Option.map_map,
        Option.map_map]
      rfl

/-- The set with a name. -/
def namedSet? (f : Flags) (negated : Bool) (r : List Char × List Char) :
    Option (Except Fault Nested × List Char) :=
  (CharSet.asciiNamed.lookup (String.ofList r.1)).map fun set =>
    ((f.negateIf negated (f.fold set)).map fun set => ⟨set, 0⟩, r.2)

lemma readAsciiName?_caret (f : Flags) (rest : List Char) :
    readAsciiName? f (':' :: '^' :: rest) = (closedName? rest).bind (namedSet? f true) := by
  simp only [readAsciiName?, closedName?]
  generalize rest.dropWhile _ = behind
  split
  · rfl
  · simp_all

lemma readAsciiName?_colon (f : Flags) {rest : List Char} (h : ∀ rest', rest ≠ '^' :: rest') :
    readAsciiName? f (':' :: rest) = (closedName? rest).bind (namedSet? f false) := by
  simp only [readAsciiName?, closedName?]
  generalize rest.dropWhile _ = behind
  split
  · rfl
  · simp_all

lemma readAsciiName?_append (f : Flags) (cs : List Char) {t : List Char} (ht : t <+: ending) :
    readAsciiName? f (cs ++ t) = (readAsciiName? f cs).map fun r => (r.1, r.2 ++ t) := by
  have hbind (negated : Bool) (r : Option (List Char × List Char)) :
      (r.map fun r => (r.1, r.2 ++ t)).bind (namedSet? f negated) =
        (r.bind (namedSet? f negated)).map fun r => (r.1, r.2 ++ t) := by
    cases r with
    | none => rfl
    | some r => simp [namedSet?, Function.comp_def]
  cases cs with
  | nil => obtain rfl | rfl | rfl := prefix_ending_cases ht <;> rfl
  | cons c rest =>
    by_cases hc : c = ':'
    · subst hc
      by_cases hcaret : ∃ rest', rest = '^' :: rest'
      · obtain ⟨rest, rfl⟩ := hcaret
        simp only [List.cons_append, readAsciiName?_caret, closedName?_append rest ht, hbind]
      · have hrest (rest' : List Char) : rest ≠ '^' :: rest' := fun h => hcaret ⟨rest', h⟩
        have happend (rest' : List Char) : rest ++ t ≠ '^' :: rest' := by
          cases rest with
          | nil => obtain rfl | rfl | rfl := prefix_ending_cases ht <;> simp [ending]
          | cons d rest => simpa using fun h _ => hrest rest (by rw [h])
        rw [List.cons_append, readAsciiName?_colon f happend, readAsciiName?_colon f hrest,
          closedName?_append rest ht, hbind]
    · simp [readAsciiName?, hc]

lemma suffix_of_closedName? {cs name rest : List Char} (h : closedName? cs = some (name, rest)) :
    rest <:+ cs := by
  simp only [closedName?] at h
  split at h
  case h_1 behind heq =>
    obtain ⟨-, rfl⟩ := Prod.mk.inj (Option.some.inj h)
    have hbehind := List.dropWhile_suffix (l := cs) (· != ':')
    rw [heq] at hbehind
    exact (List.suffix_append [':', ']'] behind).trans hbehind
  case h_2 => nomatch h

lemma suffix_of_readAsciiName? {f : Flags} {cs rest : List Char} {item : Except Fault Nested}
    (h : readAsciiName? f cs = some (item, rest)) : rest <:+ cs := by
  have hnamed {negated : Bool} {cs : List Char}
      (h : (closedName? cs).bind (namedSet? f negated) = some (item, rest)) : rest <:+ cs := by
    obtain ⟨⟨name, behind⟩, hname, hset⟩ := Option.bind_eq_some_iff.1 h
    obtain ⟨set, -, hset⟩ := Option.map_eq_some_iff.1 hset
    obtain ⟨-, rfl⟩ := Prod.mk.inj hset
    exact suffix_of_closedName? hname
  cases cs with
  | nil => nomatch h
  | cons c cs =>
    by_cases hc : c = ':'
    · subst hc
      by_cases hcaret : ∃ cs', cs = '^' :: cs'
      · obtain ⟨cs, rfl⟩ := hcaret
        rw [readAsciiName?_caret] at h
        exact (hnamed h).trans (List.suffix_append [':', '^'] cs)
      · rw [readAsciiName?_colon f fun cs' h => hcaret ⟨cs', h⟩] at h
        exact (hnamed h).trans (List.suffix_cons ':' cs)
    · simp [readAsciiName?, hc] at h

lemma SetOperation.suffix_of_read? {c : Char} {cs rest : List Char} {operation : SetOperation}
    (h : SetOperation.read? (c :: cs) = some (operation, rest)) : rest <:+ cs := by
  cases cs with
  | nil => nomatch h
  | cons d cs =>
    simp only [SetOperation.read?] at h
    split at h
    · obtain ⟨operation, -, hrest⟩ := Option.map_eq_some_iff.1 h
      obtain ⟨-, rfl⟩ := Prod.mk.inj hrest
      exact List.suffix_cons d cs
    · nomatch h

lemma SetOperation.read?_append (cs : List Char) {t : List Char} (ht : t <+: ending) :
    SetOperation.read? (cs ++ t) = (SetOperation.read? cs).map fun r => (r.1, r.2 ++ t) := by
  have hparenthesis (c : Char) (rest : List Char) :
      SetOperation.read? (c :: ')' :: rest) = none := by
    by_cases hc : c = ')'
    · subst hc
      rfl
    · simp [SetOperation.read?, hc]
  match cs with
  | [] => obtain rfl | rfl | rfl := prefix_ending_cases ht <;> rfl
  | [c] =>
    obtain rfl | rfl | rfl := prefix_ending_cases ht
    · rfl
    · exact hparenthesis c []
    · exact hparenthesis c ['$']
  | c :: d :: rest =>
    simp only [List.cons_append, SetOperation.read?]
    split
    · cases SetOperation.ofChar? c <;> rfl
    · rfl

/-- Looking ahead over blanks only, one sees the ending. -/
lemma peekBlanks_append (inComment : Bool) (cs : List Char) {t : List Char} (ht : t <+: ending) :
    peekBlanks inComment (cs ++ t) = (peekBlanks inComment cs).or t.head? := by
  induction cs generalizing inComment with
  | nil =>
    have hparenthesis : isWhiteSpace ')' = false := by decide
    obtain rfl | rfl | rfl := prefix_ending_cases ht <;> simp [peekBlanks, ending, hparenthesis]
  | cons c rest ih =>
    simp only [List.cons_append, peekBlanks]
    split
    · exact ih inComment
    · split
      · exact ih true
      · rfl

/-- What is no blank and no number sign is seen. -/
lemma peekBlanks_cons {c : Char} (hblank : isWhiteSpace c = false) (hsign : c ≠ '#')
    (inComment : Bool) (rest : List Char) : peekBlanks inComment (c :: rest) = some c := by
  simp [peekBlanks, hblank, hsign]

lemma startsRange_append (f : Flags) (cs : List Char) {t : List Char} (ht : t <+: ending) :
    startsRange f (cs ++ t) = startsRange f cs := by
  have hhead : t = [] ∨ t.head? = some ')' := by
    obtain rfl | rfl | rfl := prefix_ending_cases ht <;> simp [ending]
  obtain rfl | hhead := hhead
  · rw [List.append_nil]
  simp only [startsRange, peekBehind, peekBlanks_append false cs ht, List.head?_append, hhead]
  have hblank : isWhiteSpace ']' = false := by decide
  have hblank' : isWhiteSpace '-' = false := by decide
  cases f.extended with
  | false => cases cs <;> rfl
  | true =>
    cases hpeek : peekBlanks false cs with
    | some c => rfl
    | none =>
      cases cs with
      | nil => rfl
      | cons c rest =>
        have hc : c ≠ ']' := fun hc => by
          simp [hc, peekBlanks_cons hblank (by decide)] at hpeek
        have hc' : c ≠ '-' := fun hc => by
          simp [hc, peekBlanks_cons hblank' (by decide)] at hpeek
        simp [bne, hc, hc']

/-! ## Items -/

/-- Whether nothing that is left can close brackets. -/
def Unclosed {α : Type} (_ : α) (rest : List Char) : Prop := ']' ∉ rest

lemma unclosed_of_suffix {α : Type} {x : α} {rest : List Char} (h : rest <:+ ending) :
    Unclosed x rest :=
  fun hmem => absurd (h.subset hmem) (by decide)

lemma atEnd_readMember_cons (f : Flags) (c : Char) (cs : List Char) :
    AtEnd (PastEscape f) (fun cs => readMember f (c :: cs)) cs := by
  by_cases hc : c = '\\'
  · subst hc
    exact atEnd_readEscape f cs
  · exact (AtEnd.ok (.literal c false)).congr fun t _ => by simp [readMember]

lemma atEnd_readMember (f : Flags) (cs : List Char) : AtEnd (PastEscape f) (readMember f) cs := by
  cases cs with
  | nil =>
    refine .nil_of_error _ rfl fun x rest h => ?_
    obtain ⟨rfl, rfl⟩ := Prod.mk.inj (Except.ok.inj h)
    exact .inl List.suffix_rfl
  | cons c rest => exact (atEnd_readMember_cons f c rest).cons

/-- The range between two members. -/
def rangeBetween (f : Flags) (first last : Primitive) : Except Fault Nested :=
  first.asRangeEnd f >>= fun lo =>
    last.asRangeEnd f >>= fun hi =>
      if lo ≤ hi then .ok ⟨f.fold (.range lo hi), 0⟩ else .error .reversedRange

/-- Reads what makes a range of a member, if anything. -/
def readRange (f : Flags) (first : Primitive) (cs : List Char) :
    Except Fault (Nested × List Char) :=
  match f.skip cs with
  | [] => .error .unclosedBracket
  | '-' :: afterHyphen =>
    if startsRange f afterHyphen then
      readMember f (f.skip afterHyphen) >>= fun r =>
        (rangeBetween f first r.1).map fun item => (item, r.2)
    else (first.asItem f).map fun item => (item, '-' :: afterHyphen)
  | rest => (first.asItem f).map fun item => (item, rest)

lemma readItem_eq (f : Flags) (cs : List Char) :
    readItem f cs = readMember f cs >>= fun r => readRange f r.1 r.2 := by
  simp only [readItem, readRange, rangeBetween]
  refine bind_congr fun r => ?_
  cases f.skip r.2 with
  | nil => rfl
  | cons c afterHyphen =>
    by_cases hc : c = '-'
    · subst hc
      simp only
      split
      · refine bind_congr fun last => ?_
        cases r.1.asRangeEnd f with
        | error fault => rfl
        | ok lo =>
          cases last.1.asRangeEnd f with
          | error fault => rfl
          | ok hi =>
            simp only [bind, Except.bind]
            split <;> rfl
      · cases r.1.asItem f <;> rfl
    · simp only [List.cons.injEq, hc, false_and, false_implies, implies_true]
      cases r.1.asItem f <;> rfl

lemma rangeBetween_assertion_ne (f : Flags) (first : Primitive) (a : Assertion) (item : Nested) :
    rangeBetween f first (.assertion a) ≠ .ok item := by
  intro h
  obtain ⟨lo, -, h⟩ := bind_eq_ok h
  exact nomatch h

/-- An assertion is no item. -/
lemma readRange_assertion_ne (f : Flags) (a : Assertion) (cs : List Char) (item : Nested)
    (rest : List Char) : readRange f (.assertion a) cs ≠ .ok (item, rest) := by
  intro h
  simp only [readRange] at h
  split at h
  · nomatch h
  · split at h
    · obtain ⟨r, -, h⟩ := bind_eq_ok h
      nomatch h
    · nomatch h
  · nomatch h

lemma atEnd_readRange (f : Flags) (first : Primitive) (cs : List Char) :
    AtEnd Unclosed (readRange f first) cs := by
  refine .of_skip f (fun cs => by simp only [readRange, f.skip_skip]) fun rest _ hskip => ?_
  cases rest with
  | nil =>
    refine .nil_of_error .unclosedBracket (by simp [readRange]) fun x rest h => ?_
    have hitem : readRange f first ending = (first.asItem f).map fun item => (item, ending) := by
      simp [readRange, ending]
    obtain ⟨item, -, hrest⟩ := map_eq_ok (hitem.symm.trans h)
    obtain ⟨rfl, rfl⟩ := Prod.mk.inj hrest
    exact unclosed_of_suffix List.suffix_rfl
  | cons c rest =>
    by_cases hc : c = '-'
    · subst hc
      cases hrange : startsRange f rest with
      | true =>
        have hlast : AtEnd (PastEscape f) (fun cs => readMember f (f.skip cs)) rest :=
          .skip f fun rest _ => atEnd_readMember f rest
        have hbetween : AtEnd Unclosed (fun cs => readMember f (f.skip cs) >>= fun r =>
            (rangeBetween f first r.1).map fun item => (item, r.2)) rest := by
          refine hlast.bind (fun last rest _ _ => .map (rangeBetween f first last)) ?_
          rintro last rest hlost item rest' h
          obtain ⟨item', hitem, hrest⟩ := map_eq_ok h
          obtain ⟨rfl, rfl⟩ := Prod.mk.inj hrest
          obtain hrest | ⟨rfl, -⟩ := hlost
          · exact unclosed_of_suffix (hrest.trans (List.suffix_cons ')' _))
          · exact absurd hitem (rangeBetween_assertion_ne f first _ _)
        refine .cons (hbetween.congr fun t ht => ?_)
        simp [readRange, Flags.skip_cons_eq hskip, startsRange_append f rest ht, hrange]
      | false =>
        refine (AtEnd.map (first.asItem f)).congr fun t ht => ?_
        simp [readRange, Flags.skip_cons_eq hskip, startsRange_append f rest ht, hrange]
    · refine (AtEnd.map (first.asItem f)).congr fun t ht => ?_
      simp [readRange, Flags.skip_cons_eq hskip, hc]

lemma atEnd_readItem (f : Flags) (c : Char) (cs : List Char) :
    AtEnd Unclosed (fun cs => readItem f (c :: cs)) cs := by
  simp only [readItem_eq]
  refine (atEnd_readMember_cons f c cs).bind (fun first rest _ _ => atEnd_readRange f first rest) ?_
  rintro first rest (hrest | ⟨rfl, -⟩) item rest' h
  · have hsuffix := (atEnd_readRange f first rest).suffix_of_eq h
    exact unclosed_of_suffix ((hsuffix.trans hrest).trans (List.suffix_cons ')' _))
  · exact absurd h (readRange_assertion_ne f _ _ _ _)

/-! ## Brackets -/

/-- Reads a negation sign. -/
def readNegation (f : Flags) : List Char → Bool × List Char
  | '^' :: rest => (true, f.skip rest)
  | cs => (false, cs)

/-- What follows the hyphens behind an opening bracket. -/
def afterHyphens (f : Flags) (negated : Bool) : List Char × List Char → OpenBracket × List Char
  | ([], ']' :: rest) => (⟨negated, none, [⟨f.single ']', 0⟩]⟩, f.skip rest)
  | (hyphens, cs) => (⟨negated, none, hyphens.map fun c => ⟨f.single c, 0⟩⟩, cs)

lemma readOpening_eq (f : Flags) (cs : List Char) :
    readOpening f cs =
      afterHyphens f (readNegation f (f.skip cs)).1
        (f.takeWhile (· == '-') (readNegation f (f.skip cs)).2) := by
  unfold readOpening readNegation
  generalize f.skip cs = rest
  split
  all_goals
    simp_all only
    generalize f.takeWhile _ _ = r
    obtain ⟨hyphens, rest⟩ := r
    simp only
    split
    · rfl
    · simp_all [afterHyphens]

lemma atEnd_readNegation (f : Flags) (cs : List Char) :
    AtEnd Never (fun cs => .ok (readNegation f cs)) cs := by
  cases cs with
  | nil =>
    refine .stops false [] List.suffix_rfl fun t ht => ?_
    obtain rfl | rfl | rfl := prefix_ending_cases ht <;> rfl
  | cons c rest =>
    by_cases hc : c = '^'
    · subst hc
      exact .cons (.ok_skip f true)
    · exact (AtEnd.ok false).congr fun t _ => by simp [readNegation, hc]

lemma atEnd_afterHyphens (f : Flags) (negated : Bool) (hyphens cs : List Char) :
    AtEnd Never (fun cs => .ok (afterHyphens f negated (hyphens, cs))) cs := by
  cases cs with
  | nil =>
    refine (AtEnd.ok ⟨negated, none, hyphens.map fun c => ⟨f.single c, 0⟩⟩).congr fun t ht => ?_
    obtain rfl | rfl | rfl := prefix_ending_cases ht <;> simp [afterHyphens, ending]
  | cons c rest =>
    by_cases hc : hyphens = [] ∧ c = ']'
    · obtain ⟨rfl, rfl⟩ := hc
      exact .cons (.ok_skip f _)
    · refine (AtEnd.ok ⟨negated, none, hyphens.map fun c => ⟨f.single c, 0⟩⟩).congr fun t _ => ?_
      simp only [List.cons_append, afterHyphens]
      split <;> simp_all

lemma atEnd_readOpening (f : Flags) (cs : List Char) :
    AtEnd Never (fun cs => .ok (readOpening f cs)) cs := by
  have hnegation : AtEnd Never (fun cs => .ok (readNegation f (f.skip cs))) cs :=
    .skip f fun rest _ => atEnd_readNegation f rest
  have hhyphens (negated : Bool) (rest : List Char) : AtEnd Never (fun cs =>
      .ok (f.takeWhile (· == '-') cs) >>= fun r => .ok (afterHyphens f negated r)) rest :=
    (AtEnd.takeWhile f (· == '-') (by decide) rest).bind_never fun hyphens rest _ _ =>
      atEnd_afterHyphens f negated hyphens rest
  have hopening : AtEnd Never (fun cs => .ok (readNegation f (f.skip cs)) >>= fun r =>
      .ok (f.takeWhile (· == '-') r.2) >>= fun r' => .ok (afterHyphens f r.1 r')) cs :=
    hnegation.bind_never fun negated rest _ _ => hhyphens negated rest
  exact hopening.congr fun t _ => congrArg _ (readOpening_eq f (cs ++ t))

/-- Reads one entry between brackets, given how to read what is inside of further ones: the set if
it is closed by the entry, or what is then open. -/
def readEntry (f : Flags) (readInside : OpenBracket → List Char → Except Fault (Nested × List Char))
    (b : OpenBracket) (cs : List Char) : Except Fault ((Nested ⊕ OpenBracket) × List Char) :=
  match f.skip cs with
  | [] => .error .unclosedBracket
  | ']' :: rest => (b.close f).map fun set => (.inl set, rest)
  | '[' :: rest =>
    match readAsciiName? f rest with
    | some (item, rest) => item.map fun item => (.inr (b.add item), rest)
    | none =>
      readInside (readOpening f rest).1 (readOpening f rest).2 >>= fun r =>
        .ok (.inr (b.add r.1), r.2)
  | cs =>
    match SetOperation.read? cs with
    | some (operation, rest) => .ok (.inr (b.operate operation), rest)
    | none => readItem f cs >>= fun r => .ok (.inr (b.add r.1), r.2)

/-- Goes on behind an entry. -/
def afterEntry (readInside : OpenBracket → List Char → Except Fault (Nested × List Char)) :
    (Nested ⊕ OpenBracket) × List Char → Except Fault (Nested × List Char)
  | (.inl set, rest) => .ok (set, rest)
  | (.inr b, rest) => readInside b rest

lemma readRest_succ (f : Flags) (fuel : Nat) (b : OpenBracket) (cs : List Char) :
    readRest f (fuel + 1) b cs =
      readEntry f (readRest f fuel) b cs >>= afterEntry (readRest f fuel) := by
  rw [readRest, readEntry]
  cases f.skip cs with
  | nil => rfl
  | cons c rest =>
    by_cases hclose : c = ']'
    · subst hclose
      cases b.close f <;> rfl
    by_cases hopen : c = '['
    · subst hopen
      simp only
      cases readAsciiName? f rest with
      | none =>
        cases readRest f fuel (readOpening f rest).1 (readOpening f rest).2 <;> rfl
      | some r =>
        obtain ⟨item, rest⟩ := r
        cases item <;> rfl
    · simp only [List.cons.injEq, hclose, hopen, false_and, false_implies, implies_true]
      cases SetOperation.read? (c :: rest) with
      | none => cases readItem f (c :: rest) <;> rfl
      | some r => rfl

/-- Whether an entry has left brackets open that nothing can close. -/
def LeftOpen (entry : Nested ⊕ OpenBracket) (rest : List Char) : Prop :=
  ']' ∉ rest ∧ ∃ b, entry = .inr b

lemma atEnd_readEntry_cons (f : Flags)
    {readInside : OpenBracket → List Char → Except Fault (Nested × List Char)}
    (hinside : ∀ b cs, AtEnd Never (readInside b) cs) (b : OpenBracket) {c : Char} {cs : List Char}
    (hskip : f.skip (c :: cs) = c :: cs) :
    AtEnd LeftOpen (fun cs => readEntry f readInside b (c :: cs)) cs := by
  by_cases hclose : c = ']'
  · subst hclose
    have hset : AtEnd LeftOpen (fun cs => ((b.close f).map .inl).map fun entry => (entry, cs)) cs :=
      .map _
    refine hset.congr fun t _ => ?_
    simp only [readEntry, Flags.skip_cons_eq hskip]
    cases b.close f <;> rfl
  by_cases hopen : c = '['
  · subst hopen
    cases hname : readAsciiName? f cs with
    | none =>
      have hopening : AtEnd Never (fun cs => .ok (readOpening f cs) >>= fun r =>
          readInside r.1 r.2) cs :=
        (atEnd_readOpening f cs).bind_never fun inner rest _ _ => hinside inner rest
      have hnested : AtEnd LeftOpen (fun cs => (.ok (readOpening f cs) >>= fun r =>
          readInside r.1 r.2) >>= fun r => .ok (.inr (b.add r.1), r.2)) cs :=
        hopening.bind_never fun item rest _ _ => .ok (Sum.inr (b.add item))
      refine hnested.congr fun t ht => ?_
      simp only [readEntry, Flags.skip_cons_eq hskip, readAsciiName?_append f cs ht, hname]
      rfl
    | some r =>
      obtain ⟨item, rest⟩ := r
      refine .of_map (item.map fun item => Sum.inr (b.add item)) (suffix_of_readAsciiName? hname)
        fun t ht => ?_
      simp only [readEntry, Flags.skip_cons_eq hskip, readAsciiName?_append f cs ht, hname]
      cases item <;> rfl
  · cases hoperation : SetOperation.read? (c :: cs) with
    | none =>
      have hitem : AtEnd LeftOpen (fun cs => readItem f (c :: cs) >>= fun r =>
          .ok (.inr (b.add r.1), r.2)) cs := by
        refine (atEnd_readItem f c cs).bind (fun item rest _ _ => .ok (Sum.inr (b.add item))) ?_
        rintro item rest hlost entry rest' h
        obtain ⟨rfl, rfl⟩ := Prod.mk.inj (Except.ok.inj h)
        exact ⟨hlost, _, rfl⟩
      refine hitem.congr fun t ht => ?_
      have happend : SetOperation.read? (c :: (cs ++ t)) = none := by
        rw [← List.cons_append, SetOperation.read?_append _ ht, hoperation, Option.map_none]
      simp [readEntry, Flags.skip_cons_eq hskip, hclose, hopen, happend]
    | some r =>
      obtain ⟨operation, rest⟩ := r
      refine .stops (.inr (b.operate operation)) rest (SetOperation.suffix_of_read? hoperation)
        fun t ht => ?_
      have happend : SetOperation.read? (c :: (cs ++ t)) = some (operation, rest ++ t) := by
        rw [← List.cons_append, SetOperation.read?_append _ ht, hoperation, Option.map_some]
      simp [readEntry, Flags.skip_cons_eq hskip, hclose, hopen, happend]

lemma mem_of_readEntry_inl {f : Flags}
    {readInside : OpenBracket → List Char → Except Fault (Nested × List Char)} {b : OpenBracket}
    {cs rest : List Char} {set : Nested} (h : readEntry f readInside b cs = .ok (.inl set, rest)) :
    ']' ∈ cs := by
  rw [readEntry] at h
  split at h
  case h_2 behind heq => exact (f.skip_suffix cs).subset (by simp [heq])
  case h_3 =>
    split at h
    · obtain ⟨item, -, hitem⟩ := map_eq_ok h
      nomatch hitem
    · obtain ⟨r, -, hitem⟩ := bind_eq_ok h
      nomatch hitem
  case h_4 =>
    split at h
    · nomatch h
    · obtain ⟨r, -, hitem⟩ := bind_eq_ok h
      nomatch hitem
  case h_1 => nomatch h

lemma atEnd_readEntry (f : Flags)
    {readInside : OpenBracket → List Char → Except Fault (Nested × List Char)}
    (hinside : ∀ b cs, AtEnd Never (readInside b) cs) (b : OpenBracket) (cs : List Char) :
    AtEnd LeftOpen (readEntry f readInside b) cs := by
  refine .of_skip f (fun cs => by simp only [readEntry, f.skip_skip]) fun rest _ hskip => ?_
  cases rest with
  | nil =>
    refine .nil_of_error .unclosedBracket (by simp [readEntry]) fun entry rest h => ?_
    have hsuffix := (atEnd_readEntry_cons f hinside b (f.skip_parenthesis ['$'])).suffix_of_eq h
    refine ⟨unclosed_of_suffix (x := ()) (hsuffix.trans (List.suffix_cons ')' _)), ?_⟩
    cases entry with
    | inl set => exact absurd (mem_of_readEntry_inl h) (by decide)
    | inr b => exact ⟨b, rfl⟩
  | cons c rest => exact (atEnd_readEntry_cons f hinside b hskip).cons

/-- Brackets are read as `AtEnd` says, and not closed without a closing bracket. -/
lemma atEnd_readRest_and_ne (f : Flags) (fuel : Nat) (b : OpenBracket) (cs : List Char) :
    AtEnd Never (readRest f fuel b) cs ∧
      (']' ∉ cs → ∀ set rest, readRest f fuel b cs ≠ .ok (set, rest)) := by
  -- A reader that is lost in an entry goes on with less fuel and without a closing bracket, so the
  -- first part needs the second one by the induction hypothesis.
  induction fuel generalizing b cs with
  | zero => exact ⟨.error .unclosedBracket, fun _ _ _ h => nomatch h⟩
  | succ fuel ih =>
    have hentry := atEnd_readEntry f (fun b cs => (ih b cs).1) b cs
    constructor
    · rw [funext (readRest_succ f fuel b)]
      refine hentry.bind (fun entry rest _ _ => ?_) ?_
      · cases entry with
        | inl set => exact .ok set
        | inr b => exact (ih b rest).1
      · rintro entry rest ⟨hrest, b, rfl⟩ set rest' h
        exact absurd h ((ih b rest).2 hrest set rest')
    · intro hcs set rest h
      rw [readRest_succ] at h
      obtain ⟨⟨entry, behind⟩, hread, h⟩ := bind_eq_ok h
      cases entry with
      | inl set => exact hcs (mem_of_readEntry_inl hread)
      | inr b =>
        exact (ih b behind).2 (fun hmem => hcs ((hentry.suffix_of_eq hread).subset hmem)) set rest h

lemma atEnd_readRest (f : Flags) (fuel : Nat) (b : OpenBracket) (cs : List Char) :
    AtEnd Never (readRest f fuel b) cs :=
  (atEnd_readRest_and_ne f fuel b cs).1

/-- An entry takes at least one character. -/
lemma length_lt_of_readEntry {f : Flags} {fuel : Nat} {b : OpenBracket} {cs rest : List Char}
    {entry : Nested ⊕ OpenBracket} (h : readEntry f (readRest f fuel) b cs = .ok (entry, rest)) :
    rest.length < cs.length := by
  have hskip : readEntry f (readRest f fuel) b (f.skip cs) = .ok (entry, rest) := by
    rw [← h]
    simp only [readEntry, f.skip_skip]
  have hlength := (f.skip_suffix cs).length_le
  cases hcs : f.skip cs with
  | nil => simp [readEntry, hcs] at h
  | cons c behind =>
    have hsame : f.skip (c :: behind) = c :: behind := by rw [← hcs, f.skip_skip]
    rw [hcs] at hskip hlength
    have hsuffix := (atEnd_readEntry_cons f (atEnd_readRest f fuel) b hsame).suffix_of_eq hskip
    exact (Nat.lt_succ_of_le hsuffix.length_le).trans_le hlength

/-- What is inside of further brackets is shorter. -/
lemma readEntry_congr {f : Flags}
    {readInside readInside' : OpenBracket → List Char → Except Fault (Nested × List Char)}
    {cs : List Char} (b : OpenBracket)
    (h : ∀ b cs', cs'.length < cs.length → readInside b cs' = readInside' b cs') :
    readEntry f readInside b cs = readEntry f readInside' b cs := by
  rw [readEntry, readEntry]
  split
  case h_3 rest heq =>
    split
    · rfl
    · have hopening : (readOpening f rest).2 <:+ rest :=
        (atEnd_readOpening f rest).suffix_of_eq rfl
      have hlength := (f.skip_suffix cs).length_le
      rw [heq] at hlength
      rw [h _ _ ((Nat.lt_succ_of_le hopening.length_le).trans_le hlength)]
  all_goals rfl

/-- Enough fuel is as good as more. -/
lemma readRest_eq (f : Flags) {n m : Nat} (b : OpenBracket) {cs : List Char} (hn : cs.length < n)
    (hm : cs.length < m) : readRest f n b cs = readRest f m b cs := by
  induction n generalizing m b cs with
  | zero => exact absurd hn (Nat.not_lt_zero _)
  | succ n ih =>
    obtain ⟨m, rfl⟩ := Nat.exists_eq_succ_of_ne_zero (Nat.ne_zero_of_lt hm)
    have hentry : readEntry f (readRest f n) b cs = readEntry f (readRest f m) b cs :=
      readEntry_congr b fun b cs' hcs' => ih b (by omega) (by omega)
    rw [readRest_succ, readRest_succ, ← hentry]
    cases hread : readEntry f (readRest f n) b cs with
    | error fault => rfl
    | ok r =>
      obtain ⟨set | b, rest⟩ := r
      · rfl
      · have hlength := length_lt_of_readEntry hread
        exact ih b (by omega) (by omega)

lemma atEnd_readBracket (f : Flags) (cs : List Char) : AtEnd Never (readBracket f) cs := by
  have hrest (b : OpenBracket) (rest : List Char) :
      AtEnd Never (fun cs => readRest f (cs.length + 1) b cs) rest := by
    -- The fuel depends on the text, and so on the ending; `rest.length + 3` is enough with all of it.
    refine (atEnd_readRest f (rest.length + 3) b rest).congr fun t ht => ?_
    have hlength := ht.length_le
    simp only [ending, List.length_cons, List.length_nil] at hlength
    exact readRest_eq f b (by omega) (by rw [List.length_append]; omega)
  have hbracket : AtEnd Never (fun cs => .ok (readOpening f cs) >>= fun r =>
      readRest f (r.2.length + 1) r.1 r.2) cs :=
    (atEnd_readOpening f cs).bind_never fun b rest _ _ => hrest b rest
  exact hbracket

end TokenPattern.Regex
