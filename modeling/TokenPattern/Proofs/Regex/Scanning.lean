import TokenPattern.Proofs.Regex.Elements

/-!
# Dividing a pattern into elements in front of the ending

What holds of one element in front of the ending holds of a whole text (`atEnd_scan`), unless the
text closes a group that it has not opened.  There are three ways.

* The elements of the text come first, and then the ending is divided for itself.
* The text ends in a comment, and the ending adds no element.
* The text is refused.  With the ending behind it, it is refused, too, or the groups in front of it
  stay open, since a reader that was lost went past the parenthesis.

The induction is on the length of the text, which every element shortens.  For the same reason the
fuel of the scanner makes no difference (`scanFrom_eq`).
-/

namespace TokenPattern.Regex

/-! ## One element after the other -/

/-- Divides a text into elements. -/
def Scanner.scan (s : Scanner) (cs : List Char) : Except Fault (List Token) :=
  scanFrom (cs.length + 1) s cs

lemma scanFrom_succ (fuel : Nat) (s : Scanner) (cs : List Char) :
    scanFrom (fuel + 1) s cs =
      match s.flags.skip cs with
      | [] => .ok []
      | c :: rest =>
        readElement s c rest >>= fun r => (scanFrom fuel r.1.2 r.2).map (r.1.1 :: ·) := by
  rw [scanFrom]
  cases s.flags.skip cs with
  | nil => rfl
  | cons c rest =>
    simp only [readElement]
    cases readToken s c rest with
    | error fault => rfl
    | ok r =>
      simp only [bind, Except.bind, Except.map, regroup]
      cases scanFrom fuel r.2.1 r.2.2 <;> rfl

lemma length_le_of_readElement {s : Scanner} {c : Char} {cs : List Char}
    {r : (Token × Scanner) × List Char} (h : readElement s c cs = .ok r) :
    r.2.length ≤ cs.length :=
  ((atEnd_readElement s c cs).suffix_of_eq h).length_le

/-- Enough fuel is as good as more. -/
lemma scanFrom_eq {n m : Nat} (s : Scanner) {cs : List Char} (hn : cs.length < n)
    (hm : cs.length < m) : scanFrom n s cs = scanFrom m s cs := by
  induction n generalizing m s cs with
  | zero => exact absurd hn (Nat.not_lt_zero _)
  | succ n ih =>
    obtain ⟨m, rfl⟩ := Nat.exists_eq_succ_of_ne_zero (Nat.ne_zero_of_lt hm)
    rw [scanFrom_succ, scanFrom_succ]
    have hskip := (s.flags.skip_suffix cs).length_le
    cases hcs : s.flags.skip cs with
    | nil => rfl
    | cons c rest =>
      rw [hcs, List.length_cons] at hskip
      simp only
      cases hread : readElement s c rest with
      | error fault => rfl
      | ok r =>
        have hlength := length_le_of_readElement hread
        have hrest : scanFrom n r.1.2 r.2 = scanFrom m r.1.2 r.2 := ih r.1.2 (by omega) (by omega)
        simp only [bind, Except.bind, hrest]

namespace Scanner

lemma inside_nil (s : Scanner) : s.inside [] = s := by simp [inside]

variable {s s' : Scanner} {cs rest rest' : List Char} {c : Char} {token : Token}

/-- Blanks in front make no difference. -/
lemma scan_congr {cs' : List Char} (h : s.flags.skip cs = s.flags.skip cs') :
    s.scan cs = s.scan cs' := by
  have hleft : s.scan cs = scanFrom (cs.length + cs'.length + 1) s cs :=
    scanFrom_eq s (by omega) (by omega)
  have hright : s.scan cs' = scanFrom (cs.length + cs'.length + 1) s cs' :=
    scanFrom_eq s (by omega) (by omega)
  rw [hleft, hright, scanFrom_succ, scanFrom_succ, h]

lemma scan_of_skip_eq_nil (h : s.flags.skip cs = []) : s.scan cs = .ok [] := by
  rw [scan, scanFrom_succ, h]

lemma scan_of_error {fault : Fault} (h : s.flags.skip cs = c :: rest)
    (hread : readElement s c rest = .error fault) : s.scan cs = .error fault := by
  rw [scan, scanFrom_succ, h]
  simp only [hread]
  rfl

/-- Behind an element, it goes on with the next one. -/
lemma scan_of_ok (h : s.flags.skip cs = c :: rest)
    (hread : readElement s c rest = .ok ((token, s'), rest')) :
    s.scan cs = (s'.scan rest').map (token :: ·) := by
  have hskip := (s.flags.skip_suffix cs).length_le
  have hlength : rest'.length ≤ rest.length := length_le_of_readElement hread
  rw [h, List.length_cons] at hskip
  rw [scan, scanFrom_succ, h]
  have hfuel : scanFrom cs.length s' rest' = s'.scan rest' :=
    scanFrom_eq s' (by omega) (Nat.lt_succ_self _)
  simp only [hread, ← hfuel]
  rfl

lemma scan_dollar (s : Scanner) :
    s.scan ['$'] = .ok [.step (s.flags.assertion s.flags.endAssertion) 0] := by
  have hread : readElement s '$' [] =
      .ok ((.step (s.flags.assertion s.flags.endAssertion) 0, s), []) := rfl
  rw [scan_of_ok (s.flags.skip_dollar []) hread, scan_of_skip_eq_nil s.flags.skip_nil]
  rfl

end Scanner

/-! ## Open groups -/

/-- The number of open groups behind some elements. -/
def openAfterAll : List Token → Nat → Option Nat
  | [], n => some n
  | token :: rest, n => (token.openAfter n).bind (openAfterAll rest)

lemma Token.openAfter_add {token : Token} {n m : Nat} (h : token.openAfter n = some m) (k : Nat) :
    token.openAfter (n + k) = some (m + k) := by
  cases token with
  | opening captures =>
    cases h
    exact congrArg some (by omega)
  | closing =>
    cases n with
    | zero => cases h
    | succ n =>
      cases h
      rw [Nat.succ_add]
      rfl
  | step r depth => cases h; rfl
  | flags => cases h; rfl
  | bar => cases h; rfl
  | repetition min max isLazy => cases h; rfl

lemma openAfterAll_cons {token : Token} {tokens : List Token} {n m : Nat}
    (h : token.openAfter n = some m) :
    openAfterAll (token :: tokens) n = openAfterAll tokens m := by
  rw [openAfterAll, h, Option.bind_some]

lemma openAfterAll_append (first second : List Token) (n : Nat) :
    openAfterAll (first ++ second) n = (openAfterAll first n).bind (openAfterAll second) := by
  induction first generalizing n with
  | nil => rfl
  | cons token rest ih =>
    rw [List.cons_append, openAfterAll, openAfterAll, Option.bind_assoc]
    exact congrArg _ (funext ih)

lemma openAfterAll_add {tokens : List Token} {n m : Nat} (h : openAfterAll tokens n = some m)
    (k : Nat) : openAfterAll tokens (n + k) = some (m + k) := by
  induction tokens generalizing n with
  | nil =>
    cases h
    rfl
  | cons token rest ih =>
    obtain ⟨n', hn', hrest⟩ := Option.bind_eq_some_iff.1 h
    rw [openAfterAll_cons (Token.openAfter_add hn' k)]
    exact ih hrest

/-- What has gone past the end of a text opens and closes no group. -/
lemma openAfterAll_of_past {x : Token × Scanner} {rest : List Char} {tokens : List Token}
    (h : PastElement x rest) (hscan : x.2.scan rest = .ok tokens) (n : Nat) :
    openAfterAll tokens n = some n := by
  obtain hrest | ⟨inner, rfl, hinner⟩ := h
  · obtain rfl | rfl : rest = [] ∨ rest = ['$'] := by
      simpa [List.suffix_cons_iff, or_comm] using hrest
    · rw [Scanner.scan_of_skip_eq_nil (Flags.skip_nil _)] at hscan
      cases hscan
      rfl
    · rw [Scanner.scan_dollar] at hscan
      cases hscan
      rfl
  · have hread : readElement x.2 '\x7b' inner = .error .invalidCount := by
      rw [readElement_plain _ (by decide) (by decide)]
      have hcounts : readCounts x.2.flags inner = .error .invalidCount := by
        rw [readCounts, hinner, readCount_ending]
        rfl
      simp only [readPlain, hcounts]
      rfl
    rw [Scanner.scan_of_error (x.2.flags.skip_cons (by decide) (by decide) inner) hread] at hscan
    cases hscan

/-- What dividing a text does in front of the ending. -/
inductive ScanAtEnd (s : Scanner) (cs : List Char) : Prop where
  | stops (tokens : List Token) (s' : Scanner)
    (scans : ∀ base t, t <+: ending →
      (s.inside base).scan (cs ++ t) = ((s'.inside base).scan t).map (tokens ++ ·))
    (opens : openAfterAll tokens s.outer.length = some s'.outer.length)
  | comment (tokens : List Token) (n : Nat) (sign : HasOpenSign cs)
    (scans : ∀ base t, t <+: ending → (s.inside base).scan (cs ++ t) = .ok tokens)
    (opens : openAfterAll tokens s.outer.length = some n)
  | fails (fault : Fault) (fails : s.scan cs = .error fault)
    (opens : ∀ base tokens n, (s.inside base).scan (cs ++ ending) = .ok tokens →
      openAfterAll tokens (s.outer.length + base.length) = some n → base.length ≤ n)

lemma readElement_close_of_nil {s : Scanner} (h : s.outer = []) (cs : List Char) :
    readElement s ')' cs = .error .unopenedGroup := by
  simp only [readElement_close, Scanner.closeGroup, h]
  rfl

section

variable {s s' : Scanner} {cs rest : List Char} {c : Char}

/-- An element in front of a text. -/
lemma ScanAtEnd.cons {rest' : List Char} {token : Token} (h : ScanAtEnd s' rest')
    (hskip : ∀ t, t <+: ending → s.flags.skip (cs ++ t) = c :: (rest ++ t))
    (hread : ∀ base t, t <+: ending →
      readElement (s.inside base) c (rest ++ t) = .ok ((token, s'.inside base), rest' ++ t))
    (hsuffix : rest' <:+ cs)
    (hopen : token.openAfter s.outer.length = some s'.outer.length) : ScanAtEnd s cs := by
  have hscan (base : List Flags) (t : List Char) (ht : t <+: ending) :
      (s.inside base).scan (cs ++ t) = ((s'.inside base).scan (rest' ++ t)).map (token :: ·) :=
    Scanner.scan_of_ok (hskip t ht) (hread base t ht)
  cases h with
  | stops tokens s'' hscans hopens =>
    refine .stops (token :: tokens) s'' (fun base t ht => ?_)
      ((openAfterAll_cons hopen).trans hopens)
    rw [hscan base t ht, hscans base t ht]
    cases (s''.inside base).scan t <;> rfl
  | comment tokens n hsign hscans hopens =>
    refine .comment (token :: tokens) n (hsign.of_suffix hsuffix) (fun base t ht => ?_)
      ((openAfterAll_cons hopen).trans hopens)
    rw [hscan base t ht, hscans base t ht]
    rfl
  | fails fault hfails hopens =>
    refine .fails fault ?_ fun base tokens n htokens hn => ?_
    · have hnone := hscan [] [] List.nil_prefix
      rw [List.append_nil, List.append_nil, Scanner.inside_nil, Scanner.inside_nil, hfails] at hnone
      exact hnone
    · rw [hscan base ending List.prefix_rfl] at htokens
      obtain ⟨tokens', htokens', rfl⟩ := map_eq_ok htokens
      rw [openAfterAll_cons (Token.openAfter_add hopen base.length)] at hn
      exact hopens base tokens' n htokens' hn

/-- An element that cannot be read without the ending. -/
lemma ScanAtEnd.of_fails {fault : Fault} (hskip : s.flags.skip cs = c :: rest)
    (hskip' : s.flags.skip (cs ++ ending) = c :: (rest ++ ending))
    (hc : c ≠ ')' ∨ s.outer ≠ []) (hfails : readElement s c rest = .error fault)
    (hpast : ∀ x rest', readElement s c (rest ++ ending) = .ok (x, rest') → PastElement x rest') :
    ScanAtEnd s cs := by
  refine .fails fault (Scanner.scan_of_error hskip hfails) fun base tokens n hscan hn => ?_
  have hskip'' : (s.inside base).flags.skip (cs ++ ending) = c :: (rest ++ ending) := hskip'
  have hinside := readElement_inside s base hc (rest ++ ending)
  cases hread : readElement s c (rest ++ ending) with
  | error fault =>
    rw [hread] at hinside
    nomatch (Scanner.scan_of_error hskip'' hinside).symm.trans hscan
  | ok r =>
    obtain ⟨⟨token, s'⟩, rest'⟩ := r
    rw [hread] at hinside
    rw [Scanner.scan_of_ok hskip'' hinside] at hscan
    obtain ⟨tokens', htokens', rfl⟩ := map_eq_ok hscan
    have hpast' : PastElement (token, s'.inside base) rest' := hpast (token, s') rest' hread
    rw [openAfterAll_cons (Token.openAfter_add (openAfter_readElement hread) base.length),
      openAfterAll_of_past hpast' htokens'] at hn
    exact (Nat.le_add_left _ _).trans_eq (Option.some.inj hn)

end

/-- A text that closes no group in front of it is divided as `ScanAtEnd` says. -/
theorem atEnd_scan (s : Scanner) (cs : List Char) (h : s.scan cs ≠ .error .unopenedGroup) :
    ScanAtEnd s cs := by
  induction hn : cs.length using Nat.strong_induction_on generalizing s cs with
  | _ n ih =>
    subst hn
    -- Behind the last element there may be a comment.
    obtain hskip | ⟨hsign, hskip⟩ := s.flags.skip_append cs
    case inr =>
      exact .comment [] s.outer.length hsign
        (fun base t ht => Scanner.scan_of_skip_eq_nil (hskip t ht)) rfl
    cases hcs : s.flags.skip cs with
    | nil =>
      refine .stops [] s (fun base t ht => ?_) rfl
      have hsame : (s.inside base).scan (cs ++ t) = (s.inside base).scan t := by
        refine Scanner.scan_congr ?_
        change s.flags.skip (cs ++ t) = s.flags.skip t
        rw [hskip t ht, hcs, List.nil_append, s.flags.skip_ending ht]
      rw [hsame]
      cases (s.inside base).scan t <;> rfl
    | cons c rest =>
      have hskip' (t : List Char) (ht : t <+: ending) : s.flags.skip (cs ++ t) = c :: (rest ++ t) := by
        rw [hskip t ht, hcs, List.cons_append]
      have hrest : rest <:+ cs := (List.suffix_cons c rest).trans (hcs ▸ s.flags.skip_suffix cs)
      -- With no group open, a closing parenthesis would be the excluded fault.
      have hc : c ≠ ')' ∨ s.outer ≠ [] := by
        refine or_iff_not_imp_left.2 fun hc houter => h ?_
        rw [not_not.1 hc] at hcs
        exact Scanner.scan_of_error hcs (readElement_close_of_nil houter rest)
      cases atEnd_readElement s c rest with
      | stops x rest' hsuffix hreads =>
        have hread : readElement s c rest = .ok (x, rest') := by simpa using hreads [] List.nil_prefix
        refine ScanAtEnd.cons (ih rest'.length ?_ x.2 rest' ?_ rfl) hskip' (fun base t ht => ?_)
          (hsuffix.trans hrest) (openAfter_readElement hread)
        · have hlength := (s.flags.skip_suffix cs).length_le
          rw [hcs, List.length_cons] at hlength
          exact (Nat.lt_succ_of_le hsuffix.length_le).trans_le hlength
        · intro hunopened
          rw [Scanner.scan_of_ok hcs hread, hunopened] at h
          exact h rfl
        · rw [readElement_inside s base hc, hreads t ht]
          rfl
      | comment x hsign hreads =>
        have hread : readElement s c rest = .ok (x, []) := by simpa using hreads [] List.nil_prefix
        have hopen := openAfter_readElement hread
        refine .comment [x.1] x.2.outer.length (hsign.of_suffix hrest) (fun base t ht => ?_)
          (openAfterAll_cons hopen)
        have hread' :
            readElement (s.inside base) c (rest ++ t) = .ok ((x.1, x.2.inside base), []) := by
          rw [readElement_inside s base hc, hreads t ht]
          rfl
        have hskip'' : (s.inside base).flags.skip (cs ++ t) = c :: (rest ++ t) := hskip' t ht
        rw [Scanner.scan_of_ok hskip'' hread', Scanner.scan_of_skip_eq_nil (Flags.skip_nil _)]
        rfl
      | fails fault hfails hreads =>
        exact .of_fails hcs (hskip' ending List.prefix_rfl) hc hfails hreads

end TokenPattern.Regex
