import TokenPattern.Proofs.Regex.Brackets

/-!
# The elements of a pattern in front of the ending

`readElement` reads one element, whatever it is.  In front of the ending it is lost in two ways:
past the parenthesis, and with a brace that has only blanks between it and the ending.  Neither
leaves anything behind that closes a group (`PastElement`).

**Groups.**  An element changes the number of open groups as `Token.openAfter` says.  The groups
that are open in front of a text make no difference to its elements, except to a parenthesis that
closes one of them (`readElement_inside`).
-/

namespace TokenPattern.Regex

open Unicode (isWhiteSpace)

/-! ## Groups -/

lemma atEnd_readFlags (seen : List (Flag × Bool)) (negated dangling : Bool) (cs : List Char) :
    AtEnd Passed (fun cs => (readFlags seen negated dangling cs).map fun r => ((r.1, r.2.1), r.2.2))
      cs := by
  induction cs generalizing seen negated dangling with
  | nil =>
    refine .nil_of_error .unexpectedEnd rfl fun x rest h => ?_
    obtain ⟨r, hr, hrest⟩ := map_eq_ok h
    cases dangling with
    | true => cases hr
    | false =>
      obtain rfl := Except.ok.inj hr
      obtain ⟨-, rfl⟩ := Prod.mk.inj hrest
      exact List.suffix_rfl
  | cons c rest ih =>
    refine .cons ?_
    simp only [readFlags]
    split
    · split
      · exact .error .danglingNegation
      · exact .ok (seen, c)
    · split
      · split
        · exact .error .danglingNegation
        · exact ih seen true true
      · split
        · split
          · exact .error .repeatedFlag
          · exact ih _ negated false
        · exact .error (.unknownFlag c)

lemma isGroupNameChar_parenthesis (first : Bool) : isGroupNameChar first ')' = false := by
  cases first <;> decide

lemma atEnd_readGroupName (read cs : List Char) : AtEnd Never (readGroupName read) cs := by
  induction cs generalizing read with
  | nil =>
    refine .nil_of_error .unexpectedEnd rfl fun x rest h => ?_
    simp [readGroupName, ending, isGroupNameChar_parenthesis] at h
  | cons c rest ih =>
    refine .cons ?_
    by_cases hc : c = '>'
    · subst hc
      simp only [readGroupName]
      split
      · exact .error .invalidGroupName
      · exact .ok (String.ofList read.reverse)
    · simp only [readGroupName]
      split
      · exact ih (c :: read)
      · exact .error .invalidGroupName

/-- A result with the token and the scanner together. -/
def regroup (r : Token × Scanner × List Char) : (Token × Scanner) × List Char :=
  ((r.1, r.2.1), r.2.2)

/-- What flags behind a question mark make, up to the character that ends them. -/
def flagGroup (s : Scanner) (changes : List (Flag × Bool)) (last : Char) :
    Except Fault (Token × Scanner) :=
  let flags := s.flags.switchAll changes
  if last = ':' then .ok (.opening false, s.openGroup flags)
  else if changes.isEmpty then .error .nothingToRepeat
  else .ok (.flags, { s with flags := flags })

lemma readFlagGroup_eq (s : Scanner) (cs : List Char) :
    (readFlagGroup s cs).map regroup =
      ((readFlags [] false false cs).map fun r => ((r.1, r.2.1), r.2.2)) >>= fun r =>
        (flagGroup s r.1.1 r.1.2).map fun x => (x, r.2) := by
  simp only [readFlagGroup, flagGroup]
  cases readFlags [] false false cs with
  | error fault => rfl
  | ok r =>
    obtain ⟨changes, last, rest⟩ := r
    simp only [bind, Except.bind]
    by_cases hlast : last = ':'
    · simp only [hlast, if_true]
      rfl
    · cases hchanges : changes.isEmpty <;> simp only [Except.map, hlast, hchanges] <;> rfl

/-- What a name makes. -/
def namedGroup (s : Scanner) (name : String) : Except Fault (Token × Scanner) :=
  if s.names.contains name then .error (.repeatedGroupName name)
  else .ok (.opening true, { s.openGroup s.flags with names := name :: s.names })

lemma readNamedGroup_eq (s : Scanner) (cs : List Char) :
    (readNamedGroup s cs).map regroup =
      readGroupName [] cs >>= fun r => (namedGroup s r.1).map fun x => (x, r.2) := by
  simp only [readNamedGroup, namedGroup]
  cases readGroupName [] cs with
  | error fault => rfl
  | ok r =>
    simp only [bind, Except.bind]
    cases s.names.contains r.1 <;> rfl

lemma atEnd_readFlagGroup (s : Scanner) (cs : List Char) :
    AtEnd Passed (fun cs => (readFlagGroup s cs).map regroup) cs := by
  rw [funext (readFlagGroup_eq s)]
  exact (atEnd_readFlags [] false false cs).bind_passed fun x _ => .map (flagGroup s x.1 x.2)

lemma atEnd_readNamedGroup (s : Scanner) (cs : List Char) :
    AtEnd Passed (fun cs => (readNamedGroup s cs).map regroup) cs := by
  rw [funext (readNamedGroup_eq s)]
  exact (atEnd_readGroupName [] cs).bind_never fun name _ _ _ => .map (namedGroup s name)

/-- Reads what follows a question mark behind an opening parenthesis. -/
def readMarkedGroup (s : Scanner) : List Char → Except Fault (Token × Scanner × List Char)
  | '=' :: _ | '!' :: _ | '<' :: '=' :: _ | '<' :: '!' :: _ => .error .lookAround
  | 'P' :: '<' :: rest | '<' :: rest => readNamedGroup s rest
  | rest => readFlagGroup s rest

lemma atEnd_readMarkedGroup (s : Scanner) (cs : List Char) :
    AtEnd Passed (fun cs => (readMarkedGroup s cs).map regroup) cs := by
  cases cs with
  | nil =>
    refine (atEnd_readFlagGroup s []).congr fun t ht => ?_
    obtain rfl | rfl | rfl := prefix_ending_cases ht <;> rfl
  | cons c rest =>
    by_cases hequal : c = '='
    · exact (AtEnd.error .lookAround).congr fun t _ => by rw [hequal]; rfl
    by_cases hmark : c = '!'
    · exact (AtEnd.error .lookAround).congr fun t _ => by rw [hmark]; rfl
    by_cases hangle : c = '<'
    · subst hangle
      refine .cons ?_
      cases rest with
      | nil =>
        refine (atEnd_readNamedGroup s []).congr fun t ht => ?_
        obtain rfl | rfl | rfl := prefix_ending_cases ht <;> rfl
      | cons d rest =>
        by_cases hequal : d = '='
        · exact (AtEnd.error .lookAround).congr fun t _ => by rw [hequal]; rfl
        by_cases hmark : d = '!'
        · exact (AtEnd.error .lookAround).congr fun t _ => by rw [hmark]; rfl
        · exact (atEnd_readNamedGroup s (d :: rest)).congr fun t _ => by
            simp [readMarkedGroup, hequal, hmark]
    by_cases hletter : c = 'P'
    · subst hletter
      cases rest with
      | nil =>
        refine (atEnd_readFlagGroup s ['P']).congr fun t ht => ?_
        obtain rfl | rfl | rfl := prefix_ending_cases ht <;> rfl
      | cons d rest =>
        by_cases hangle : d = '<'
        · subst hangle
          exact .cons (.cons (atEnd_readNamedGroup s rest))
        · exact (atEnd_readFlagGroup s ('P' :: d :: rest)).congr fun t _ => by
            simp [readMarkedGroup, hangle]
    · exact (atEnd_readFlagGroup s (c :: rest)).congr fun t _ => by
        simp [readMarkedGroup, hequal, hmark, hangle, hletter]

lemma readGroup_of_mark {s : Scanner} {cs rest : List Char} (h : s.flags.skip cs = '?' :: rest) :
    readGroup s cs = readMarkedGroup s rest := by
  simp only [readGroup, h, readMarkedGroup]
  split <;> simp_all

lemma atEnd_readGroup (s : Scanner) (cs : List Char) :
    AtEnd Passed (fun cs => (readGroup s cs).map regroup) cs := by
  refine .of_skip s.flags (fun cs => by simp only [readGroup, Flags.skip_skip]) fun rest _ hskip => ?_
  have hplain (cs : List Char) :
      AtEnd Passed (fun cs => .ok ((Token.opening true, s.openGroup s.flags), cs)) cs :=
    .ok (Token.opening true, s.openGroup s.flags)
  cases rest with
  | nil =>
    refine (hplain []).congr fun t ht => ?_
    obtain rfl | rfl | rfl := prefix_ending_cases ht <;> simp [readGroup, ending] <;> rfl
  | cons c rest =>
    by_cases hc : c = '?'
    · subst hc
      exact .cons ((atEnd_readMarkedGroup s rest).congr fun t _ => by
        rw [readGroup_of_mark (Flags.skip_cons_eq hskip _)])
    · refine (hplain (c :: rest)).congr fun t _ => ?_
      simp [readGroup, Flags.skip_cons_eq hskip, hc]
      rfl

/-! ## Elements -/

/-- Reads an element that is no parenthesis. -/
def readPlain (f : Flags) (c : Char) (rest : List Char) : Except Fault (Token × List Char) :=
  match c with
  | '|' => .ok (.bar, rest)
  | '?' => .ok (readPreference f 0 (some 1) rest)
  | '*' => .ok (readPreference f 0 none rest)
  | '+' => .ok (readPreference f 1 none rest)
  | '\x7b' => readCounts f rest
  | c => readStep f c rest

/-- Reads the element that starts with a character. -/
def readElement (s : Scanner) (c : Char) (rest : List Char) :
    Except Fault ((Token × Scanner) × List Char) :=
  (readToken s c rest).map regroup

lemma readElement_close (s : Scanner) (rest : List Char) :
    readElement s ')' rest =
      (s.closeGroup.map fun s => (Token.closing, s)).map fun x => (x, rest) := by
  simp only [readElement, readToken]
  cases s.closeGroup <;> rfl

lemma readElement_plain (s : Scanner) {c : Char} (hopen : c ≠ '(') (hclose : c ≠ ')')
    (rest : List Char) :
    readElement s c rest = readPlain s.flags c rest >>= fun r => .ok ((r.1, s), r.2) := by
  have hmap (r : Except Fault (Token × List Char)) :
      (r.map fun r => (r.1, s, r.2)).map regroup = r >>= fun r => .ok ((r.1, s), r.2) := by
    cases r <;> rfl
  simp only [readElement, readToken, readPlain]
  split
  · contradiction
  · contradiction
  · rfl
  · rfl
  · rfl
  · rfl
  · exact hmap (readCounts s.flags rest)
  · simp only
    exact hmap (readStep s.flags c rest)

/-- How a plain element can go on into the ending: past the parenthesis, or with a brace that has
nothing but blanks between it and the ending. -/
def PastPlain (f : Flags) (_ : Token) (rest : List Char) : Prop :=
  rest <:+ ['$'] ∨ ∃ inner, rest = '\x7b' :: inner ∧ f.skip inner = ending

lemma atEnd_readStep (f : Flags) (c : Char) (cs : List Char) :
    AtEnd (PastPlain f) (readStep f c) cs := by
  unfold readStep
  split
  · exact (atEnd_readBracket f cs).bind_never fun set _ _ _ =>
      .ok (Token.step (.one set.set) set.depth)
  · refine (atEnd_readEscape f cs).bind
      (fun p _ _ _ => .of_except (p.asStep f) fun r => .ok (Token.step r 0)) ?_
    rintro p rest hlost token rest' h
    obtain ⟨r, -, h⟩ := bind_eq_ok h
    obtain ⟨rfl, rfl⟩ := Prod.mk.inj (Except.ok.inj h)
    exact hlost.imp id And.right
  · refine .of_map (f.point.map fun set => .step (.one set) 0) List.suffix_rfl fun t _ => ?_
    cases f.point <;> rfl
  · exact .ok (Token.step (f.assertion f.startAssertion) 0)
  · exact .ok (Token.step (f.assertion f.endAssertion) 0)
  · refine .of_map ((f.literalSet c false).map fun set => .step (.one set) 0) List.suffix_rfl
      fun t _ => ?_
    cases f.literalSet c false <;> rfl

lemma atEnd_readPlain (f : Flags) (c : Char) (cs : List Char) :
    AtEnd (PastPlain f) (readPlain f c) cs := by
  unfold readPlain
  split
  · exact .ok Token.bar
  · exact (atEnd_readPreference f _ _ cs).never
  · exact (atEnd_readPreference f _ _ cs).never
  · exact (atEnd_readPreference f _ _ cs).never
  · exact (atEnd_readCounts f cs).never
  · exact atEnd_readStep f c cs

/-- How an element can go on into the ending. -/
def PastElement (x : Token × Scanner) (rest : List Char) : Prop := PastPlain x.2.flags x.1 rest

lemma atEnd_readElement (s : Scanner) (c : Char) (cs : List Char) :
    AtEnd PastElement (readElement s c) cs := by
  by_cases hopen : c = '('
  · subst hopen
    exact ((atEnd_readGroup s cs).mono fun _ _ => .inl)
  by_cases hclose : c = ')'
  · subst hclose
    rw [funext (readElement_close s)]
    exact .map _
  · rw [funext (readElement_plain s hopen hclose)]
    refine (atEnd_readPlain s.flags c cs).bind (fun token _ _ _ => .ok (token, s)) ?_
    rintro token rest hlost x rest' h
    obtain ⟨rfl, rfl⟩ := Prod.mk.inj (Except.ok.inj h)
    exact hlost

/-! ## Open groups -/

/-- The number of open groups behind an element. -/
def Token.openAfter : Token → Nat → Option Nat
  | .opening _, n => some (n + 1)
  | .closing, 0 => none
  | .closing, n + 1 => some n
  | .step _ _, n | .flags, n | .bar, n | .repetition _ _ _, n => some n

/-- A scanner in a text in front of which groups are open. -/
def Scanner.inside (s : Scanner) (base : List Flags) : Scanner :=
  { s with outer := s.outer ++ base }

section

variable {f : Flags} {cs rest : List Char} {token : Token}

lemma openAfter_readPreference (f : Flags) (min : Nat) (max : Option Nat) (cs : List Char)
    (n : Nat) : (readPreference f min max cs).1.openAfter n = some n := by
  unfold readPreference
  split <;> rfl

lemma openAfter_readCountsEnd {min : Nat} {max : Option Nat}
    (h : readCountsEnd f min max cs = .ok (token, rest)) (n : Nat) :
    token.openAfter n = some n := by
  unfold readCountsEnd at h
  split at h
  case h_1 behind =>
    split at h
    · cases h
    · have hpreference := openAfter_readPreference f min max (f.skip behind) n
      rwa [Except.ok.inj h] at hpreference
  case h_2 => cases h

lemma openAfter_readCounts (h : readCounts f cs = .ok (token, rest)) (n : Nat) :
    token.openAfter n = some n := by
  obtain ⟨⟨min, behind⟩, -, h⟩ := bind_eq_ok h
  simp only at h
  split at h
  · split at h
    · exact openAfter_readCountsEnd h n
    · obtain ⟨⟨max, behind⟩, -, h⟩ := bind_eq_ok h
      exact openAfter_readCountsEnd h n
  · exact openAfter_readCountsEnd h n

lemma openAfter_readStep {c : Char} (h : readStep f c cs = .ok (token, rest)) (n : Nat) :
    token.openAfter n = some n := by
  have hstep : ∃ r depth, token = .step r depth := by
    unfold readStep at h
    split at h
    · obtain ⟨r, -, h⟩ := bind_eq_ok h
      exact ⟨_, _, (Prod.mk.inj (Except.ok.inj h)).1.symm⟩
    · obtain ⟨r, -, h⟩ := bind_eq_ok h
      obtain ⟨r', -, h⟩ := bind_eq_ok h
      exact ⟨_, _, (Prod.mk.inj (Except.ok.inj h)).1.symm⟩
    · obtain ⟨r, -, h⟩ := map_eq_ok h
      exact ⟨_, _, (Prod.mk.inj h).1.symm⟩
    · exact ⟨_, _, (Prod.mk.inj (Except.ok.inj h)).1.symm⟩
    · exact ⟨_, _, (Prod.mk.inj (Except.ok.inj h)).1.symm⟩
    · obtain ⟨r, -, h⟩ := map_eq_ok h
      exact ⟨_, _, (Prod.mk.inj h).1.symm⟩
  obtain ⟨r, depth, rfl⟩ := hstep
  rfl

lemma openAfter_readPlain {c : Char} (h : readPlain f c cs = .ok (token, rest)) (n : Nat) :
    token.openAfter n = some n := by
  have hpreference {min : Nat} {max : Option Nat}
      (h : Except.ok (readPreference f min max cs) = (Except.ok (token, rest) : Except Fault _)) :
      token.openAfter n = some n := by
    have hopen := openAfter_readPreference f min max cs n
    rwa [Except.ok.inj h] at hopen
  unfold readPlain at h
  split at h
  · cases h
    rfl
  · exact hpreference h
  · exact hpreference h
  · exact hpreference h
  · exact openAfter_readCounts h n
  · exact openAfter_readStep h n

end

section

variable {s s' : Scanner} {token : Token}

lemma openAfter_flagGroup {changes : List (Flag × Bool)} {last : Char}
    (h : flagGroup s changes last = .ok (token, s')) :
    token.openAfter s.outer.length = some s'.outer.length := by
  simp only [flagGroup] at h
  split at h
  · cases h
    rfl
  · split at h
    · cases h
    · cases h
      rfl

lemma openAfter_namedGroup {name : String} (h : namedGroup s name = .ok (token, s')) :
    token.openAfter s.outer.length = some s'.outer.length := by
  simp only [namedGroup] at h
  split at h
  · cases h
  · cases h
    rfl

end

lemma openAfter_readGroup {s s' : Scanner} {cs rest : List Char} {token : Token}
    (h : readGroup s cs = .ok (token, s', rest)) :
    token.openAfter s.outer.length = some s'.outer.length := by
  have hnamed {cs : List Char} (h : readNamedGroup s cs = .ok (token, s', rest)) :
      token.openAfter s.outer.length = some s'.outer.length := by
    have hmap := readNamedGroup_eq s cs
    rw [h] at hmap
    obtain ⟨r, -, hgroup⟩ := bind_eq_ok hmap.symm
    obtain ⟨x, hx, hr⟩ := map_eq_ok hgroup
    cases hr
    exact openAfter_namedGroup hx
  unfold readGroup at h
  split at h
  · cases h
  · cases h
  · cases h
  · cases h
  · exact hnamed h
  · exact hnamed h
  · rename_i behind _ _ _ _ _ _ _
    have hmap := readFlagGroup_eq s behind
    rw [h] at hmap
    obtain ⟨r, -, hgroup⟩ := bind_eq_ok hmap.symm
    obtain ⟨x, hx, hr⟩ := map_eq_ok hgroup
    cases hr
    exact openAfter_flagGroup hx
  · cases h
    rfl

lemma openAfter_readElement {s s' : Scanner} {c : Char} {cs rest : List Char} {token : Token}
    (h : readElement s c cs = .ok ((token, s'), rest)) :
    token.openAfter s.outer.length = some s'.outer.length := by
  by_cases hopen : c = '('
  · subst hopen
    obtain ⟨⟨token', s'', rest'⟩, hgroup, hx⟩ := map_eq_ok h
    cases hx
    exact openAfter_readGroup hgroup
  by_cases hclose : c = ')'
  · subst hclose
    rw [readElement_close] at h
    obtain ⟨x, hclose, hx⟩ := map_eq_ok h
    cases hx
    obtain ⟨s'', hs, hx⟩ := map_eq_ok hclose
    cases hx
    simp only [Scanner.closeGroup] at hs
    split at hs
    case h_1 => cases hs
    case h_2 flags outer heq =>
      cases hs
      simp [heq, Token.openAfter]
  · rw [readElement_plain s hopen hclose] at h
    obtain ⟨⟨token', rest'⟩, hplain, hx⟩ := bind_eq_ok h
    cases hx
    exact openAfter_readPlain hplain s.outer.length

/-! ## Scanners in a text -/

/-- What is read, with the scanner in a text. -/
def placeInside (base : List Flags) (r : (Token × Scanner) × List Char) :
    (Token × Scanner) × List Char :=
  ((r.1.1, r.1.2.inside base), r.2)

section

variable (s : Scanner) (base : List Flags)

lemma readNamedGroup_inside (cs : List Char) :
    (readNamedGroup (s.inside base) cs).map regroup =
      ((readNamedGroup s cs).map regroup).map (placeInside base) := by
  rw [readNamedGroup_eq, readNamedGroup_eq]
  cases readGroupName [] cs with
  | error fault => rfl
  | ok r =>
    simp only [bind, Except.bind, namedGroup, Scanner.inside]
    by_cases hname : s.names.contains r.1 = true
    · simp only [hname, if_true]
      rfl
    · simp only [hname]
      rfl

lemma readFlagGroup_inside (cs : List Char) :
    (readFlagGroup (s.inside base) cs).map regroup =
      ((readFlagGroup s cs).map regroup).map (placeInside base) := by
  rw [readFlagGroup_eq, readFlagGroup_eq]
  cases (readFlags [] false false cs).map fun r => ((r.1, r.2.1), r.2.2) with
  | error fault => rfl
  | ok r =>
    obtain ⟨⟨changes, last⟩, rest⟩ := r
    simp only [bind, Except.bind, flagGroup, Scanner.inside]
    by_cases hlast : last = ':'
    · simp only [hlast, if_true]
      rfl
    · simp only [hlast, if_false]
      cases changes.isEmpty <;> rfl

lemma readGroup_inside (cs : List Char) :
    (readGroup (s.inside base) cs).map regroup =
      ((readGroup s cs).map regroup).map (placeInside base) := by
  have hflags : (s.inside base).flags = s.flags := rfl
  simp only [readGroup, hflags]
  split
  · rfl
  · rfl
  · rfl
  · rfl
  · exact readNamedGroup_inside s base _
  · exact readNamedGroup_inside s base _
  · exact readFlagGroup_inside s base _
  · rfl

/-- Groups around a text make no difference, unless one of them is closed in it. -/
lemma readElement_inside {c : Char} (hc : c ≠ ')' ∨ s.outer ≠ []) (cs : List Char) :
    readElement (s.inside base) c cs = (readElement s c cs).map (placeInside base) := by
  by_cases hopen : c = '('
  · subst hopen
    exact readGroup_inside s base cs
  by_cases hclose : c = ')'
  · subst hclose
    obtain ⟨flags, outer, houter⟩ := List.exists_cons_of_ne_nil (hc.resolve_left fun h => h rfl)
    simp only [readElement_close, Scanner.closeGroup, Scanner.inside, houter, List.cons_append]
    rfl
  · rw [readElement_plain _ hopen hclose, readElement_plain _ hopen hclose]
    have hflags : (s.inside base).flags = s.flags := rfl
    rw [hflags]
    cases readPlain s.flags c cs <;> rfl

end

end TokenPattern.Regex
