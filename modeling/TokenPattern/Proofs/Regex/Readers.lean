import TokenPattern.Proofs.Regex.Ending

/-!
# The elements of a pattern at its end

Every reader of `TokenPattern.Regex.Token`, sets between brackets apart, behaves in front of the
ending as `AtEnd` says.
-/

namespace TokenPattern.Regex

open Unicode (isWhiteSpace)
open Text (hexDigit? charOfCode?)

/-! ## Repetitions -/

lemma atEnd_readPreference (f : Flags) (min : Nat) (max : Option Nat) (cs : List Char) :
    AtEnd Never (fun cs => .ok (readPreference f min max cs)) cs := by
  cases cs with
  | nil =>
    refine .stops (.repetition min max f.swapPreference) [] List.nil_suffix fun t ht => ?_
    obtain rfl | rfl | rfl := prefix_ending_cases ht <;> rfl
  | cons c rest =>
    by_cases hc : c = '?'
    · subst hc
      exact .stops _ rest (List.suffix_cons _ rest) fun t _ => rfl
    · exact .stops (.repetition min max f.swapPreference) (c :: rest) List.suffix_rfl fun t _ => by
        simp [readPreference, hc]

/-- The number that the digits of a count stand for. -/
def countOf (digits : List Char) : Except Fault Nat :=
  let n := digits.foldl (fun n d => 10 * n + (d.toNat - '0'.toNat)) 0
  if digits.isEmpty || 0x100000000 ≤ n then .error .invalidCount else .ok n

lemma readCount_eq (f : Flags) (cs : List Char) :
    readCount f cs =
      (Except.ok ((), cs.dropWhile isWhiteSpace) : Except Fault _) >>= fun r =>
        (Except.ok (f.takeWhile Char.isDigit r.2) : Except Fault _) >>= fun r =>
          (Except.ok (f.takeWhile isWhiteSpace r.2) : Except Fault _) >>= fun r' =>
            (countOf r.1).map fun n => (n, r'.2) := by
  simp only [readCount, countOf, bind, Except.bind]
  split <;> rfl

lemma atEnd_readCount (f : Flags) (cs : List Char) : AtEnd Never (readCount f) cs := by
  rw [funext (readCount_eq f)]
  refine (AtEnd.dropWhile isWhiteSpace (by decide) cs).bind_never fun _ rest _ _ => ?_
  refine (AtEnd.takeWhile f Char.isDigit (by decide) rest).bind_never fun digits rest _ _ => ?_
  dsimp only
  refine (AtEnd.takeWhile f isWhiteSpace (by decide) rest).bind_never fun _ _ _ _ => ?_
  exact .map (countOf digits)

lemma readCount_ending (f : Flags) : readCount f ending = .error .invalidCount := by
  have hblank : isWhiteSpace ')' = false := by decide
  have hdigit : Char.isDigit ')' = false := by decide
  simp [readCount, ending, hblank, Flags.takeWhile_cons, hdigit]

lemma atEnd_readCountsEnd (f : Flags) (min : Nat) (max : Option Nat) (cs : List Char) :
    AtEnd Never (readCountsEnd f min max) cs := by
  cases cs with
  | nil => exact .nil_of_error _ rfl fun _ _ h => nomatch h
  | cons c rest =>
    by_cases hc : c = '\x7d'
    · subst hc
      refine .cons ?_
      simp only [readCountsEnd]
      split
      · exact .error _
      · exact .skip f fun rest _ => atEnd_readPreference f min max rest
    · exact (AtEnd.error .invalidCount).congr fun t _ => by simp [readCountsEnd, hc]

lemma atEnd_readCounts (f : Flags) (cs : List Char) : AtEnd Never (readCounts f) cs := by
  have hcount : AtEnd Never (fun cs => readCount f (f.skip cs)) cs :=
    .skip f fun rest _ => atEnd_readCount f rest
  refine hcount.bind_never fun min rest _ _ => ?_
  cases rest with
  | nil => exact .nil_of_error _ rfl fun _ _ h => nomatch h
  | cons c rest =>
    by_cases hc : c = ','
    · subst hc
      refine .cons ?_
      simp only
      refine .of_skip f (fun cs => by rw [f.skip_skip]) fun rest _ hskip => ?_
      have hmost (cs : List Char) :
          AtEnd Never (fun cs => readCount f cs >>= fun r => readCountsEnd f min (some r.1) r.2) cs :=
        (atEnd_readCount f cs).bind_never fun max rest _ _ =>
          atEnd_readCountsEnd f min (some max) rest
      cases rest with
      | nil =>
        exact (hmost []).congr fun t ht => by
          obtain rfl | rfl | rfl := prefix_ending_cases ht <;> simp [ending]
      | cons d rest =>
        by_cases hd : d = '\x7d'
        · subst hd
          exact (atEnd_readCountsEnd f min none ('\x7d' :: rest)).congr fun t _ => by
            simp [Flags.skip_cons_eq hskip]
        · exact (hmost (d :: rest)).congr fun t _ => by simp [Flags.skip_cons_eq hskip, hd]
    · exact (atEnd_readCountsEnd f min (some min) (c :: rest)).congr fun t _ => by simp [hc]

/-! ## Code points -/

lemma atEnd_readFixedHex (f : Flags) (width n : Nat) (cs : List Char) :
    AtEnd Never (readFixedHex f width n) cs := by
  induction width generalizing n cs with
  | zero => exact .ok n
  | succ width ih =>
    cases cs with
    | nil => exact .nil_of_error _ rfl fun _ _ h => nomatch h
    | cons c rest =>
      refine .cons ?_
      simp only [readFixedHex]
      split
      · exact .skip f fun rest _ => ih _ rest
      · exact .error _

lemma readFixedHex_ending (f : Flags) {width : Nat} (hwidth : width ≠ 0) (n : Nat) :
    readFixedHex f width n ending = .error .invalidCodePoint := by
  obtain ⟨width, rfl⟩ := Nat.exists_eq_succ_of_ne_zero hwidth
  have hdigit : hexDigit? ')' = none := by decide
  simp [readFixedHex, ending, hdigit]

/-- What follows the digits of a code point between braces. -/
def readBracedEnd (f : Flags) : List Char × List Char → Except Fault (Primitive × List Char)
  | (digits, '\x7d' :: rest) => (charOfDigits digits).map fun c => (.literal c false, f.skip rest)
  | (_, []) => .error .unexpectedEnd
  | _ => .error .invalidCodePoint

/-- What the digits of a code point without braces stand for. -/
def literalOfCode (width n : Nat) : Except Fault Primitive :=
  match charOfCode? n with
  | some c => .ok (.literal c (width = 2))
  | none => .error .invalidCodePoint

lemma readCodePoint_of_brace {f : Flags} {rest : List Char}
    (hskip : f.skip ('\x7b' :: rest) = '\x7b' :: rest) (width : Nat) :
    readCodePoint f width ('\x7b' :: rest) =
      readBracedEnd f (f.takeWhile (fun c => (hexDigit? c).isSome) (f.skip rest)) := by
  simp only [readCodePoint, hskip]
  rfl

lemma readCodePoint_of_ne_brace {f : Flags} {c : Char} {rest : List Char}
    (hskip : f.skip (c :: rest) = c :: rest) (hc : c ≠ '\x7b') (width : Nat) :
    readCodePoint f width (c :: rest) =
      readFixedHex f width 0 (c :: rest) >>= fun r =>
        (literalOfCode width r.1).map fun p => (p, r.2) := by
  simp only [readCodePoint, hskip, List.cons.injEq, hc, false_and, false_implies, implies_true]
  refine bind_congr fun r => ?_
  simp only [literalOfCode]
  cases charOfCode? r.1 <;> rfl

lemma atEnd_readBracedEnd (f : Flags) (digits cs : List Char) :
    AtEnd Never (fun cs => readBracedEnd f (digits, cs)) cs := by
  cases cs with
  | nil => exact .nil_of_error _ rfl fun _ _ h => nomatch h
  | cons c rest =>
    by_cases hc : c = '\x7d'
    · subst hc
      refine .cons ?_
      simp only [readBracedEnd]
      cases charOfDigits digits with
      | error fault => exact .error fault
      | ok c =>
        exact .ok_skip f (Primitive.literal c false)
    · exact (AtEnd.error .invalidCodePoint).congr fun t _ => by simp [readBracedEnd, hc]

lemma atEnd_readCodePoint (f : Flags) {width : Nat} (hwidth : width ≠ 0) (cs : List Char) :
    AtEnd Never (readCodePoint f width) cs := by
  refine .of_skip f (fun cs => by simp only [readCodePoint, f.skip_skip]) fun rest _ hskip => ?_
  cases rest with
  | nil =>
    refine .nil_of_error .unexpectedEnd (by simp [readCodePoint]) fun x rest h => ?_
    rw [ending, readCodePoint_of_ne_brace (f.skip_parenthesis _) (by decide), ← ending,
      readFixedHex_ending f hwidth] at h
    cases h
  | cons c rest =>
    by_cases hc : c = '\x7b'
    · subst hc
      refine .cons ?_
      have hdigits : AtEnd Never
          (fun cs => .ok (f.takeWhile (fun c => (hexDigit? c).isSome) (f.skip cs))) rest :=
        .skip f fun rest _ => .takeWhile f _ (by decide) rest
      exact (hdigits.bind_never fun digits rest _ _ => atEnd_readBracedEnd f digits rest).congr
        fun t _ => readCodePoint_of_brace (Flags.skip_cons_eq hskip _) width
    · have hplain : AtEnd Never (fun cs => readFixedHex f width 0 cs >>= fun r =>
          (literalOfCode width r.1).map fun p => (p, r.2)) (c :: rest) :=
        (atEnd_readFixedHex f width 0 (c :: rest)).bind_never fun n _ _ _ =>
          .map (literalOfCode width n)
      exact hplain.congr fun t _ => readCodePoint_of_ne_brace (Flags.skip_cons_eq hskip _) hc width

/-! ## Properties -/

/-- Reads a description up to the closing brace. -/
def readBraced (f : Flags) (cs : List Char) : Except Fault (List Char × List Char) :=
  match f.takeWhile (· != '\x7d') cs with
  | (description, _ :: rest) => .ok (description, rest)
  | (_, []) => .error .unexpectedEnd

/-- Reads the description of a property. -/
def readDescription (f : Flags) (cs : List Char) : Except Fault (List Char × List Char) :=
  match f.skip cs with
  | [] => .error .unexpectedEnd
  | '\x7b' :: rest => readBraced f (f.skip rest)
  | '\\' :: _ => .error (.unknownProperty "\\")
  | c :: rest => .ok ([c], rest)

/-- The set with a described property. -/
def describedSet (f : Flags) (negated : Bool) (description : List Char) : Except Fault Primitive :=
  if f.unicode then
    let d := Description.ofList description
    d.set >>= fun s => (f.negateIf (negated != d.negated) (f.fold s)).map .set
  else .error .needsUnicode

lemma map_describedSet (f : Flags) (negated : Bool) (description rest : List Char) :
    ((describedSet f negated description).map fun p => (p, rest)) =
      if f.unicode then do
        let description := Description.ofList description
        let s ← description.set
        let s ← f.negateIf (negated != description.negated) (f.fold s)
        pure (.set s, rest)
      else .error .needsUnicode := by
  simp only [describedSet]
  split
  · cases (Description.ofList description).set with
    | error fault => rfl
    | ok s =>
      simp only [bind, Except.bind]
      cases f.negateIf (negated != (Description.ofList description).negated) (f.fold s) <;> rfl
  · rfl

lemma readProperty_eq (f : Flags) (negated : Bool) (cs : List Char) :
    readProperty f negated cs =
      readDescription f cs >>= fun r =>
        (describedSet f negated r.1).map fun p => (p, r.2) := by
  simp only [map_describedSet, readProperty, readDescription, readBraced]
  cases f.skip cs with
  | nil => rfl
  | cons c rest =>
    by_cases hbrace : c = '\x7b'
    · subst hbrace
      simp only
      generalize f.takeWhile _ _ = r
      obtain ⟨description, _ | ⟨c, rest⟩⟩ := r <;> rfl
    by_cases hescape : c = '\\'
    · subst hescape
      rfl
    · simp only
      rfl

lemma readBraced_cons (f : Flags) (c : Char) (rest : List Char) :
    readBraced f (c :: rest) =
      if c = '\x7d' then .ok ([], rest)
      else (readBraced f (f.skip rest)) >>= fun r => .ok (c :: r.1, r.2) := by
  by_cases hc : c = '\x7d'
  · simp [readBraced, Flags.takeWhile_cons, hc]
  · simp only [readBraced, Flags.takeWhile_cons, bne_iff_ne, ne_eq, hc, not_false_eq_true, if_true,
      if_false]
    obtain ⟨taken, rest'⟩ := f.takeWhile (· != '\x7d') (f.skip rest)
    cases rest' <;> rfl

lemma atEnd_readBraced (f : Flags) (cs : List Char) : AtEnd Never (readBraced f) cs := by
  induction hn : cs.length using Nat.strong_induction_on generalizing cs with
  | _ n ih =>
    subst hn
    cases cs with
    | nil =>
      refine .nil_of_error .unexpectedEnd rfl fun x rest h => ?_
      simp only [ending, readBraced_cons, Char.reduceEq, ↓reduceIte, Flags.skip_dollar,
        Flags.skip_nil, bind_assoc] at h
      cases h
    | cons c rest =>
      refine .cons ?_
      simp only [readBraced_cons]
      split
      · exact .ok []
      · have hrest : AtEnd Never (fun cs => readBraced f (f.skip cs)) rest :=
          .skip f fun rest' hrest => ih _ (Nat.lt_succ_of_le hrest.length_le) rest' rfl
        exact hrest.bind_never fun description rest _ _ => .ok (c :: description)

lemma atEnd_readDescription (f : Flags) (cs : List Char) : AtEnd Passed (readDescription f) cs := by
  refine .of_skip f (fun cs => by simp only [readDescription, f.skip_skip]) fun rest _ hskip => ?_
  cases rest with
  | nil =>
    refine .nil_of_error .unexpectedEnd (by simp [readDescription]) fun x rest h => ?_
    have hparenthesis : readDescription f ending = .ok ([')'], ['$']) := by
      simp [readDescription, ending]
    rw [hparenthesis] at h
    obtain ⟨rfl, rfl⟩ := Prod.mk.inj (Except.ok.inj h)
    exact List.suffix_rfl
  | cons c rest =>
    refine .cons ?_
    simp only [readDescription, Flags.skip_cons_eq hskip]
    by_cases hbrace : c = '\x7b'
    · subst hbrace
      exact .skip f fun rest _ => (atEnd_readBraced f rest).never
    · by_cases hbackslash : c = '\\'
      · subst hbackslash
        exact .error (.unknownProperty "\\")
      · exact (AtEnd.ok [c]).congr fun t _ => by simp

lemma atEnd_readProperty (f : Flags) (negated : Bool) (cs : List Char) :
    AtEnd Passed (readProperty f negated) cs := by
  rw [funext (readProperty_eq f negated)]
  exact (atEnd_readDescription f cs).bind_passed fun description _ =>
    .map (describedSet f negated description)

/-! ## Escapes -/

/-- How an escape can go on into the ending: past the parenthesis, or, where a word edge was read,
with a brace that has nothing but blanks between it and the ending. -/
def PastEscape (f : Flags) (p : Primitive) (rest : List Char) : Prop :=
  rest <:+ ['$'] ∨
    p = .assertion .wordEdge ∧ ∃ inner, rest = '\x7b' :: inner ∧ f.skip inner = ending

/-- What follows the name of a word edge. -/
def readEdgeNameEnd : List Char × List Char → Except Fault (Primitive × List Char)
  | (name, '\x7d' :: rest) =>
    match namedWordAssertion? name with
    | some a => .ok (.assertion a, rest)
    | none => .error (.unknownEscape 'b')
  | _ => .error .unexpectedEnd

lemma atEnd_readEdgeNameEnd (name cs : List Char) :
    AtEnd Never (fun cs => readEdgeNameEnd (name, cs)) cs := by
  cases cs with
  | nil => exact .nil_of_error _ rfl fun _ _ h => nomatch h
  | cons c rest =>
    by_cases hc : c = '\x7d'
    · subst hc
      refine .cons ?_
      simp only [readEdgeNameEnd]
      cases namedWordAssertion? name with
      | none => exact .error (.unknownEscape 'b')
      | some a => exact .ok (Primitive.assertion a)
    · exact (AtEnd.error .unexpectedEnd).congr fun t _ => by simp [readEdgeNameEnd, hc]

lemma readWordEdge_of_name {f : Flags} {c : Char} {rest inner : List Char}
    (h : f.skip rest = c :: inner) (hc : isAssertionNameChar c = true) :
    readWordEdge f ('\x7b' :: rest) =
      readEdgeNameEnd (f.takeWhile isAssertionNameChar (f.skip rest)) := by
  simp only [readWordEdge, h, hc, if_true]
  rfl

lemma readWordEdge_of_not_name {f : Flags} {c : Char} {rest inner : List Char}
    (h : f.skip rest = c :: inner) (hc : isAssertionNameChar c = false) :
    readWordEdge f ('\x7b' :: rest) = .ok (.assertion .wordEdge, '\x7b' :: rest) := by
  simp [readWordEdge, h, hc]

lemma atEnd_readWordEdge (f : Flags) (cs : List Char) :
    AtEnd (PastEscape f) (readWordEdge f) cs := by
  cases cs with
  | nil =>
    refine .stops (.assertion .wordEdge) [] List.suffix_rfl fun t ht => ?_
    obtain rfl | rfl | rfl := prefix_ending_cases ht <;> rfl
  | cons c rest =>
    by_cases hc : c = '\x7b'
    · subst hc
      cases hinner : f.skip rest with
      | nil =>
        have hend : readWordEdge f ('\x7b' :: rest) = .error .unexpectedEnd := by
          simp [readWordEdge, hinner]
        refine .fails .unexpectedEnd hend fun x rest' h => ?_
        obtain hskip | ⟨-, hskip⟩ := f.skip_append rest
        · have hparenthesis : f.skip (rest ++ ending) = ending := by
            rw [hskip _ List.prefix_rfl, hinner, List.nil_append]
          rw [List.cons_append, readWordEdge_of_not_name hparenthesis (by decide)] at h
          obtain ⟨rfl, rfl⟩ := Prod.mk.inj (Except.ok.inj h)
          exact .inr ⟨rfl, _, rfl, hparenthesis⟩
        · simp [readWordEdge, hskip _ List.prefix_rfl] at h
      | cons d inner =>
        cases hd : isAssertionNameChar d with
        | true =>
          have hname : AtEnd Never
              (fun cs => .ok (f.takeWhile isAssertionNameChar (f.skip cs))) rest :=
            .skip f fun rest _ => .takeWhile f _ (by decide) rest
          have hedge := hname.bind_never fun name rest _ _ => atEnd_readEdgeNameEnd name rest
          exact .cons (hedge.never.congr fun t ht =>
            readWordEdge_of_name (Flags.skip_append_of_cons hinner ht) hd)
        | false =>
          refine .stops (.assertion .wordEdge) ('\x7b' :: rest) List.suffix_rfl fun t ht => ?_
          exact readWordEdge_of_not_name (Flags.skip_append_of_cons hinner ht) hd
    · exact (AtEnd.ok (.assertion .wordEdge)).congr fun t _ => by simp [readWordEdge, hc]

/-- What a character stands for behind a backslash if nothing further belongs to it. -/
def escaped (f : Flags) (c : Char) : Except Fault Primitive :=
  match f.letterSet? c, controlLetter? c, assertionLetter? c with
  | some s, _, _ => s.map .set
  | _, some control, _ => .ok (.literal control false)
  | _, _, some a => .ok (.assertion a)
  | none, none, none =>
    if c.toNat < 0x80 && !c.isAlphanum then .ok (.literal c false) else .error (.unknownEscape c)

lemma readEscape_of_not_letter (f : Flags) {c : Char}
    (hc : c ∉ ['x', 'u', 'U', 'p', 'P', 'b']) (rest : List Char) :
    readEscape f (c :: rest) = (escaped f c).map fun p => (p, rest) := by
  simp only [List.mem_cons, List.not_mem_nil, or_false, not_or] at hc
  rw [readEscape, escaped]
  · cases f.letterSet? c with
    | some s => cases s <;> rfl
    | none =>
      cases controlLetter? c with
      | some control => rfl
      | none =>
        cases assertionLetter? c with
        | some a => rfl
        | none =>
          simp only
          split <;> rfl
  all_goals simp_all

lemma atEnd_readEscape (f : Flags) (cs : List Char) :
    AtEnd (PastEscape f) (readEscape f) cs := by
  cases cs with
  | nil =>
    refine .nil_of_error _ rfl fun x rest h => ?_
    rw [ending, readEscape_of_not_letter f (by decide)] at h
    obtain ⟨p, -, hp⟩ := map_eq_ok h
    obtain ⟨rfl, rfl⟩ := Prod.mk.inj hp
    exact .inl List.suffix_rfl
  | cons c rest =>
    refine .cons ?_
    by_cases hc : c ∈ ['x', 'u', 'U', 'p', 'P', 'b']
    · simp only [List.mem_cons, List.not_mem_nil, or_false] at hc
      obtain rfl | rfl | rfl | rfl | rfl | rfl := hc
      · exact (atEnd_readCodePoint f (by decide) rest).never
      · exact (atEnd_readCodePoint f (by decide) rest).never
      · exact (atEnd_readCodePoint f (by decide) rest).never
      · exact (atEnd_readProperty f false rest).mono fun _ _ => .inl
      · exact (atEnd_readProperty f true rest).mono fun _ _ => .inl
      · exact atEnd_readWordEdge f rest
    · exact (AtEnd.map (escaped f c)).congr fun t _ => readEscape_of_not_letter f hc _

end TokenPattern.Regex
