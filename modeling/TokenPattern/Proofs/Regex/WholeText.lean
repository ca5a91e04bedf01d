import TokenPattern.Matcher.WholeText
import TokenPattern.Proofs.Regex.Meaning
import TokenPattern.Proofs.Regex.Frames

/-!
# Patterns between the assertions about both ends

A pattern is read together with a group and two assertions around it (`Regex.wholeText`).  This is
not always the group of the expression that the pattern is by itself:

* a pattern that ends in a comment takes in what stands behind it (`EndsInComment`), and the group
  around it is not closed;
* a pattern that closes a group it has not opened closes the group around it.

There is nothing else.  A pattern that is not refused for closing such a group is accepted in the
group exactly if it is a regular expression by itself and does not end in a comment, up to the
limits on depth and size; and then the matcher accepts the texts that the expression describes as a
whole (`Matcher.regex_describes`).

**Engines.**  The expressions are compiled and looked for by a library that is not part of this
project.  What is relied on is its syntax and that it looks for an expression anywhere in a text
(`Engine.Conforms`); the limits are its own.  The engine of this project does both
(`builtin_conforms`).

The proof divides a pattern into elements with and without the ending (`atEnd_scan`), and then takes
the elements into frames with and without the frame of the group (`steps_append_outer`).
-/

namespace TokenPattern

namespace Regex

/-! ## Expressions of any size -/

/-- Whether a text is a regular expression of any depth and size, and which one. -/
def Denotes (text : String) (part : Part) : Prop :=
  ∃ tokens frame, scan text = .ok tokens ∧ steps tokens (.empty false) [] = .ok (frame, []) ∧
    frame.whole = part

/-- Whether an expression is neither too deep nor too large. -/
def Part.WithinLimits (part : Part) : Prop := part.depth ≤ maxDepth ∧ part.regex.fits = true

/-- A text is accepted if it is an expression within the limits. -/
lemma parse_eq_ok_iff {text : String} {r : Regex} :
    parse text = .ok r ↔ ∃ part, Denotes text part ∧ part.WithinLimits ∧ part.regex = r := by
  constructor
  · intro h
    obtain ⟨tokens, htokens, h⟩ := bind_eq_ok h
    obtain ⟨⟨frame, outer⟩, hsteps, h⟩ := bind_eq_ok h
    cases outer with
    | cons parent outer => nomatch h
    | nil =>
      by_cases hdepth : maxDepth < frame.whole.depth
      · simp [hdepth] at h
      · cases hfits : frame.whole.regex.fits with
        | false => simp [hdepth, hfits] at h
        | true =>
          simp only [List.isEmpty_nil, hdepth, hfits] at h
          exact ⟨_, ⟨tokens, frame, htokens, hsteps, rfl⟩, ⟨Nat.not_lt.1 hdepth, hfits⟩,
            Except.ok.inj h⟩
  · rintro ⟨part, ⟨tokens, frame, htokens, hsteps, rfl⟩, ⟨hdepth, hfits⟩, rfl⟩
    simp only [parse, htokens, ofTokens, hsteps, bind, Except.bind, List.isEmpty_nil,
      Nat.not_lt.2 hdepth, hfits]
    rfl

/-! ## Engines -/

/-- Whether an engine compiles the texts of expressions within some limits, and finds an expression
wherever it spans some part of a text. -/
structure Engine.Conforms (engine : Engine) (fits : Part → Prop) : Prop where
  compile_isOk_iff : ∀ text,
    (∃ compiled, engine.compile text = .ok compiled) ↔ ∃ part, Denotes text part ∧ fits part
  finds_iff : ∀ {text compiled part}, engine.compile text = .ok compiled → Denotes text part →
    ∀ t, engine.finds compiled t = true ↔ part.regex.OccursIn t

/-- A text has one reading. -/
lemma Denotes.unique {text : String} {part part' : Part} (h : Denotes text part)
    (h' : Denotes text part') : part = part' := by
  obtain ⟨tokens, frame, htokens, hframe, rfl⟩ := h
  obtain ⟨tokens', frame', htokens', hframe', rfl⟩ := h'
  obtain rfl := Except.ok.inj (htokens.symm.trans htokens')
  obtain rfl := (Prod.mk.inj (Except.ok.inj (hframe.symm.trans hframe'))).1
  rfl

/-- The engine of this project compiles what it can parse. -/
lemma compile_builtin_eq_ok_iff {text : String} {r : Regex} :
    builtin.compile text = .ok r ↔ parse text = .ok r := by
  show (parse text).mapError Fault.message = .ok r ↔ _
  cases parse text <;> simp [Except.mapError]

/-- The engine of this project conforms, with its limits on depth and size. -/
theorem builtin_conforms : builtin.Conforms Part.WithinLimits where
  compile_isOk_iff text := by
    constructor
    · rintro ⟨r, hr⟩
      obtain ⟨part, hpart, hlimits, -⟩ := parse_eq_ok_iff.1 (compile_builtin_eq_ok_iff.1 hr)
      exact ⟨part, hpart, hlimits⟩
    · rintro ⟨part, hpart, hlimits⟩
      exact ⟨_, compile_builtin_eq_ok_iff.2 (parse_eq_ok_iff.2 ⟨part, hpart, hlimits, rfl⟩)⟩
  finds_iff {text r part} hr hpart t := by
    obtain ⟨part', hpart', -, rfl⟩ := parse_eq_ok_iff.1 (compile_builtin_eq_ok_iff.1 hr)
    obtain rfl := hpart.unique hpart'
    exact matchesIn_iff _ t

/-! ## Elements -/

lemma denotes_iff_of_scan {text : String} {tokens : List Token} (h : scan text = .ok tokens)
    (part : Part) :
    Denotes text part ↔
      ∃ frame, steps tokens (.empty false) [] = .ok (frame, []) ∧ frame.whole = part := by
  simp [Denotes, h]

/-! ## The group around a pattern -/

/-- Whether a text ends in a comment, so that a closing parenthesis behind it does not count. -/
def EndsInComment (text : String) : Prop := scan (text ++ ")") = scan text

lemma scan_eq (text : String) : scan text = Scanner.initial.scan text.toList := by
  rw [scan, Scanner.scan, String.length_toList]

/-- The frame around the group: the assertion about the start has been read. -/
def startFrame : Frame := (Frame.empty false).add (.part ⟨.assert .textStart true, 0⟩)

/-- The elements in front of a pattern. -/
def startTokens : List Token := [.step (.assert .textStart true) 0, .opening false]

lemma scan_wholeText (p : String) :
    scan (wholeText p) =
      ((Scanner.initial.inside [.initial]).scan (p.toList ++ ending)).map (startTokens ++ ·) := by
  have hlist : (wholeText p).toList = '^' :: '(' :: '?' :: ':' :: (p.toList ++ ending) := by
    simp [wholeText, ending]
  have hcaret (rest : List Char) : readElement .initial '^' rest =
      .ok ((.step (.assert .textStart true) 0, .initial), rest) := rfl
  have hopening (rest : List Char) : readElement .initial '(' ('?' :: ':' :: rest) =
      .ok ((.opening false, Scanner.initial.inside [.initial]), rest) := rfl
  rw [scan_eq, hlist, Scanner.scan_of_ok rfl (hcaret _), Scanner.scan_of_ok rfl (hopening _)]
  cases (Scanner.initial.inside [.initial]).scan (p.toList ++ ending) <;> rfl

/-- Behind a pattern, the ending closes the innermost group and asserts an end. -/
lemma scan_ending {s : Scanner} {flags : Flags} {outer : List Flags}
    (h : s.outer = flags :: outer) :
    s.scan ending = .ok [.closing, .step (flags.assertion flags.endAssertion) 0] := by
  have hread : readElement s ')' ['$'] =
      .ok ((.closing, { s with flags := flags, outer := outer }), ['$']) := by
    simp only [readElement_close, Scanner.closeGroup, h]
    rfl
  rw [ending, Scanner.scan_of_ok (s.flags.skip_parenthesis _) hread, Scanner.scan_dollar]
  rfl

lemma scan_parenthesis_of_nil {s : Scanner} (h : s.outer = []) :
    s.scan [')'] = .error .unopenedGroup :=
  Scanner.scan_of_error (s.flags.skip_parenthesis []) (readElement_close_of_nil h [])

lemma steps_startTokens (tokens : List Token) :
    steps (startTokens ++ tokens) (.empty false) [] =
      steps tokens (.empty false) [startFrame] := rfl

/-- An expression in the group between the assertions. -/
def Part.anchored (part : Part) : Part := ⟨part.regex.anchored, part.depth + 2⟩

lemma whole_startFrame_add (part last : Part) :
    ((startFrame.add (.part part)).add (.part last)).whole =
      ⟨.concat (.concat (.assert .textStart true) part.regex) last.regex,
        1 + max (max last.depth part.depth) 0⟩ := by
  simp [startFrame, Frame.empty, Frame.add, Frame.whole, Frame.branch, Frame.concatItems,
    Frame.itemDepth]

/-- The elements behind a pattern. -/
def endTokens : List Token := [.closing, .step (.assert .textEnd true) 0]

/-- The group is closed, and the assertion about the end follows. -/
lemma steps_endTokens (frame : Frame) (h : frame.captures = false) :
    ∃ frame', steps endTokens frame [startFrame] = .ok (frame', []) ∧
      frame'.whole = frame.whole.anchored := by
  refine ⟨_, rfl, ?_⟩
  rw [Frame.close, whole_startFrame_add, h]
  simp only [Part.anchored, anchored, Part.mk.injEq, true_and]
  omega

/-- The elements of a pattern that leaves no group open are an expression in the group exactly if
they are one by themselves. -/
lemma steps_wholeText_iff {tokens : List Token} (h : openAfterAll tokens 0 = some 0)
    (whole : Part) :
    (∃ frame, steps (startTokens ++ (tokens ++ endTokens)) (.empty false) [] = .ok (frame, []) ∧
        frame.whole = whole) ↔
      ∃ frame, steps tokens (.empty false) [] = .ok (frame, []) ∧ frame.whole.anchored = whole := by
  have hbase : steps tokens (.empty false) ([] ++ [startFrame]) =
      (steps tokens (.empty false) []).map fun state => (state.1, state.2 ++ [startFrame]) :=
    steps_append_outer h [startFrame]
  rw [List.nil_append] at hbase
  rw [steps_startTokens, steps_append, hbase]
  cases hsteps : steps tokens (.empty false) [] with
  | error fault => simp [Except.map, Except.bind]
  | ok state =>
    obtain ⟨frame, outer⟩ := state
    obtain rfl : outer = [] := by
      have hlength := (openAfterAll_steps hsteps).symm.trans h
      exact List.length_eq_zero_iff.1 (Option.some.inj hlength)
    obtain ⟨frame', hframe', hwhole⟩ := steps_endTokens frame (lastCaptures_steps hsteps)
    simp [Except.map, Except.bind, hframe', hwhole]

/-- A pattern that does not close the group around it is no expression in it. -/
lemma not_denotes_wholeText {p : String}
    (h : ∀ tokens n, (Scanner.initial.inside [.initial]).scan (p.toList ++ ending) = .ok tokens →
      openAfterAll tokens 1 = some n → 1 ≤ n) (whole : Part) : ¬ Denotes (wholeText p) whole := by
  rintro ⟨tokens, frame, htokens, hsteps, -⟩
  rw [scan_wholeText] at htokens
  obtain ⟨inner, hinner, rfl⟩ := map_eq_ok htokens
  rw [steps_startTokens] at hsteps
  exact absurd (h inner 0 hinner (openAfterAll_steps hsteps)) (by decide)

/-! ## A pattern that stops in front of the ending -/

section

variable {p : String} {tokens : List Token} {s : Scanner}
  (hscans : ∀ base t, t <+: ending →
    (Scanner.initial.inside base).scan (p.toList ++ t) = ((s.inside base).scan t).map (tokens ++ ·))
include hscans

lemma scan_of_stops : scan p = .ok tokens := by
  have hnone := hscans [] [] List.nil_prefix
  rw [Scanner.scan_of_skip_eq_nil (Flags.skip_nil _), List.append_nil, Scanner.inside_nil] at hnone
  rw [scan_eq, hnone]
  exact congrArg Except.ok tokens.append_nil

/-- A closing parenthesis behind a pattern that has no group open is not taken in. -/
lemma not_endsInComment_of_stops (houter : s.outer = []) : ¬ EndsInComment p := by
  intro hends
  have hparenthesis := hscans [] [')'] ⟨['$'], rfl⟩
  rw [Scanner.inside_nil, Scanner.inside_nil, scan_parenthesis_of_nil houter] at hparenthesis
  rw [EndsInComment, scan_of_stops hscans, scan_eq, String.toList_append] at hends
  nomatch hends.symm.trans hparenthesis

/-- The ending closes the group around a pattern that has no group open. -/
lemma denotes_wholeText_iff_of_closed (houter : s.outer = [])
    (hopens : openAfterAll tokens 0 = some s.outer.length) (whole : Part) :
    Denotes (wholeText p) whole ↔ ∃ part, Denotes p part ∧ part.anchored = whole := by
  have hlast : (s.inside [.initial]).outer = [.initial] := congrArg (· ++ [Flags.initial]) houter
  have hwrapped : scan (wholeText p) = .ok (startTokens ++ (tokens ++ endTokens)) := by
    rw [scan_wholeText, hscans [.initial] ending List.prefix_rfl, scan_ending hlast]
    rfl
  rw [houter] at hopens
  rw [denotes_iff_of_scan hwrapped, steps_wholeText_iff hopens]
  simp only [denotes_iff_of_scan (scan_of_stops hscans)]
  constructor
  · rintro ⟨frame, hframe, rfl⟩
    exact ⟨frame.whole, ⟨frame, hframe, rfl⟩, rfl⟩
  · rintro ⟨part, ⟨frame, hframe, rfl⟩, rfl⟩
    exact ⟨frame, hframe, rfl⟩

/-- The ending closes the last group of a pattern that has groups open, and the group around it
stays open. -/
lemma not_denotes_wholeText_of_open {flags : Flags} {outer : List Flags}
    (houter : s.outer = flags :: outer) (hopens : openAfterAll tokens 0 = some s.outer.length)
    (whole : Part) : ¬ Denotes (wholeText p) whole := by
  have hlast : (s.inside [.initial]).outer = flags :: (outer ++ [.initial]) :=
    congrArg (· ++ [Flags.initial]) houter
  refine not_denotes_wholeText (fun tokens' n htokens' hn => ?_) whole
  rw [hscans [.initial] ending List.prefix_rfl, scan_ending hlast] at htokens'
  obtain rfl := Except.ok.inj htokens'
  rw [houter] at hopens
  rw [openAfterAll_append, openAfterAll_add hopens 1] at hn
  exact (Nat.le_add_left 1 outer.length).trans_eq (Option.some.inj hn)

/-- A pattern that has groups open is no expression. -/
lemma outer_eq_nil_of_denotes {part : Part} (h : Denotes p part)
    (hopens : openAfterAll tokens 0 = some s.outer.length) : s.outer = [] := by
  obtain ⟨frame, hframe, -⟩ := (denotes_iff_of_scan (scan_of_stops hscans) part).1 h
  have hlength := hopens.symm.trans (openAfterAll_steps hframe)
  exact List.length_eq_zero_iff.1 (Option.some.inj hlength)

end

/-! ## Patterns in the group -/

/-- A pattern that closes no group in front of it is an expression in the group exactly if it is
one by itself and does not end in a comment. -/
theorem denotes_wholeText_iff {p : String} (h : scan p ≠ .error .unopenedGroup) (whole : Part) :
    Denotes (wholeText p) whole ↔
      ∃ part, Denotes p part ∧ ¬ EndsInComment p ∧ part.anchored = whole := by
  rw [scan_eq] at h
  cases atEnd_scan .initial p.toList h with
  | stops tokens s hscans hopens =>
    cases houter : s.outer with
    | nil =>
      have hcomment : ¬ EndsInComment p := not_endsInComment_of_stops hscans houter
      simp only [denotes_wholeText_iff_of_closed hscans houter hopens, hcomment, not_false_eq_true,
        true_and]
    | cons flags outer =>
      have hnot := not_denotes_wholeText_of_open hscans houter hopens whole
      refine iff_of_false hnot fun ⟨part, hpart, _⟩ => ?_
      nomatch houter.symm.trans (outer_eq_nil_of_denotes hscans hpart hopens)
  | comment tokens n hsign hscans hopens =>
    -- The ending adds no element, so the group around the pattern is never closed.
    have hends : EndsInComment p := by
      have hnone := hscans [] [] List.nil_prefix
      have hparenthesis := hscans [] [')'] ⟨['$'], rfl⟩
      rw [List.append_nil] at hnone
      rw [EndsInComment, scan_eq, scan_eq, String.toList_append]
      exact hparenthesis.trans hnone.symm
    have hnot : ¬ Denotes (wholeText p) whole := by
      refine not_denotes_wholeText (fun tokens' n' htokens' hn' => ?_) whole
      obtain rfl := Except.ok.inj ((hscans [.initial] ending List.prefix_rfl).symm.trans htokens')
      have hadd := openAfterAll_add hopens 1
      exact (Nat.le_add_left 1 n).trans_eq (Option.some.inj (hadd.symm.trans hn'))
    exact iff_of_false hnot fun ⟨part, hpart, hends', heq⟩ => hends' hends
  | fails fault hfails hopens =>
    have hnot : ¬ Denotes (wholeText p) whole := not_denotes_wholeText (hopens [.initial]) whole
    refine iff_of_false hnot fun ⟨part, ⟨tokens, frame, htokens, _⟩, _⟩ => ?_
    rw [scan_eq, hfails] at htokens
    nomatch htokens

/-- Only a number sign with no line feed behind it lets a pattern end in a comment. -/
theorem hasOpenSign_of_endsInComment {p : String} {part : Part} (h : Denotes p part)
    (hends : EndsInComment p) : HasOpenSign p.toList := by
  have hunopened : Scanner.initial.scan p.toList ≠ .error .unopenedGroup := by
    obtain ⟨tokens, frame, htokens, -⟩ := h
    simp [← scan_eq, htokens]
  cases atEnd_scan .initial p.toList hunopened with
  | stops tokens s hscans hopens =>
    have houter : s.outer = [] := outer_eq_nil_of_denotes hscans h hopens
    exact absurd hends (not_endsInComment_of_stops hscans houter)
  | comment tokens n hsign => exact hsign
  | fails fault hfails =>
    obtain ⟨tokens, frame, htokens, -⟩ := h
    rw [scan_eq, hfails] at htokens
    nomatch htokens

end Regex

namespace Matcher

open Regex

/-- What an engine makes of a pattern that closes no group in front of it. -/
lemma regexBy_describes {engine : Engine} {fits : Part → Prop} (hengine : engine.Conforms fits)
    {p : String} (hscan : scan p ≠ .error .unopenedGroup) :
    ((∃ m, regexBy engine p = .ok m) ↔
      ∃ part, Denotes p part ∧ ¬ EndsInComment p ∧ fits part.anchored) ∧
    ∀ m, regexBy engine p = .ok m →
      ∃ part, Denotes p part ∧ ∀ t, m.accepts t = true ↔ part.regex.Describes t := by
  constructor
  · rw [regexBy_isOk_iff, hengine.compile_isOk_iff]
    constructor
    · rintro ⟨whole, hwhole, hfits⟩
      obtain ⟨part, hpart, hends, rfl⟩ := (denotes_wholeText_iff hscan whole).1 hwhole
      exact ⟨part, hpart, hends, hfits⟩
    · rintro ⟨part, hpart, hends, hfits⟩
      exact ⟨_, (denotes_wholeText_iff hscan part.anchored).2 ⟨part, hpart, hends, rfl⟩, hfits⟩
  · intro m hm
    obtain ⟨compiled, hcompile, haccepts⟩ := exists_compiled_of_regexBy hm
    obtain ⟨whole, hwhole, -⟩ := (hengine.compile_isOk_iff _).1 ⟨compiled, hcompile⟩
    obtain ⟨part, hpart, -, rfl⟩ := (denotes_wholeText_iff hscan whole).1 hwhole
    refine ⟨part, hpart, fun t => ?_⟩
    rw [haccepts, hengine.finds_iff hcompile hwhole]
    exact occursIn_anchored_iff part.regex t

/-- **A matcher of whole texts.**  Unless a pattern closes a group that it has not opened, a matcher
is made of it exactly if the pattern is a regular expression by itself, does not end in a comment,
and is within the limits between the assertions.  The matcher accepts the texts that the expression
describes from one end to the other.  This is so with every engine that conforms to the syntax and
looks for an expression anywhere, and so with that of this project. -/
theorem regex_describes (p : String) (h : parse p ≠ .error .unopenedGroup) :
    (∀ (engine : Engine) (fits : Part → Prop), engine.Conforms fits →
      ((∃ m, regexBy engine p = .ok m) ↔
        ∃ part, Denotes p part ∧ ¬ EndsInComment p ∧ fits part.anchored) ∧
      ∀ m, regexBy engine p = .ok m →
        ∃ part, Denotes p part ∧ ∀ t, m.accepts t = true ↔ part.regex.Describes t) ∧
    ((∃ m, Matcher.regex p = .ok m) ↔
      ∃ part, Denotes p part ∧ ¬ EndsInComment p ∧ part.anchored.WithinLimits) ∧
    ∀ m, Matcher.regex p = .ok m →
      ∃ part, Denotes p part ∧ ∀ t, m.accepts t = true ↔ part.regex.Describes t := by
  have hscan : scan p ≠ .error .unopenedGroup := by
    intro hscan
    rw [parse, hscan] at h
    exact h rfl
  exact ⟨fun engine fits hengine => regexBy_describes hengine hscan,
    regexBy_describes builtin_conforms hscan⟩

private lemma exists_eq_ok {ε α : Type} {e : Except ε α} (holds : α → Bool)
    (h : e.toOption.any holds = true) : ∃ x, e = .ok x ∧ holds x = true := by
  cases e with
  | error fault => nomatch h
  | ok x => exact ⟨x, rfl, h⟩

theorem regex_describes_alternatives :
    parse "a|bc" ≠ .error .unopenedGroup ∧ builtin.Conforms Part.WithinLimits ∧
      ∃ m, regexBy builtin "a|bc" = .ok m ∧
        ∃ part, Denotes "a|bc" part ∧ ∀ t, m.accepts t = true ↔ part.regex.Describes t := by
  obtain ⟨r, hr, -⟩ := exists_eq_ok (e := parse "a|bc") (fun _ => true) (by decide +kernel)
  obtain ⟨m, hm, -⟩ := exists_eq_ok (e := regexBy builtin "a|bc") (fun _ => true) (by decide +kernel)
  have hunopened : parse "a|bc" ≠ .error .unopenedGroup := fun h => nomatch hr.symm.trans h
  exact ⟨hunopened, builtin_conforms, m, hm,
    ((regex_describes "a|bc" hunopened).1 builtin Part.WithinLimits builtin_conforms).2 m hm⟩

/-- Patterns that are not read as they stand.  The comment of the first takes in the end of the
group.  The second closes the group and opens another one, and its matcher accepts a text that goes
on behind what it describes. -/
theorem not_regex_describes :
    ((∃ r, parse "(?x)a#" = .ok r) ∧ ¬ ∃ m, Matcher.regex "(?x)a#" = .ok m) ∧
      parse "a)|(?:b" = .error .unopenedGroup ∧
        ∃ m, Matcher.regex "a)|(?:b" = .ok m ∧ m.accepts "ax" = true := by
  refine ⟨⟨?_, ?_⟩, rfl, exists_eq_ok (accepts · "ax") (by decide +kernel)⟩
  · obtain ⟨r, hr, -⟩ := exists_eq_ok (e := parse "(?x)a#") (fun _ => true) (by decide +kernel)
    exact ⟨r, hr⟩
  · have hrefused : (Matcher.regex "(?x)a#").isOk = false := by decide +kernel
    rintro ⟨m, hm⟩
    rw [hm] at hrefused
    nomatch hrefused

end Matcher

end TokenPattern
