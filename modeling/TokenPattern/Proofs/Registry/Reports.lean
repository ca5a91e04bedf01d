import TokenPattern.Proofs.Registry.Soundness

/-!
# Errors from outside

Matcher types and readers of literals come from outside, and a registry passes their errors on as
they are (`Registry.PassesOn`), whatever they say.  `Registry.ReportsContent` says that these errors
are about contents only, as documented for matcher types.

* `Registry.Faults.passesOn_of_depth` — a fault of a pattern speaks of a depth only if such an error
  does.
* `Registry.reportsContent_characters`, `Registry.reportsContent_words` — the registries over
  characters and over words pass on errors about contents only.
-/

namespace TokenPattern

/-- Whether an error is one about a content: an invalid configuration or an invalid regular
expression.  Those are the errors documented for matcher types. -/
def PatternError.IsContent : PatternError → Prop
  | invalidConfig _ | invalidRegex _ _ => True
  | _ => False

/-! ## What a registry passes on -/

namespace Registry

section

variable {τ ο : Type} {r : Registry τ ο}

/-- `r.PassesOn n x`: the matcher type of the pattern `n`, or the reader of its literal, has returned the
error `x`. -/
inductive PassesOn (r : Registry τ ο) : PatternConfig → PatternError → Prop
  | matcher {ref : MatcherRef} {negate : Bool} {make : MatcherFactory τ ο} {x : PatternError} :
      r.factory? ref.typeUrl = some make → make ref.config = .error x →
      PassesOn r (.leaf ref negate) x
  | literal {value : Document} {read : LiteralReader τ ο} {x : PatternError} :
      r.literals = some read → read value = .error x → PassesOn r (.literal value) x

/-- No fault that a registry finds itself speaks of a depth. -/
lemma Faults.passesOn_of_depth {n : PatternConfig} {d m : ℕ}
    (h : r.Faults n (.depthExceeded d m)) : r.PassesOn n (.depthExceeded d m) := by
  cases h with
  | content hsome herror => exact .matcher hsome herror
  | unreadable hsome herror => exact .literal hsome herror

/-- Whether matcher types and literals are refused with an error about their contents. -/
structure ReportsContent (r : Registry τ ο) : Prop where
  matchers {url : String} {make : MatcherFactory τ ο} {config : Document} {x : PatternError} :
    r.factory? url = some make → make config = .error x → x.IsContent
  literals {read : LiteralReader τ ο} {value : Document} {x : PatternError} :
    r.literals = some read → read value = .error x → x.IsContent

lemma PassesOn.isContent (hr : r.ReportsContent) {n : PatternConfig} {x : PatternError}
    (h : r.PassesOn n x) : x.IsContent := by
  cases h with
  | matcher hsome herror => exact hr.matchers hsome herror
  | literal hsome herror => exact hr.literals hsome herror

/-- Registering a type changes only what its own URL stands for. -/
lemma lookup_insertFactory_of_ne {url u : String} (hne : u ≠ url) (make : MatcherFactory τ ο)
    (factories : List (String × MatcherFactory τ ο)) :
    (insertFactory url make factories).lookup u = factories.lookup u := by
  have hbeq : (u == url) = false := beq_false_of_ne hne
  induction factories with
  | nil => simp [insertFactory, List.lookup_cons, hbeq]
  | cons first rest ih =>
      obtain ⟨v, f⟩ := first
      simp only [insertFactory]
      split_ifs with hlt heq
      · simp [List.lookup_cons, hbeq]
      · subst heq
        simp [List.lookup_cons, hbeq]
      · simp [List.lookup_cons, ih]

lemma ReportsContent.register (hr : r.ReportsContent) (url : String) {make : MatcherFactory τ ο}
    (hmake : ∀ config x, make config = .error x → x.IsContent) :
    (r.register url make).ReportsContent where
  matchers {u f config x} hf hx := by
    by_cases hu : u = url
    · subst hu
      rw [factory?, Registry.register, lookup_insertFactory] at hf
      cases hf
      exact hmake config x hx
    · rw [factory?, Registry.register, lookup_insertFactory_of_ne hu] at hf
      exact hr.matchers hf hx
  literals hread hx := hr.literals hread hx

lemma ReportsContent.withLiterals (hr : r.ReportsContent) {read : LiteralReader τ ο}
    (hread : ∀ value x, read value = .error x → x.IsContent) :
    (r.withLiterals read).ReportsContent where
  matchers hf hx := hr.matchers hf hx
  literals hsome hx := by
    cases hsome
    exact hread _ _ hx

lemma reportsContent_empty (emit : τ → ο) : (empty emit).ReportsContent where
  matchers hf _ := by simp [factory?, empty] at hf
  literals hread _ := by simp [empty] at hread

end

/-! ## The registries over characters and over words -/

open Mismatch (asConfigFault)

section

variable {α β : Type}

lemma isContent_of_asConfigFault {result : Except Mismatch α} {x : PatternError}
    (h : asConfigFault result = .error x) : x.IsContent := by
  cases result with
  | ok a => cases h
  | error m =>
      cases h
      trivial

/-- Of two steps, either may report. -/
lemma isContent_of_bind {step : Except PatternError α} {next : α → Except PatternError β}
    {x : PatternError} (hstep : ∀ y, step = .error y → y.IsContent)
    (hnext : ∀ a y, next a = .error y → y.IsContent) (h : step.bind next = .error x) :
    x.IsContent := by
  cases hresult : step with
  | error y =>
      rw [hresult] at h
      cases h
      exact hstep x hresult
  | ok a =>
      rw [hresult] at h
      exact hnext a x h

variable {τ : Type} [DecidableEq τ] [Diagnostic τ] (read : Document → Except Mismatch τ)

lemma isContent_of_exactType (config : Document) (x : PatternError)
    (h : exactType read config = .error x) : x.IsContent :=
  isContent_of_bind (fun _ => isContent_of_asConfigFault) (fun _ _ h => by cases h) h

lemma isContent_of_inSetType (config : Document) (x : PatternError)
    (h : inSetType read config = .error x) : x.IsContent := by
  refine isContent_of_bind (fun _ => isContent_of_asConfigFault) (fun values y hy => ?_) h
  split_ifs at hy with hempty
  · cases hy
    trivial
  · cases hy

omit [DecidableEq τ] [Diagnostic τ] in
lemma isContent_of_anyType (config : Document) (x : PatternError)
    (h : (anyType : MatcherFactory τ τ) config = .error x) : x.IsContent :=
  nomatch h

lemma isContent_of_literalOf (tokens : List τ) (x : PatternError)
    (h : literalOf tokens = .error x) : x.IsContent := by
  rw [literalOf] at h
  split at h
  · cases h
  · cases h
    trivial

end

lemma isContent_of_rangesType (config : Document) (x : PatternError)
    (h : rangesType config = .error x) : x.IsContent := by
  refine isContent_of_bind (fun _ => isContent_of_asConfigFault) (fun ranges y hy => ?_) h
  refine isContent_of_bind (fun z hz => ?_) (fun _ _ h => by cases h) hy
  rw [checkRanges] at hz
  split at hz
  · cases hz
    trivial
  · split at hz
    · cases hz
      trivial
    · cases hz

lemma isContent_of_classType (config : Document) (x : PatternError)
    (h : classType config = .error x) : x.IsContent :=
  isContent_of_bind (fun _ => isContent_of_asConfigFault) (fun _ _ h => by cases h) h

lemma isContent_of_regexType (config : Document) (x : PatternError)
    (h : regexType config = .error x) : x.IsContent := by
  refine isContent_of_bind (fun _ => isContent_of_asConfigFault) (fun pattern y hy => ?_) h
  rw [Matcher.regex, Matcher.regexBy] at hy
  split at hy
  · cases hy
  · cases hy
    trivial

lemma isContent_of_characterLiteral (value : Document) (x : PatternError)
    (h : characterLiteral value = .error x) : x.IsContent := by
  rw [characterLiteral.eq_def] at h
  split at h
  · exact isContent_of_literalOf _ x h
  · cases h
    trivial

lemma isContent_of_wordLiteral (value : Document) (x : PatternError)
    (h : wordLiteral value = .error x) : x.IsContent := by
  rw [wordLiteral.eq_def] at h
  split at h
  · exact isContent_of_literalOf _ x h
  · exact isContent_of_bind (fun _ => isContent_of_asConfigFault) isContent_of_literalOf h
  · cases h
    trivial

theorem reportsContent_characters : characters.ReportsContent :=
  (reportsContent_empty id).register _ (isContent_of_exactType _)
    |>.register _ (isContent_of_inSetType _)
    |>.register _ isContent_of_rangesType
    |>.register _ isContent_of_classType
    |>.register _ isContent_of_anyType
    |>.withLiterals isContent_of_characterLiteral

theorem reportsContent_words : words.ReportsContent :=
  (reportsContent_empty id).register _ (isContent_of_exactType _)
    |>.register _ (isContent_of_inSetType _)
    |>.register _ isContent_of_regexType
    |>.register _ isContent_of_anyType
    |>.withLiterals isContent_of_wordLiteral

end Registry

end TokenPattern
