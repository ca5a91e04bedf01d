import Mathlib.Data.Nat.Notation
import Mathlib.Tactic.Common
import TokenPattern.Registry.Words

/-!
# Sound patterns and their faults

Whether a configured pattern is in order is a matter of each of the patterns in it alone: a matcher
type must be known and accept its content, a list must have items, the bounds of a repetition must
be in range and in order, and so on (`PatternConfig.IsSound`).  `Registry.Faults` says what the
error tells of a pattern that is not.

* `Registry.Faults.not_isSound` — a pattern with a fault is not sound.
* `Registry.checkBounds_cases`, `Registry.repeated_cases` — every check of a registry either passes,
  and the pattern is sound, or reports a fault.
-/

namespace TokenPattern

/-! ## Patterns inside patterns -/

namespace PatternConfig

/-- The patterns directly inside. -/
def children : PatternConfig → List PatternConfig
  | leaf _ _ | literal _ | any => []
  | concat items | alt items => items
  | maybe pattern | repetition pattern _ _ | capture _ pattern => [pattern]

/-- Whether a pattern is another one or stands somewhere inside it. -/
inductive IsNode (n : PatternConfig) : PatternConfig → Prop
  | self : IsNode n n
  | inside {x c : PatternConfig} : x ∈ c.children → IsNode n x → IsNode n c

lemma depth_eq (c : PatternConfig) : c.depth = 1 + itemsDepth c.children := by
  cases c <;> simp [depth, children, itemsDepth]

lemma depth_lt_of_mem_children {c x : PatternConfig} (h : x ∈ c.children) : x.depth < c.depth := by
  have hle := depth_le_itemsDepth h
  rw [depth_eq c]
  omega

lemma itemsDepth_le_iff {items : List PatternConfig} {n : ℕ} :
    itemsDepth items ≤ n ↔ ∀ x ∈ items, x.depth ≤ n := by
  induction items with
  | nil => simp [itemsDepth]
  | cons item rest ih => rw [itemsDepth, Nat.max_le, ih, List.forall_mem_cons]

/-- Induction over what is directly inside. -/
@[elab_as_elim]
theorem children_induction {P : PatternConfig → Prop}
    (h : ∀ c : PatternConfig, (∀ x ∈ c.children, P x) → P c) (c : PatternConfig) : P c := by
  induction hn : c.depth using Nat.strongRecOn generalizing c with
  | ind n ih =>
      subst hn
      exact h c fun x hx => ih x.depth (depth_lt_of_mem_children hx) x rfl

end PatternConfig

/-! ## Names of groups -/

/-- Whether a character is a letter of ASCII. -/
def IsAsciiLetter (c : Char) : Prop := ('a' ≤ c ∧ c ≤ 'z') ∨ ('A' ≤ c ∧ c ≤ 'Z')

/-- Whether a character is a digit of ASCII. -/
def IsAsciiDigit (c : Char) : Prop := '0' ≤ c ∧ c ≤ '9'

/-- Whether a name is a letter or underscore, followed by letters, digits and underscores. -/
def IsGroupName (name : String) : Prop :=
  ∃ c cs, name.toList = c :: cs ∧ (IsAsciiLetter c ∨ c = '_') ∧
    ∀ d ∈ cs, IsAsciiLetter d ∨ IsAsciiDigit d ∨ d = '_'

lemma isAlpha_iff (c : Char) : c.isAlpha = true ↔ IsAsciiLetter c := by
  unfold Char.isAlpha Char.isUpper Char.isLower IsAsciiLetter
  simp only [Char.le_def, ge_iff_le, Bool.or_eq_true, Bool.and_eq_true, decide_eq_true_eq]
  exact or_comm

lemma isDigit_iff (c : Char) : c.isDigit = true ↔ IsAsciiDigit c := by
  simp [Char.isDigit, IsAsciiDigit, Char.le_def]

lemma isIdentifier_iff (name : String) : Expr.isIdentifier name = true ↔ IsGroupName name := by
  rw [Expr.isIdentifier, IsGroupName]
  cases name.toList with
  | nil => simp
  | cons c cs => simp [Char.isAlphanum, isAlpha_iff, isDigit_iff, or_assoc]

lemma Expr.chain?_eq_none {α : Type} {es : List (Expr α)} : chain? es = none ↔ es = [] := by
  cases es <;> simp [chain?]

/-! ## Sound patterns -/

section

variable {τ ο : Type}

/-- Whether a pattern is in order, whatever is inside it. -/
def PatternConfig.IsSound (r : Registry τ ο) : PatternConfig → Prop
  | leaf ref _ => ∃ make m, r.factory? ref.typeUrl = some make ∧ make ref.config = .ok m
  | literal value => ∃ read e, r.literals = some read ∧ read value = .ok e
  | concat items | alt items => items ≠ []
  | repetition _ min max =>
    (∀ lo ∈ min, 0 ≤ lo ∧ lo ≤ maxRepeatBound) ∧
      ∀ hi ∈ max, 1 ≤ hi ∧ hi ≤ maxRepeatBound ∧ min.getD 0 ≤ hi
  | capture name _ => IsGroupName name
  | any | maybe _ => True

namespace Registry

/-- `r.Faults n x`: the pattern `n` is not in order, and this is what the error `x` says. -/
inductive Faults (r : Registry τ ο) : PatternConfig → PatternError → Prop
  | unknownType {ref : MatcherRef} {negate : Bool} : r.factory? ref.typeUrl = none →
      Faults r (.leaf ref negate) (.unknownTypeUrl ref.typeUrl r.typeUrls)
  | content {ref : MatcherRef} {negate : Bool} {make : MatcherFactory τ ο} {x : PatternError} :
      r.factory? ref.typeUrl = some make → make ref.config = .error x →
      Faults r (.leaf ref negate) x
  | noReader {value : Document} : r.literals = none →
      Faults r (.literal value) (.invalidConfig .noLiteralParser)
  | unreadable {value : Document} {read : LiteralReader τ ο} {x : PatternError} :
      r.literals = some read → read value = .error x → Faults r (.literal value) x
  | emptyConcat : Faults r (.concat []) (.invalidConfig (.noItems "concat"))
  | emptyAlt : Faults r (.alt []) (.invalidConfig (.noItems "alt"))
  | badBounds {pattern : PatternConfig} {min max : Option Int} :
      (∃ lo ∈ min, lo < 0) ∨ (∃ hi ∈ max, hi < 1 ∨ hi < min.getD 0) →
      Faults r (.repetition pattern min max) (.invalidRepeatBound (min.getD 0) max)
  | largeBound {pattern : PatternConfig} {min max : Option Int} {bound : Int} :
      bound ∈ min ∨ bound ∈ max → maxRepeatBound < bound →
      Faults r (.repetition pattern min max) (.repeatTooLarge bound.toNat maxRepeatBound)
  | badName {name : String} {pattern : PatternConfig} : ¬ IsGroupName name →
      Faults r (.capture name pattern) (.invalidCaptureName name)

variable {r : Registry τ ο}

/-- A fault is that of a pattern which is not in order. -/
lemma Faults.not_isSound {n : PatternConfig} {x : PatternError} (h : r.Faults n x) :
    ¬ n.IsSound r := by
  intro hn
  cases h with
  | unknownType hnone =>
      obtain ⟨make, m, hsome, _⟩ := hn
      simp [hnone] at hsome
  | content hsome herror =>
      obtain ⟨make, m, hsome', hok⟩ := hn
      obtain rfl := Option.some.inj (hsome.symm.trans hsome')
      simp [herror] at hok
  | noReader hnone =>
      obtain ⟨read, e, hsome, _⟩ := hn
      simp [hnone] at hsome
  | unreadable hsome herror =>
      obtain ⟨read, e, hsome', hok⟩ := hn
      obtain rfl := Option.some.inj (hsome.symm.trans hsome')
      simp [herror] at hok
  | emptyConcat => exact hn rfl
  | emptyAlt => exact hn rfl
  | badBounds hbounds =>
      rcases hbounds with ⟨lo, hlo, hneg⟩ | ⟨hi, hhi, hbad⟩
      · have := (hn.1 lo hlo).1
        omega
      · have := hn.2 hi hhi
        omega
  | largeBound hbound hlarge =>
      rcases hbound with hlo | hhi
      · have := (hn.1 _ hlo).2
        omega
      · have := (hn.2 _ hhi).2.1
        omega
  | badName hname => exact hname hn

/-! ## One pattern at a time -/

lemma loadAt_of_lt {d : ℕ} (h : maxPatternDepth < d) (c : PatternConfig) :
    r.loadAt d c = .error (.depthExceeded d maxPatternDepth) := by
  cases c <;> rw [loadAt, if_pos h]

lemma loadMatcher_cases (ref : MatcherRef) (negate : Bool) :
    (∃ m, r.loadMatcher ref = .ok m ∧ (PatternConfig.leaf ref negate).IsSound r) ∨
      ∃ x, r.loadMatcher ref = .error x ∧ r.Faults (.leaf ref negate) x := by
  rw [loadMatcher]
  cases hmake : r.factory? ref.typeUrl with
  | none => exact Or.inr ⟨_, rfl, .unknownType hmake⟩
  | some make =>
      cases hresult : make ref.config with
      | error x => exact Or.inr ⟨x, hresult, .content hmake hresult⟩
      | ok m => exact Or.inl ⟨m, hresult, make, m, hmake, hresult⟩

lemma checkBound_cases (invalid : PatternError) (bound : Int) :
    (0 ≤ bound ∧ bound ≤ maxRepeatBound ∧ checkBound invalid bound = .ok bound.toNat) ∨
      (bound < 0 ∧ checkBound invalid bound = .error invalid) ∨
      (maxRepeatBound < bound ∧
        checkBound invalid bound = .error (.repeatTooLarge bound.toNat maxRepeatBound)) := by
  by_cases hneg : bound < 0
  · exact Or.inr (Or.inl ⟨hneg, by simp [checkBound, hneg]⟩)
  · by_cases hlarge : maxRepeatBound < bound.toNat
    · exact Or.inr (Or.inr ⟨by omega, by simp [checkBound, hneg, hlarge]⟩)
    · exact Or.inl ⟨by omega, by omega, by simp [checkBound, hneg, hlarge]⟩

/-- The lower bound is checked first.  Bounds that pass are those in range, as counts. -/
lemma checkBounds_cases (pattern : PatternConfig) (min max : Option Int) :
    ((∀ lo ∈ min, 0 ≤ lo ∧ lo ≤ maxRepeatBound) ∧ (∀ hi ∈ max, 0 ≤ hi ∧ hi ≤ maxRepeatBound) ∧
        checkBounds min max = .ok ((min.getD 0).toNat, max.map Int.toNat)) ∨
      ∃ x, checkBounds min max = .error x ∧ r.Faults (.repetition pattern min max) x := by
  -- An upper bound, when the lower bound has passed.
  have hupper : ∀ {lo : Nat} (hmin : ∀ lo ∈ min, 0 ≤ lo ∧ lo ≤ maxRepeatBound),
      lo = (min.getD 0).toNat →
      (max = none → checkBounds min max = .ok (lo, none)) →
      (∀ hi, max = some hi → checkBounds min max =
        (checkBound (.invalidRepeatBound (min.getD 0) max) hi).map fun hi => (lo, some hi)) →
      ((∀ lo ∈ min, 0 ≤ lo ∧ lo ≤ maxRepeatBound) ∧
          (∀ hi ∈ max, 0 ≤ hi ∧ hi ≤ maxRepeatBound) ∧
          checkBounds min max = .ok ((min.getD 0).toNat, max.map Int.toNat)) ∨
        ∃ x, checkBounds min max = .error x ∧ r.Faults (.repetition pattern min max) x := by
    rintro lo hmin rfl hnone hsome
    cases max with
    | none => exact Or.inl ⟨hmin, by simp, hnone rfl⟩
    | some hi =>
        have hcheck := hsome hi rfl
        rcases checkBound_cases (.invalidRepeatBound (min.getD 0) (some hi)) hi with
          ⟨hnonneg, hle, h⟩ | ⟨hneg, h⟩ | ⟨hlarge, h⟩
        · refine Or.inl ⟨hmin, ?_, by simp [hcheck, h, Except.map]⟩
          rintro _ ⟨⟩
          exact ⟨hnonneg, hle⟩
        · refine Or.inr ⟨_, by simp only [hcheck, h, Except.map], .badBounds (Or.inr ⟨hi, rfl, ?_⟩)⟩
          omega
        · exact Or.inr ⟨_, by simp only [hcheck, h, Except.map], .largeBound (Or.inr rfl) hlarge⟩
  cases min with
  | none =>
      refine hupper (by simp) rfl ?_ ?_
      · rintro rfl
        rfl
      · rintro hi rfl
        rfl
  | some lo =>
      rcases checkBound_cases (.invalidRepeatBound lo max) lo with
        ⟨hnonneg, hle, h⟩ | ⟨hneg, h⟩ | ⟨hlarge, h⟩
      · refine @hupper lo.toNat ?_ rfl ?_ ?_
        · rintro _ ⟨⟩
          exact ⟨hnonneg, hle⟩
        · rintro rfl
          simp only [checkBounds, Option.getD_some, h]
          rfl
        · rintro hi rfl
          simp only [checkBounds, Option.getD_some, h]
          rfl
      · refine Or.inr ⟨_, ?_, .badBounds (Or.inl ⟨lo, rfl, hneg⟩)⟩
        simp only [checkBounds, Option.getD_some, h]
        rfl
      · refine Or.inr ⟨_, ?_, .largeBound (Or.inl rfl) hlarge⟩
        simp only [checkBounds, Option.getD_some, h]
        rfl

/-- Bounds in range are refused by `repeated` if the upper one is zero or below the lower one. -/
lemma repeated_cases (pattern : PatternConfig) (e : Expr (Matcher τ ο)) {min max : Option Int}
    (hmin : ∀ lo ∈ min, 0 ≤ lo ∧ lo ≤ maxRepeatBound)
    (hmax : ∀ hi ∈ max, 0 ≤ hi ∧ hi ≤ maxRepeatBound) :
    ((∃ e', repeated e ((min.getD 0).toNat, max.map Int.toNat) = .ok e') ∧
        (PatternConfig.repetition pattern min max).IsSound r) ∨
      ∃ x, repeated e ((min.getD 0).toNat, max.map Int.toNat) = .error x ∧
        r.Faults (.repetition pattern min max) x := by
  have hlo : 0 ≤ min.getD 0 ∧ min.getD 0 ≤ maxRepeatBound := by
    cases min with
    | none => simp
    | some lo => exact hmin lo rfl
  cases max with
  | none =>
      refine Or.inl ⟨?_, hmin, by simp⟩
      cases (min.getD 0).toNat with
      | zero => exact ⟨_, rfl⟩
      | succ n => exact ⟨_, rfl⟩
  | some hi =>
      have hhi := hmax hi rfl
      have hrepeated : repeated e ((min.getD 0).toNat, (some hi).map Int.toNat) =
          e.between (min.getD 0).toNat hi.toNat := by
        cases h : (min.getD 0).toNat <;> rfl
      rw [hrepeated]
      by_cases hbad : hi.toNat < (min.getD 0).toNat ∨ hi.toNat = 0
      · have hsigned : ∀ {n : Int}, 0 ≤ n → n ≤ maxRepeatBound → Word.signed n.toNat = n := by
          intro n hnonneg hle
          have hlt : n.toNat < Word.signedLimit := by
            simp only [Word.signedLimit]
            simp only [maxRepeatBound] at hle
            omega
          rw [Word.signed_eq hlt]
          omega
        refine Or.inr ⟨.invalidRepeatBound (min.getD 0) (some hi), ?_, ?_⟩
        · rw [Expr.between, if_pos hbad, hsigned hlo.1 hlo.2, hsigned hhi.1 hhi.2]
        · refine .badBounds (Or.inr ⟨hi, rfl, ?_⟩)
          omega
      · refine Or.inl ⟨?_, hmin, ?_⟩
        · rw [Expr.between, if_neg hbad]
          cases hchain : Expr.chain? (List.replicate (min.getD 0).toNat e ++
              List.replicate (hi.toNat - (min.getD 0).toNat) e.maybe) with
          | some e' => exact ⟨e', rfl⟩
          | none =>
              have hnil := Expr.chain?_eq_none.1 hchain
              simp at hnil
              omega
        · rintro _ ⟨⟩
          omega

lemma foldItems_cases (operator : String)
    (combine : Expr (Matcher τ ο) → Expr (Matcher τ ο) → Expr (Matcher τ ο))
    (loaded : List (Expr (Matcher τ ο))) :
    ((∃ e, foldItems operator combine loaded = .ok e) ∧ loaded ≠ []) ∨
      (foldItems operator combine loaded = .error (.invalidConfig (.noItems operator)) ∧
        loaded = []) := by
  cases loaded with
  | nil => exact Or.inr ⟨rfl, rfl⟩
  | cons first rest => exact Or.inl ⟨⟨_, rfl⟩, List.cons_ne_nil _ _⟩

lemma captured_cases (name : String) (pattern : PatternConfig) (e : Expr (Matcher τ ο)) :
    ((∃ e', e.captured name = .ok e') ∧ (PatternConfig.capture name pattern).IsSound r) ∨
      ∃ x, e.captured name = .error x ∧ r.Faults (.capture name pattern) x := by
  by_cases hname : IsGroupName name
  · exact Or.inl ⟨⟨_, if_pos ((isIdentifier_iff name).2 hname)⟩, hname⟩
  · refine Or.inr ⟨_, if_neg ?_, .badName hname⟩
    rwa [isIdentifier_iff]
end Registry

end

end TokenPattern
