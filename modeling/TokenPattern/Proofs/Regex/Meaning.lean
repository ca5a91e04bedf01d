import Mathlib.Order.Monotone.Basic
import Mathlib.Data.Finset.Card
import Mathlib.Order.Interval.Finset.Nat
import TokenPattern.Regex

/-!
# The texts that a regular expression describes

`Regex.image` works on sets of places.  `Regex.Spans` says the same of single places and by the
constructors of an expression alone: an expression spans a text from one place to another if some
choice among its branches and numbers of repetitions leads there.  `testBit_image_iff` shows that
the set reached from some places has exactly the ends of such spans.

**Repetition.**  A set of places is moved at most as often as there are places, and not any more
once it stays as it is.  Nothing is lost by that, since the sets of a repetition only grow
(`iterate_eq_of_grows`).

A text as a whole is described by an expression that spans it from its start to its end.  Between
the assertions about both ends, an expression occurs in exactly these texts (`occursIn_anchored_iff`).
-/

namespace TokenPattern

/-! ## Sets of places -/

namespace Places

/-- The character before a place. -/
def charBefore (text : List Char) : Nat → Option Char
  | 0 => none
  | i + 1 => text[i]?

/-- The places where a test holds on the characters on both sides. -/
lemma testBit_between_iff (test : Option Char → Option Char → Bool) (text : List Char) (i : Nat) :
    (between test text).testBit i = true ↔
      i ≤ text.length ∧ test (charBefore text i) text[i]? = true := by
  rw [between, testBit_ofList, List.getD_eq_getElem?_getD, List.getElem?_zipWith]
  rcases Nat.lt_or_ge text.length i with hi | hi
  · rw [List.getElem?_eq_none (by simpa using Nat.succ_le_of_lt hi)]
    simp [Nat.not_le.2 hi]
  · have hbefore : (none :: text.map some)[i]? = some (charBefore text i) := by
      cases i with
      | zero => rfl
      | succ i => simp [charBefore, List.getElem?_eq_getElem hi]
    have hbehind : (text.map some ++ [none])[i]? = some text[i]? := by
      rcases hi.lt_or_eq with hi | rfl
      · simp [List.getElem?_append_left, hi]
      · simp
    rw [hbefore, hbehind]
    simp [hi]

/-- The places behind a character that passes a test. -/
lemma testBit_advance_before_iff (test : Char → Bool) (text : List Char) (places : Places)
    (j : Nat) :
    (advance (before test text) places).testBit j = true ↔
      ∃ i, places.testBit i = true ∧ j = i + 1 ∧ ∃ c, text[i]? = some c ∧ test c = true := by
  cases j with
  | zero =>
    rw [testBit_advance_zero]
    simp
  | succ j =>
    rw [testBit_advance_succ, testBit_before, Bool.and_eq_true]
    constructor
    · rintro ⟨hplace, htest⟩
      cases hc : text[j]? with
      | none => simp [hc] at htest
      | some c => exact ⟨j, hplace, rfl, c, hc, by simpa [hc] using htest⟩
    · rintro ⟨i, hplace, hi, c, hc, htest⟩
      obtain rfl : j = i := by omega
      exact ⟨hplace, by simp [hc, htest]⟩

/-- A set of places up to `n`. -/
def Within (n : Nat) (places : Places) : Prop := ∀ i, places.testBit i = true → i ≤ n

/-- The members of a set of places up to `n`. -/
def members (n : Nat) (places : Places) : Finset Nat :=
  {i ∈ Finset.range (n + 1) | places.testBit i = true}

lemma Within.mem_members_iff {n : Nat} {places : Places} (h : Within n places) {i : Nat} :
    i ∈ members n places ↔ places.testBit i = true := by
  simp only [members, Finset.mem_filter, Finset.mem_range]
  exact ⟨And.right, fun hi => ⟨Nat.lt_succ_of_le (h i hi), hi⟩⟩

lemma Within.or {n : Nat} {first second : Places} (hfirst : Within n first)
    (hsecond : Within n second) : Within n (first ||| second) := by
  intro i hi
  rw [Nat.testBit_or, Bool.or_eq_true] at hi
  exact hi.elim (hfirst i) (hsecond i)

lemma card_members_le (n : Nat) (places : Places) : (members n places).card ≤ n + 1 :=
  (Finset.card_filter_le _ _).trans_eq (Finset.card_range _)

/-- A set with the members of another, and not more of them, is the same set. -/
lemma Within.eq_of_card_le {n : Nat} {small large : Places} (hsmall : Within n small)
    (hlarge : Within n large) (hsubset : members n small ⊆ members n large)
    (hcard : (members n large).card ≤ (members n small).card) : large = small := by
  have hmembers := Finset.eq_of_subset_of_card_le hsubset hcard
  refine Nat.eq_of_testBit_eq fun i => Bool.eq_iff_iff.2 ?_
  rw [← hlarge.mem_members_iff, ← hsmall.mem_members_iff, hmembers]

end Places

/-! ## Steps -/

/-- What some number of steps relates. -/
def Steps (related : Nat → Nat → Prop) : Nat → Nat → Nat → Prop
  | 0, i, j => i = j
  | n + 1, i, k => ∃ j, related i j ∧ Steps related n j k

namespace Motion

open Places (Within members)

/-- A set that stays as it is would stay so through the steps left out. -/
lemma iterate_eq (step : Places → Places) (n : Nat) (places : Places) :
    iterate step n places = step^[n] places := by
  induction n generalizing places with
  | zero => rfl
  | succ n ih =>
    rw [iterate, Function.iterate_succ_apply]
    split
    case isTrue h =>
      have hfixed : step places = places := h
      rw [hfixed, Function.iterate_fixed hfixed]
    case isFalse => exact ih _

/-- A set of places that only grows has stopped growing when it has been given the time to take in
all of them. -/
lemma iterate_eq_of_grows {grow : Places → Places} {n : Nat} {places : Places}
    (hgrow : ∀ places i, places.testBit i = true → (grow places).testBit i = true)
    (hwithin : ∀ k, Within n (grow^[k] places)) {k : Nat} (hk : n + 1 ≤ k) :
    grow^[k] places = grow^[n + 1] places := by
  let size (k : Nat) : Nat := (members n (grow^[k] places)).card
  have hsubset (k : Nat) : members n (grow^[k] places) ⊆ members n (grow^[k + 1] places) := by
    intro i hi
    rw [(hwithin k).mem_members_iff] at hi
    rw [(hwithin (k + 1)).mem_members_iff, Function.iterate_succ_apply']
    exact hgrow _ i hi
  have hstay (k : Nat) (h : size k = size (k + 1)) : grow^[k + 1] places = grow^[k] places :=
    (hwithin k).eq_of_card_le (hwithin (k + 1)) (hsubset k) h.ge
  have hmono : Monotone size := monotone_nat_of_le_succ fun k => Finset.card_le_card (hsubset k)
  have hsize (k : Nat) (h : size k = size (k + 1)) : size (k + 1) = size (k + 2) := by
    have hsets : grow^[k + 2] places = grow^[k + 1] places := by
      rw [Function.iterate_succ_apply' grow (k + 1), hstay k h, ← Function.iterate_succ_apply' grow,
        hstay k h]
    simp only [size, hsets]
  have hstable (k : Nat) (hk : n + 1 ≤ k) : size k = size (n + 1) :=
    Nat.stabilises_of_monotone hmono (fun k => Places.card_members_le n _) hsize hk
  induction k, hk using Nat.le_induction with
  | base => rfl
  | succ k hk ih =>
    refine (hstay k ?_).trans ih
    rw [hstable k hk, hstable (k + 1) (hk.trans k.le_succ)]

section

variable {step : Places → Places} {related : Nat → Nat → Prop} {n : Nat}
  (hwithin : ∀ places, Within n places → Within n (step places))
  (hstep : ∀ places, Within n places → ∀ j, (step places).testBit j = true ↔
    ∃ i, places.testBit i = true ∧ related i j)

include hwithin hstep

/-- Steps of a set are steps of its places. -/
lemma testBit_iterate_iff (k : Nat) {places : Places} (h : Within n places) (j : Nat) :
    (step^[k] places).testBit j = true ↔
      ∃ i, places.testBit i = true ∧ Steps related k i j := by
  induction k generalizing places with
  | zero => simp [Steps]
  | succ k ih =>
    rw [Function.iterate_succ_apply, ih (hwithin _ h)]
    simp only [hstep _ h, Steps]
    constructor
    · rintro ⟨m, ⟨i, hi, him⟩, hmj⟩
      exact ⟨i, hi, m, him, hmj⟩
    · rintro ⟨i, hi, m, him, hmj⟩
      exact ⟨m, ⟨i, hi, him⟩, hmj⟩

/-- With the places themselves kept, some of the steps may be left out. -/
lemma testBit_iterate_optional_iff (k : Nat) {places : Places} (h : Within n places) (j : Nat) :
    ((fun places => places ||| step places)^[k] places).testBit j = true ↔
      ∃ m ≤ k, ∃ i, places.testBit i = true ∧ Steps related m i j := by
  induction k generalizing places with
  | zero => simp [Steps]
  | succ k ih =>
    rw [Function.iterate_succ_apply, ih (h.or (hwithin _ h))]
    simp only [Nat.testBit_or, Bool.or_eq_true, hstep _ h]
    constructor
    · rintro ⟨m, hm, l, hl | ⟨i, hi, hil⟩, hlj⟩
      · exact ⟨m, hm.trans k.le_succ, l, hl, hlj⟩
      · exact ⟨m + 1, Nat.succ_le_succ hm, i, hi, l, hil, hlj⟩
    · rintro ⟨m, hm, i, hi, hij⟩
      cases m with
      | zero => exact ⟨0, k.zero_le, i, .inl hi, hij⟩
      | succ m =>
        obtain ⟨l, hil, hlj⟩ := hij
        exact ⟨m, Nat.le_of_succ_le_succ hm, l, .inr ⟨i, hi, hil⟩, hlj⟩

/-- As many steps as there are places are as good as any number of them. -/
lemma testBit_iterate_all_iff {places : Places} (h : Within n places) (j : Nat) :
    ((fun places => places ||| step places)^[n + 1] places).testBit j = true ↔
      ∃ m, ∃ i, places.testBit i = true ∧ Steps related m i j := by
  have hgrown (k : Nat) : Within n ((fun places => places ||| step places)^[k] places) :=
    Function.Iterate.rec (Within n) h (fun p hp => hp.or (hwithin p hp)) k
  constructor
  · intro hj
    obtain ⟨m, -, i, hij⟩ := (testBit_iterate_optional_iff hwithin hstep _ h j).1 hj
    exact ⟨m, i, hij⟩
  · rintro ⟨m, i, hij⟩
    have hj : ((fun places => places ||| step places)^[max m (n + 1)] places).testBit j = true :=
      (testBit_iterate_optional_iff hwithin hstep _ h j).2 ⟨m, le_max_left _ _, i, hij⟩
    rwa [iterate_eq_of_grows (fun p i hi => by simp [Nat.testBit_or, hi]) hgrown
      (le_max_right _ _)] at hj

end

end Motion

/-! ## Spans -/

namespace Regex

/-- Whether an expression leads from one place of a text to another. -/
def Spans (text : List Char) : Regex → Nat → Nat → Prop
  | empty, i, j => i = j
  | one set, i, j => j = i + 1 ∧ ∃ c, text[i]? = some c ∧ set.contains c = true
  | assert a unicode, i, j =>
    i = j ∧ i ≤ text.length ∧ a.holds (.word unicode) (Places.charBefore text i) text[i]? = true
  | group _ inner, i, j => inner.Spans text i j
  | concat left right, i, k => ∃ j, left.Spans text i j ∧ right.Spans text j k
  | alt left right, i, j => left.Spans text i j ∨ right.Spans text i j
  | repetition inner least most? _, i, j =>
    ∃ n, least ≤ n ∧ (∀ most ∈ most?, n ≤ max least most) ∧ Steps (inner.Spans text) n i j

/-- Numbers of steps add up. -/
lemma steps_add_iff {related : Nat → Nat → Prop} (m n i j : Nat) :
    Steps related (m + n) i j ↔ ∃ k, Steps related m i k ∧ Steps related n k j := by
  induction m generalizing i with
  | zero => simp [Steps]
  | succ m ih =>
    rw [Nat.succ_add]
    simp only [Steps, ih]
    constructor
    · rintro ⟨l, hil, k, hlk, hkj⟩
      exact ⟨k, ⟨l, hil, hlk⟩, hkj⟩
    · rintro ⟨k, ⟨l, hil, hlk⟩, hkj⟩
      exact ⟨l, hil, k, hlk, hkj⟩

/-- The places that are reached from some places are the ends of the spans from there. -/
lemma testBit_image_iff {text : List Char} (r : Regex) {places : Places}
    (h : places.Within text.length) (j : Nat) :
    (r.image text places).testBit j = true ↔
      ∃ i, places.testBit i = true ∧ r.Spans text i j := by
  induction r generalizing places j with
  | empty => simp [image_empty, Spans]
  | one set => exact Places.testBit_advance_before_iff set.contains text places j
  | assert a unicode =>
    rw [image_assert, Nat.testBit_and, Bool.and_eq_true, Places.testBit_between_iff]
    simp only [Spans]
    constructor
    · rintro ⟨hj, hholds⟩
      exact ⟨j, hj, rfl, hholds⟩
    · rintro ⟨i, hi, rfl, hholds⟩
      exact ⟨hi, hholds⟩
  | group captures inner ih => exact ih h j
  | concat left right ihl ihr =>
    rw [image_concat, ihr (le_length_of_testBit_image left h)]
    simp only [ihl h, Spans]
    constructor
    · rintro ⟨k, ⟨i, hi, hik⟩, hkj⟩
      exact ⟨i, hi, k, hik, hkj⟩
    · rintro ⟨i, hi, k, hik, hkj⟩
      exact ⟨k, ⟨i, hi, hik⟩, hkj⟩
  | alt left right ihl ihr =>
    rw [image_alt, Nat.testBit_or, Bool.or_eq_true, ihl h, ihr h]
    simp only [Spans, and_or_left, exists_or]
  | repetition inner least most? isLazy ih =>
    have hwithin (places : Places) (h : places.Within text.length) :
        (inner.image text places).Within text.length := le_length_of_testBit_image inner h
    have hstep (places : Places) (h : places.Within text.length) := ih h
    have hrequired : ((inner.image text)^[least] places).Within text.length :=
      Function.Iterate.rec (Places.Within text.length) h hwithin least
    -- required steps, and then as many optional ones as may be
    have hoptional : ((repetition inner least most? isLazy).image text places).testBit j = true ↔
        ∃ m, (∀ most ∈ most?, m ≤ most - least) ∧ ∃ k,
          ((inner.image text)^[least] places).testBit k = true ∧ Steps (inner.Spans text) m k j := by
      rw [image_repetition, Motion.iterate_eq, Motion.iterate_eq]
      cases most? with
      | some most =>
        refine (Motion.testBit_iterate_optional_iff hwithin hstep (most - least) hrequired j).trans ?_
        simp
      | none =>
        refine (Motion.testBit_iterate_all_iff hwithin hstep hrequired j).trans ?_
        simp
    rw [hoptional]
    simp only [Motion.testBit_iterate_iff hwithin hstep least h, Spans]
    constructor
    · rintro ⟨m, hm, k, ⟨i, hi, hik⟩, hkj⟩
      refine ⟨i, hi, least + m, Nat.le_add_right _ _, fun most hmost => ?_,
        (steps_add_iff least m i j).2 ⟨k, hik, hkj⟩⟩
      have hle := hm most hmost
      omega
    · rintro ⟨i, hi, n, hmin, hmax, hij⟩
      obtain ⟨m, rfl⟩ := Nat.exists_eq_add_of_le hmin
      obtain ⟨k, hik, hkj⟩ := (steps_add_iff least m i j).1 hij
      refine ⟨m, fun most hmost => ?_, k, ⟨i, hi, hik⟩, hkj⟩
      have hle := hmax most hmost
      omega

/-- Whether an expression spans some part of a text. -/
def OccursIn (r : Regex) (text : String) : Prop :=
  ∃ i ≤ text.toList.length, ∃ j, r.Spans text.toList i j

/-- An expression matches if it spans some part of the text. -/
lemma matchesIn_iff (r : Regex) (text : String) : r.matchesIn text = true ↔ r.OccursIn text := by
  have hall : (Places.all text.toList).Within text.toList.length := by
    intro i hi
    simpa [Places.testBit_all] using hi
  rw [matchesIn, bne_iff_ne]
  constructor
  · intro hne
    obtain ⟨j, hj⟩ := Nat.exists_testBit_of_ne_zero hne
    obtain ⟨i, hi, hspans⟩ := (testBit_image_iff r hall j).1 hj
    exact ⟨i, hall i hi, j, hspans⟩
  · rintro ⟨i, hi, j, hspans⟩ hzero
    have hj := (testBit_image_iff r hall j).2 ⟨i, by simpa [Places.testBit_all] using hi, hspans⟩
    simp [hzero] at hj

/-! ## Whole texts -/

/-- An expression between the assertions about the start and the end of the text. -/
def anchored (r : Regex) : Regex :=
  .concat (.concat (.assert .textStart true) (.group false r)) (.assert .textEnd true)

/-- Whether an expression describes a text as a whole. -/
def Describes (r : Regex) (text : String) : Prop := r.Spans text.toList 0 text.toList.length

/-- Only the first place is at the start of the text. -/
lemma spans_textStart_iff (text : List Char) (i j : Nat) :
    (assert .textStart true).Spans text i j ↔ i = 0 ∧ j = 0 := by
  cases i with
  | zero => simp [Spans, Assertion.holds, Places.charBefore, eq_comm]
  | succ i =>
    simp only [Spans, Assertion.holds, Places.charBefore, Option.isNone_iff_eq_none,
      List.getElem?_eq_none_iff]
    omega

/-- Only the last place is at the end of the text. -/
lemma spans_textEnd_iff (text : List Char) (i j : Nat) :
    (assert .textEnd true).Spans text i j ↔ i = text.length ∧ j = text.length := by
  simp only [Spans, Assertion.holds, Option.isNone_iff_eq_none, List.getElem?_eq_none_iff]
  omega

/-- Between the assertions, an expression spans some part of the texts that it describes. -/
theorem occursIn_anchored_iff (r : Regex) (text : String) :
    r.anchored.OccursIn text ↔ r.Describes text := by
  constructor
  · rintro ⟨i, -, j, k, ⟨m, hstart, hspans⟩, hend⟩
    obtain ⟨rfl, rfl⟩ := (spans_textStart_iff _ _ _).1 hstart
    obtain ⟨rfl, rfl⟩ := (spans_textEnd_iff _ _ _).1 hend
    exact hspans
  · intro h
    exact ⟨0, Nat.zero_le _, _, _, ⟨0, (spans_textStart_iff _ _ _).2 ⟨rfl, rfl⟩, h⟩,
      (spans_textEnd_iff _ _ _).2 ⟨rfl, rfl⟩⟩

end Regex

end TokenPattern
