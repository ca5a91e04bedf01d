import TokenPattern.Proofs.Language.Copies
import TokenPattern.Proofs.Registry.Soundness

/-!
# What a configured pattern means

`PatternConfig.meaning` reads a configured pattern as a set of token sequences, with the bounds
of repetitions as numbers and lists as they are.  It takes the meaning of literals as a parameter.

* `Registry.language_of_loadAt` — a pattern that is loaded has the language that it denotes, by
  induction over what is inside.
* `Registry.isMatch_load_iff` — a pattern that the registries over characters and over words load
  matches the sequences that it denotes and no others.

**Literals.**  Over characters a literal is a text, with its characters in order.  Over words it is
a text, with the stretches between white space in order, or a list of texts.
-/

namespace TokenPattern

open scoped Computability

/-! ## Meaning -/

section

variable {τ ο : Type}

namespace PatternConfig

mutual

/-- The token sequences that a pattern stands for, if `literal` says which ones a literal does. -/
def meaning (r : Registry τ ο) (literal : Document → List τ → Prop) :
    PatternConfig → Language τ
  | .leaf ref negate => {w | ∃ t make m, w = [t] ∧ r.factory? ref.typeUrl = some make ∧
      make ref.config = .ok m ∧ (m.outputs t = [] ↔ negate = true)}
  | .literal value => {w | literal value w}
  | .any => {w | ∃ t, w = [t]}
  | .concat items => sequence r literal items
  | .alt items => choice r literal items
  | .maybe pattern => 1 + pattern.meaning r literal
  | .repetition pattern min max =>
    {w | ∃ k : ℕ, min.getD 0 ≤ k ∧ (∀ hi ∈ max, k ≤ hi) ∧ w ∈ pattern.meaning r literal ^ k}
  | .capture _ pattern => pattern.meaning r literal

/-- All items in order. -/
def sequence (r : Registry τ ο) (literal : Document → List τ → Prop) :
    List PatternConfig → Language τ
  | [] => 1
  | item :: rest => item.meaning r literal * sequence r literal rest

/-- Any of the items. -/
def choice (r : Registry τ ο) (literal : Document → List τ → Prop) :
    List PatternConfig → Language τ
  | [] => 0
  | item :: rest => item.meaning r literal + choice r literal rest

end

variable (r : Registry τ ο) (literal : Document → List τ → Prop)

lemma sequence_eq_prod (items : List PatternConfig) :
    sequence r literal items = (items.map (meaning r literal)).prod := by
  induction items with
  | nil => rfl
  | cons item rest ih => rw [sequence, ih, List.map_cons, List.prod_cons]

lemma choice_eq_sum (items : List PatternConfig) :
    choice r literal items = (items.map (meaning r literal)).sum := by
  induction items with
  | nil => rfl
  | cons item rest ih => rw [choice, ih, List.map_cons, List.sum_cons]

end PatternConfig

/-! ## Loading keeps the meaning -/

namespace Registry

variable {r : Registry τ ο} {literal : Document → List τ → Prop}

/-- Whether a literal that is read matches what it stands for. -/
def ReadsLiterals (r : Registry τ ο) (literal : Document → List τ → Prop) : Prop :=
  ∀ read value e, r.literals = some read → read value = .ok e →
    ∀ w, w ∈ e.language ↔ literal value w

lemma language_loadMatcher {ref : MatcherRef} {negate : Bool} {m : Matcher τ ο}
    (h : r.loadMatcher ref = .ok m) :
    (Expr.leaf (if negate then Matcher.not r.emit m else m)).language =
      (PatternConfig.leaf ref negate).meaning r literal := by
  rw [loadMatcher] at h
  cases hmake : r.factory? ref.typeUrl with
  | none => simp [hmake] at h
  | some make =>
      simp only [hmake] at h
      have hyields : ∀ t, (if negate then Matcher.not r.emit m else m).outputs t ≠ [] ↔
          (m.outputs t = [] ↔ negate = true) := by
        intro t
        cases negate with
        | true => simp [Matcher.not]
        | false => simp
      ext w
      constructor
      · rintro ⟨t, rfl, ht⟩
        exact ⟨t, make, m, rfl, hmake, h, (hyields t).1 ht⟩
      · rintro ⟨t, make', m', rfl, hmake', hm', ht⟩
        obtain rfl := Option.some.inj (hmake.symm.trans hmake')
        obtain rfl := Except.ok.inj (h.symm.trans hm')
        exact ⟨t, rfl, (hyields t).2 ht⟩

lemma foldItems_eq_ok {operator : String}
    {combine : Expr (Matcher τ ο) → Expr (Matcher τ ο) → Expr (Matcher τ ο)}
    {es : List (Expr (Matcher τ ο))} {e : Expr (Matcher τ ο)}
    (h : foldItems operator combine es = .ok e) :
    ∃ first rest, es = first :: rest ∧ rest.foldl combine first = e := by
  cases es with
  | nil => cases h
  | cons first rest =>
      cases h
      exact ⟨first, rest, rfl, rfl⟩

/-- Each item that is loaded has its meaning. -/
lemma map_language_of_loadItems {d : ℕ} {items : List PatternConfig}
    {es : List (Expr (Matcher τ ο))} (h : r.loadItems d items = .ok es)
    (ih : ∀ c ∈ items, ∀ e, r.loadAt d c = .ok e → e.language = c.meaning r literal) :
    es.map Expr.language = items.map (PatternConfig.meaning r literal) := by
  induction items generalizing es with
  | nil =>
      rw [loadItems] at h
      cases h
      rfl
  | cons item rest ihrest =>
      rw [loadItems] at h
      obtain ⟨e, he, h⟩ := bind_eq_ok h
      obtain ⟨others, hothers, h⟩ := bind_eq_ok h
      cases h
      rw [List.forall_mem_cons] at ih
      rw [List.map_cons, List.map_cons, ih.1 e he, ihrest hothers ih.2]

/-- The bounds of a repetition that is loaded are its own ones. -/
lemma mem_language_repeated (r : Registry τ ο) (pattern : PatternConfig) {e e' : Expr (Matcher τ ο)}
    {min max : Option Int} {bounds : ℕ × Option ℕ} {w : List τ}
    (hbounds : checkBounds min max = .ok bounds) (h : repeated e bounds = .ok e') :
    w ∈ e'.language ↔
      ∃ k : ℕ, min.getD 0 ≤ k ∧ (∀ hi ∈ max, k ≤ hi) ∧ w ∈ e.language ^ k := by
  rcases checkBounds_cases (r := r) pattern min max with ⟨hmin, hmax, hok⟩ | ⟨x, hx, _⟩
  · have hlo : 0 ≤ min.getD 0 := by
      cases min with
      | none => simp
      | some lo => exact (hmin lo rfl).1
    obtain rfl := Except.ok.inj (hok.symm.trans hbounds)
    cases max with
    | none =>
        have hatLeast : e' = e.atLeast (min.getD 0).toNat := by
          cases hn : (min.getD 0).toNat with
          | zero =>
              rw [Option.map_none, hn] at h
              cases h
              rfl
          | succ n =>
              rw [Option.map_none, hn] at h
              cases h
              rfl
        rw [hatLeast, Expr.mem_language_atLeast]
        simp
    | some hi =>
        have hhi := (hmax hi rfl).1
        have hbetween : e.between (min.getD 0).toNat hi.toNat = .ok e' := by
          cases hn : (min.getD 0).toNat with
          | zero =>
              rw [Option.map_some, hn] at h
              exact h
          | succ n =>
              rw [Option.map_some, hn] at h
              exact h
        rw [Expr.mem_language_between hbetween]
        simp only [Option.mem_some_iff, forall_eq', Int.toNat_le, Int.le_toNat hhi]
  · rw [hx] at hbounds
    cases hbounds

/-- A pattern that is loaded at any depth has the language that it denotes. -/
theorem language_of_loadAt (hliterals : r.ReadsLiterals literal) (c : PatternConfig) :
    ∀ d e, r.loadAt d c = .ok e → e.language = c.meaning r literal := by
  induction c using PatternConfig.children_induction with
  | h c ih =>
      intro d e h
      by_cases hdeep : maxPatternDepth < d
      · rw [loadAt_of_lt hdeep] at h
        cases h
      · cases c with
        | leaf ref negate =>
            rw [loadAt, if_neg hdeep] at h
            cases hm : r.loadMatcher ref with
            | error x =>
                rw [hm] at h
                cases h
            | ok m =>
                rw [hm] at h
                cases h
                exact language_loadMatcher hm
        | literal value =>
            rw [loadAt, if_neg hdeep] at h
            cases hreader : r.literals with
            | none =>
                simp only [hreader] at h
                cases h
            | some read =>
                simp only [hreader] at h
                ext w
                exact hliterals read value e hreader h w
        | any =>
            rw [loadAt, if_neg hdeep] at h
            cases h
            ext w
            constructor
            · rintro ⟨t, rfl, _⟩
              exact ⟨t, rfl⟩
            · rintro ⟨t, rfl⟩
              exact ⟨t, rfl, List.cons_ne_nil _ _⟩
        | concat items =>
            rw [loadAt, if_neg hdeep] at h
            obtain ⟨es, hes, h⟩ := bind_eq_ok h
            obtain ⟨first, rest, rfl, rfl⟩ := foldItems_eq_ok h
            have hmap := map_language_of_loadItems hes fun x hx => ih x hx (d + 1)
            rw [PatternConfig.meaning, PatternConfig.sequence_eq_prod, ← hmap, List.map_cons,
              List.prod_cons]
            exact Expr.language_chainFrom first rest
        | alt items =>
            rw [loadAt, if_neg hdeep] at h
            obtain ⟨es, hes, h⟩ := bind_eq_ok h
            obtain ⟨first, rest, rfl, rfl⟩ := foldItems_eq_ok h
            have hmap := map_language_of_loadItems hes fun x hx => ih x hx (d + 1)
            rw [PatternConfig.meaning, PatternConfig.choice_eq_sum, ← hmap, List.map_cons,
              List.sum_cons]
            exact Expr.language_foldl_alt first rest
        | maybe pattern =>
            rw [loadAt, if_neg hdeep] at h
            cases hpattern : r.loadAt (d + 1) pattern with
            | error x =>
                rw [hpattern] at h
                cases h
            | ok x =>
                rw [hpattern] at h
                cases h
                rw [PatternConfig.meaning, Expr.language,
                  ih pattern (List.mem_singleton.2 rfl) _ _ hpattern]
        | repetition pattern min max =>
            rw [loadAt, if_neg hdeep] at h
            obtain ⟨bounds, hbounds, h⟩ := bind_eq_ok h
            obtain ⟨x, hx, h⟩ := bind_eq_ok h
            ext w
            rw [mem_language_repeated r pattern hbounds h,
              ih pattern (List.mem_singleton.2 rfl) _ _ hx]
            rfl
        | capture name pattern =>
            rw [loadAt, if_neg hdeep] at h
            obtain ⟨x, hx, h⟩ := bind_eq_ok h
            rw [Expr.captured] at h
            split_ifs at h with hname
            cases h
            exact (ih pattern (List.mem_singleton.2 rfl) (d + 1) x hx :)

end Registry

end

/-! ## Literals -/

/-- The stretches of a text between white space. -/
def stretches (text : String) : List String :=
  ((text.toList.splitOnP Unicode.isWhiteSpace).filter (!·.isEmpty)).map String.ofList

/-- What a literal over characters stands for. -/
def IsCharacters (value : Document) (w : List Char) : Prop :=
  ∃ text, value = .string text ∧ w = text.toList

/-- What a literal over words stands for.  The items of a list may be unquoted. -/
def IsWords (value : Document) (w : List String) : Prop :=
  (∃ text, value = .string text ∧ w = stretches text) ∨
    ∃ items, value = .array items ∧
      List.Forall₂ (fun item word => item = .string word ∨ item = .plain word) items w

/-- A word that is being read goes before the first of the stretches. -/
lemma fieldsFrom_eq (isSeparator : Char → Bool) (word cs : List Char) :
    Text.fieldsFrom isSeparator word cs =
      (((cs.splitOnP isSeparator).modifyHead (word.reverse ++ ·)).filter (!·.isEmpty)).map
        String.ofList := by
  induction cs generalizing word with
  | nil =>
      cases word with
      | nil => simp [Text.fieldsFrom]
      | cons c word => simp [Text.fieldsFrom]
  | cons c rest ih =>
      rw [Text.fieldsFrom, List.splitOnP_cons_eq_if_modifyHead]
      by_cases hc : isSeparator c = true
      · have hrest : Text.fieldsFrom isSeparator [] rest =
            ((rest.splitOnP isSeparator).filter (!·.isEmpty)).map String.ofList := by
          rw [ih]
          cases rest.splitOnP isSeparator <;> rfl
        cases word with
        | nil => simp [hc, hrest]
        | cons d word => simp [hc, hrest]
      · have hword : ((c :: word).reverse ++ ·) = (word.reverse ++ ·) ∘ List.cons c := by
          funext l
          simp
        rw [if_neg hc, if_neg hc, ih, List.modifyHead_modifyHead, hword]

lemma words_eq_stretches (text : String) : Text.words text = stretches text := by
  rw [Text.words, fieldsFrom_eq, stretches]
  cases text.toList.splitOnP Unicode.isWhiteSpace <;> rfl

lemma text_eq_ok_iff {item : Document} {word : String} :
    item.text = .ok word ↔ item = .string word ∨ item = .plain word := by
  cases item <;> simp [Document.text]

lemma mapM_text_eq_ok_iff {items : List Document} {words : List String} :
    items.mapM Document.text = .ok words ↔
      List.Forall₂ (fun item word => item = .string word ∨ item = .plain word) items words := by
  induction items generalizing words with
  | nil =>
      rw [List.forall₂_nil_left_iff]
      constructor
      · rintro ⟨⟩
        rfl
      · rintro rfl
        rfl
  | cons item rest ih =>
      rw [List.mapM_cons, List.forall₂_cons_left_iff]
      constructor
      · intro h
        obtain ⟨word, hword, h⟩ := bind_eq_ok h
        obtain ⟨others, hothers, h⟩ := bind_eq_ok h
        cases h
        exact ⟨word, others, text_eq_ok_iff.1 hword, ih.1 hothers, rfl⟩
      · rintro ⟨word, others, hword, hothers, rfl⟩
        rw [text_eq_ok_iff.2 hword, ih.2 hothers]
        rfl

namespace Registry

lemma mem_language_literalOf {τ : Type} [DecidableEq τ] [Diagnostic τ] {tokens w : List τ}
    {e : Expr (Matcher τ τ)} (h : literalOf tokens = .ok e) : w ∈ e.language ↔ w = tokens := by
  rw [literalOf] at h
  split at h
  · rename_i hseq
    cases h
    exact Expr.mem_language_seq? hseq
  · cases h

lemma readsLiterals_characters : characters.ReadsLiterals IsCharacters := by
  rintro _ value e ⟨⟩ h w
  rw [characterLiteral.eq_def] at h
  split at h
  · rw [mem_language_literalOf h]
    simp [IsCharacters]
  · cases h

lemma readsLiterals_words : words.ReadsLiterals IsWords := by
  rintro _ value e ⟨⟩ h w
  rw [wordLiteral.eq_def] at h
  split at h
  · rw [mem_language_literalOf h, words_eq_stretches]
    simp [IsWords]
  · rename_i items
    obtain ⟨tokens, htokens, h⟩ := bind_eq_ok h
    have hitems : items.mapM Document.text = .ok tokens := by
      cases hmap : items.mapM Document.text with
      | ok ts =>
          rw [hmap] at htokens
          exact congrArg Except.ok (Except.ok.inj htokens)
      | error x =>
          rw [hmap] at htokens
          cases htokens
    have hwords : IsWords (.array items) w ↔ w = tokens := by
      constructor
      · rintro (⟨_, ⟨⟩, _⟩ | ⟨_, ⟨⟩, hw⟩)
        exact Except.ok.inj ((mapM_text_eq_ok_iff.2 hw).symm.trans hitems)
      · rintro rfl
        exact Or.inr ⟨items, rfl, mapM_text_eq_ok_iff.1 hitems⟩
    rw [mem_language_literalOf h, hwords]
  · cases h

/-! ## Matching -/

/-- What the registries over characters and over words load matches the sequences that the
configured pattern denotes, and is refused on all others. -/
theorem isMatch_load_iff :
    (∀ c e, characters.load c = .ok e → ∀ w : List Char,
      (((Program.compile e).withLimits Limits.unbounded).isMatch w = .ok true ↔
          w ∈ c.meaning characters IsCharacters) ∧
        (((Program.compile e).withLimits Limits.unbounded).isMatch w = .ok false ↔
          w ∉ c.meaning characters IsCharacters)) ∧
      ∀ c e, words.load c = .ok e → ∀ w : List String,
        (((Program.compile e).withLimits Limits.unbounded).isMatch w = .ok true ↔
            w ∈ c.meaning words IsWords) ∧
          (((Program.compile e).withLimits Limits.unbounded).isMatch w = .ok false ↔
            w ∉ c.meaning words IsWords) := by
  constructor
  · intro c e h w
    obtain ⟨verdict, hmatch, hverdict⟩ := Program.exists_isMatch e w
    rw [language_of_loadAt readsLiterals_characters c 1 e h] at hverdict
    exact verdict_iff hmatch hverdict
  · intro c e h w
    obtain ⟨verdict, hmatch, hverdict⟩ := Program.exists_isMatch e w
    rw [language_of_loadAt readsLiterals_words c 1 e h] at hverdict
    exact verdict_iff hmatch hverdict

/-- Two or three copies of a literal match two copies. -/
theorem isMatch_load_repetition :
    ∃ e, words.load (.repetition (.literal (.array [.string "a"])) (some 2) (some 3)) = .ok e ∧
      ((Program.compile e).withLimits Limits.unbounded).isMatch ["a", "a"] = .ok true := by
  let c : PatternConfig := .repetition (.literal (.array [.string "a"])) (some 2) (some 3)
  let a : Expr (Matcher String String) := .leaf (Matcher.exact "a")
  have hload : words.load c = .ok (.concat (.concat a a) (.maybe a)) := rfl
  refine ⟨_, hload, ((isMatch_load_iff.2 c _ hload _).1).2 ?_⟩
  have hliteral : ["a"] ∈
      (PatternConfig.literal (.array [.string "a"])).meaning words IsWords :=
    Or.inr ⟨_, rfl, .cons (Or.inl rfl) .nil⟩
  refine ⟨2, by decide, by simp, ?_⟩
  rw [pow_two]
  exact Language.append_mem_mul hliteral hliteral

end Registry

end TokenPattern
