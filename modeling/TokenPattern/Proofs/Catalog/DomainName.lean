import TokenPattern.Proofs.Catalog.Unambiguous
import TokenPattern.Proofs.Language.Copies
import TokenPattern.Proofs.Language.Splitting

/-!
# What a domain name is

The pattern for domain names says how they are put together.  `IsDomainName` says how to check one: it is
split at every dot, and its labels at every dash.  Both say the same (`isMatch_domainName`).

**Overlaps.**  The prefix `xn--` begins like a label without it, and the last label looks like the
others.  Neither matters for what is accepted: splitting at separators that are in none of the parts
leaves no choice (`mem_separated_iff`), and the prefix is tried with the remaining label behind it.
-/

namespace TokenPattern

/-! ## Leaves and their tokens -/

namespace Expr

variable {τ ο : Type} {e : Expr (Matcher τ ο)} {w : List τ}

/-- Tokens that no leaf accepts are in no word. -/
lemma forall_mem_eq_false {p : τ → Bool} (h : ∀ m ∈ e.leaves, ∀ t, p t = true → m.outputs t = [])
    (hw : w ∈ e.language) : ∀ t ∈ w, p t = false := by
  obtain ⟨u, hu, haccepts⟩ := (mem_language_iff e w).1 hw
  have hleaves := fun m hm => mem_leaves_of_mem_words (m := m) hu hm
  clear hw hu
  induction haccepts with
  | nil => exact List.forall_mem_nil _
  | cons hm _ ih =>
      obtain ⟨hleaf, hrest⟩ := List.forall_mem_cons.1 hleaves
      refine List.forall_mem_cons.2 ⟨Bool.eq_false_iff.2 fun ht => hm (h _ hleaf _ ht), ih hrest⟩

/-- A test matches the tokens that pass it. -/
lemma language_leaf_passing {text : String} {test : τ → Bool} :
    (leaf (Matcher.passing text test)).language = separators test := by
  ext w
  constructor
  · rintro ⟨t, rfl, ht⟩
    rw [← Matcher.accepts_iff, Matcher.accepts_passing] at ht
    exact ⟨t, ht, rfl⟩
  · rintro ⟨t, ht, rfl⟩
    refine ⟨t, rfl, ?_⟩
    rwa [← Matcher.accepts_iff, Matcher.accepts_passing]

end Expr

namespace Catalog

open scoped Computability

variable {w : List Char}

lemma mem_language_lit {first : Char} {rest : String} :
    w ∈ (lit first rest).language ↔ w = first :: rest.toList := by
  have hchar : Expr.language ∘ char = fun c : Char => ({[c]} : Language Char) :=
    funext Expr.language_leaf_exact
  rw [lit, Expr.language_chainFrom, List.map_map, hchar, ← mem_prod_singletons, List.map_cons,
    List.prod_cons]
  rw [char, Expr.language_leaf_exact]

lemma language_lit (c : Char) : (lit c).language = separators (· == c) :=
  Expr.language_leaf_passing

/-- A character that no leaf accepts is in no word. -/
lemma forall_mem_ne_of_leaves {e : CharPattern} {d : Char} (h : ∀ m ∈ e.leaves, m.outputs d = [])
    (hw : w ∈ e.language) : ∀ c ∈ w, (c == d) = false :=
  Expr.forall_mem_eq_false (fun m hm _ hc => eq_of_beq hc ▸ h m hm) hw

lemma mem_language_alnums {n : ℕ} :
    w ∈ ((one .asciiAlnum).atLeast n).language ↔ n ≤ w.length ∧ w.all Char.isAlphanum = true := by
  have houtputs : ∀ c, (Matcher.charClass .asciiAlnum).outputs c ≠ [] ↔ c.isAlphanum = true := by
    intro c
    rw [← Matcher.accepts_iff, Matcher.charClass, Matcher.accepts_passing]
    rfl
  rw [one, Expr.mem_language_atLeast_leaf, List.all_eq_true]
  simp only [houtputs]

/-! ## Checking by splitting -/

/-- Runs of letters and digits with single dashes between them. -/
def IsDashed (label : List Char) : Prop :=
  ∀ run ∈ label.splitOn '-', 1 ≤ run.length ∧ run.all Char.isAlphanum = true

/-- Such runs, perhaps behind `xn--`. -/
def IsLabel (label : List Char) : Prop :=
  IsDashed label ∨ ['x', 'n', '-', '-'] <+: label ∧ IsDashed (label.drop 4)

/-- At least two parts between dots: at the end at least two letters and digits, and labels before
that. -/
def IsDomainName (text : List Char) : Prop :=
  2 ≤ (text.splitOn '.').length ∧
    (∀ last ∈ (text.splitOn '.').getLast?, 2 ≤ last.length ∧ last.all Char.isAlphanum = true) ∧
    ∀ label ∈ (text.splitOn '.').dropLast, IsLabel label

instance : DecidablePred IsDashed := fun label =>
  inferInstanceAs (Decidable (∀ run ∈ label.splitOn '-', 1 ≤ run.length ∧
    run.all Char.isAlphanum = true))

instance : DecidablePred IsLabel := fun label =>
  inferInstanceAs (Decidable (IsDashed label ∨
    ['x', 'n', '-', '-'] <+: label ∧ IsDashed (label.drop 4)))

instance : DecidablePred IsDomainName := fun text =>
  inferInstanceAs (Decidable (2 ≤ (text.splitOn '.').length ∧
    (∀ last ∈ (text.splitOn '.').getLast?, 2 ≤ last.length ∧ last.all Char.isAlphanum = true) ∧
    ∀ label ∈ (text.splitOn '.').dropLast, IsLabel label))

/-! ## Checking and matching -/

/-- Runs have no dashes, so a label is split between them. -/
lemma isDashed_iff :
    IsDashed w ↔ w ∈ alnums.language * ((lit '-').language * alnums.language)∗ := by
  have hdash : ∀ m ∈ alnums.leaves, m.outputs '-' = [] := by decide
  rw [language_lit, mem_separated_iff fun _ => forall_mem_ne_of_leaves hdash]
  simp only [alnums, many, mem_language_alnums]
  rfl

lemma isLabel_iff : IsLabel w ↔ w ∈ domainLabel.language := by
  have hlanguage : domainLabel.language = (1 + (lit 'x' "n--").language) *
      (alnums.language * ((lit '-').language * alnums.language)∗) := mul_assoc _ _ _
  rw [hlanguage, add_mul, one_mul, Language.mem_add, IsLabel, isDashed_iff]
  refine or_congr_right ?_
  constructor
  · rintro ⟨⟨rest, rfl⟩, hrest⟩
    exact Language.append_mem_mul (mem_language_lit.2 rfl) (isDashed_iff.1 hrest)
  · rintro ⟨_, hfirst, rest, hrest, rfl⟩
    obtain rfl := mem_language_lit.1 hfirst
    exact ⟨⟨rest, rfl⟩, isDashed_iff.2 hrest⟩

/-- Labels have no dots, so a domain name is split between them. -/
lemma isDomainName_iff : IsDomainName w ↔ w ∈ domainName.language := by
  have hlabel : ∀ m ∈ domainLabel.leaves, m.outputs '.' = [] := by decide
  have hlast : ∀ m ∈ ((one .asciiAlnum).atLeast 2).leaves, m.outputs '.' = [] := by decide
  have hlanguage : domainName.language = domainLabel.language *
      ((lit '.').language * domainLabel.language)∗ *
        ((lit '.').language * ((one .asciiAlnum).atLeast 2).language) := mul_assoc _ _ _
  rw [hlanguage, language_lit, mem_separated_last_iff (fun _ => forall_mem_ne_of_leaves hlabel)
    fun _ => forall_mem_ne_of_leaves hlast]
  simp only [mem_language_alnums, ← isLabel_iff]
  rfl

/-- **A domain name is what the pattern accepts**, with the default limits and without an error for any
text. -/
theorem isMatch_domainName (text : String) :
    ((Program.compile domainName).isMatch text.toList = .ok true ↔ IsDomainName text.toList) ∧
      ((Program.compile domainName).isMatch text.toList = .ok false ↔
        ¬ IsDomainName text.toList) := by
  have hunambiguous : Unambiguous domainName :=
    unambiguous_of_rivals isTame_domainName (by decide) (by decide) rivals_domainName
  obtain ⟨verdict, hmatch, hverdict⟩ := hunambiguous.exists_isMatch text.toList
  exact verdict_iff hmatch (hverdict.trans isDomainName_iff.symm)

example : IsDomainName "bar.xn--hello.com".toList := by decide

example : ¬ IsDomainName "xn--.com".toList := by decide

end Catalog

end TokenPattern
