import TokenPattern.Proofs.Net.Unfolding

/-!
# Words of leaves and letters

The links of a net have words over some alphabet of boundaries, its nodes have leaves.  A walk that
keeps both reads a word over the sum of the two.

**Spelling.**  Such a word is a sequence of leaves, each with the letters in front of it, and the
letters behind the last one (`exists_spell`), and it is so in one way only (`spell_append_inj`).

**Lettered nets.**  `Net.lettered` is the net over the sum.  When only leaves are left, a change of
the alphabet of boundaries changes the words of walks letter by letter and does nothing else to them
(`Net.walk_lettered_map_iff`).
-/

namespace TokenPattern

universe u v w

variable {α : Type u} {κ : Type v} {κ' : Type w}

/-! ## Spelling -/

/-- The word of a sequence of leaves, each with the letters in front of it. -/
def spell (s : List (List κ × α)) : List (κ ⊕ α) :=
  s.flatMap fun i => i.1.map .inl ++ [.inr i.2]

@[simp] lemma spell_nil : spell ([] : List (List κ × α)) = [] := rfl

lemma spell_cons (i : List κ × α) (s : List (List κ × α)) :
    spell (i :: s) = i.1.map .inl ++ .inr i.2 :: spell s := by
  simp [spell]

lemma spell_append (s s' : List (List κ × α)) : spell (s ++ s') = spell s ++ spell s' :=
  List.flatMap_append

/-- Letters in front of a leaf are told apart from the leaf. -/
lemma map_inl_append_inr_inj {a b : List κ} {l l' : α} {t t' : List (κ ⊕ α)}
    (h : a.map Sum.inl ++ Sum.inr l :: t = b.map Sum.inl ++ Sum.inr l' :: t') :
    a = b ∧ l = l' ∧ t = t' := by
  induction a generalizing b with
  | nil =>
      cases b with
      | nil => simpa using h
      | cons m b => simp at h
  | cons m a ih =>
      cases b with
      | nil => simp at h
      | cons m' b =>
          simp only [List.map_cons, List.cons_append, List.cons.injEq, Sum.inl.injEq] at h
          obtain ⟨rfl, rfl, rfl⟩ := ih h.2
          exact ⟨by rw [h.1], rfl, rfl⟩

/-- **A word determines its leaves and letters.** -/
lemma spell_append_inj {s s' : List (List κ × α)} {a a' : List κ}
    (h : spell s ++ a.map Sum.inl = spell s' ++ a'.map Sum.inl) : s = s' ∧ a = a' := by
  have hinr : ∀ (b : List κ) (l : α), Sum.inr l ∉ (b.map Sum.inl : List (κ ⊕ α)) := by
    intro b l hl
    simp at hl
  induction s generalizing s' with
  | nil =>
      cases s' with
      | nil => exact ⟨rfl, List.map_injective_iff.mpr Sum.inl_injective (by simpa using h)⟩
      | cons i s' =>
          refine absurd ?_ (hinr a i.2)
          rw [show a.map Sum.inl = _ from h, spell_cons]
          simp
  | cons i s ih =>
      cases s' with
      | nil =>
          refine absurd ?_ (hinr a' i.2)
          rw [show a'.map Sum.inl = _ from h.symm, spell_cons]
          simp
      | cons i' s' =>
          rw [spell_cons, spell_cons, List.append_assoc, List.append_assoc, List.cons_append,
            List.cons_append] at h
          obtain ⟨hm, hl, ht⟩ := map_inl_append_inr_inj h
          obtain ⟨rfl, rfl⟩ := ih ht
          exact ⟨by rw [Prod.ext hm hl], rfl⟩

/-- Every word over letters and leaves is spelled. -/
lemma exists_spell (t : List (κ ⊕ α)) :
    ∃ (s : List (List κ × α)) (a : List κ), t = spell s ++ a.map .inl := by
  induction t with
  | nil => exact ⟨[], [], rfl⟩
  | cons k t ih =>
      obtain ⟨s, a, rfl⟩ := ih
      cases k with
      | inr l => exact ⟨([], l) :: s, a, by simp [spell_cons]⟩
      | inl k =>
          cases s with
          | nil => exact ⟨[], k :: a, rfl⟩
          | cons i s => exact ⟨(k :: i.1, i.2) :: s, a, by simp [spell_cons]⟩

/-- The word of leaves without letters. -/
lemma spell_bare (z : List α) :
    spell (z.map fun l => (([] : List κ), l)) = z.map Sum.inr := by
  induction z with
  | nil => rfl
  | cons l z ih => rw [List.map_cons, spell_cons, ih, List.map_cons, List.map_nil, List.nil_append]

/-- The letters of a word, without the leaves. -/
def letters (t : List (κ ⊕ α)) : List κ := t.filterMap Sum.getLeft?

lemma letters_append (t t' : List (κ ⊕ α)) : letters (t ++ t') = letters t ++ letters t' :=
  List.filterMap_append

@[simp] lemma letters_map_inl (a : List κ) : letters (a.map Sum.inl : List (κ ⊕ α)) = a := by
  rw [letters, List.filterMap_map]
  exact List.filterMap_some

lemma letters_spell (s : List (List κ × α)) : letters (spell s) = (s.map Prod.fst).flatten := by
  induction s with
  | nil => rfl
  | cons i s ih =>
      rw [spell_cons, letters_append, letters_map_inl, List.map_cons, List.flatten_cons, ← ih]
      rfl

/-! ## Changing the letters -/

/-- A letter replaced by a word, a leaf kept. -/
def respell (h : κ → List κ') : κ ⊕ α → List (κ' ⊕ α) :=
  Sum.elim (fun k => (h k).map .inl) fun l => [.inr l]

/-- A sequence of leaves with the letters in front of them replaced. -/
def respellItems (h : κ → List κ') (s : List (List κ × α)) : List (List κ' × α) :=
  s.map fun i => (i.1.flatMap h, i.2)

lemma map_fst_respellItems (h : κ → List κ') (s : List (List κ × α)) :
    (respellItems h s).map Prod.fst = (s.map Prod.fst).map (List.flatMap h) := by
  rw [respellItems, List.map_map, List.map_map]
  rfl

lemma map_snd_respellItems (h : κ → List κ') (s : List (List κ × α)) :
    (respellItems h s).map Prod.snd = s.map Prod.snd := by
  rw [respellItems, List.map_map]
  rfl

lemma flatMap_respell_inl (h : κ → List κ') (a : List κ) :
    (a.map Sum.inl : List (κ ⊕ α)).flatMap (respell h) = (a.flatMap h).map Sum.inl := by
  rw [List.flatMap_map, List.map_flatMap]
  rfl

lemma flatMap_respell_spell (h : κ → List κ') (s : List (List κ × α)) (a : List κ) :
    (spell s ++ a.map Sum.inl).flatMap (respell h) =
      spell (respellItems h s) ++ (a.flatMap h).map Sum.inl := by
  rw [List.flatMap_append, flatMap_respell_inl]
  congr 1
  induction s with
  | nil => rfl
  | cons i s ih =>
      rw [spell_cons, List.flatMap_append, flatMap_respell_inl, List.flatMap_cons, ih, respellItems,
        respellItems, List.map_cons, spell_cons]
      rfl

/-! ## Lettered nets -/

/-- The reading that keeps leaves, and boundaries as words of letters. -/
def Reading.kept (mark : Marker → List κ) : Reading α (κ ⊕ α) :=
  ⟨fun l => {[.inr l]}, Net.mapMark (fun k => [.inl k]) mark⟩

namespace Net

/-- The net with its letters next to leaves. -/
def lettered (G : Net α κ) : Net α (κ ⊕ α) := G.map fun k => [.inl k]

variable {G : Net α κ} {mark : Marker → List κ} {mark' : Marker → List κ'}

lemma link_lettered_iff {p s : Nat} {c : List (κ ⊕ α)} :
    G.lettered.link p c s ↔ ∃ a, G.link p a s ∧ c = a.map .inl := by
  have hmap : ∀ a : List κ, (a.flatMap fun k => [.inl k] : List (κ ⊕ α)) = a.map .inl :=
    fun a => List.map_eq_flatMap.symm
  constructor
  · rintro ⟨a, hl, rfl⟩
    exact ⟨a, hl, hmap a⟩
  · rintro ⟨a, hl, rfl⟩
    exact ⟨a, hl, (hmap a).symm⟩

lemma lettered_map (h : κ → List κ') (G : Net α κ) :
    (G.map h).lettered = G.lettered.map (respell h) := by
  rw [lettered, lettered, map_map, map_map]
  congr 1
  funext k
  rw [List.flatMap_singleton]
  exact List.map_eq_flatMap.symm

lemma LeavesFrom.eq_leaf (hG : G.LeavesFrom 0) {q : Nat} {f : Expr α} (hq : G.node q = some f) :
    ∃ l, f = .leaf l := by
  have hf := hG (Nat.zero_le q) hq
  cases f with
  | leaf l => exact ⟨l, rfl⟩
  | _ => simp [Expr.children] at hf

/-- **When only leaves are left**, a change of the letters changes walks letter by letter. -/
lemma walk_lettered_map_iff (hG : G.LeavesFrom 0) {h : κ → List κ'} {p s : Nat}
    {t' : List (κ' ⊕ α)} :
    (G.map h).lettered.Walk (Reading.kept mark') p t' s ↔
      ∃ t, G.lettered.Walk (Reading.kept mark) p t s ∧ t.flatMap (respell h) = t' := by
  rw [lettered_map]
  constructor
  · intro hw
    refine exists_walk_of_walk_map ?_ hw
    intro q f z' hq hz'
    obtain ⟨l, rfl⟩ := hG.eq_leaf hq
    obtain rfl : z' = [.inr l] := hz'
    exact ⟨[.inr l], rfl, rfl⟩
  · rintro ⟨t, ht, rfl⟩
    refine Walk.map ?_ ht
    intro q f z hq hz
    obtain ⟨l, rfl⟩ := hG.eq_leaf hq
    obtain rfl : z = [.inr l] := hz
    exact rfl

end Net

end TokenPattern
