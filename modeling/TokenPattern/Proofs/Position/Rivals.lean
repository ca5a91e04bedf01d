import TokenPattern.Proofs.Position.Strict
import TokenPattern.Proofs.Program.Unambiguous

/-!
# Checking that a pattern is unambiguous

Which leaves one input may lead to can be computed from the operators of a pattern, if the tokens are
few.  This file is about a check that does this for all tokens at once.

**Samples.**  Tokens matter only by the leaves that accept them, so it is enough to look at some of
them, if every token has one among them that takes its place (`Expr.Sampled`).

**Rivals.**  `Expr.Rivals` says of a list of pairs of leaves, by their numbers, that it has every pair
to which one input may lead; that no leaf is paired with itself; and that of no pair both leaves may be
the last.  All of this can be decided.  `Expr.Rivals.rivalry` carries it over to the graph, so that
`Expr.Rivals.unambiguous` has what is needed for a given pattern.
-/

namespace TokenPattern

universe u

namespace Expr

section

variable {α : Type u}

/-- Where a pattern may be: before its first leaf, or behind one. -/
def places (e : Expr α) : List (Option Nat) := none :: (List.range e.leafCount).map some

lemma some_mem_places_iff {e : Expr α} {i : Nat} : some i ∈ e.places ↔ i < e.leafCount := by
  simp [places]

/-- The leaves, by their numbers, that may be read next. -/
def nexts (e : Expr α) : Option Nat → List Nat
  | none => e.numbered.firsts
  | some i => (e.numbered.follows.filter fun p => p.1.beq i).map Prod.snd

lemma mem_nexts_some_iff {e : Expr α} {i k : Nat} :
    k ∈ e.nexts (some i) ↔ (i, k) ∈ e.numbered.follows := by
  simp [nexts]

end

variable {τ ο : Type}

/-- The leaves that may be read next and accept a token. -/
def reads (e : Expr (Matcher τ ο)) (t : τ) (i : Option Nat) : List Nat :=
  (e.nexts i).filter fun k => e.leaves[k]?.any fun m => m.accepts t

/-- Whether some samples can take the place of all tokens: for every token there is one that all leaves
accept that accept the token. -/
def Sampled (e : Expr (Matcher τ ο)) (samples : List τ) : Prop :=
  ∀ t, ∃ s ∈ samples, ∀ m ∈ e.leaves, m.accepts t = true → m.accepts s = true

/-- Whether two numbers are paired in a list, in one order or the other. -/
def Paired (pairs : List (Nat × Nat)) (j k : Nat) : Prop := (j, k) ∈ pairs ∨ (k, j) ∈ pairs

instance (pairs : List (Nat × Nat)) (j k : Nat) : Decidable (Paired pairs j k) :=
  inferInstanceAs (Decidable (_ ∨ _))

lemma Paired.symm {pairs : List (Nat × Nat)} {j k : Nat} (h : Paired pairs j k) :
    Paired pairs k j := Or.symm h

/-- What a list of pairs of leaves must be like to have all pairs to which one input leads, none of them
ambiguous. -/
structure Rivals (e : Expr (Matcher τ ο)) (samples : List τ) (pairs : List (Nat × Nat)) : Prop where
  /-- Leaves that are read in the same place are paired. -/
  fork : ∀ i ∈ e.places, ∀ s ∈ samples, ∀ j ∈ e.reads s i, ∀ k ∈ e.reads s i,
    j ≠ k → Paired pairs j k
  /-- So are those that are read behind paired ones. -/
  step : ∀ p ∈ pairs, ∀ s ∈ samples, ∀ j ∈ e.reads s (some p.1), ∀ k ∈ e.reads s (some p.2),
    Paired pairs j k
  /-- No leaf is paired with itself. -/
  irrefl : ∀ p ∈ pairs, p.1 ≠ p.2
  /-- Of two paired leaves only one may be the last. -/
  stop : ∀ p ∈ pairs, p.1 ∈ e.numbered.lasts → p.2 ∉ e.numbered.lasts

instance (e : Expr (Matcher τ ο)) (samples : List τ) (pairs : List (Nat × Nat)) :
    Decidable (e.Rivals samples pairs) :=
  decidable_of_iff (_ ∧ _ ∧ _ ∧ _)
    ⟨fun ⟨fork, step, irrefl, stop⟩ => ⟨fork, step, irrefl, stop⟩,
      fun h => ⟨h.fork, h.step, h.irrefl, h.stop⟩⟩

/-! ## From leaves to nodes -/

variable {e : Expr (Matcher τ ο)} {samples : List τ} {pairs : List (Nat × Nat)}

/-- The node of a place. -/
def placeNode (e : Expr (Matcher τ ο)) : Option Nat → NodeId
  | none => NodeId.initial
  | some i => e.leafNode i

/-- Steps begin at places. -/
lemma exists_place {p : NodeId} {m : Move (Matcher τ ο)} (h : m ∈ (Graph.ofExpr e).moves p) :
    ∃ i ∈ e.places, p = e.placeNode i := by
  rcases (Graph.Leads.ends e ⟨_, (Graph.mem_moves.1 h).1⟩).1 with rfl | ⟨i, hi, rfl⟩
  · exact ⟨none, List.mem_cons_self, rfl⟩
  · exact ⟨some i, some_mem_places_iff.2 hi, rfl⟩

/-- A step from a place leads to a leaf that may come next. -/
lemma exists_next {i : Option Nat} (hi : i ∈ e.places) {m : Move (Matcher τ ο)}
    (h : m ∈ (Graph.ofExpr e).moves (e.placeNode i)) :
    ∃ k < e.leafCount, m.1.target = e.leafNode k ∧ e.leaves[k]? = some m.2 ∧ k ∈ e.nexts i := by
  obtain ⟨hedge, hm⟩ := Graph.mem_moves.1 h
  obtain ⟨k, hk, htarget, hleaf⟩ := Graph.exists_leaf_of_matcher? hm
  have hlead : (Graph.ofExpr e).Leads (e.placeNode i) (e.leafNode k) :=
    ⟨m.1.markers, htarget ▸ hedge⟩
  refine ⟨k, hk, htarget, hleaf, ?_⟩
  cases i with
  | none => exact (Graph.leads_initial_iff e hk).1 hlead
  | some i =>
      rw [some_mem_places_iff] at hi
      exact mem_nexts_some_iff.2 ((Graph.leads_leaf_iff e hi hk).1 hlead)

/-- The sample that takes the place of a token is read wherever the token is. -/
lemma mem_reads {i : Option Nat} {k : Nat} {m : Matcher τ ο} {s t : τ} (hk : k ∈ e.nexts i)
    (hleaf : e.leaves[k]? = some m)
    (hs : ∀ m ∈ e.leaves, m.accepts t = true → m.accepts s = true) (ht : m.accepts t = true) :
    k ∈ e.reads s i := by
  refine List.mem_filter.2 ⟨hk, ?_⟩
  rw [hleaf]
  exact hs m (List.mem_of_getElem? hleaf) ht

lemma accepts_leafNode_iff {k : Nat} (hk : k < e.leafCount) :
    (Graph.ofExpr e).accepts (e.leafNode k) = true ↔ k ∈ e.numbered.lasts := by
  rw [← Graph.leads_terminal_iff e hk, Graph.accepts_iff]
  constructor
  · rintro ⟨⟨_, a⟩, hedge, rfl⟩
    exact ⟨a, hedge⟩
  · rintro ⟨a, hedge⟩
    exact ⟨_, hedge, rfl⟩

/-- Whether two nodes are those of paired leaves. -/
def PairedNodes (e : Expr (Matcher τ ο)) (pairs : List (Nat × Nat)) (p q : NodeId) : Prop :=
  ∃ j < e.leafCount, ∃ k < e.leafCount,
    p = e.leafNode j ∧ q = e.leafNode k ∧ Paired pairs j k

namespace Rivals

/-- Whatever is read behind paired leaves is paired. -/
lemma paired_of_step (h : e.Rivals samples pairs) {i i' : Nat} (hi : Paired pairs i i') {s : τ}
    (hs : s ∈ samples) {j k : Nat} (hj : j ∈ e.reads s (some i)) (hk : k ∈ e.reads s (some i')) :
    Paired pairs j k := by
  rcases hi with hi | hi
  · exact h.step _ hi s hs j hj k hk
  · exact (h.step _ hi s hs k hk j hj).symm

/-- **The pairs of leaves are a rivalry of the graph**, if tokens have their samples and no leaf has
two outputs for one token. -/
theorem rivalry (h : e.Rivals samples pairs) (hstrict : e.strict = true)
    (hsampled : e.Sampled samples) (houtputs : ∀ m ∈ e.leaves, ∀ t, (m.outputs t).length ≤ 1) :
    (Graph.ofExpr e).Rivalry (e.PairedNodes pairs) where
  irrefl := by
    rintro p ⟨j, hj, k, hk, rfl, hjk, hpair⟩
    obtain rfl := Graph.injOn_leafNode e hj hk hjk
    rcases hpair with hpair | hpair <;> exact h.irrefl _ hpair rfl
  targets := Graph.nodup_targets hstrict
  outputs := by
    intro p m hm t
    obtain ⟨k, _, _, hleaf⟩ := Graph.exists_leaf_of_matcher? (Graph.mem_moves.1 hm).2
    exact houtputs m.2 (List.mem_of_getElem? hleaf) t
  fork := by
    intro p m hm m' hm' t hne ht ht'
    obtain ⟨i, hi, rfl⟩ := exists_place hm
    obtain ⟨j, hj, htarget, hleaf, hnext⟩ := exists_next hi hm
    obtain ⟨k, hk, htarget', hleaf', hnext'⟩ := exists_next hi hm'
    obtain ⟨s, hs, haccept⟩ := hsampled t
    refine ⟨j, hj, k, hk, htarget, htarget', h.fork i hi s hs j
      (mem_reads hnext hleaf haccept ht) k (mem_reads hnext' hleaf' haccept ht') ?_⟩
    rintro rfl
    exact hne (htarget.trans htarget'.symm)
  step := by
    rintro p q ⟨i, hi, i', hi', rfl, rfl, hpair⟩ m hm m' hm' t ht ht'
    obtain ⟨j, hj, htarget, hleaf, hnext⟩ := exists_next (some_mem_places_iff.2 hi) hm
    obtain ⟨k, hk, htarget', hleaf', hnext'⟩ := exists_next (some_mem_places_iff.2 hi') hm'
    obtain ⟨s, hs, haccept⟩ := hsampled t
    exact ⟨j, hj, k, hk, htarget, htarget', h.paired_of_step hpair hs
      (mem_reads hnext hleaf haccept ht) (mem_reads hnext' hleaf' haccept ht')⟩
  stop := by
    rintro p q ⟨j, hj, k, hk, rfl, rfl, hpair⟩ ⟨hp, hq⟩
    rw [accepts_leafNode_iff hj] at hp
    rw [accepts_leafNode_iff hk] at hq
    rcases hpair with hpair | hpair
    · exact h.stop _ hpair hp hq
    · exact h.stop _ hpair hq hp

/-- **A strict pattern with rivals is unambiguous.** -/
theorem unambiguous (h : e.Rivals samples pairs) (hstrict : e.strict = true)
    (hsampled : e.Sampled samples) (houtputs : ∀ m ∈ e.leaves, ∀ t, (m.outputs t).length ≤ 1)
    (hsize : e.leafCount ≤ maxFrontier) : Unambiguous e :=
  (h.rivalry hstrict hsampled houtputs).unambiguous hsize

end Rivals

end Expr

end TokenPattern
