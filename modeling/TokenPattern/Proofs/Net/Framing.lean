import TokenPattern.Proofs.Net.Spelling

/-!
# Open groups on the way through a net

The letters of a word may open and close groups.  A `Framing` says how they act on the stack of the
names that are open, innermost first; a letter that does not fit the stack has no result.

**Frames.**  In a framed net every node has a stack of its own, and the word of every link leads from
the stack of its source to that of its target (`Net.Framed`).  Rewriting keeps this, with the name of
a group on top for the operand of a capture (`Net.Framed.rewrite`).  So the stack at a leaf is the
list of captures around it, however many rewrites it took to get there (`Expr.contexts`).
-/

namespace TokenPattern

universe u v

/-- How letters act on the stack of open groups. -/
structure Framing (σ : Type v) where
  /-- What one letter makes of a stack, if it fits. -/
  act : σ → List String → Option (List String)
  /-- The words of boundaries. -/
  mark : Marker → List σ
  /-- The stacks at which captures may stand. -/
  Inside : List String → Prop
  start : ∀ {n : String} {c : List String}, Inside c →
    (mark (.start n)).foldlM (fun c a => act a c) c = some (n :: c)
  stop : ∀ {n : String} {c : List String}, Inside c →
    (mark (.stop n)).foldlM (fun c a => act a c) (n :: c) = some c
  inside : ∀ {n : String} {c : List String}, Inside c → Inside (n :: c)

namespace Framing

variable {σ : Type v} (F : Framing σ)

/-- What a word makes of a stack. -/
def run (t : List σ) (c : List String) : Option (List String) := t.foldlM (fun c a => F.act a c) c

lemma run_append (t t' : List σ) (c : List String) :
    F.run (t ++ t') c = (F.run t c).bind (F.run t') := List.foldlM_append

lemma run_append_of_eq {t t' : List σ} {c d d' : List String} (h : F.run t c = some d)
    (h' : F.run t' d = some d') : F.run (t ++ t') c = some d' := by
  rw [run_append, h]
  exact h'

end Framing

namespace Expr

variable {α : Type u} {σ : Type v} {F : Framing σ}

/-- The stack at the operands of a pattern that stands at a stack. -/
def operandStack : Expr α → List String → List String
  | capture n _, c => n :: c
  | _, c => c

/-- The leaves of a pattern that stands at a stack, each with the stack around it. -/
def contexts : Expr α → List String → List (List String × α)
  | leaf m, c => [(c, m)]
  | concat l r, c | alt l r, c => l.contexts c ++ r.contexts c
  | maybe x, c | star x, c => x.contexts c
  | capture n x, c => x.contexts (n :: c)

lemma contexts_subset_of_child {e x : Expr α} {i : Nat} (h : e.children[i]? = some x)
    (c : List String) : x.contexts (e.operandStack c) ⊆ e.contexts c := by
  have hmem := List.mem_of_getElem? h
  intro p hp
  cases e with
  | leaf m => simp [children] at hmem
  | concat l r =>
      simp only [children, List.mem_cons, List.not_mem_nil, or_false] at hmem
      rcases hmem with rfl | rfl
      · exact List.mem_append_left _ hp
      · exact List.mem_append_right _ hp
  | alt l r =>
      simp only [children, List.mem_cons, List.not_mem_nil, or_false] at hmem
      rcases hmem with rfl | rfl
      · exact List.mem_append_left _ hp
      · exact List.mem_append_right _ hp
  | maybe y => rwa [List.mem_singleton.mp hmem] at hp
  | star y => rwa [List.mem_singleton.mp hmem] at hp
  | capture n y => rwa [List.mem_singleton.mp hmem] at hp

lemma inside_operandStack {c : List String} (h : F.Inside c) (e : Expr α) :
    F.Inside (e.operandStack c) := by
  cases e with
  | capture n x => exact F.inside h
  | _ => exact h

/-- On the way into a pattern its own group is opened. -/
lemma run_entries {e : Expr α} {i : Nat} {m : List Marker} {c : List String} (hc : F.Inside c)
    (h : (i, m) ∈ e.entries) : F.run (Marker.spell F.mark m) c = some (e.operandStack c) := by
  cases e with
  | leaf l => simp [entries] at h
  | capture n x =>
      simp only [entries, List.mem_singleton, Prod.mk.injEq] at h
      rw [h.2, Marker.spell_singleton]
      exact F.start hc
  | alt l r =>
      simp only [entries, List.mem_cons, List.not_mem_nil, or_false, Prod.mk.injEq] at h
      have hm : m = [] := by rcases h with h | h <;> exact h.2
      rw [hm]
      rfl
  | _ =>
      simp only [entries, List.mem_singleton, Prod.mk.injEq] at h
      rw [h.2]
      rfl

/-- On the way out of a pattern its own group is closed. -/
lemma run_exits {e : Expr α} {i : Nat} {m : List Marker} {c : List String} (hc : F.Inside c)
    (h : (i, m) ∈ e.exits) : F.run (Marker.spell F.mark m) (e.operandStack c) = some c := by
  cases e with
  | leaf l => simp [exits] at h
  | capture n x =>
      simp only [exits, List.mem_singleton, Prod.mk.injEq] at h
      rw [h.2, Marker.spell_singleton]
      exact F.stop hc
  | alt l r =>
      simp only [exits, List.mem_cons, List.not_mem_nil, or_false, Prod.mk.injEq] at h
      have hm : m = [] := by rcases h with h | h <;> exact h.2
      rw [hm]
      rfl
  | _ =>
      simp only [exits, List.mem_singleton, Prod.mk.injEq] at h
      rw [h.2]
      rfl

end Expr

namespace Net

variable {α : Type u} {σ : Type v} {F : Framing σ} {K : Set (List String × α)} {G G' : Net α σ}
  {ctx : Nat → List String} {v x x' : Nat} {e : Expr α}

/-- Every node has a stack, links lead from stack to stack, and the leaves at the nodes stand at
stacks allowed by `K`. -/
structure Framed (F : Framing σ) (K : Set (List String × α)) (ctx : Nat → List String)
    (G : Net α σ) : Prop where
  link : ∀ {p s : Nat} {a : List σ}, G.link p a s → F.run a (ctx p) = some (ctx s)
  inside : ∀ {i : Nat} {f : Expr α}, G.node i = some f → F.Inside (ctx i)
  leaf : ∀ {i : Nat} {f : Expr α}, G.node i = some f → ∀ k ∈ f.contexts (ctx i), k ∈ K

/-- The stacks after node `v` has been taken apart. -/
def rewriteContext (ctx : Nat → List String) (v x : Nat) (e : Expr α) (i : Nat) : List String :=
  if i < x then ctx i else e.operandStack (ctx v)

lemma rewriteContext_of_lt {i : Nat} (hi : i < x) : rewriteContext ctx v x e i = ctx i := if_pos hi

lemma rewriteContext_operand (i : Nat) :
    rewriteContext ctx v x e (x + i) = e.operandStack (ctx v) := if_neg (by omega)

/-- **A rewrite keeps a net framed.** -/
theorem Framed.rewrite (h : G.Framed F K ctx) (hG : G.Below x) (hv : G.node v = some e) :
    (G.rewrite F.mark v x e).Framed F K (rewriteContext ctx v x e) where
  link {p s a} hl := by
    have hin := h.inside hv
    cases hl with
    | kept hl _ _ =>
        rw [rewriteContext_of_lt (hG.source hl), rewriteContext_of_lt (hG.target hl)]
        exact h.link hl
    | enter hl _ hi =>
        rw [rewriteContext_of_lt (hG.source hl), rewriteContext_operand]
        exact F.run_append_of_eq (h.link hl) (Expr.run_entries hin hi)
    | leave hl _ hi =>
        rw [rewriteContext_operand, rewriteContext_of_lt (hG.target hl)]
        exact F.run_append_of_eq (Expr.run_exits hin hi) (h.link hl)
    | again hl hi hj =>
        rw [rewriteContext_operand, rewriteContext_operand]
        exact F.run_append_of_eq (F.run_append_of_eq (Expr.run_exits hin hi) (h.link hl))
          (Expr.run_entries hin hj)
    | inner _ =>
        rw [rewriteContext_operand, rewriteContext_operand]
        rfl
    | past _ hl _ hl' _ =>
        rw [rewriteContext_of_lt (hG.source hl), rewriteContext_of_lt (hG.target hl')]
        exact F.run_append_of_eq (h.link hl) (h.link hl')
  inside {i f} hi := by
    by_cases hix : i < x
    · have hiv : i ≠ v := fun hiv => by simp [Net.rewrite, hiv] at hi
      rw [node_rewrite_of_lt hix hiv] at hi
      rw [rewriteContext_of_lt hix]
      exact h.inside hi
    · obtain ⟨j, rfl⟩ := Nat.exists_eq_add_of_le (Nat.le_of_not_lt hix)
      rw [rewriteContext_operand]
      exact Expr.inside_operandStack (h.inside hv) e
  leaf {i f} hi k hk := by
    by_cases hix : i < x
    · have hiv : i ≠ v := fun hiv => by simp [Net.rewrite, hiv] at hi
      rw [node_rewrite_of_lt hix hiv] at hi
      rw [rewriteContext_of_lt hix] at hk
      exact h.leaf hi k hk
    · obtain ⟨j, rfl⟩ := Nat.exists_eq_add_of_le (Nat.le_of_not_lt hix)
      rw [node_rewrite_operand (hG.lt hv)] at hi
      rw [rewriteContext_operand] at hk
      exact h.leaf hv k (Expr.contexts_subset_of_child hi _ hk)

/-- Taking nodes apart keeps a net framed, and the old nodes keep their stacks. -/
lemma Unfolds.exists_framed (hu : Unfolds F.mark G x G' x') (hG : G.Below x)
    (h : G.Framed F K ctx) : ∃ ctx', G'.Framed F K ctx' ∧ ∀ i < x, ctx' i = ctx i := by
  induction hu with
  | refl => exact ⟨ctx, h, fun _ _ => rfl⟩
  | step hu hv ih =>
      obtain ⟨ctx', h', hold⟩ := ih
      refine ⟨_, h'.rewrite (hu.rewrites.keeps_below hG) hv.node, fun i hi => ?_⟩
      rw [rewriteContext_of_lt (Nat.lt_of_lt_of_le hi hu.rewrites.le), hold i hi]

/-- When only leaves are left, the letters of a walk lead from the stack on which it begins to that on
which it ends. -/
lemma Framed.run_letters (h : G.Framed F K ctx) (hG : G.LeavesFrom 0) {mark : Marker → List σ}
    {p s : Nat} {t : List (σ ⊕ α)} (hw : G.lettered.Walk (Reading.kept mark) p t s) :
    F.run (letters t) (ctx p) = some (ctx s) := by
  induction hw with
  | link hl =>
      obtain ⟨a, ha, rfl⟩ := link_lettered_iff.mp hl
      rw [letters_map_inl]
      exact h.link ha
  | step _ hq hz hl ih =>
      obtain ⟨l, rfl⟩ := hG.eq_leaf hq
      obtain rfl := hz
      obtain ⟨a, ha, rfl⟩ := link_lettered_iff.mp hl
      rw [letters_append, letters_append, letters_map_inl]
      refine F.run_append_of_eq ?_ (h.link ha)
      rw [show letters ([.inr l] : List (σ ⊕ α)) = [] from rfl, List.append_nil]
      exact ih

end Net

end TokenPattern
