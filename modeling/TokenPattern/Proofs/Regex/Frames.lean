import TokenPattern.Proofs.Regex.Scanning
import TokenPattern.Regex.Tree

/-!
# Open groups and frames

The scanner and the frames that its elements are folded over count the same groups: both have as
many open as `openAfterAll` says (`openAfterAll_steps`).  So frames around a text are not touched by
its elements if the text closes no group that it has not opened (`steps_append_outer`).
-/

namespace TokenPattern.Regex

variable {token : Token} {tokens : List Token} {inner inner' : Frame} {outer outer' : List Frame}

/-! ## Numbers of frames -/

lemma openAfter_step (h : step token inner outer = .ok (inner', outer')) :
    token.openAfter outer.length = some outer'.length := by
  cases token with
  | closing =>
    cases outer with
    | nil => nomatch h
    | cons parent outer =>
      cases h
      rfl
  | repetition min max isLazy =>
    obtain ⟨f, -, hf⟩ := map_eq_ok h
    cases hf
    rfl
  | step r depth | flags | opening captures | bar =>
    cases h
    rfl

/-- As many frames are open as there are groups. -/
lemma openAfterAll_steps (h : steps tokens inner outer = .ok (inner', outer')) :
    openAfterAll tokens outer.length = some outer'.length := by
  induction tokens generalizing inner outer with
  | nil =>
    cases h
    rfl
  | cons token rest ih =>
    obtain ⟨⟨inner'', outer''⟩, hstep, hrest⟩ := bind_eq_ok h
    rw [openAfterAll_cons (openAfter_step hstep)]
    exact ih hrest

/-! ## Frames around a text -/

lemma step_append_outer {n : Nat} (h : token.openAfter outer.length = some n) (base : List Frame) :
    step token inner (outer ++ base) =
      (step token inner outer).map fun state => (state.1, state.2 ++ base) := by
  cases token with
  | closing =>
    cases outer with
    | nil => nomatch h
    | cons parent outer => rfl
  | repetition min max isLazy =>
    simp only [step]
    cases inner.repeatLast min max isLazy <;> rfl
  | step r depth | flags | opening captures | bar => rfl

/-- Frames around a text make no difference to what is in it. -/
lemma steps_append_outer {n : Nat} (h : openAfterAll tokens outer.length = some n)
    (base : List Frame) :
    steps tokens inner (outer ++ base) =
      (steps tokens inner outer).map fun state => (state.1, state.2 ++ base) := by
  induction tokens generalizing inner outer with
  | nil => rfl
  | cons token rest ih =>
    obtain ⟨m, hm, hrest⟩ := Option.bind_eq_some_iff.1 h
    simp only [steps, step_append_outer hm]
    cases hstep : step token inner outer with
    | error fault => rfl
    | ok state =>
      have hopen : token.openAfter outer.length = some state.2.length := openAfter_step hstep
      obtain rfl := Option.some.inj (hm.symm.trans hopen)
      exact ih hrest

/-! ## The last frame -/

/-- Whether the outermost group is one to remember. -/
def lastCaptures (inner : Frame) (outer : List Frame) : Bool :=
  ((inner :: outer).getLast (List.cons_ne_nil _ _)).captures

lemma lastCaptures_congr (h : inner'.captures = inner.captures) (outer : List Frame) :
    lastCaptures inner' outer = lastCaptures inner outer := by
  cases outer with
  | nil => exact h
  | cons parent outer => rfl

lemma lastCaptures_step (h : step token inner outer = .ok (inner', outer')) :
    lastCaptures inner' outer' = lastCaptures inner outer := by
  cases token with
  | closing =>
    cases outer with
    | nil => nomatch h
    | cons parent outer =>
      cases h
      refine lastCaptures_congr ?_ _
      rfl
  | repetition min max isLazy =>
    obtain ⟨f, hf, heq⟩ := map_eq_ok h
    cases heq
    refine lastCaptures_congr ?_ _
    unfold Frame.repeatLast at hf
    split at hf
    · cases hf
      rfl
    · nomatch hf
  | step r depth | flags | bar =>
    cases h
    refine lastCaptures_congr ?_ _
    rfl
  | opening captures =>
    cases h
    rfl

/-- Elements do not change whether the outermost group is one to remember. -/
lemma lastCaptures_steps (h : steps tokens inner outer = .ok (inner', outer')) :
    lastCaptures inner' outer' = lastCaptures inner outer := by
  induction tokens generalizing inner outer with
  | nil =>
    cases h
    rfl
  | cons token rest ih =>
    obtain ⟨⟨inner'', outer''⟩, hstep, hrest⟩ := bind_eq_ok h
    exact (ih hrest).trans (lastCaptures_step hstep)

end TokenPattern.Regex
