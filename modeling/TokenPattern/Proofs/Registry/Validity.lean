import Mathlib.Logic.Function.Iterate
import TokenPattern.Proofs.Registry.Reports

/-!
# Which configured patterns can be loaded

A pattern is loaded from the outside in, and the checks of a pattern stand before or after those of
the patterns inside.  Whether it can be loaded depends on its depth and on the soundness of all
patterns in it, but not on this order.

* `Registry.load_iff_sound` — a pattern can be loaded if and only if it is not too deep and all
  patterns in it are sound; otherwise the error tells of its depth or of one pattern in it that is
  not sound, or it is an error from outside.
* `Registry.decides_loadAt` — the same for a pattern at any depth, by induction over what is inside.
-/

namespace TokenPattern.Registry

section

variable {τ ο : Type} {r : Registry τ ο}

/-! ## Patterns at a depth -/

/-- Whether a pattern may stand at a depth, with everything in it. -/
def ValidAt (r : Registry τ ο) (d : ℕ) (c : PatternConfig) : Prop :=
  d + c.depth ≤ maxPatternDepth + 1 ∧ ∀ n : PatternConfig, n.IsNode c → n.IsSound r

/-- What an error may tell of a pattern that stands at a depth. -/
def DefectAt (r : Registry τ ο) (d : ℕ) (c : PatternConfig) (x : PatternError) : Prop :=
  (x = .depthExceeded (maxPatternDepth + 1) maxPatternDepth ∧
      maxPatternDepth + 1 < d + c.depth) ∨
    ∃ n : PatternConfig, n.IsNode c ∧ r.Faults n x

lemma validAt_iff {d : ℕ} {c : PatternConfig} (hd : d ≤ maxPatternDepth) :
    r.ValidAt d c ↔ c.IsSound r ∧ ∀ x ∈ c.children, r.ValidAt (d + 1) x := by
  have hdepth : d + c.depth ≤ maxPatternDepth + 1 ↔
      ∀ x ∈ c.children, d + 1 + x.depth ≤ maxPatternDepth + 1 := by
    have hitems : PatternConfig.itemsDepth c.children ≤ maxPatternDepth - d ↔ _ :=
      PatternConfig.itemsDepth_le_iff
    rw [PatternConfig.depth_eq]
    constructor
    · intro h x hx
      have := hitems.1 (by omega) x hx
      omega
    · intro h
      have := hitems.2 fun x hx => by
        have := h x hx
        omega
      omega
  constructor
  · rintro ⟨hle, hsound⟩
    refine ⟨hsound c .self, fun x hx => ⟨hdepth.1 hle x hx, fun n hn => ?_⟩⟩
    exact hsound n (.inside hx hn)
  · rintro ⟨hsound, hchildren⟩
    refine ⟨hdepth.2 fun x hx => (hchildren x hx).1, fun n hn => ?_⟩
    cases hn with
    | self => exact hsound
    | inside hx hn => exact (hchildren _ hx).2 n hn

/-- A defect inside is one of the whole. -/
lemma DefectAt.inside {d : ℕ} {c x : PatternConfig} {error : PatternError} (hx : x ∈ c.children)
    (h : r.DefectAt (d + 1) x error) : r.DefectAt d c error := by
  rcases h with ⟨herror, hdeep⟩ | ⟨n, hn, hfault⟩
  · have := PatternConfig.depth_lt_of_mem_children hx
    exact Or.inl ⟨herror, by omega⟩
  · exact Or.inr ⟨n, .inside hx hn, hfault⟩

lemma DefectAt.of_faults {d : ℕ} {c : PatternConfig} {error : PatternError}
    (h : r.Faults c error) : r.DefectAt d c error :=
  Or.inr ⟨c, .self, h⟩

/-- A pattern with a defect is not valid. -/
lemma DefectAt.not_validAt {d : ℕ} {c : PatternConfig} {error : PatternError}
    (h : r.DefectAt d c error) : ¬ r.ValidAt d c := by
  rintro ⟨hle, hsound⟩
  rcases h with ⟨_, hdeep⟩ | ⟨n, hn, hfault⟩
  · omega
  · exact hfault.not_isSound (hsound n hn)

/-- `r.Decides d c`: the pattern is loaded, and valid, or refused with the error of a defect. -/
def Decides (r : Registry τ ο) (d : ℕ) (c : PatternConfig) : Prop :=
  ((∃ e, r.loadAt d c = .ok e) ∧ r.ValidAt d c) ∨
    ∃ x, r.loadAt d c = .error x ∧ r.DefectAt d c x

/-- The items are loaded from left to right, and the first one that is refused decides. -/
lemma loadItems_cases {d : ℕ} {items : List PatternConfig} (h : ∀ c ∈ items, r.Decides d c) :
    (∃ es, r.loadItems d items = .ok es ∧ es.length = items.length ∧
        ∀ c ∈ items, r.ValidAt d c) ∨
      ∃ x, r.loadItems d items = .error x ∧ ∃ c ∈ items, r.DefectAt d c x := by
  induction items with
  | nil => exact Or.inl ⟨[], by rw [loadItems], rfl, by simp⟩
  | cons item rest ih =>
      rw [List.forall_mem_cons] at h
      rcases h.1 with ⟨⟨e, he⟩, hvalid⟩ | ⟨x, hx, hdefect⟩
      · rcases ih h.2 with ⟨es, hes, hlength, hrest⟩ | ⟨x, hx, c, hc, hdefect⟩
        · refine Or.inl ⟨e :: es, by rw [loadItems, he, hes]; rfl, by simp [hlength], ?_⟩
          exact List.forall_mem_cons.2 ⟨hvalid, hrest⟩
        · exact Or.inr ⟨x, by rw [loadItems, he, hx]; rfl, c, List.mem_cons_of_mem _ hc, hdefect⟩
      · exact Or.inr ⟨x, by rw [loadItems, hx]; rfl, item, List.mem_cons_self, hdefect⟩

/-- Lists are combined after their items are loaded. -/
lemma decides_items {d : ℕ} {c : PatternConfig} {items : List PatternConfig} (operator : String)
    (combine : Expr (Matcher τ ο) → Expr (Matcher τ ο) → Expr (Matcher τ ο))
    (hd : d ≤ maxPatternDepth) (hchildren : c.children = items)
    (hsound : c.IsSound r ↔ items ≠ [])
    (hempty : items = [] → r.Faults c (.invalidConfig (.noItems operator)))
    (hload : r.loadAt d c = (r.loadItems (d + 1) items).bind (foldItems operator combine))
    (ih : ∀ x ∈ items, r.Decides (d + 1) x) : r.Decides d c := by
  rw [Decides, hload]
  rcases loadItems_cases ih with ⟨es, hes, hlength, hvalid⟩ | ⟨x, hx, y, hy, hdefect⟩
  · rcases foldItems_cases operator combine es with ⟨⟨e, he⟩, hne⟩ | ⟨he, hnil⟩
    · refine Or.inl ⟨⟨e, by rw [hes]; exact he⟩, (validAt_iff hd).2 ⟨hsound.2 ?_, ?_⟩⟩
      · rintro rfl
        exact hne (List.eq_nil_of_length_eq_zero hlength)
      · rwa [hchildren]
    · refine Or.inr ⟨_, by rw [hes]; exact he, .of_faults (hempty ?_)⟩
      subst hnil
      exact List.eq_nil_of_length_eq_zero hlength.symm
  · exact Or.inr ⟨x, by rw [hx]; rfl, hdefect.inside (by rwa [hchildren])⟩

/-- A pattern is decided by what is checked about itself, if it has nothing inside. -/
lemma decides_of_childless {d : ℕ} {c : PatternConfig} (hd : d ≤ maxPatternDepth)
    (hchildren : c.children = [])
    (h : ((∃ e, r.loadAt d c = .ok e) ∧ c.IsSound r) ∨
      ∃ x, r.loadAt d c = .error x ∧ r.Faults c x) : r.Decides d c := by
  rcases h with ⟨hok, hsound⟩ | ⟨x, hx, hfault⟩
  · exact Or.inl ⟨hok, (validAt_iff hd).2 ⟨hsound, by simp [hchildren]⟩⟩
  · exact Or.inr ⟨x, hx, .of_faults hfault⟩

/-- A pattern with one pattern inside is decided by that one and by what is checked afterwards. -/
lemma decides_of_child {d : ℕ} {c pattern : PatternConfig} {wrap : Expr (Matcher τ ο) → _}
    (hd : d ≤ maxPatternDepth) (hchildren : c.children = [pattern])
    (hload : r.loadAt d c = (r.loadAt (d + 1) pattern).bind wrap)
    (hwrap : ∀ e, ((∃ e', wrap e = .ok e') ∧ c.IsSound r) ∨
      ∃ x, wrap e = .error x ∧ r.Faults c x)
    (ih : r.Decides (d + 1) pattern) : r.Decides d c := by
  rw [Decides, hload]
  rcases ih with ⟨⟨e, he⟩, hvalid⟩ | ⟨x, hx, hdefect⟩
  · rw [he]
    rcases hwrap e with ⟨hok, hsound⟩ | ⟨x, hx, hfault⟩
    · refine Or.inl ⟨hok, (validAt_iff hd).2 ⟨hsound, ?_⟩⟩
      rw [hchildren]
      exact List.forall_mem_singleton.2 hvalid
    · exact Or.inr ⟨x, hx, .of_faults hfault⟩
  · rw [hx]
    refine Or.inr ⟨x, rfl, hdefect.inside ?_⟩
    simp [hchildren]

/-- By induction over what is inside.  Beyond the greatest depth nothing is looked at, so that the
depth in the error is always the first one that is too great. -/
theorem decides_loadAt (c : PatternConfig) :
    ∀ d ≤ maxPatternDepth + 1, r.Decides d c := by
  induction c using PatternConfig.children_induction with
  | h c ih =>
      intro d hd
      by_cases hdeep : maxPatternDepth < d
      · obtain rfl : d = maxPatternDepth + 1 := by omega
        refine Or.inr ⟨_, loadAt_of_lt hdeep c, Or.inl ⟨rfl, ?_⟩⟩
        have := c.depth_pos
        omega
      · have hle : d ≤ maxPatternDepth := by omega
        have ih' : ∀ x ∈ c.children, r.Decides (d + 1) x := fun x hx => ih x hx _ (by omega)
        clear ih
        cases c with
        | leaf ref negate =>
            refine decides_of_childless hle rfl ?_
            rw [loadAt, if_neg hdeep]
            rcases loadMatcher_cases (r := r) ref negate with ⟨m, hm, hsound⟩ | ⟨x, hx, hfault⟩
            · exact Or.inl ⟨⟨_, by simp only [hm]; rfl⟩, hsound⟩
            · exact Or.inr ⟨x, by simp only [hx]; rfl, hfault⟩
        | literal value =>
            refine decides_of_childless hle rfl ?_
            rw [loadAt, if_neg hdeep]
            cases hreader : r.literals with
            | none => exact Or.inr ⟨_, rfl, .noReader hreader⟩
            | some read =>
                cases hresult : read value with
                | error x => exact Or.inr ⟨x, hresult, .unreadable hreader hresult⟩
                | ok e => exact Or.inl ⟨⟨e, hresult⟩, read, e, hreader, hresult⟩
        | any =>
            refine decides_of_childless hle rfl (Or.inl ⟨⟨.leaf r.anyToken, ?_⟩, trivial⟩)
            rw [loadAt, if_neg hdeep]
        | concat items =>
            refine decides_items "concat" .concat hle rfl Iff.rfl ?_ ?_ ih'
            · rintro rfl
              exact .emptyConcat
            · rw [loadAt, if_neg hdeep]
              rfl
        | alt items =>
            refine decides_items "alt" .alt hle rfl Iff.rfl ?_ ?_ ih'
            · rintro rfl
              exact .emptyAlt
            · rw [loadAt, if_neg hdeep]
              rfl
        | maybe pattern =>
            have hload : r.loadAt d (.maybe pattern) =
                (r.loadAt (d + 1) pattern).bind fun e => .ok e.maybe := by
              rw [loadAt, if_neg hdeep]
              cases r.loadAt (d + 1) pattern <;> rfl
            exact decides_of_child hle rfl hload (fun e => Or.inl ⟨⟨_, rfl⟩, trivial⟩)
              (ih' pattern (List.mem_singleton.2 rfl))
        | repetition pattern min max =>
            rcases checkBounds_cases (r := r) pattern min max with
              ⟨hmin, hmax, hbounds⟩ | ⟨x, hx, hfault⟩
            · refine decides_of_child hle rfl ?_ (fun e => repeated_cases pattern e hmin hmax)
                (ih' pattern (List.mem_singleton.2 rfl))
              rw [loadAt, if_neg hdeep, hbounds]
              rfl
            · refine Or.inr ⟨x, ?_, .of_faults hfault⟩
              rw [loadAt, if_neg hdeep, hx]
              rfl
        | capture name pattern =>
            refine decides_of_child hle rfl ?_ (captured_cases name pattern)
              (ih' pattern (List.mem_singleton.2 rfl))
            rw [loadAt, if_neg hdeep]
            rfl

end

/-! ## Loading -/

/-- **A pattern can be loaded if and only if it is not too deep and every pattern in it is in order.**
Otherwise the error tells of the depth, or of a pattern that is not in order.  An error that speaks of a
depth is that of a pattern which is too deep, or a matcher type or the reader of literals has returned
it for a pattern in it; the latter does not happen if they report on contents only. -/
theorem load_iff_sound {τ ο : Type} (r : Registry τ ο) (c : PatternConfig) :
    ((∃ e, r.load c = .ok e) ↔
        c.depth ≤ maxPatternDepth ∧ ∀ n : PatternConfig, n.IsNode c → n.IsSound r) ∧
      (∀ x, r.load c = .error x →
        (maxPatternDepth < c.depth ∧
            x = .depthExceeded (maxPatternDepth + 1) maxPatternDepth) ∨
          ∃ n : PatternConfig, n.IsNode c ∧ ¬ n.IsSound r ∧ r.Faults n x) ∧
      (∀ d m, r.load c = .error (.depthExceeded d m) →
        (maxPatternDepth < c.depth ∧ d = maxPatternDepth + 1 ∧ m = maxPatternDepth) ∨
          ∃ n : PatternConfig, n.IsNode c ∧ r.PassesOn n (.depthExceeded d m)) ∧
      (r.ReportsContent → ∀ d m, r.load c = .error (.depthExceeded d m) →
        maxPatternDepth < c.depth ∧ d = maxPatternDepth + 1 ∧ m = maxPatternDepth) := by
  have hdecides := decides_loadAt (r := r) c 1 (by simp [maxPatternDepth])
  rw [Decides] at hdecides
  rw [load]
  have hvalid : r.ValidAt 1 c ↔
      c.depth ≤ maxPatternDepth ∧ ∀ n : PatternConfig, n.IsNode c → n.IsSound r := by
    rw [ValidAt, Nat.add_comm 1, Nat.add_le_add_iff_right]
  have hdefect : ∀ x, r.loadAt 1 c = .error x → r.DefectAt 1 c x := by
    intro x hx
    rcases hdecides with ⟨⟨e, he⟩, _⟩ | ⟨y, hy, hdefect⟩
    · simp [he] at hx
    · rw [hy] at hx
      cases hx
      exact hdefect
  have hdepth : ∀ d m, r.loadAt 1 c = .error (.depthExceeded d m) →
      (maxPatternDepth < c.depth ∧ d = maxPatternDepth + 1 ∧ m = maxPatternDepth) ∨
        ∃ n : PatternConfig, n.IsNode c ∧ r.PassesOn n (.depthExceeded d m) := by
    intro d m hx
    rcases hdefect _ hx with ⟨heq, hdeep⟩ | ⟨n, hn, hfault⟩
    · cases heq
      exact Or.inl ⟨by omega, rfl, rfl⟩
    · exact Or.inr ⟨n, hn, hfault.passesOn_of_depth⟩
  refine ⟨⟨fun ⟨e, he⟩ => ?_, fun h => ?_⟩, fun x hx => ?_, hdepth, fun hr d m hx => ?_⟩
  · rcases hdecides with ⟨_, h⟩ | ⟨y, hy, _⟩
    · exact hvalid.1 h
    · simp [hy] at he
  · rcases hdecides with ⟨hok, _⟩ | ⟨y, _, hy⟩
    · exact hok
    · exact absurd (hvalid.2 h) hy.not_validAt
  · rcases hdefect x hx with ⟨rfl, hdeep⟩ | ⟨n, hn, hfault⟩
    · exact Or.inl ⟨by omega, rfl⟩
    · exact Or.inr ⟨n, hn, hfault.not_isSound, hfault⟩
  · rcases hdepth d m hx with htoo | ⟨n, _, hpasses⟩
    · exact htoo
    · exact (hpasses.isContent hr).elim

theorem load_maybe_nested :
    characters.ReportsContent ∧
      characters.load (Nat.iterate .maybe 64 .any) = .error (.depthExceeded 65 64) ∧
      maxPatternDepth < (Nat.iterate PatternConfig.maybe 64 .any).depth :=
  ⟨reportsContent_characters, rfl,
    ((load_iff_sound characters (Nat.iterate .maybe 64 .any)).2.2.2 reportsContent_characters
      65 64 rfl).1⟩

/-- A reader of literals that speaks of a depth is quoted, although the pattern is not deep at all. -/
theorem load_literal_quoted :
    let read : LiteralReader Char Char := fun _ => .error (.depthExceeded 7 3)
    ((empty id).withLiterals read).load (.literal .null) = .error (.depthExceeded 7 3) ∧
      ¬ maxPatternDepth < (PatternConfig.literal .null).depth ∧ 7 ≠ maxPatternDepth + 1 :=
  ⟨rfl, by decide, by decide⟩

end TokenPattern.Registry
