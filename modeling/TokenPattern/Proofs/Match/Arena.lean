import Mathlib.Data.List.Nodup
import TokenPattern.Proofs.Match.Assembly
import TokenPattern.Proofs.Match.States

/-!
# The arena and a replay

`Arena.after` is the arena in front of a boundary with the outputs of the items so far.  The place of a
group is the number of groups that have opened before it, with the whole match in front of all, and its
outputs are the slice that ends where the group is closed, or at the current item.

* `boundary_start`, `boundary_stop`, `collect_after` — boundaries and outputs lead from one such arena
  to the next.
* `lockstep_items` — they do so in step with a replay, and fail where it fails.
* `assemble_after` — the last arena makes the node of the whole trail, as the last state of a replay
  does.

`reconstruct_eq_replay` puts these together, so that from here on `reconstruct` is reasoned about by
replays.
-/

namespace TokenPattern

open Brackets

namespace Arena

variable {ο : Type}

/-! ## Places -/

section

variable (bs : Boundaries)

/-- The boundaries in front of another one that open groups. -/
def openings (k : ℕ) : List ℕ := (List.range k).filter fun s => (name? bs s).isSome

/-- The place of a group in the arena, or of the whole match. -/
def placeOf (p : Option ℕ) : ℕ := p.elim 0 fun s => (openings bs s).length + 1

/-- The groups in the arena in front of a boundary, in the order of their places. -/
def places (k : ℕ) : List (Option ℕ) := none :: (openings bs k).map some

variable {bs} {k s c q i : ℕ} {n : String} {p : Option ℕ}

lemma mem_openings_iff : s ∈ openings bs k ↔ s < k ∧ ∃ n, name? bs s = some n := by
  rw [openings, List.mem_filter, List.mem_range, Option.isSome_iff_exists]

lemma some_mem_places_iff : some s ∈ places bs k ↔ s < k ∧ ∃ n, name? bs s = some n := by
  rw [places, ← mem_openings_iff]
  simp

lemma length_places : (places bs k).length = placeOf bs (some k) := by
  rw [places, List.length_cons, List.length_map]
  rfl

lemma openings_succ_of_start (hb : bs[k]? = some (i, .start n)) :
    openings bs (k + 1) = openings bs k ++ [k] := by
  have hname : name? bs k = some n := name?_eq_some_iff.2 ⟨i, hb⟩
  rw [openings, List.range_succ, List.filter_append]
  simp [openings, hname]

lemma places_succ_of_start (hb : bs[k]? = some (i, .start n)) :
    places bs (k + 1) = places bs k ++ [some k] := by
  rw [places, openings_succ_of_start hb, List.map_append]
  rfl

lemma name?_of_stop (hb : bs[k]? = some (i, .stop n)) : name? bs k = none := by
  rw [name?, hb]
  rfl

lemma places_succ_of_stop (hb : bs[k]? = some (i, .stop n)) :
    places bs (k + 1) = places bs k := by
  have hopenings : openings bs (k + 1) = openings bs k := by
    rw [openings, List.range_succ, List.filter_append]
    simp [openings, name?_of_stop hb]
  rw [places, hopenings, places]

/-- A group keeps its place. -/
lemma prefix_openings (hname : name? bs s = some n) (hs : s < k) :
    openings bs s ++ [s] <+: openings bs k := by
  induction k, hs using Nat.le_induction with
  | base =>
      obtain ⟨i, hb⟩ := name?_eq_some_iff.1 hname
      exact (openings_succ_of_start hb).symm ▸ List.prefix_refl _
  | succ k _ ih =>
      have hmore : openings bs k <+: openings bs (k + 1) := by
        rw [openings, openings, List.range_succ, List.filter_append]
        exact List.prefix_append _ _
      exact ih.trans hmore

lemma getElem?_placeOf (hp : p ∈ places bs k) : (places bs k)[placeOf bs p]? = some p := by
  cases p with
  | none => rfl
  | some s =>
      obtain ⟨hs, n, hname⟩ := some_mem_places_iff.1 hp
      obtain ⟨rest, hrest⟩ := prefix_openings hname hs
      show (none :: (openings bs k).map some)[(openings bs s).length + 1]? = _
      rw [List.getElem?_cons_succ, ← hrest, List.append_assoc, List.getElem?_map,
        List.getElem?_append_right (Nat.le_refl _), Nat.sub_self]
      rfl

lemma nodup_places : (places bs k).Nodup := by
  rw [places, List.nodup_cons]
  exact ⟨by simp, List.Nodup.map (Option.some_injective ℕ) (List.nodup_range.filter _)⟩

lemma getElem?_places_iff : (places bs k)[q]? = some p ↔ p ∈ places bs k ∧ placeOf bs p = q := by
  constructor
  · intro hq
    have hp : p ∈ places bs k := List.mem_of_getElem? hq
    obtain ⟨hlt, _⟩ := List.getElem?_eq_some_iff.1 hq
    have heq := hq.trans (getElem?_placeOf hp).symm
    exact ⟨hp, ((List.getElem?_inj hlt nodup_places).1 heq).symm⟩
  · rintro ⟨hp, rfl⟩
    exact getElem?_placeOf hp

lemma placeOf_injOn {p' : Option ℕ} (hp : p ∈ places bs k) (hp' : p' ∈ places bs k)
    (h : placeOf bs p = placeOf bs p') : p = p' := by
  have heq := getElem?_placeOf hp
  rw [h, getElem?_placeOf hp'] at heq
  exact (Option.some.inj heq).symm

/-- Places are in the order in which groups open. -/
lemma placeOf_lt (hname : name? bs s = some n) (hs : s < k) :
    placeOf bs (some s) < placeOf bs (some k) := by
  have hle := (prefix_openings hname hs).length_le
  rw [List.length_append, List.length_singleton] at hle
  exact Nat.lt_succ_of_le hle

/-- A group stands behind the one in which it opens. -/
lemma placeOf_parent?_lt (hp : parent? bs c = p) : placeOf bs p < placeOf bs (some c) := by
  cases p with
  | none => exact Nat.succ_pos _
  | some s =>
      obtain ⟨n, hname⟩ := exists_name_of_parent? c hp
      exact placeOf_lt hname (lt_of_parent? hp)

lemma parent?_mem_places (k : ℕ) : parent? bs k ∈ places bs k := by
  cases hp : parent? bs k with
  | none => exact List.mem_cons_self
  | some s => exact some_mem_places_iff.2 ⟨lt_of_parent? hp, exists_name_of_parent? k hp⟩

end

/-! ## The states of the arena -/

section

variable (bs : Boundaries) (outputs : List ο)

/-- The children that a group has in front of a boundary. -/
def childrenAt (k : ℕ) (p : Option ℕ) : List (String × ℕ) :=
  ((List.range k).filter fun c => (name? bs c).isSome ∧ parent? bs c = p).map fun c =>
    ((name? bs c).getD "", placeOf bs (some c))

/-- A group in front of a boundary, with the outputs of the items in front of item `i`. -/
def groupAt (k i : ℕ) (p : Option ℕ) : Group ο :=
  ⟨first bs p, (slice outputs (first bs p) (min (last bs outputs.length p) i)).toArray,
    (childrenAt bs k p).toArray⟩

/-- The arena in front of a boundary, with the outputs of the items in front of item `i`. -/
def after (k i : ℕ) : Arena ο :=
  ⟨((places bs k).map (groupAt bs outputs k i)).toArray,
    (opened bs k).map fun s => ((name? bs s).getD "", placeOf bs (some s))⟩

variable {bs} {k s c q i : ℕ} {n : String} {p : Option ℕ}

/-- Changing the group at one place. -/
lemma modify_places (g : Option ℕ → Group ο) (change : Group ο → Group ο)
    (hp : p ∈ places bs k) :
    ((places bs k).map g).toArray.modify (placeOf bs p) change =
      ((places bs k).map fun q => if q = p then change (g q) else g q).toArray := by
  rw [List.modify_toArray]
  congr 1
  refine List.ext_getElem? fun j => ?_
  rw [List.getElem?_modify, List.getElem?_map, List.getElem?_map]
  cases hj : (places bs k)[j]? with
  | none => rfl
  | some q =>
      obtain ⟨hq, rfl⟩ := getElem?_places_iff.1 hj
      have hiff : placeOf bs p = placeOf bs q ↔ q = p :=
        ⟨fun h => (placeOf_injOn hp hq h).symm, fun h => h ▸ rfl⟩
      by_cases hqp : q = p <;> simp [hiff, hqp]

/-! ### Boundaries -/

lemma childrenAt_succ (hname : name? bs k = some n) (p : Option ℕ) :
    childrenAt bs (k + 1) p =
      childrenAt bs k p ++ if p = parent? bs k then [(n, placeOf bs (some k))] else [] := by
  rw [childrenAt, List.range_succ, List.filter_append, List.map_append]
  by_cases hp : p = parent? bs k
  · simp [childrenAt, hname, hp]
  · simp [childrenAt, hname, hp, Ne.symm hp]

lemma childrenAt_succ_of_stop (hb : bs[k]? = some (i, .stop n)) (p : Option ℕ) :
    childrenAt bs (k + 1) p = childrenAt bs k p := by
  rw [childrenAt, List.range_succ, List.filter_append]
  simp [childrenAt, name?_of_stop hb]

/-- A group that has just opened is empty. -/
lemma groupAt_of_start (hb : bs[k]? = some (i, .start n)) :
    groupAt bs outputs k i (some k) = .opening i := by
  have hnone : (List.range k).filter
      (fun c => (name? bs c).isSome ∧ parent? bs c = some k) = [] := by
    refine List.filter_eq_nil_iff.2 fun c hc hmem => ?_
    have hck := List.mem_range.1 hc
    have := lt_of_parent? (of_decide_eq_true hmem).2
    omega
  have hfirst : first bs (some k) = i := place_eq hb
  have hslice : slice outputs i (min (last bs outputs.length (some k)) i) = [] := by
    have hzero : min (last bs outputs.length (some k)) i - i = 0 := by omega
    rw [slice, hzero, List.take_zero]
  rw [groupAt, childrenAt, hnone, hfirst, hslice]
  rfl

/-- A boundary that opens a group puts it at the end of the arena, and among the children of the
innermost one. -/
lemma boundary_start (hb : bs[k]? = some (i, .start n)) :
    boundary i (after bs outputs k i) (.start n) = .ok (after bs outputs (k + 1) i) := by
  have hname : name? bs k = some n := name?_eq_some_iff.2 ⟨i, hb⟩
  have hinnermost : (after bs outputs k i).innermost = placeOf bs (parent? bs k) := by
    rw [innermost, after, List.head?_map, parent?]
    cases (opened bs k).head? <;> rfl
  have hsize : (after bs outputs k i).groups.size = placeOf bs (some k) := by
    rw [after, List.size_toArray, List.length_map, length_places]
  have hpush : (after bs outputs k i).groups.push (.opening i) =
      ((places bs (k + 1)).map (groupAt bs outputs k i)).toArray := by
    rw [after, List.push_toArray, places_succ_of_start hb, List.map_append, List.map_singleton,
      groupAt_of_start outputs hb]
  have hparent : parent? bs k ∈ places bs (k + 1) := by
    rw [places_succ_of_start hb]
    exact List.mem_append_left _ (parent?_mem_places k)
  have hgroups : ∀ q, (if q = parent? bs k then
      (groupAt bs outputs k i q).adopt (n, placeOf bs (some k)) else groupAt bs outputs k i q) =
        groupAt bs outputs (k + 1) i q := by
    intro q
    rw [groupAt, groupAt, childrenAt_succ hname]
    split_ifs <;> simp [Group.adopt]
  have hstack : (after bs outputs (k + 1) i).stack =
      (n, placeOf bs (some k)) :: (after bs outputs k i).stack := by
    rw [after, opened_succ_of_start hb, List.map_cons, hname]
    rfl
  rw [boundary, hsize, hinnermost, hpush, modify_places _ _ hparent, ← hstack]
  simp only [hgroups]
  rfl

/-- A boundary that closes a group takes it from the stack. -/
lemma boundary_stop {rest : List ℕ} (hb : bs[k]? = some (i, .stop n))
    (hopened : opened bs k = s :: rest) (hname : name? bs s = some n) :
    boundary i (after bs outputs k i) (.stop n) = .ok (after bs outputs (k + 1) i) := by
  have hgroups : groupAt bs outputs (k + 1) i = groupAt bs outputs k i := by
    funext p
    rw [groupAt, childrenAt_succ_of_stop hb, groupAt]
  rw [after, after, hgroups, places_succ_of_stop hb, opened_succ_of_stop hb, hopened]
  simp [boundary, hname]

/-! ### Outputs -/

lemma slice_succ {o : ο} {first : ℕ} (h : first ≤ i) (ho : outputs[i]? = some o) :
    slice outputs first (i + 1) = slice outputs first i ++ [o] := by
  have hget : (outputs.drop first)[i - first]? = some o := by
    rw [List.getElem?_drop, Nat.add_sub_cancel' h, ho]
  rw [slice, slice, Nat.succ_sub h, List.take_add_one, hget]
  rfl

lemma groupAt_collect {o : ο} (hfirst : first bs p ≤ i) (hlast : i < last bs outputs.length p)
    (ho : outputs[i]? = some o) :
    groupAt bs outputs k (i + 1) p = (groupAt bs outputs k i p).collect o := by
  rw [groupAt, groupAt, Nat.min_eq_right (Nat.le_of_lt hlast), Nat.min_eq_right hlast,
    slice_succ outputs hfirst ho]
  simp [Group.collect]

lemma groupAt_of_last_le (h : last bs outputs.length p ≤ i) :
    groupAt bs outputs k (i + 1) p = groupAt bs outputs k i p := by
  rw [groupAt, groupAt, Nat.min_eq_left h, Nat.min_eq_left (Nat.le_succ_of_le h)]

/-- An output goes to every group on the stack once; by induction on the stack. -/
lemma foldr_collect (o : ο) (g : Option ℕ → Group ο) {stack : List ℕ}
    (hstack : stack <:+ opened bs k) :
    (stack.map fun s => ((name? bs s).getD "", placeOf bs (some s))).foldr
        (fun s groups => groups.modify s.2 (.collect o)) ((places bs k).map g).toArray =
      ((places bs k).map fun q =>
        if q ∈ stack.map some then (g q).collect o else g q).toArray := by
  induction stack with
  | nil => simp
  | cons s rest ih =>
      obtain ⟨hs, hname, hopened, _⟩ := opened_of_suffix hstack
      have hrest : s ∉ rest := by
        intro hmem
        rw [← hopened] at hmem
        exact absurd (lt_of_mem_opened hmem) (Nat.lt_irrefl s)
      have hplace : some s ∈ places bs k := some_mem_places_iff.2 ⟨hs, hname⟩
      rw [List.map_cons, List.foldr_cons, ih ((List.suffix_cons s rest).trans hstack),
        modify_places _ _ hplace]
      congr 2
      funext q
      by_cases hq : q = some s
      · subst hq
        simp [hrest]
      · simp [hq]

/-- An output goes to the whole match and to the groups that are closed later. -/
lemma collect_after {o : ο} (ho : outputs[i]? = some o) (hbefore : ∀ j < k, place bs j ≤ i)
    (hbehind : ∀ j b, k ≤ j → bs[j]? = some b → i < b.1) :
    (after bs outputs k i).collect o = after bs outputs k (i + 1) := by
  have hi : i < outputs.length := (List.getElem?_eq_some_iff.1 ho).1
  have hroot : (after bs outputs k i).groups.modify 0 (.collect o) =
      ((places bs k).map fun q => if q = none then (groupAt bs outputs k i q).collect o
        else groupAt bs outputs k i q).toArray :=
    modify_places (groupAt bs outputs k i) (.collect o) (p := none) List.mem_cons_self
  have hgroup : ∀ q ∈ places bs k, (if q ∈ (opened bs k).map some then
      (if q = none then (groupAt bs outputs k i q).collect o
        else groupAt bs outputs k i q).collect o
      else if q = none then (groupAt bs outputs k i q).collect o
        else groupAt bs outputs k i q) = groupAt bs outputs k (i + 1) q := by
    intro q hq
    cases q with
    | none =>
        rw [groupAt_collect outputs (Nat.zero_le i) hi ho]
        simp
    | some s =>
        obtain ⟨hs, n, hname⟩ := some_mem_places_iff.1 hq
        have hmem : some s ∈ (opened bs k).map some ↔ s ∈ opened bs k := by simp
        simp only [hmem, reduceCtorEq, if_false]
        split_ifs with hopen
        · refine (groupAt_collect outputs (hbefore s hs) ?_ ho).symm
          rcases ending_cases bs outputs.length s with ⟨j, hcloses, heq⟩ | ⟨_, heq⟩
          · have hkj : k ≤ j := Nat.le_of_not_lt fun hjk => hcloses.not_mem_opened hjk hopen
            obtain ⟨i', n', hj⟩ := hcloses.1
            show i < ending bs outputs.length s
            rw [heq, place_eq hj]
            exact hbehind j _ hkj hj
          · show i < ending bs outputs.length s
            rwa [heq]
        · obtain ⟨j, hjk, hcloses⟩ := exists_closes hname hs hopen
          refine (groupAt_of_last_le outputs ?_).symm
          show ending bs outputs.length s ≤ i
          rw [ending_of_closes hcloses]
          exact hbefore j hjk
  rw [collect, hroot]
  show Arena.mk (List.foldr _ _ _) _ = _
  rw [after, foldr_collect o _ (List.suffix_refl _), List.map_congr_left hgroup]
  rfl

/-! ### Replays -/

/-- Whether the arena and a replay have come to the same boundary and item, or have failed alike. -/
def Lockstep (bs : Boundaries) (outputs : List ο) (k i : ℕ) (x : Except MatchError (Arena ο))
    (y : Except MatchError (Replay ο)) : Prop :=
  (∃ e, x = .error e ∧ y = .error e) ∨
    x = .ok (after bs outputs k i) ∧ y = .ok (Replay.after bs outputs k (opened bs k))

lemma Lockstep.bind {k' i' : ℕ} {x : Except MatchError (Arena ο)}
    {y : Except MatchError (Replay ο)} (h : Lockstep bs outputs k i x y)
    {f : Arena ο → Except MatchError (Arena ο)} {g : Replay ο → Except MatchError (Replay ο)}
    (hnext : Lockstep bs outputs k' i' (f (after bs outputs k i))
      (g (Replay.after bs outputs k (opened bs k)))) :
    Lockstep bs outputs k' i' (x >>= f) (y >>= g) := by
  rcases h with ⟨e, rfl, rfl⟩ | ⟨rfl, rfl⟩
  · exact Or.inl ⟨e, rfl, rfl⟩
  · exact hnext

lemma lockstep_boundary {m : Marker} (hb : bs[k]? = some (i, m)) :
    Lockstep bs outputs (k + 1) i (boundary i (after bs outputs k i) m)
      (Replay.boundary outputs i (Replay.after bs outputs k (opened bs k)) m) := by
  by_cases hfit : Misfit bs k
  · obtain ⟨j, n, hj, hne⟩ := hfit
    obtain ⟨rfl, rfl⟩ := Prod.mk.inj (Option.some.inj (hb.symm.trans hj))
    refine Or.inl ⟨_, ?_, Replay.boundary_misfit outputs hne⟩
    cases hopened : opened bs k with
    | nil => simp [boundary, after, innermost?, parent?, hopened]
    | cons s rest =>
        have hparent : parent? bs k = some s := by rw [parent?, hopened]; rfl
        obtain ⟨n', hname⟩ := exists_name_of_parent? k hparent
        have hinner : innermost? bs k = some n' := innermost?_eq_some_iff.2 ⟨s, hparent, hname⟩
        rw [hinner, ne_eq, Option.some.injEq] at hne
        simp [boundary, after, hopened, hinner, hname, hne]
  · refine Or.inr ⟨?_, Replay.boundary_after outputs hb hfit⟩
    cases m with
    | start n => exact boundary_start outputs hb
    | stop n =>
        obtain ⟨s, hparent, hname⟩ := exists_parent_of_not_misfit hfit hb
        exact boundary_stop outputs hb (opened_eq_of_parent? hparent) hname

/-- The boundaries in front of one item. -/
lemma lockstep_foldlM {ms : List Marker} {later : Boundaries}
    (hbs : bs.drop k = ms.map (Prod.mk i) ++ later) :
    Lockstep bs outputs (k + ms.length) i (ms.foldlM (boundary i) (after bs outputs k i))
      (ms.foldlM (Replay.boundary outputs i) (Replay.after bs outputs k (opened bs k))) := by
  induction ms generalizing k with
  | nil => exact Or.inr ⟨rfl, rfl⟩
  | cons m ms ih =>
      have hb : bs[k]? = some (i, m) := by rw [← List.head?_drop, hbs]; rfl
      have hnext : bs.drop (k + 1) = ms.map (Prod.mk i) ++ later := by
        rw [← List.tail_drop, hbs]
        rfl
      rw [List.foldlM_cons, List.foldlM_cons, List.length_cons, Nat.add_comm ms.length,
        ← Nat.add_assoc]
      exact (lockstep_boundary outputs hb).bind outputs (ih hnext)

/-- The items of a part of a trail; by induction on the items. -/
lemma lockstep_items {items : List (TrailItem ο)} {later : Boundaries} {rest : List ο}
    (hbs : bs.drop k = boundariesFrom i (items.map TrailItem.markers) ++ later)
    (hlater : ∀ b ∈ later, i + items.length ≤ b.1)
    (houtputs : outputs.drop i = items.map TrailItem.output ++ rest)
    (hbefore : ∀ j < k, place bs j ≤ i) :
    Lockstep bs outputs (k + (boundariesFrom i (items.map TrailItem.markers)).length)
      (i + items.length) (Arena.items i (after bs outputs k i) items)
      (Replay.items outputs i (Replay.after bs outputs k (opened bs k))
        (items.map TrailItem.markers)) := by
  induction items generalizing k i with
  | nil => exact Or.inr ⟨rfl, rfl⟩
  | cons item items ih =>
      rw [List.map_cons, boundariesFrom, List.append_assoc] at hbs
      rw [List.length_cons] at hlater
      have hnext : bs.drop (k + item.markers.length) =
          boundariesFrom (i + 1) (items.map TrailItem.markers) ++ later := by
        rw [← List.drop_drop, hbs, List.drop_left' (by simp)]
      have hrest : outputs.drop (i + 1) = items.map TrailItem.output ++ rest := by
        rw [← List.tail_drop, houtputs]
        rfl
      have ho : outputs[i]? = some item.output := by rw [← List.head?_drop, houtputs]; rfl
      have hin : ∀ j < k + item.markers.length, place bs j ≤ i := by
        intro j hj
        rcases Nat.lt_or_ge j k with hjk | hkj
        · exact hbefore j hjk
        · have hget : bs[j]? = (item.markers.map (Prod.mk i))[j - k]? := by
            have hlt : j - k < (item.markers.map (Prod.mk i)).length := by
              rw [List.length_map]
              omega
            rw [← List.getElem?_append_left hlt, ← hbs, List.getElem?_drop,
              Nat.add_sub_cancel' hkj]
          rw [List.getElem?_map] at hget
          cases hm : item.markers[j - k]? with
          | none =>
              rw [List.getElem?_eq_none_iff] at hm
              omega
          | some m =>
              rw [hm] at hget
              exact Nat.le_of_eq (place_eq hget)
      have hbehind : ∀ j b, k + item.markers.length ≤ j → bs[j]? = some b → i < b.1 := by
        intro j b hj hb
        have hmem : b ∈ bs.drop (k + item.markers.length) := by
          refine List.mem_of_getElem? (i := j - (k + item.markers.length)) ?_
          rw [List.getElem?_drop, Nat.add_sub_cancel' hj, hb]
        rw [hnext, List.mem_append] at hmem
        rcases hmem with hmem | hmem
        · exact (mem_boundariesFrom hmem).1
        · have := hlater b hmem
          omega
      have hstep := ih hnext (fun b hb => by have := hlater b hb; omega) hrest
        fun j hj => Nat.le_succ_of_le (hin j hj)
      rw [← collect_after outputs ho hin hbehind] at hstep
      rw [List.map_cons, boundariesFrom, List.length_append, List.length_map, List.length_cons,
        Arena.items, Replay.items, ← Nat.add_assoc, Nat.add_comm items.length, ← Nat.add_assoc]
      exact (lockstep_foldlM outputs hbs).bind outputs hstep

/-! ### The last state -/

lemma toList_groups_after {g : Group ο}
    (h : (after bs outputs k i).groups.toList[q]? = some g) :
    ∃ p ∈ places bs k, placeOf bs p = q ∧ groupAt bs outputs k i p = g := by
  obtain ⟨p, hp, rfl⟩ := Option.map_eq_some_iff.1 (List.getElem?_map.symm.trans h)
  obtain ⟨hmem, rfl⟩ := getElem?_places_iff.1 hp
  exact ⟨p, hmem, rfl, rfl⟩

lemma children_groupAt :
    (groupAt bs outputs bs.length i p).children.toList =
      (children bs p).map fun c => ((name? bs c).getD "", placeOf bs (some c)) := rfl

lemma mem_places_of_mem_children (hc : c ∈ children bs p) : some c ∈ places bs bs.length := by
  obtain ⟨⟨n, hname⟩, _⟩ := mem_children_iff.1 hc
  exact some_mem_places_iff.2 ⟨lt_length_of_name? hname, n, hname⟩

lemma forest_after (i : ℕ) : Forest (after bs outputs bs.length i).groups.toList where
  behind q g hg d hd := by
    obtain ⟨p, hp, rfl, rfl⟩ := toList_groups_after outputs hg
    obtain ⟨c, hc, rfl⟩ := List.mem_map.1 hd
    obtain ⟨⟨n, hname⟩, hparent⟩ := mem_children_iff.1 hc
    refine ⟨placeOf_parent?_lt hparent, ?_⟩
    rw [after, List.length_map, length_places]
    exact placeOf_lt hname (lt_length_of_name? hname)
  nodup q g hg := by
    obtain ⟨p, hp, rfl, rfl⟩ := toList_groups_after outputs hg
    rw [children_groupAt, List.map_map]
    refine (nodup_children p).map_on fun c hc c' hc' heq => ?_
    exact Option.some.inj (placeOf_injOn (mem_places_of_mem_children hc)
      (mem_places_of_mem_children hc') heq)
  apart q q' g g' hg hg' d hd d' hd' heq := by
    obtain ⟨p, hp, rfl, rfl⟩ := toList_groups_after outputs hg
    obtain ⟨p', hp', rfl, rfl⟩ := toList_groups_after outputs hg'
    obtain ⟨c, hc, rfl⟩ := List.mem_map.1 hd
    obtain ⟨c', hc', rfl⟩ := List.mem_map.1 hd'
    obtain rfl := Option.some.inj (placeOf_injOn (mem_places_of_mem_children hc)
      (mem_places_of_mem_children hc') heq)
    rw [← (mem_children_iff.1 hc).2, ← (mem_children_iff.1 hc').2]

variable (bs) in
/-- The node of the group at a place of the last arena. -/
def nodeAt (q : ℕ) : Match (List ο) := node bs outputs ((places bs bs.length)[q]?.join)

lemma nodeAt_placeOf (hp : p ∈ places bs bs.length) :
    nodeAt bs outputs (placeOf bs p) = node bs outputs p := by
  rw [nodeAt, getElem?_placeOf hp, Option.join_some]

/-- Nodes solve the equations of the groups in the last arena. -/
lemma solves_nodeAt (h : Ordered bs outputs.length) :
    Solves (after bs outputs bs.length outputs.length).groups.toList (nodeAt bs outputs) := by
  have hlast : ∀ p, last bs outputs.length p ≤ outputs.length := by
    rintro (_ | s)
    · exact Nat.le_refl _
    · exact h.ending_le_last s
  intro q g hg
  obtain ⟨p, hp, rfl, rfl⟩ := toList_groups_after outputs hg
  have hentries : (children bs p).map (entry bs outputs) =
      (groupAt bs outputs bs.length outputs.length p).children.toList.map fun c =>
        (c.1, nodeAt bs outputs c.2) := by
    rw [children_groupAt, List.map_map]
    refine List.map_congr_left fun c hc => ?_
    show entry bs outputs c = (_, nodeAt bs outputs _)
    rw [nodeAt_placeOf outputs (mem_places_of_mem_children hc)]
    rfl
  rw [nodeAt_placeOf outputs hp, ← hentries, groupAt, Nat.min_eq_left (hlast p)]
  exact node_eq outputs p

/-- The last arena makes the node of the whole trail. -/
lemma assemble_after (h : Ordered bs outputs.length) :
    assemble (after bs outputs bs.length outputs.length).groups = node bs outputs none :=
  (forest_after outputs outputs.length).assemble_eq (Nat.succ_pos _) (solves_nodeAt outputs h)

end

end Arena

variable {ο : Type}

/-- The arena and a replay of the same items from the first. -/
lemma lockstep_trail (before after : List (TrailItem ο)) :
    Arena.Lockstep (boundaries (before ++ after)) ((before ++ after).map TrailItem.output)
      (boundaries before).length before.length (Arena.items 0 Arena.initial before)
      (Replay.items ((before ++ after).map TrailItem.output) 0 Replay.initial
        (before.map TrailItem.markers)) := by
  have hbs : (boundaries (before ++ after)).drop 0 =
      boundariesFrom 0 (before.map TrailItem.markers) ++
        boundariesFrom before.length (after.map TrailItem.markers) := by
    rw [List.drop_zero, boundaries, List.map_append, boundariesFrom_append, List.length_map,
      Nat.zero_add]
  have houtputs : ((before ++ after).map TrailItem.output).drop 0 =
      before.map TrailItem.output ++ after.map TrailItem.output := List.map_append
  have hinitial : Arena.after (boundaries (before ++ after))
      ((before ++ after).map TrailItem.output) 0 0 = Arena.initial := by
    simp [Arena.after, Arena.places, Arena.openings, Arena.groupAt, Arena.childrenAt, first, slice,
      opened, Arena.initial, Arena.Group.opening]
  have hlater : ∀ b ∈ boundariesFrom before.length (after.map TrailItem.markers),
      0 + before.length ≤ b.1 := by
    intro b hb
    rw [Nat.zero_add]
    exact (mem_boundariesFrom hb).1
  have h := Arena.lockstep_items _ hbs hlater houtputs fun j hj => absurd hj (Nat.not_lt_zero j)
  rw [hinitial, Nat.zero_add, Nat.zero_add] at h
  exact h

/-- Where a replay goes on, the arena goes on, and the same groups are open. -/
lemma exists_items_of_replay {before after : List (TrailItem ο)} {r : Replay ο}
    (h : Replay.items ((before ++ after).map TrailItem.output) 0 Replay.initial
      (before.map TrailItem.markers) = .ok r) :
    ∃ a, Arena.items 0 Arena.initial before = .ok a ∧
      a.stack.map Prod.fst = r.opened.map OpenGroup.name := by
  rcases lockstep_trail before after with ⟨e, _, hreplay⟩ | ⟨harena, hreplay⟩
  · exact absurd (h.symm.trans hreplay) (by simp)
  · obtain rfl := Except.ok.inj (h.symm.trans hreplay)
    refine ⟨_, harena, ?_⟩
    rw [Arena.after, Replay.after, List.map_map, List.map_map]
    rfl

/-- **Reconstruction gives what a replay gives**, a match or an error. -/
theorem reconstruct_eq_replay (trail : List (TrailItem ο)) : reconstruct trail = replay trail := by
  have h := lockstep_trail trail []
  rw [List.append_nil] at h
  rw [reconstruct, replay]
  rcases h with ⟨e, harena, hreplay⟩ | ⟨harena, hreplay⟩
  · rw [harena, hreplay]
    rfl
  · have hnode := Arena.assemble_after _ (ordered_boundaries trail)
    rw [List.length_map] at hnode
    rw [harena, hreplay]
    show Except.ok _ = Except.ok _
    rw [Replay.finish_after, ← hnode]

end TokenPattern
