import TokenPattern.Proofs.Groups

/-!
# The groups on the top level of a match

Of all the groups of a match, this file keeps those that are inside no other group, and of these it
keeps where they start and how many items they hold (`Match.occurrences`).

**A smaller replay.**  These numbers do not depend on the boundaries inside the groups.  `Tally` is a
replay that is only told the outermost boundaries; it has no stack, but the start of at most one open
group.

**Outermost boundaries.**  Which boundaries are outermost is not written on them.  So the boundaries
are tagged, and `Framing.outermost` checks the tags against the stack of open groups: a tagged
boundary begins or ends on the empty stack, the others do neither.  If the tags are right, the tally
of the tagged boundaries is what the replay of all boundaries has on its top level
(`occurrences_of_reconstruct`).
-/

namespace TokenPattern

/-- Where the groups of a name on the top level start, and how many items they hold. -/
def Match.occurrences {ο : Type} (m : Match (List ο)) (name : String) : List (Nat × Nat) :=
  (m.group name).map fun g => (g.start, g.trail.length)

/-! ## Tallies -/

/-- The groups closed so far, newest first, and the start of the open group. -/
structure Tally where
  closed : List (Nat × Nat)
  opened : Option Nat

namespace Tally

/-- Nothing read. -/
def initial : Tally := ⟨[], none⟩

/-- Takes down one boundary in front of item `position`. -/
def boundary (position : Nat) (k : Tally) : Marker → Tally
  | .start _ => { k with opened := some position }
  | .stop _ =>
    match k.opened with
    | none => k
    | some first => ⟨(first, position - first) :: k.closed, none⟩

/-- Takes down the boundaries of items, the first of which is item `position`. -/
def items : Nat → Tally → List (List Marker) → Tally
  | _, k, [] => k
  | position, k, markers :: rest => items (position + 1) (markers.foldl (boundary position) k) rest

/-- Closes the open group in front of item `position`, and lists the groups, oldest first. -/
def finish (position : Nat) (k : Tally) : List (Nat × Nat) :=
  match k.opened with
  | none => k.closed.reverse
  | some first => ((first, position - first) :: k.closed).reverse

end Tally

/-- The groups of a list of items, each given by the boundaries in front of it. -/
def tally (markers : List (List Marker)) : List (Nat × Nat) :=
  (Tally.items 0 .initial markers).finish markers.length

namespace Tally

variable {P : Nat → Prop} {position : Nat} {k : Tally}

/-- All groups, the open one with them, start at items with property `P`. -/
structure StartsIn (P : Nat → Prop) (k : Tally) : Prop where
  closed : ∀ c ∈ k.closed, P c.1
  opened : ∀ first ∈ k.opened, P first

lemma StartsIn.boundary (h : k.StartsIn P) (hP : P position) (m : Marker) :
    (k.boundary position m).StartsIn P := by
  cases m with
  | start n =>
      refine ⟨h.closed, fun first hfirst => ?_⟩
      obtain rfl : position = first := Option.some.inj hfirst
      exact hP
  | stop n =>
      cases hk : k.opened with
      | none =>
          rw [Tally.boundary, hk]
          exact h
      | some first =>
          rw [Tally.boundary, hk]
          refine ⟨List.forall_mem_cons.mpr ⟨h.opened first hk, h.closed⟩, ?_⟩
          intro first' hfirst
          exact absurd hfirst (Option.not_mem_none first')

lemma StartsIn.items {markers : List (List Marker)} (h : k.StartsIn P)
    (hP : ∀ i m, markers[i]? = some m → m ≠ [] → P (position + i)) :
    (Tally.items position k markers).StartsIn P := by
  induction markers generalizing position k with
  | nil => exact h
  | cons m markers ih =>
      have hfold : (m.foldl (Tally.boundary position) k).StartsIn P := by
        cases m with
        | nil => exact h
        | cons b m =>
            have hhere : P position := hP 0 (b :: m) rfl (List.cons_ne_nil b m)
            have hall : ∀ (bs : List Marker) {k : Tally}, k.StartsIn P →
                (bs.foldl (Tally.boundary position) k).StartsIn P := by
              intro bs
              induction bs with
              | nil => exact fun h => h
              | cons b bs ihbs => exact fun h => ihbs (h.boundary hhere b)
            exact hall (b :: m) h
      refine ih hfold fun i m' hi hne => ?_
      have hnext := hP (i + 1) m' hi hne
      rwa [show position + 1 + i = position + (i + 1) by omega]

lemma StartsIn.finish (h : k.StartsIn P) {c : Nat × Nat} (hc : c ∈ k.finish position) : P c.1 := by
  rw [Tally.finish] at hc
  cases hk : k.opened with
  | none =>
      rw [hk] at hc
      exact h.closed c (List.mem_reverse.mp hc)
  | some first =>
      rw [hk] at hc
      rcases List.mem_cons.mp (List.mem_reverse.mp hc) with rfl | hc
      · exact h.opened first hk
      · exact h.closed c hc

end Tally

/-- Groups start only where there are boundaries. -/
lemma exists_markers_of_mem_tally {markers : List (List Marker)} {c : Nat × Nat}
    (hc : c ∈ tally markers) : ∃ m, markers[c.1]? = some m ∧ m ≠ [] := by
  have hinitial : Tally.initial.StartsIn fun i => ∃ m, markers[i]? = some m ∧ m ≠ [] :=
    ⟨fun c hc => absurd hc List.not_mem_nil, fun i hi => absurd hi (Option.not_mem_none i)⟩
  have hitems : (Tally.items 0 Tally.initial markers).StartsIn
      fun i => ∃ m, markers[i]? = some m ∧ m ≠ [] :=
    hinitial.items fun i m hi hne => ⟨m, (Nat.zero_add i).symm ▸ hi, hne⟩
  exact hitems.finish hc

/-! ## Tagged boundaries -/

/-- A boundary if it is tagged as outermost, and nothing otherwise. -/
def Marker.outer (p : Marker × Bool) : List Marker := if p.2 then [p.1] else []

/-- The framing by tagged boundaries, the outermost ones belonging to groups of one name. -/
def Framing.outermost (n : String) : Framing (Marker × Bool) where
  act p c := (p.1.act c).bind fun d =>
    if p.2 then if (c = [] ∨ d = []) ∧ p.1.name = n then some d else none
    else if c ≠ [] ∧ d ≠ [] then some d else none
  mark m := [(m, false)]
  Inside c := c ≠ []
  start {m c} hc := by
    show (((Marker.start m).act c).bind _).bind _ = _
    simp [Marker.act, hc]
  stop {m c} hc := by
    show (((Marker.stop m).act (m :: c)).bind _).bind _ = _
    simp [Marker.act, hc]
  inside _ := List.cons_ne_nil _ _

namespace Framing

variable {n : String} {m : Marker} {c d : List String}

/-- What a boundary that is tagged as outermost does. -/
lemma act_outermost_true (h : (outermost n).act (m, true) c = some d) :
    m.act c = some d ∧ (c = [] ∨ d = []) ∧ m.name = n := by
  obtain ⟨d', hd', h⟩ := Option.bind_eq_some_iff.mp h
  simp only [if_true] at h
  split_ifs at h with hcond
  obtain rfl := Option.some.inj h
  exact ⟨hd', hcond⟩

/-- What any other boundary does. -/
lemma act_outermost_false (h : (outermost n).act (m, false) c = some d) :
    m.act c = some d ∧ c ≠ [] ∧ d ≠ [] := by
  obtain ⟨d', hd', h⟩ := Option.bind_eq_some_iff.mp h
  simp only [Bool.false_eq_true, if_false] at h
  split_ifs at h with hcond
  obtain rfl := Option.some.inj h
  exact ⟨hd', hcond⟩

lemma act_of_outermost {p : Marker × Bool} (h : (outermost n).act p c = some d) :
    p.1.act c = some d := by
  obtain ⟨m, b⟩ := p
  cases b with
  | true => exact (act_outermost_true h).1
  | false => exact (act_outermost_false h).1

end Framing

/-! ## The replay and the tally -/

namespace Replay

variable {ο : Type} {n : String} {outputs : List ο} {position : Nat} {r r' : Replay ο} {k : Tally}

/-- The tally has what the replay has on the top level, and all of it has the name `n`. -/
structure Shows (n : String) (r : Replay ο) (k : Tally) : Prop where
  top : r.top.map (fun g => (g.1, g.2.start, g.2.trail.length)) = k.closed.map fun c => (n, c)
  opened : (r.opened.getLast?.map fun g => (g.name, g.start)) = k.opened.map fun first => (n, first)

lemma names_eq_nil : r.names = [] ↔ r.opened = [] := List.map_eq_nil_iff

/-- Opening a group keeps the replay and the tally together. -/
lemma Shows.start {b : Bool} {m : String} {c : List String} (h : r.Shows n k)
    (hact : (Framing.outermost n).act (.start m, b) r.names = some c) :
    Shows n { r with opened := ⟨m, position, []⟩ :: r.opened }
      ((Marker.outer (.start m, b)).foldl (Tally.boundary position) k) := by
  cases b with
  | true =>
      obtain ⟨hd, hc, hm⟩ := Framing.act_outermost_true hact
      obtain rfl : m :: r.names = c := Option.some.inj hd
      have hnil : r.opened = [] :=
        names_eq_nil.mp (hc.resolve_right (List.cons_ne_nil _ _))
      refine ⟨h.top, ?_⟩
      rw [hnil]
      show some (m, position) = some (n, position)
      rw [← hm]
      rfl
  | false =>
      obtain ⟨_, hc, _⟩ := Framing.act_outermost_false hact
      refine ⟨h.top, ?_⟩
      show (List.getLast? (_ :: r.opened)).map _ = k.opened.map _
      rw [← h.opened]
      cases ho : r.opened with
      | nil => exact absurd (names_eq_nil.mpr ho) hc
      | cons g rest => rw [List.getLast?_cons_cons]

/-- Closing a group keeps them together as well. -/
lemma Shows.stop {b : Bool} {m : String} {c : List String} {g : OpenGroup ο}
    {rest : List (OpenGroup ο)} (h : r.Shows n k) (ho : r.opened = g :: rest)
    (hpos : position ≤ outputs.length)
    (hact : (Framing.outermost n).act (.stop m, b) r.names = some c) :
    Shows n (({ r with opened := rest } : Replay ο).add m (closed outputs position g))
      ((Marker.outer (.stop m, b)).foldl (Tally.boundary position) k) := by
  have hopened := h.opened
  have hnames : r.names = g.name :: rest.map OpenGroup.name := by rw [names, ho]; rfl
  rw [hnames] at hact
  rw [ho] at hopened
  cases b with
  | true =>
      obtain ⟨hd, hc, hm⟩ := Framing.act_outermost_true hact
      simp only [Marker.act] at hd
      split_ifs at hd with hg
      obtain rfl := Option.some.inj hd
      obtain rfl : rest = [] := List.map_eq_nil_iff.mp (hc.resolve_left (List.cons_ne_nil _ _))
      cases hk : k.opened with
      | none => simp [hk] at hopened
      | some first =>
          simp only [hk, List.getLast?_singleton, Option.map_some, Option.some.injEq,
            Prod.mk.injEq] at hopened
          obtain ⟨_, rfl⟩ := hopened
          show Shows n ⟨(m, closed outputs position g) :: r.top, []⟩
            (k.boundary position (.stop m))
          rw [Tally.boundary, hk]
          refine ⟨?_, rfl⟩
          have hlen : (closed outputs position g).trail.length = position - g.start :=
            length_slice hpos g.start
          rw [List.map_cons, List.map_cons, h.top, hlen]
          rw [show m = n from hm]
          rfl
  | false =>
      obtain ⟨hd, _, hne⟩ := Framing.act_outermost_false hact
      simp only [Marker.act] at hd
      split_ifs at hd with hg
      obtain rfl := Option.some.inj hd
      cases rest with
      | nil => exact absurd rfl hne
      | cons g' rest =>
          refine ⟨h.top, ?_⟩
          show (List.getLast? (_ :: rest)).map _ = k.opened.map _
          rw [← hopened, List.getLast?_cons_cons]
          cases rest with
          | nil => rfl
          | cons g'' rest => rw [List.getLast?_cons_cons, List.getLast?_cons_cons]

/-- A boundary keeps the replay and the tally together. -/
lemma Shows.boundary {p : Marker × Bool} {c : List String} (h : r.Shows n k)
    (hpos : position ≤ outputs.length)
    (hact : (Framing.outermost n).act p r.names = some c)
    (hr : boundary outputs position r p.1 = .ok r') :
    r'.Shows n ((Marker.outer p).foldl (Tally.boundary position) k) := by
  obtain ⟨m, b⟩ := p
  cases m with
  | start m =>
      obtain rfl := Except.ok.inj hr
      exact h.start hact
  | stop m =>
      cases ho : r.opened with
      | nil => simp [Replay.boundary, ho] at hr
      | cons g rest =>
          simp only [Replay.boundary, ho] at hr
          split_ifs at hr
          obtain rfl := Except.ok.inj hr
          exact h.stop ho hpos hact

/-- So do all boundaries in front of an item. -/
lemma Shows.exists_foldlM {marks : List (Marker × Bool)} {c : List String} (h : r.Shows n k)
    (hpos : position ≤ outputs.length)
    (hrun : (Framing.outermost n).run marks r.names = some c) :
    ∃ r', (marks.map Prod.fst).foldlM (Replay.boundary outputs position) r = .ok r' ∧
      r'.names = c ∧
      r'.Shows n ((marks.flatMap Marker.outer).foldl (Tally.boundary position) k) := by
  induction marks generalizing r k with
  | nil => exact ⟨r, rfl, Option.some.inj hrun, h⟩
  | cons p marks ih =>
      rw [Framing.run, List.foldlM_cons] at hrun
      obtain ⟨d, hd, hrun⟩ := Option.bind_eq_some_iff.mp hrun
      obtain ⟨r', hr', hnames⟩ := exists_boundary outputs position (Framing.act_of_outermost hd)
      have h' := h.boundary hpos hd hr'
      rw [← hnames] at hrun
      obtain ⟨r'', hr'', hc, h''⟩ := ih h' hrun
      refine ⟨r'', ?_, hc, ?_⟩
      · rw [List.map_cons, List.foldlM_cons, hr']
        exact hr''
      · rwa [List.flatMap_cons, List.foldl_append]

/-- And so do all items. -/
lemma Shows.exists_items {s : List (List (Marker × Bool))} {c : List String} (h : r.Shows n k)
    (hpos : position + s.length ≤ outputs.length)
    (hrun : (Framing.outermost n).run s.flatten r.names = some c) :
    ∃ r', Replay.items outputs position r (s.map (List.map Prod.fst)) = .ok r' ∧
      r'.Shows n (Tally.items position k (s.map (List.flatMap Marker.outer))) := by
  induction s generalizing r k position with
  | nil => exact ⟨r, rfl, h⟩
  | cons marks s ih =>
      rw [List.length_cons] at hpos
      rw [List.flatten_cons, Framing.run_append] at hrun
      obtain ⟨d, hd, hrun⟩ := Option.bind_eq_some_iff.mp hrun
      have hhere : position ≤ outputs.length := by omega
      have hnext : position + 1 + s.length ≤ outputs.length := by omega
      obtain ⟨r', hr', hnames, h'⟩ := h.exists_foldlM hhere hd
      rw [← hnames] at hrun
      obtain ⟨r'', hr'', h''⟩ := ih h' hnext hrun
      refine ⟨r'', ?_, h''⟩
      rw [List.map_cons, Replay.items, hr']
      exact hr''

/-- At the end, the outermost open group is closed. -/
lemma map_closeAll (outputs : List ο) (top : List (String × Match (List ο)))
    (opened : List (OpenGroup ο)) :
    (closeAll outputs top opened).map (fun g => (g.1, g.2.start, g.2.trail.length)) =
      (opened.getLast?.map fun g => (g.name, g.start, outputs.length - g.start)).toList ++
        top.map fun g => (g.1, g.2.start, g.2.trail.length) := by
  fun_induction closeAll outputs top opened with
  | case1 => rfl
  | case2 g =>
      have hlen : (closed outputs outputs.length g).trail.length = outputs.length - g.start :=
        length_slice le_rfl g.start
      rw [List.map_cons, hlen]
      rfl
  | case3 g h rest ih =>
      rw [ih]
      cases rest with
      | nil => rfl
      | cons h' rest => simp only [List.getLast?_cons_cons]

/-- With it, the replay has the groups of the finished tally. -/
lemma Shows.map_closeAll (h : r.Shows n k) :
    (closeAll outputs r.top r.opened).map (fun g => (g.1, g.2.start, g.2.trail.length)) =
      (k.finish outputs.length).reverse.map fun c => (n, c) := by
  have hopened : (r.opened.getLast?.map fun g => (g.name, g.start, outputs.length - g.start)) =
      k.opened.map fun first => (n, first, outputs.length - first) := by
    have h' := congrArg (Option.map fun g : String × Nat =>
      (g.1, g.2, outputs.length - g.2)) h.opened
    rw [Option.map_map, Option.map_map] at h'
    exact h'
  rw [Replay.map_closeAll, h.top, hopened, Tally.finish]
  cases k.opened with
  | none => simp
  | some first => simp

lemma group_finish (outputs : List ο) (r : Replay ο) (name : String) :
    (finish outputs r).group name =
      ((closeAll outputs r.top r.opened).reverse.filter fun g => g.1 = name).map Prod.snd := by
  have hfilter : ∀ l : List (String × Match (List ο)),
      (l.filterMap fun (name', g) => if name' = name then some g else none) =
        (l.filter fun g => g.1 = name).map Prod.snd := by
    intro l
    rw [← List.filterMap_eq_map, List.filterMap_filter]
    simp
  show (sortGroups _).filterMap _ = _
  rw [hfilter, filter_sortGroups]

/-- **The groups of the finished match** are those of the finished tally. -/
lemma Shows.occurrences_finish (h : r.Shows n k) :
    (finish outputs r).occurrences n = k.finish outputs.length := by
  have hmap : (closeAll outputs r.top r.opened).map
      (fun g => (g.1, g.2.start, g.2.trail.length)) =
        (k.finish outputs.length).reverse.map fun c => (n, c) := h.map_closeAll
  have hname : ∀ g ∈ closeAll outputs r.top r.opened, g.1 = n := by
    intro g hg
    have hmem := List.mem_map_of_mem (f := fun g => (g.1, g.2.start, g.2.trail.length)) hg
    rw [hmap] at hmem
    obtain ⟨c, _, hc⟩ := List.mem_map.mp hmem
    exact (congrArg Prod.fst hc).symm
  have hall : ((closeAll outputs r.top r.opened).reverse.filter fun g => g.1 = n) =
      (closeAll outputs r.top r.opened).reverse :=
    List.filter_eq_self.mpr fun g hg => by simpa using hname g (List.mem_reverse.mp hg)
  have hpair := congrArg (List.map Prod.snd) hmap
  rw [List.map_map, List.map_map] at hpair
  calc (finish outputs r).occurrences n
      = ((closeAll outputs r.top r.opened).map
          fun g => (g.2.start, g.2.trail.length)).reverse := by
        rw [Match.occurrences, group_finish, hall, List.map_map, List.map_reverse]
        rfl
    _ = k.finish outputs.length := by
        rw [show ((closeAll outputs r.top r.opened).map
            fun g => (g.2.start, g.2.trail.length)) =
          (k.finish outputs.length).reverse.map (Prod.snd ∘ fun c => (n, c)) from hpair]
        rw [show (Prod.snd ∘ fun c : Nat × Nat => (n, c)) = id from rfl, List.map_id,
          List.reverse_reverse]

end Replay

/-- **The groups of a match are counted by the tagged boundaries**, if the tags fit. -/
theorem occurrences_of_reconstruct {ο : Type} {n : String} {trail : List (TrailItem ο)}
    {s : List (List (Marker × Bool))} {c : List String} {m : Match (List ο)}
    (hs : trail.map TrailItem.markers = s.map (List.map Prod.fst))
    (hrun : (Framing.outermost n).run s.flatten [] = some c) (hm : reconstruct trail = .ok m) :
    m.occurrences n = tally (s.map (List.flatMap Marker.outer)) := by
  have hlen : (trail.map TrailItem.output).length = s.length := by
    have h := congrArg List.length hs
    rw [List.length_map, List.length_map] at h
    rw [List.length_map, h]
  have hinitial : (Replay.initial : Replay ο).Shows n Tally.initial := ⟨rfl, rfl⟩
  have hpos : 0 + s.length ≤ (trail.map TrailItem.output).length := by omega
  obtain ⟨r, hr, hshows⟩ := hinitial.exists_items hpos hrun
  rw [reconstruct_eq_replay, replay, hs, hr] at hm
  obtain rfl := Except.ok.inj hm
  rw [hshows.occurrences_finish, hlen, tally, List.length_map]

end TokenPattern
