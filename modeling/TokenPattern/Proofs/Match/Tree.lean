import Mathlib.Data.List.Basic
import Mathlib.Data.List.Induction
import Mathlib.Data.Set.Function
import TokenPattern.Proofs.Match.Replay
import TokenPattern.Proofs.Match.Brackets

/-!
# The tree of a list of brackets

`node` is the match that belongs to a group, or to the whole trail: its start, the outputs between
its ends, and the nodes of the groups that open directly in it.  An occurrence in a match is reached
by an address, the name and the number of a group on each level (`Match.occurrence?`).

* `group_node` — the groups of one name in a node are those that open directly in it, in order.
* `bijOn_address` — the addresses of groups are the addresses at which there is an occurrence.
-/

namespace TokenPattern

/-! ## Occurrences -/

namespace Match

variable {T : Type}

/-- The group at an address: on each level the name and the number among the groups of this name. -/
def occurrence? (m : Match T) : List (String × ℕ) → Option (Match T)
  | [] => some m
  | (name, i) :: address => (m.group name)[i]?.bind fun g => g.occurrence? address

lemma occurrence?_append (m : Match T) (a b : List (String × ℕ)) :
    m.occurrence? (a ++ b) = (m.occurrence? a).bind fun g => g.occurrence? b := by
  induction a generalizing m with
  | nil => rfl
  | cons first a ih =>
      obtain ⟨name, i⟩ := first
      rw [List.cons_append, occurrence?, occurrence?]
      cases (m.group name)[i]? with
      | none => rfl
      | some g => exact ih g

lemma occurrence?_singleton (m : Match T) (name : String) (i : ℕ) :
    m.occurrence? [(name, i)] = (m.group name)[i]? := by
  rw [occurrence?]
  cases (m.group name)[i]? <;> rfl

end Match

namespace Brackets

variable {ο : Type} (bs : Boundaries) (outputs : List ο)

/-! ## Nodes -/

/-- The item in front of which a group starts; the whole trail starts at its first item. -/
def first (p : Option ℕ) : ℕ := p.elim 0 (place bs)

/-- The item in front of which a group ends; the whole trail ends behind its last item. -/
def last (length : ℕ) (p : Option ℕ) : ℕ := p.elim length (ending bs length)

/-- The match that belongs to a group, or to the whole trail. -/
def node (p : Option ℕ) : Match (List ο) :=
  .mk (first bs p) (slice outputs (first bs p) (last bs outputs.length p))
    (sortGroups ((children bs p).attach.map fun c =>
      ((name? bs c.1).getD "", node (some c.1))))
termination_by p.elim (bs.length + 1) (bs.length - ·)
decreasing_by
  obtain ⟨c, hc⟩ := c
  obtain ⟨⟨n, hn⟩, hparent⟩ := mem_children_iff.1 hc
  have hlt := lt_length_of_name? hn
  cases p with
  | none =>
      simp only [Option.elim]
      omega
  | some s =>
      have hsc := lt_of_parent? hparent
      simp only [Option.elim]
      omega

/-- The name of a group with its node. -/
def entry (c : ℕ) : String × Match (List ο) := ((name? bs c).getD "", node bs outputs (some c))

variable {bs}

lemma node_eq (p : Option ℕ) :
    node bs outputs p =
      .mk (first bs p) (slice outputs (first bs p) (last bs outputs.length p))
        (sortGroups ((children bs p).map (entry bs outputs))) := by
  have hmap : ((children bs p).attach.map fun c =>
      ((name? bs c.1).getD "", node bs outputs (some c.1))) =
        (children bs p).map (entry bs outputs) := List.attach_map_val (f := entry bs outputs)
  rw [node, hmap]

lemma start_node (p : Option ℕ) : (node bs outputs p).start = first bs p := by
  rw [node_eq]
  rfl

lemma trail_node (p : Option ℕ) :
    (node bs outputs p).trail = slice outputs (first bs p) (last bs outputs.length p) := by
  rw [node_eq]
  rfl

variable (bs) in
/-- The groups of one name that open directly in another one, or on the top level, in order. -/
def named (p : Option ℕ) (n : String) : List ℕ :=
  (children bs p).filter fun c => name? bs c = some n

variable {p : Option ℕ} {s c : ℕ} {n : String}

lemma mem_named_iff : c ∈ named bs p n ↔ name? bs c = some n ∧ parent? bs c = p := by
  rw [named, List.mem_filter, mem_children_iff, decide_eq_true_eq]
  constructor
  · rintro ⟨⟨_, hp⟩, hn⟩
    exact ⟨hn, hp⟩
  · rintro ⟨hn, hp⟩
    exact ⟨⟨⟨n, hn⟩, hp⟩, hn⟩

lemma nodup_named : (named bs p n).Nodup := (nodup_children p).filter _

/-- Sorting the groups by name keeps those of one name in order. -/
theorem group_node (p : Option ℕ) (n : String) :
    (node bs outputs p).group n = (named bs p n).map fun c => node bs outputs (some c) := by
  have hgroup : ∀ l : List (String × Match (List ο)),
      (l.filterMap fun g => if g.1 = n then some g.2 else none) =
        (l.filter fun g => g.1 = n).map Prod.snd := by
    intro l
    induction l with
    | nil => rfl
    | cons g l ih => by_cases h : g.1 = n <;> simp [h, ih]
  have hgroups : (node bs outputs p).groups =
      sortGroups ((children bs p).map (entry bs outputs)) := by
    rw [node_eq]
    rfl
  refine (hgroup _).trans ?_
  rw [hgroups, filter_sortGroups, List.filter_map, List.map_map, named]
  have hfilter : (children bs p).filter ((fun g => g.1 = n) ∘ entry bs outputs) =
      (children bs p).filter fun c => name? bs c = some n := by
    refine List.filter_congr fun c hc => ?_
    obtain ⟨⟨n', hn'⟩, _⟩ := mem_children_iff.1 hc
    simp [entry, hn']
  rw [hfilter]
  rfl

/-! ## Addresses -/

variable (bs) in
/-- Where the node of a group stands in the tree: on each level the name of a group and its number
among those with this name. -/
def address : Option ℕ → List (String × ℕ)
  | none => []
  | some s =>
    address (parent? bs s) ++
      [((name? bs s).getD "", (named bs (parent? bs s) ((name? bs s).getD "")).idxOf s)]
termination_by p => p.elim 0 (· + 1)
decreasing_by
  cases hp : parent? bs s with
  | none =>
      simp only [Option.elim]
      omega
  | some q =>
      have hlt := lt_of_parent? hp
      simp only [Option.elim]
      omega

lemma address_some (hn : name? bs s = some n) :
    address bs (some s) =
      address bs (parent? bs s) ++ [(n, (named bs (parent? bs s) n).idxOf s)] := by
  rw [address, hn]
  rfl

lemma address_eq_nil_iff : address bs p = [] ↔ p = none := by
  cases p with
  | none => simp [address]
  | some s => rw [address]; simp

/-- A parent is the whole trail or a group. -/
lemma exists_name_of_parent? (s : ℕ) {q : ℕ} (h : parent? bs s = some q) :
    ∃ n, name? bs q = some n :=
  exists_name_of_mem_opened (mem_opened_of_parent? h)

/-- At the address of a group stands its node. -/
lemma occurrence?_address (hp : ∀ s, p = some s → ∃ n, name? bs s = some n) :
    (node bs outputs none).occurrence? (address bs p) = some (node bs outputs p) := by
  induction hk : p.elim 0 (· + 1) using Nat.strongRecOn generalizing p with
  | ind k ih =>
      cases p with
      | none =>
          rw [address]
          rfl
      | some s =>
          obtain ⟨n, hn⟩ := hp s rfl
          have hparent : (node bs outputs none).occurrence? (address bs (parent? bs s)) =
              some (node bs outputs (parent? bs s)) := by
            refine ih _ ?_ (fun q hq => exists_name_of_parent? s hq) rfl
            subst hk
            cases hq : parent? bs s with
            | none => exact Nat.succ_pos s
            | some q => exact Nat.succ_lt_succ (lt_of_parent? hq)
          have hmem : s ∈ named bs (parent? bs s) n := mem_named_iff.2 ⟨hn, rfl⟩
          rw [address_some hn, Match.occurrence?_append, hparent, Option.bind_some,
            Match.occurrence?_singleton, group_node, List.getElem?_map,
            List.getElem?_idxOf hmem]
          rfl

/-- Groups with the same address are the same, by induction over the one that opened later. -/
lemma address_injective {p q : Option ℕ} (hp : ∀ s, p = some s → ∃ n, name? bs s = some n)
    (hq : ∀ s, q = some s → ∃ n, name? bs s = some n) (h : address bs p = address bs q) :
    p = q := by
  induction hk : p.elim 0 (· + 1) using Nat.strongRecOn generalizing p q with
  | ind k ih =>
      cases p with
      | none => exact (address_eq_nil_iff.1 (h.symm.trans (address_eq_nil_iff.2 rfl))).symm
      | some s =>
          cases q with
          | none => exact address_eq_nil_iff.1 (h.trans (address_eq_nil_iff.2 rfl))
          | some s' =>
              obtain ⟨n, hn⟩ := hp s rfl
              obtain ⟨n', hn'⟩ := hq s' rfl
              rw [address_some hn, address_some hn'] at h
              obtain ⟨hfront, hlast⟩ := List.append_inj' h rfl
              have hparent : parent? bs s = parent? bs s' := by
                refine ih _ ?_ (fun q hq => exists_name_of_parent? s hq)
                  (fun q hq => exists_name_of_parent? s' hq) hfront rfl
                subst hk
                cases hq : parent? bs s with
                | none => exact Nat.succ_pos s
                | some q => exact Nat.succ_lt_succ (lt_of_parent? hq)
              simp only [List.cons.injEq, Prod.mk.injEq, and_true] at hlast
              obtain ⟨rfl, hidx⟩ := hlast
              rw [← hparent] at hidx
              have hmem : s ∈ named bs (parent? bs s) n := mem_named_iff.2 ⟨hn, rfl⟩
              rw [(List.idxOf_inj hmem).1 hidx]

/-- Every occurrence in the tree is the node of a group, by induction over its address. -/
lemma exists_address {a : List (String × ℕ)} {g : Match (List ο)}
    (h : (node bs outputs none).occurrence? a = some g) :
    ∃ p : Option ℕ, (∀ s, p = some s → ∃ n, name? bs s = some n) ∧ address bs p = a := by
  induction a using List.reverseRecOn generalizing g with
  | nil => exact ⟨none, by simp, by rw [address]⟩
  | append_singleton a step ih =>
      obtain ⟨n, i⟩ := step
      rw [Match.occurrence?_append, Option.bind_eq_some_iff] at h
      obtain ⟨g', hg', hg⟩ := h
      obtain ⟨p, hp, rfl⟩ := ih hg'
      obtain rfl := Option.some.inj ((occurrence?_address outputs hp).symm.trans hg')
      rw [Match.occurrence?_singleton, group_node, List.getElem?_map, Option.map_eq_some_iff] at hg
      obtain ⟨s, hs, _⟩ := hg
      obtain ⟨hn, hparent⟩ := mem_named_iff.1 (List.mem_of_getElem? hs)
      refine ⟨some s, ?_, ?_⟩
      · rintro _ ⟨⟩
        exact ⟨n, hn⟩
      · obtain ⟨hi, rfl⟩ := List.getElem?_eq_some_iff.1 hs
        rw [address_some hn, hparent, nodup_named.idxOf_getElem i hi]

/-- The occurrences in the tree are the nodes of the groups, each at its own address. -/
theorem bijOn_address (bs : Boundaries) (outputs : List ο) :
    Set.BijOn (fun s => address bs (some s)) {s | ∃ n, name? bs s = some n}
      {a | a ≠ [] ∧ ∃ g, (node bs outputs none).occurrence? a = some g} := by
  refine ⟨fun s hs => ?_, fun s hs s' hs' h => ?_, fun a ha => ?_⟩
  · refine ⟨fun hnil => ?_, _, occurrence?_address outputs ?_⟩
    · exact absurd (address_eq_nil_iff.1 hnil) (by simp)
    · rintro _ ⟨⟩
      exact hs
  · refine Option.some.inj (address_injective ?_ ?_ h)
    · rintro _ ⟨⟩
      exact hs
    · rintro _ ⟨⟩
      exact hs'
  · obtain ⟨hne, g, hg⟩ := ha
    obtain ⟨p, hp, rfl⟩ := exists_address outputs hg
    cases p with
    | none => exact absurd (address_eq_nil_iff.2 rfl) hne
    | some s => exact ⟨s, hp s rfl, rfl⟩

end Brackets

end TokenPattern
