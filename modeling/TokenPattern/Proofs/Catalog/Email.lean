import TokenPattern.Proofs.Catalog.DomainName
import TokenPattern.Proofs.Position.Automaton
import TokenPattern.Proofs.Program.Splits

/-!
# Where an address is split

An address is a mailbox and a domain name with the sign `@` between them.  The sign is in neither of
them, so an address is split in one way, and it has one match: the groups `user` and `domain` hold what
stands in front of the sign and behind it (`joinedMatches_email`).

**Groups without groups.**  Inside its two groups a match of an address crosses no boundaries.  The
first group is closed in front of the sign; the second one is open when the trail ends, and goes up to
its end (`reconstruct_of_bare`).
-/

namespace TokenPattern

universe u

/-! ## Words without boundaries -/

/-- A word without letters is made of its leaves. -/
lemma eq_map_inr_of_letters {α : Type u} {t : List (Marker ⊕ α)} (h : letters t = []) :
    t = (t.flatMap Marker.forget).map .inr := by
  induction t with
  | nil => rfl
  | cons k t ih =>
      cases k with
      | inl m => cases h
      | inr l => exact congrArg (Sum.inr l :: ·) (ih h)

section

variable {ο : Type} {α : Type u} {outputs : List ο}

/-- Leaves change nothing in a replay. -/
lemma Replay.word_map_inr (position : Nat) (r : Replay ο) (z : List α) :
    Replay.word outputs position r (z.map .inr : List (Marker ⊕ α)) = .ok r := by
  induction z generalizing position with
  | nil => rfl
  | cons l z ih => exact ih (position + 1)

lemma forget_map_inr (z : List α) :
    (z.map .inr : List (Marker ⊕ α)).flatMap Marker.forget = z := by
  rw [List.flatMap_map]
  exact List.flatMap_singleton' z

/-- **Two groups without groups**, the second of which opens last, with leaves between them. -/
lemma reconstruct_of_bare {trail : List (TrailItem ο)} {s : List (List Marker × α)}
    {last : List Marker} {x y : String} {us mid ds : List α} (hds : ds ≠ [])
    (hs : trail.map TrailItem.markers = s.map Prod.fst)
    (hword : spell s ++ last.map .inl =
      Marker.around x (us.map .inr) ++ mid.map .inr ++ Marker.around y (ds.map .inr)) :
    reconstruct trail = .ok (.mk 0 (trail.map TrailItem.output) (sortGroups
      [(x, .mk 0 (slice (trail.map TrailItem.output) 0 us.length) []),
        (y, .mk (us.length + mid.length) (slice (trail.map TrailItem.output)
          (us.length + mid.length) (trail.map TrailItem.output).length) [])])) := by
  set outputs := trail.map TrailItem.output with houtputs
  obtain ⟨d, ds, rfl⟩ := List.exists_cons_of_ne_nil hds
  obtain ⟨s', hs'⟩ := exists_spell_append (s := ([], d) :: ds.map fun l => ([], l))
    (Marker.around x (us.map .inr) ++ mid.map .inr ++ [.inl (.start y)]) (List.cons_ne_nil _ _)
  have hbare : spell (([], d) :: ds.map fun l => (([] : List Marker), l)) = (d :: ds).map .inr :=
    spell_bare (d :: ds)
  rw [hbare] at hs'
  obtain ⟨rfl, -⟩ : s = s' ∧ last = [.stop y] :=
    spell_append_inj (by simp [hs', hword, Marker.around])
  have hfirst : Replay.word outputs 0 Replay.initial (Marker.around x (us.map .inr)) =
      .ok ⟨[(x, Replay.closed outputs (0 + us.length) ⟨x, 0, []⟩)], []⟩ := by
    have hbare : Replay.word outputs 0 ⟨[], [⟨x, 0, []⟩]⟩ (us.map .inr) =
        .ok (Replay.addAll ⟨[], [⟨x, 0, []⟩]⟩ []) := Replay.word_map_inr 0 _ us
    have hgroup := Replay.word_group (r := .initial) hbare
    rwa [forget_map_inr] at hgroup
  have hreplay : Replay.word outputs 0 Replay.initial (spell s) =
      .ok ⟨[(x, Replay.closed outputs (0 + us.length) ⟨x, 0, []⟩)],
        [⟨y, us.length + mid.length, []⟩]⟩ := by
    rw [hs', List.append_assoc, List.append_assoc, Replay.word_append, hfirst]
    rw [forget_around, forget_map_inr]
    show Replay.word _ _ _ (mid.map .inr ++ ([.inl (.start y)] ++ (d :: ds).map .inr)) = _
    rw [Replay.word_append, Replay.word_map_inr, forget_map_inr, Nat.zero_add]
    exact Replay.word_map_inr _ _ (d :: ds)
  refine (reconstruct_of_word hs hreplay).trans ?_
  rw [Nat.zero_add, Replay.finish, Replay.closeAll]
  rfl

end

/-! ## Leaves that yield their tokens -/

section

variable {τ : Type}

/-- Whether a matcher yields nothing but the token itself. -/
def Matcher.Keeps (m : Matcher τ τ) : Prop := ∀ t, ∀ o ∈ m.outputs t, o = t

lemma Matcher.keeps_passing (text : String) (test : τ → Bool) : (passing text test).Keeps := by
  intro t o ho
  rw [outputs_passing] at ho
  split_ifs at ho with htest
  · exact List.mem_singleton.1 ho
  · exact absurd ho List.not_mem_nil

@[simp] lemma Matcher.keeps_exact [DecidableEq τ] [Diagnostic τ] (t : τ) : (exact t).Keeps :=
  keeps_passing _ _

@[simp] lemma Matcher.keeps_inSet [DecidableEq τ] [Diagnostic τ] (values : List τ) :
    (inSet values).Keeps :=
  keeps_passing _ _

@[simp] lemma Matcher.keeps_charClass (c : CharClass) : (charClass c).Keeps := keeps_passing _ _

/-- If all leaves do so, the outputs of a trail are the input. -/
lemma map_output_of_keeps {e : Expr (Matcher τ τ)} (h : ∀ m ∈ e.leaves, m.Keeps) {input : List τ}
    {trail : List (TrailItem τ)} (htrail : trail ∈ acceptingTrails (Graph.ofExpr e) input) :
    trail.map TrailItem.output = input := by
  have hfrom : ∀ {p}, trail ∈ trailsFrom (Graph.ofExpr e) p input →
      trail.map TrailItem.output = input := by
    clear htrail
    induction input generalizing trail with
    | nil =>
        intro p htrail
        obtain rfl := List.mem_singleton.1 htrail
        rfl
    | cons t rest ih =>
        intro p htrail
        simp only [trailsFrom, List.mem_flatMap, List.mem_map] at htrail
        obtain ⟨m, hm, o, ho, trail, htrail, rfl⟩ := htrail
        obtain ⟨k, _, _, hleaf⟩ := Graph.exists_leaf_of_matcher? (Graph.mem_moves.1 hm).2
        obtain rfl := h m.2 (List.mem_of_getElem? hleaf) t o ho
        exact congrArg (o :: ·) (ih htrail)
  exact hfrom (List.mem_of_mem_filter htrail)

end

namespace Catalog

open scoped Computability

variable {w : List Char}

/-! ## Mailboxes -/

/-- Whether a character may stand between the runs of a mailbox. -/
def splitsMailbox (c : Char) : Bool := c ∈ ['+', '.']

/-- Runs of letters and digits with single plus signs and dots between them. -/
def IsMailbox (user : List Char) : Prop :=
  ∀ run ∈ user.splitOnP splitsMailbox, 1 ≤ run.length ∧ run.all Char.isAlphanum = true

instance : DecidablePred IsMailbox := fun user =>
  inferInstanceAs (Decidable (∀ run ∈ user.splitOnP splitsMailbox,
    1 ≤ run.length ∧ run.all Char.isAlphanum = true))

lemma isMailbox_iff : IsMailbox w ↔ w ∈ mailbox.language := by
  have hruns : ∀ v ∈ alnums.language, ∀ c ∈ v, splitsMailbox c = false := by
    intro v hv
    have houtside : ∀ m ∈ alnums.leaves, ∀ c, splitsMailbox c = true → m.outputs c = [] := by
      have hsplits : ∀ m ∈ alnums.leaves, m.outputs '+' = [] ∧ m.outputs '.' = [] := by decide
      intro m hm c hc
      obtain rfl | rfl : c = '+' ∨ c = '.' := by simpa [splitsMailbox] using hc
      · exact (hsplits m hm).1
      · exact (hsplits m hm).2
    exact Expr.forall_mem_eq_false houtside hv
  have hlanguage : mailbox.language =
      alnums.language * (separators splitsMailbox * alnums.language)∗ := by
    rw [← Expr.language_leaf_passing]
    rfl
  rw [hlanguage, mem_separated_iff hruns]
  simp only [alnums, many, mem_language_alnums]
  rfl

/-! ## Addresses -/

lemma keeps_alnums : ∀ m ∈ alnums.leaves, m.Keeps := by
  simp [alnums, many, one, Expr.leaves]

lemma keeps_email : ∀ m ∈ email.leaves, m.Keeps := by
  simpa [email, mailbox, domainName, domainLabel, one, char, lit, or_imp, forall_and, Expr.leaves,
    Expr.leaves_chainFrom] using keeps_alnums

lemma captureFree_mailbox : mailbox.captureFree = true := rfl

lemma captureFree_domainName : domainName.captureFree = true := rfl

/-- What a word of the graph has in the groups, and between them. -/
lemma exists_of_mem_markedWords {t : List (Marker ⊕ Matcher Char Char)}
    (ht : t ∈ (Graph.ofExpr email).markedWords) :
    ∃ us ∈ mailbox.words, ∃ sign ∈ (lit '@').words, ∃ ds ∈ domainName.words,
      t = Marker.around "user" (us.map .inr) ++ sign.map .inr ++
        Marker.around "domain" (ds.map .inr) := by
  obtain ⟨_, ⟨_, ⟨_, ⟨_, rfl, tu, htu, rfl⟩, _, rfl, rfl⟩, ts, hts, rfl⟩, _,
    ⟨_, ⟨_, rfl, td, htd, rfl⟩, _, rfl, rfl⟩, rfl⟩ := Graph.markedWords_ofExpr_le email ht
  refine ⟨_, Expr.forget_mem_words htu, _, Expr.forget_mem_words hts, _,
    Expr.forget_mem_words htd, ?_⟩
  rw [← eq_map_inr_of_letters (Expr.letters_eq_nil captureFree_mailbox htu),
    ← eq_map_inr_of_letters (Expr.letters_eq_nil (e := lit '@') rfl hts),
    ← eq_map_inr_of_letters (Expr.letters_eq_nil captureFree_domainName htd)]
  rfl

/-- The match of an address, given its parts. -/
def addressMatch (user domain : List Char) : Match (List Char) :=
  .mk 0 (user ++ '@' :: domain)
    [("domain", .mk (user.length + 1) domain []), ("user", .mk 0 user [])]

/-- **Every trail is split at a sign**, and this split is what is reconstructed from it. -/
lemma exists_split_of_trail {trail : List (TrailItem Char)}
    (htrail : trail ∈ acceptingTrails (Graph.ofExpr email) w) :
    ∃ user domain, w = user ++ '@' :: domain ∧ user ∈ mailbox.language ∧
      domain ∈ domainName.language ∧ reconstruct trail = .ok (addressMatch user domain) := by
  obtain ⟨s, last, hmem, haccepts, hs⟩ := exists_acceptingTrail_iff.1 ⟨trail, htrail, rfl⟩
  obtain ⟨us, hus, sign, hsign, ds, hds, hword⟩ := exists_of_mem_markedWords hmem
  have hleaves : s.map Prod.snd = us ++ sign ++ ds := by
    rw [← forget_spell s last, hword, List.flatMap_append, List.flatMap_append, forget_around,
      forget_around, forget_map_inr, forget_map_inr, forget_map_inr]
  rw [hleaves] at haccepts
  obtain ⟨front, domain, hfront, hdomain, rfl⟩ := accepts_append_left.1 haccepts
  obtain ⟨user, middle, huser, hmiddle, rfl⟩ := accepts_append_left.1 hfront
  obtain rfl : middle = ['@'] :=
    mem_language_lit.1 ((mem_language_iff (lit '@') middle).2 ⟨sign, hsign, hmiddle⟩)
  have hds' : ds ≠ [] := by
    rintro rfl
    exact absurd ((Expr.nullable_iff_nil_mem_words domainName).2 hds) (by decide)
  have hslice := slice_middle [] user ('@' :: domain)
  have hslice' := slice_middle (user ++ ['@']) domain []
  refine ⟨user, domain, by simp, (mem_language_iff _ _).2 ⟨us, hus, huser⟩,
    (mem_language_iff _ _).2 ⟨ds, hds, hdomain⟩, ?_⟩
  rw [reconstruct_of_bare hds' hs.symm hword, map_output_of_keeps keeps_email htrail,
    huser.length_eq, hmiddle.length_eq]
  rw [List.append_nil] at hslice'
  simp only [List.nil_append, List.length_nil, Nat.zero_add] at hslice
  have houtputs : user ++ ['@'] ++ domain = user ++ '@' :: domain := by simp
  have hlength : (user ++ ['@'] ++ domain).length = (user ++ ['@']).length + domain.length :=
    List.length_append
  have hsign : (user ++ ['@']).length = user.length + ['@'].length := List.length_append
  have hsorted : "domain" < "user" := by decide
  rw [hlength, ← hsign, hslice', houtputs, hslice, hsign]
  simp [addressMatch, sortGroups, insertGroup, hsorted]

/-- The sign is in neither part, so an address is split in one way. -/
lemma eq_of_split {user domain user' domain' : List Char} (huser : user ∈ mailbox.language)
    (hdomain : domain ∈ domainName.language)
    (h : user ++ '@' :: domain = user' ++ '@' :: domain') : user = user' ∧ domain = domain' := by
  have hsign : ∀ {e : CharPattern} {v}, (∀ m ∈ e.leaves, m.outputs '@' = []) →
      v ∈ e.language → '@' ∉ v := by
    intro e v hleaves hv hmem
    exact absurd (forall_mem_ne_of_leaves hleaves hv '@' hmem) (by decide)
  obtain ⟨rfl, -, rfl⟩ := (List.append_cons_inj_of_notMem (hsign (by decide) huser)
    (hsign (by decide) hdomain)).1 h
  exact ⟨rfl, rfl⟩

/-- The matches of an address, before their trails are joined. -/
lemma allMatches_email (w : List Char) :
    ∃ ms, (Program.compile email).allMatches w = .ok ms ∧
      (ms ≠ [] ↔ ∃ user domain, w = user ++ '@' :: domain ∧ user ∈ mailbox.language ∧
        domain ∈ domainName.language) ∧
      ∀ user domain, w = user ++ '@' :: domain → user ∈ mailbox.language →
        domain ∈ domainName.language → ms = [addressMatch user domain] := by
  have hunambiguous : Unambiguous email :=
    unambiguous_of_rivals isTame_email (by decide) (by decide) rivals_email
  obtain ⟨-, ms, hms, hlength⟩ := hunambiguous w
  have hlanguage : ∀ user domain, user ∈ mailbox.language → domain ∈ domainName.language →
      user ++ '@' :: domain ∈ email.language := by
    intro user domain huser hdomain
    rw [← List.singleton_append, ← List.append_assoc]
    exact Language.append_mem_mul
      (Language.append_mem_mul huser (mem_language_lit.2 rfl)) hdomain
  have hmem : ∀ user domain, w = user ++ '@' :: domain → user ∈ mailbox.language →
      domain ∈ domainName.language → addressMatch user domain ∈ ms := by
    rintro user domain rfl huser hdomain
    obtain ⟨trail, htrail⟩ :=
      (exists_trail_iff_mem_language email _).2 (hlanguage user domain huser hdomain)
    obtain ⟨user', domain', hw, huser', hdomain', hreconstruct⟩ := exists_split_of_trail htrail
    obtain ⟨rfl, rfl⟩ := eq_of_split huser hdomain hw
    exact (mem_allMatches_iff email hms _).2 ⟨trail, htrail, hreconstruct⟩
  refine ⟨ms, hms, ⟨fun hne => ?_, ?_⟩, ?_⟩
  · obtain ⟨m, hm⟩ := List.exists_mem_of_ne_nil ms hne
    obtain ⟨trail, htrail, -⟩ := (mem_allMatches_iff email hms m).1 hm
    obtain ⟨user, domain, hw, huser, hdomain, -⟩ := exists_split_of_trail htrail
    exact ⟨user, domain, hw, huser, hdomain⟩
  · rintro ⟨user, domain, hw, huser, hdomain⟩
    exact List.ne_nil_of_mem (hmem user domain hw huser hdomain)
  · intro user domain hw huser hdomain
    obtain ⟨m, rfl⟩ := List.length_eq_one_iff.1 (Nat.le_antisymm hlength
      (List.length_pos_of_mem (hmem user domain hw huser hdomain)))
    rw [List.mem_singleton.1 (hmem user domain hw huser hdomain)]

lemma isMatch_domainName_iff_mem (domain : List Char) :
    (Program.compile domainName).isMatch domain = .ok true ↔ domain ∈ domainName.language := by
  have hunambiguous : Unambiguous domainName :=
    unambiguous_of_rivals isTame_domainName (by decide) (by decide) rivals_domainName
  obtain ⟨verdict, hmatch, hverdict⟩ := hunambiguous.exists_isMatch domain
  exact (verdict_iff hmatch hverdict).1

/-- **An address is split at its sign into a mailbox and a domain name**, with the default limits and
without an error for any text.  It has one match, which holds all of it, and in this match one group
for each part, with no groups inside. -/
theorem joinedMatches_email (text : String) :
    ∃ ms, (Program.compile email).joinedMatches text.toList = .ok ms ∧
      (ms ≠ [] ↔ ∃ user domain : String, text = user ++ "@" ++ domain ∧ IsMailbox user.toList ∧
        (Program.compile domainName).isMatch domain.toList = .ok true) ∧
      ∀ user domain : String, text = user ++ "@" ++ domain → IsMailbox user.toList →
        (Program.compile domainName).isMatch domain.toList = .ok true →
          ms = [.mk 0 text
            [("domain", .mk (user.length + 1) domain []), ("user", .mk 0 user [])]] := by
  obtain ⟨ms, hms, hne, hone⟩ := allMatches_email text.toList
  have hsplit : ∀ user domain : String,
      text = user ++ "@" ++ domain ↔ text.toList = user.toList ++ '@' :: domain.toList := by
    intro user domain
    rw [← String.toList_inj]
    simp
  simp only [isMailbox_iff, isMatch_domainName_iff_mem, hsplit]
  refine ⟨ms.map Match.joined, ?_, ?_, ?_⟩
  · rw [Program.joinedMatches, hms]
    rfl
  · rw [Ne, List.map_eq_nil_iff, ← Ne, hne]
    constructor
    · rintro ⟨user, domain, h⟩
      exact ⟨.ofList user, .ofList domain, by simpa only [String.toList_ofList] using h⟩
    · rintro ⟨user, domain, h⟩
      exact ⟨user.toList, domain.toList, h⟩
  · intro user domain hw huser hdomain
    rw [hone _ _ hw huser hdomain, List.map_singleton, Match.joined, addressMatch, ← hw]
    simp [Match.mapTrail, Match.mapGroups, Joins.join, String.length_toList]

/-- A mailbox of two runs. -/
theorem joinedMatches_email_two_runs :
    ("a+b@c.de" = "a+b" ++ "@" ++ "c.de" ∧ IsMailbox "a+b".toList ∧
      (Program.compile domainName).isMatch "c.de".toList = .ok true) ∧
      (Program.compile email).joinedMatches "a+b@c.de".toList = .ok [.mk 0 "a+b@c.de"
        [("domain", .mk 4 "c.de" []), ("user", .mk 0 "a+b" [])]] := by
  have hmailbox : IsMailbox "a+b".toList := by decide
  have hdomain : (Program.compile domainName).isMatch "c.de".toList = .ok true :=
    (isMatch_domainName_iff_mem _).2 (isDomainName_iff.1 (by decide))
  obtain ⟨ms, hms, -, hone⟩ := joinedMatches_email "a+b@c.de"
  refine ⟨⟨rfl, hmailbox, hdomain⟩, ?_⟩
  rw [hms, hone "a+b" "c.de" rfl hmailbox hdomain]
  rfl

end Catalog

end TokenPattern
