import Courier.Command.Run
import Courier.Http.Web
import Courier.Proofs.Collection.Row
import Courier.Proofs.Collection.Step
import Courier.Proofs.Http.Document
import Courier.Proofs.Rdf.Pattern
import Mathlib.Data.List.Basic

/-!
# Asking several groups at once

Whoever should be let in has to be a member of some group.  The groups are asked all at once, and
their answers come in whatever order the delays bring about, some maybe before the last group is
asked; the first confirmation ends it.  A step of this (`Asking.Step`) leaves open which answer is
the next one, so what holds of every way to take steps holds for all delays.

Whichever way it goes, the groups that could still confirm, together with the confirmation that has
come, amount to the same (`Asking.Step.mayConfirm_eq`).  So all ways end with the same verdict,
which is also that of the groups asked one after the other (`Fetcher.authorize_asking`).
-/

namespace Courier

/-- Asking whether a person is a member of some group, under way. -/
structure Asking where
  /-- The groups that have not been asked, in order. -/
  unasked : List Iri
  /-- The groups that were asked and have not answered. -/
  waiting : List Iri := []
  /-- The requests made so far, in order. -/
  requests : List Request := []
  /-- Whether a group has confirmed. -/
  confirmed : Bool := false

namespace Asking

/-- A step of asking about the person.  None is left once a group has confirmed. -/
inductive Step (f : Fetcher) (person : Iri) : Asking → Asking → Prop where
  /-- The next group is asked. -/
  | ask (group : Iri) (rest waiting : List Iri) (requests : List Request) :
      Step f person ⟨group :: rest, waiting, requests, false⟩
        ⟨rest, waiting ++ [group], requests ++ [group.documentRequest], false⟩
  /-- The answer of a group arrives, of whichever group this may be. -/
  | answer (unasked before after : List Iri) (group : Iri) (requests : List Request) :
      Step f person ⟨unasked, before ++ group :: after, requests, false⟩
        ⟨unasked, before ++ after, requests, f.isMember person group⟩

/-- Whether asking the groups about the person may lead to this. -/
def Asks (f : Fetcher) (person : Iri) (groups : List Iri) : Asking → Prop :=
  Relation.ReflTransGen (Step f person) { unasked := groups }

/-- Whether asking the groups about the person may end with this: no step is left. -/
def IsOutcome (f : Fetcher) (person : Iri) (groups : List Iri) (s : Asking) : Prop :=
  Asks f person groups s ∧ ∀ t, ¬ Step f person s t

/-- Whether a group has confirmed, or one that has not answered will. -/
def mayConfirm (f : Fetcher) (person : Iri) (s : Asking) : Bool :=
  s.confirmed || (s.waiting ++ s.unasked).any (f.isMember person)

/-- What is left to do, with two steps for a group that was not asked and one for a group that has
not answered. -/
def left (s : Asking) : Nat :=
  2 * s.unasked.length + s.waiting.length

variable {f : Fetcher} {person : Iri} {groups : List Iri} {s t : Asking}

/-- No step changes what the groups amount to. -/
lemma Step.mayConfirm_eq (h : Step f person s t) :
    mayConfirm f person t = mayConfirm f person s := by
  unfold mayConfirm
  cases h with
  | ask group rest waiting requests =>
    rw [List.append_assoc, List.singleton_append]
  | answer unasked before after group requests =>
    simp only [List.any_append, List.any_cons, Bool.false_or]
    cases f.isMember person group <;> simp

/-- No step changes the row of the requests made and those still to be made. -/
lemma Step.requests_eq (h : Step f person s t) :
    t.requests ++ t.unasked.map Iri.documentRequest =
      s.requests ++ s.unasked.map Iri.documentRequest := by
  cases h with
  | ask group rest waiting requests =>
    rw [List.map_cons, List.append_assoc, List.singleton_append]
  | answer unasked before after group requests => rfl

/-- Every step leaves less to do. -/
lemma Step.left_lt (h : Step f person s t) : t.left < s.left := by
  cases h with
  | ask group rest waiting requests =>
    simp only [left, List.length_cons, List.length_append, List.length_nil]
    omega
  | answer unasked before after group requests =>
    simp only [left, List.length_cons, List.length_append]
    omega

lemma Asks.mayConfirm_eq (h : Asks f person groups s) :
    mayConfirm f person s = groups.any (f.isMember person) := by
  induction h with
  | refl => rfl
  | tail _ hstep ih => rw [hstep.mayConfirm_eq, ih]

lemma Asks.requests_eq (h : Asks f person groups s) :
    s.requests ++ s.unasked.map Iri.documentRequest = groups.map Iri.documentRequest := by
  induction h with
  | refl => rfl
  | tail _ hstep ih => rw [hstep.requests_eq, ih]

/-- Asking does not go on forever. -/
lemma not_exists_endless (f : Fetcher) (person : Iri) :
    ¬ ∃ states : Nat → Asking, ∀ n, Step f person (states n) (states (n + 1)) :=
  not_exists_endless_of_left fun _ _ => Step.left_lt

/-- From wherever it is, asking may go on to an end. -/
lemma Asks.exists_outcome (h : Asks f person groups s) :
    ∃ last, Relation.ReflTransGen (Step f person) s last ∧ IsOutcome f person groups last := by
  have hleft : ∀ s t, Step f person s t → t.left < s.left := fun _ _ => Step.left_lt
  obtain ⟨last, hreaches, hlast⟩ := exists_last_of_left hleft s
  exact ⟨last, hreaches, h.trans hreaches, hlast⟩

/-- No step is left exactly if a group has confirmed or all have answered. -/
lemma forall_not_step_iff :
    (∀ t, ¬ Step f person s t) ↔ s.confirmed = true ∨ s.unasked = [] ∧ s.waiting = [] := by
  obtain ⟨unasked, waiting, requests, confirmed⟩ := s
  constructor
  · intro h
    cases confirmed with
    | true => exact Or.inl rfl
    | false =>
      refine Or.inr ⟨?_, ?_⟩
      · cases unasked with
        | nil => rfl
        | cons group rest => exact absurd (.ask group rest waiting requests) (h _)
      · cases waiting with
        | nil => rfl
        | cons group after => exact absurd (.answer unasked [] after group requests) (h _)
  · rintro h t hstep
    cases hstep with
    | ask group rest waiting requests =>
      rcases h with h | ⟨h, -⟩
      · cases h
      · cases h
    | answer unasked before after group requests =>
      rcases h with h | ⟨-, h⟩
      · cases h
      · simp at h

/-- Asking ends with a confirmation exactly if some group confirms. -/
lemma IsOutcome.confirmed_eq (h : IsOutcome f person groups s) :
    s.confirmed = groups.any (f.isMember person) := by
  rw [← h.1.mayConfirm_eq]
  unfold mayConfirm
  rcases forall_not_step_iff.1 h.2 with hconfirmed | ⟨hunasked, hwaiting⟩
  · rw [hconfirmed, Bool.true_or]
  · rw [hunasked, hwaiting, List.append_nil, List.any_nil, Bool.or_false]

/-! ### Some ways that asking may go -/

/-- Groups may be asked one after the other before any of them answers. -/
lemma reaches_asked (front back waiting : List Iri) (requests : List Request) :
    Relation.ReflTransGen (Step f person) ⟨front ++ back, waiting, requests, false⟩
      ⟨back, waiting ++ front, requests ++ front.map Iri.documentRequest, false⟩ := by
  induction front generalizing waiting requests with
  | nil =>
    rw [List.nil_append, List.append_nil, List.map_nil, List.append_nil]
  | cons group front ih =>
    have hrest := ih (waiting ++ [group]) (requests ++ [group.documentRequest])
    rw [List.append_assoc, List.singleton_append, List.append_assoc,
      List.singleton_append] at hrest
    exact .head (.ask group (front ++ back) waiting requests) hrest

/-- If none of the groups that were asked confirms, they may all answer. -/
lemma reaches_answered {waiting : List Iri} (h : waiting.any (f.isMember person) = false)
    (unasked : List Iri) (requests : List Request) :
    Relation.ReflTransGen (Step f person) ⟨unasked, waiting, requests, false⟩
      ⟨unasked, [], requests, false⟩ := by
  induction waiting with
  | nil => exact .refl
  | cons group waiting ih =>
    rw [List.any_cons, Bool.or_eq_false_iff] at h
    have hstep : Step f person ⟨unasked, group :: waiting, requests, false⟩
        ⟨unasked, [] ++ waiting, requests, f.isMember person group⟩ :=
      .answer unasked [] waiting group requests
    rw [h.1] at hstep
    exact .head hstep (ih h.2)

/-- Asking may end when the first groups were asked, if one of them confirms or there are no
others. -/
lemma exists_outcome_of_append {front back : List Iri}
    (h : front.any (f.isMember person) = true ∨ back = []) :
    ∃ s, IsOutcome f person (front ++ back) s ∧ s.requests = front.map Iri.documentRequest := by
  have hasked : Asks f person (front ++ back)
      ⟨back, front, front.map Iri.documentRequest, false⟩ := reaches_asked front back [] []
  cases hany : front.any (f.isMember person) with
  | true =>
    obtain ⟨group, hgroup, hmember⟩ := List.any_eq_true.1 hany
    obtain ⟨before, after, rfl⟩ := List.append_of_mem hgroup
    have hanswer := hasked.tail (.answer back before after group _)
    rw [hmember] at hanswer
    exact ⟨_, ⟨hanswer, forall_not_step_iff.2 (Or.inl rfl)⟩, rfl⟩
  | false =>
    obtain rfl : back = [] := h.resolve_left (by simp [hany])
    have hanswered := hasked.trans (reaches_answered hany [] _)
    exact ⟨_, ⟨hanswered, forall_not_step_iff.2 (Or.inr ⟨rfl, rfl⟩)⟩, rfl⟩

end Asking

namespace Fetcher

open Asking

/-- Whether the group's document loads and states that the person is a member of the group. -/
def Confirms (f : Fetcher) (person group : Iri) : Prop :=
  ∃ ts, f.Loads 0 group ts ∧
    ⟨.iri group, ⟨"http://www.w3.org/2006/vcard/ns#hasMember"⟩, .iri person⟩ ∈ ts

variable {f : Fetcher} {person group : Iri} {groups : List Iri}

lemma matchesTriple_membershipPattern_iff {t : Triple} :
    (membershipPattern person group).matchesTriple t = true ↔
      t = ⟨.iri group, Vocabulary.hasMember, .iri person⟩ := by
  obtain ⟨subject, predicate, object⟩ := t
  have hsplit : (membershipPattern person group).matchesTriple ⟨subject, predicate, object⟩ = true ↔
      (Vocabulary.hasMember = predicate ∧ (.iri group == subject) = true) ∧
        (.iri person == object) = true := by
    simp [membershipPattern, Pattern.matchesTriple, Constraint.admits]
  rw [hsplit, Triple.mk.injEq]
  constructor
  · rintro ⟨⟨hpredicate, hsubject⟩, hobject⟩
    exact ⟨Term.eq_iri_of_beq hsubject, hpredicate.symm, Term.eq_iri_of_beq hobject⟩
  · rintro ⟨rfl, rfl, rfl⟩
    exact ⟨⟨rfl, BEq.rfl⟩, BEq.rfl⟩

/-- Exactly the groups that confirm count. -/
theorem isMember_iff : f.isMember person group = true ↔ f.Confirms person group := by
  unfold isMember Confirms
  simp only [← document_eq_ok_iff]
  cases f.document 0 group with
  | error e =>
    refine iff_of_false Bool.false_ne_true ?_
    rintro ⟨ts, h, -⟩
    cases h
  | ok ts =>
    have hany : ts.any (membershipPattern person group).matchesTriple = true ↔
        ⟨.iri group, Vocabulary.hasMember, .iri person⟩ ∈ ts := by
      simp only [List.any_eq_true, matchesTriple_membershipPattern_iff, exists_eq_right]
    refine hany.trans ⟨fun h => ⟨ts, rfl, h⟩, ?_⟩
    rintro ⟨us, hus, h⟩
    cases hus
    exact h

lemma any_isMember_iff :
    groups.any (f.isMember person) = true ↔ ∃ g ∈ groups, f.Confirms person g := by
  simp only [List.any_eq_true, isMember_iff]

lemma confirms_congr {other : Fetcher}
    (h : other.answer group.documentRequest = f.answer group.documentRequest) :
    other.Confirms person group ↔ f.Confirms person group := by
  unfold Confirms
  simp only [loads_congr h]

/-! ### Asking with delays -/

/-- The groups that are asked are the first ones; one of them confirms, or there are no others. -/
lemma exists_askedGroups_append (f : Fetcher) (person : Iri) (groups : List Iri) :
    ∃ others, groups = f.askedGroups person groups ++ others ∧
      ((f.askedGroups person groups).any (f.isMember person) = true ∨ others = []) := by
  unfold askedGroups
  rcases hspan : groups.span (!f.confirmsAtOnce person ·) with ⟨before, rest⟩
  obtain ⟨hgroups, -, hrest⟩ := eq_append_of_span hspan
  cases rest with
  | nil => exact ⟨[], by simpa using hgroups, Or.inr rfl⟩
  | cons group others =>
    have hconfirms : f.confirmsAtOnce person group = true := by
      simpa using hrest group rfl
    have hmember : f.isMember person group = true :=
      (Bool.and_eq_true_iff.1 hconfirms).2
    refine ⟨others, by simpa using hgroups, Or.inl ?_⟩
    simp [hmember]

/-- Asking with the delays as they are is one of the ways that asking may go. -/
lemma exists_outcome_isAnyMember (f : Fetcher) (person : Iri) (groups : List Iri) :
    ∃ s, IsOutcome f person groups s ∧
      s.requests = (f.isAnyMember person groups).requests ∧
      s.confirmed = (f.isAnyMember person groups).value := by
  obtain ⟨others, hgroups, hend⟩ := f.exists_askedGroups_append person groups
  obtain ⟨s, hs, hrequests⟩ := exists_outcome_of_append hend
  rw [← hgroups] at hs
  refine ⟨s, hs, hrequests, ?_⟩
  change _ = (f.askedGroups person groups).any (f.isMember person)
  rw [hs.confirmed_eq]
  conv_lhs => rw [hgroups]
  rcases hend with hany | rfl
  · rw [List.any_append, hany, Bool.true_or]
  · rw [List.append_nil]

lemma value_isAnyMember (f : Fetcher) (person : Iri) (groups : List Iri) :
    (f.isAnyMember person groups).value = groups.any (f.isMember person) := by
  obtain ⟨s, hs, -, hvalue⟩ := f.exists_outcome_isAnyMember person groups
  rw [← hvalue, hs.confirmed_eq]

/-! ### The verdict -/

/-- What comes of the question whether a person is let in. -/
lemma value_authorize (f : Fetcher) (person : Iri) (groups : List Iri) :
    (f.authorize person groups).value =
      if groups = [] ∨ groups.any (f.isMember person) = true then .ok ()
      else .error (.notMember person groups) := by
  cases groups with
  | nil => rfl
  | cons group groups =>
    rw [← value_isAnyMember]
    unfold authorize
    change (bind (f.isAnyMember person (group :: groups)) _ : Traced _).value = _
    change (Traced.value (if (f.isAnyMember person (group :: groups)).value = true
      then _ else _)) = _
    simp only [List.cons_ne_nil, false_or]
    split
    · rfl
    · rfl

lemma value_authorize_eq_ok_iff : (f.authorize person groups).value = .ok () ↔
    groups = [] ∨ ∃ g ∈ groups, f.Confirms person g := by
  rw [value_authorize, ← any_isMember_iff]
  split
  next h => exact iff_of_true rfl h
  next h => exact iff_of_false (fun hok => nomatch hok) h

/-- The groups asked are the first ones, each once. -/
lemma requests_authorize_prefix (f : Fetcher) (person : Iri) (groups : List Iri) :
    (f.authorize person groups).requests <+: groups.map Iri.documentRequest := by
  cases groups with
  | nil => exact List.prefix_refl _
  | cons group groups =>
    obtain ⟨others, hgroups, -⟩ := f.exists_askedGroups_append person (group :: groups)
    have hrequests : (f.authorize person (group :: groups)).requests =
        (f.askedGroups person (group :: groups)).map Iri.documentRequest := by
      unfold authorize
      change (_ ++ Traced.requests (if _ then _ else _)) = _
      split
      · exact List.append_nil _
      · exact List.append_nil _
    rw [hrequests]
    conv_rhs => rw [hgroups, List.map_append]
    exact List.prefix_append _ _

end Fetcher

/-! ### Reports on groups -/

namespace Command

variable {f : Fetcher} {person : Iri} {groups : List Iri}

/-- The last line of a report on groups says whether one of them confirms. -/
lemma exists_memberReport_eq (f : Fetcher) (person : Iri) (h : groups ≠ []) :
    ∃ lines, memberReport f person groups =
      lines ++ if groups.any (f.isMember person) = true then "\nallowed" else "\ndenied" := by
  unfold memberReport
  dsimp only
  rw [String.intercalate_append_of_ne_nil (by simpa using h) (List.cons_ne_nil _ _),
    String.intercalate_singleton, String.append_assoc]
  refine ⟨_, congrArg _ ?_⟩
  split
  · rfl
  · rfl

lemma append_allowed_ne (lines others : String) : lines ++ "\nallowed" ≠ others ++ "\ndenied" := by
  intro h
  have hlists := congrArg String.toList h
  rw [String.toList_append, String.toList_append] at hlists
  have hdenied : "\ndenied".toList <:+ lines.toList ++ "\nallowed".toList :=
    hlists ▸ List.suffix_append _ _
  have hends : "\ndenied".toList <:+ "\nallowed".toList :=
    List.suffix_of_suffix_length_le hdenied (List.suffix_append _ _) (by decide)
  revert hends
  decide

/-- The report on some groups ends with the verdict on the person. -/
lemma run_member_iff (config : Config) (files : Files) (now : UInt64) (h : groups ≠ []) :
    ((∃ lines, run config files f now (.member person groups) = .ok (lines ++ "\nallowed")) ↔
        (f.authorize person groups).value = .ok ()) ∧
      ((∃ lines, run config files f now (.member person groups) = .ok (lines ++ "\ndenied")) ↔
        (f.authorize person groups).value = .error (.notMember person groups)) := by
  obtain ⟨lines, hlines⟩ := exists_memberReport_eq f person h
  have hrun : run config files f now (.member person groups) =
      .ok (memberReport f person groups) := rfl
  rw [hrun, hlines, Fetcher.value_authorize]
  cases groups.any (f.isMember person) with
  | true =>
    rw [if_pos rfl, if_pos (Or.inr rfl)]
    refine ⟨iff_of_true ⟨lines, rfl⟩ rfl, iff_of_false ?_ (fun herror => nomatch herror)⟩
    rintro ⟨others, hothers⟩
    exact append_allowed_ne _ _ (Except.ok.inj hothers)
  | false =>
    rw [if_neg Bool.false_ne_true, if_neg (not_or.2 ⟨h, Bool.false_ne_true⟩)]
    refine ⟨iff_of_false ?_ (fun hok => nomatch hok), iff_of_true ⟨lines, rfl⟩ rfl⟩
    rintro ⟨others, hothers⟩
    exact append_allowed_ne _ _ (Except.ok.inj hothers).symm

end Command

namespace Fetcher

open Asking

variable {f : Fetcher} {person : Iri} {groups : List Iri}

/-- If the groups that do not answer as before fail, and one that confirms is not among them if any
does, then the verdict is the same as before. -/
lemma value_authorize_congr {other : Fetcher}
    (hsame : ∀ g ∈ groups, other.answer g.documentRequest = f.answer g.documentRequest ∨
      ∀ ts, ¬ other.Loads 0 g ts)
    (hkept : (∃ g ∈ groups, f.Confirms person g) → ∃ g ∈ groups, f.Confirms person g ∧
      other.answer g.documentRequest = f.answer g.documentRequest) :
    (other.authorize person groups).value = (f.authorize person groups).value := by
  have hany : groups.any (other.isMember person) = groups.any (f.isMember person) := by
    rw [Bool.eq_iff_iff, any_isMember_iff, any_isMember_iff]
    constructor
    · rintro ⟨g, hg, hconfirms⟩
      rcases hsame g hg with hanswer | hfails
      · exact ⟨g, hg, (confirms_congr hanswer).1 hconfirms⟩
      · obtain ⟨ts, hloads, -⟩ := hconfirms
        exact absurd hloads (hfails ts)
    · intro h
      obtain ⟨g, hg, hconfirms, hanswer⟩ := hkept h
      exact ⟨g, hg, (confirms_congr hanswer).2 hconfirms⟩
  rw [value_authorize, value_authorize, hany]

/-- Whoever asks to be let in is let in exactly if there are no groups or one of them confirms, and
is told otherwise that they are a member of none.

Asking all groups at once ends, in whatever order the answers come, with a confirmation exactly if
some group confirms; the groups asked are the first ones, each once.  With the delays as they are it
goes one of these ways.  Neither the order of the groups and how often they are named nor the delays
make a difference, and documents may fail as long as one that confirms does not.  Asking the groups
one after the other for a report comes to the same verdict. -/
theorem authorize_asking (f : Fetcher) (person : Iri) (groups : List Iri) :
    ((f.authorize person groups).value = .ok () ↔
        groups = [] ∨ ∃ g ∈ groups, f.Confirms person g) ∧
      ((f.authorize person groups).value ≠ .ok () →
        (f.authorize person groups).value = .error (.notMember person groups)) ∧
      (f.authorize person groups).requests <+: groups.map Iri.documentRequest ∧
      (¬ ∃ states : Nat → Asking, ∀ n, Asking.Step f person (states n) (states (n + 1))) ∧
      (∀ s, Asks f person groups s →
        ∃ last, Relation.ReflTransGen (Asking.Step f person) s last ∧
          IsOutcome f person groups last) ∧
      (∀ s, IsOutcome f person groups s →
        s.requests <+: groups.map Iri.documentRequest ∧
        (s.confirmed = true ↔ ∃ g ∈ groups, f.Confirms person g)) ∧
      (∃ s, IsOutcome f person groups s ∧
        s.requests = (f.isAnyMember person groups).requests ∧
        s.confirmed = (f.isAnyMember person groups).value) ∧
      (∀ others, (∀ g, g ∈ others ↔ g ∈ groups) →
        ((f.authorize person others).value = .ok () ↔
          (f.authorize person groups).value = .ok ())) ∧
      (∀ other : Fetcher,
        (∀ g ∈ groups, other.answer g.documentRequest = f.answer g.documentRequest ∨
          ∀ ts, ¬ other.Loads 0 g ts) →
        ((∃ g ∈ groups, f.Confirms person g) → ∃ g ∈ groups, f.Confirms person g ∧
          other.answer g.documentRequest = f.answer g.documentRequest) →
        (other.authorize person groups).value = (f.authorize person groups).value) ∧
      ∀ config files now, groups ≠ [] →
        ((∃ lines, Command.run config files f now (.member person groups) =
            .ok (lines ++ "\nallowed")) ↔ (f.authorize person groups).value = .ok ()) ∧
        ((∃ lines, Command.run config files f now (.member person groups) =
            .ok (lines ++ "\ndenied")) ↔
          (f.authorize person groups).value = .error (.notMember person groups)) := by
  refine ⟨value_authorize_eq_ok_iff, fun h => ?_, f.requests_authorize_prefix person groups,
    not_exists_endless f person, fun s hs => hs.exists_outcome, fun s hs => ⟨?_, ?_⟩,
    f.exists_outcome_isAnyMember person groups, fun others hothers => ?_,
    fun other => value_authorize_congr,
    fun config files now => Command.run_member_iff config files now⟩
  · rw [value_authorize] at h ⊢
    split at h
    · exact absurd rfl h
    next hnone => exact if_neg hnone
  · exact ⟨_, hs.1.requests_eq⟩
  · rw [hs.confirmed_eq, any_isMember_iff]
  · have hnil : others = [] ↔ groups = [] := by
      simp only [List.eq_nil_iff_forall_not_mem, hothers]
    rw [value_authorize_eq_ok_iff, value_authorize_eq_ok_iff, hnil]
    simp only [hothers]

/-- A group that is slow and lists a person, beside one that cannot be reached. -/
def groupsWeb : Web :=
  ((Web.putDocument {} "a:slow"
    "<#us> <http://www.w3.org/2006/vcard/ns#hasMember> <a:p> .").setDelay "a:slow" 5).put
      "a:down" .unreachable

/-- The person is let in, also if the groups are named in another order and more than once, if they
are asked without delays and the other group is there and empty, and in the report. -/
theorem authorize_asking_groupsWeb :
    (groupsWeb.fetcher.authorize ⟨"a:p"⟩ [⟨"a:down#us"⟩, ⟨"a:slow#us"⟩]).value = .ok () ∧
      (groupsWeb.fetcher.authorize ⟨"a:p"⟩
        [⟨"a:slow#us"⟩, ⟨"a:down#us"⟩, ⟨"a:slow#us"⟩]).value = .ok () ∧
      (((groupsWeb.putDocument "a:down" "<<<").setDelay "a:slow" 0).fetcher.authorize ⟨"a:p"⟩
        [⟨"a:down#us"⟩, ⟨"a:slow#us"⟩]).value = .ok () ∧
      ∃ lines, Command.run {} (fun _ => none) groupsWeb.fetcher 0
        (.member ⟨"a:p"⟩ [⟨"a:down#us"⟩, ⟨"a:slow#us"⟩]) = .ok (lines ++ "\nallowed") := by
  have hconfirms : groupsWeb.fetcher.Confirms ⟨"a:p"⟩ ⟨"a:slow#us"⟩ :=
    isMember_iff.1 (by decide +kernel)
  have hunread : (((groupsWeb.putDocument "a:down" "<<<").setDelay "a:slow" 0).fetcher.document 0
      ⟨"a:down#us"⟩).toBool = false := by
    decide +kernel
  have hfails : ∀ ts, ¬ ((groupsWeb.putDocument "a:down" "<<<").setDelay "a:slow" 0).fetcher.Loads 0
      ⟨"a:down#us"⟩ ts := by
    intro ts hloads
    rw [document_eq_ok_iff.2 hloads] at hunread
    cases hunread
  have hlast : (⟨"a:slow#us"⟩ : Iri) ∈ [(⟨"a:down#us"⟩ : Iri), ⟨"a:slow#us"⟩] :=
    List.mem_cons_of_mem _ List.mem_cons_self
  obtain ⟨hvalue, -, -, -, -, -, -, hothers, hfailing, hreport⟩ :=
    authorize_asking groupsWeb.fetcher ⟨"a:p"⟩ [⟨"a:down#us"⟩, ⟨"a:slow#us"⟩]
  have hok := hvalue.2 (Or.inr ⟨_, hlast, hconfirms⟩)
  refine ⟨hok, (hothers _ fun g => ?_).2 hok, (hfailing _ ?_ ?_).trans hok,
    (hreport _ _ _ (List.cons_ne_nil _ _)).1.2 hok⟩
  · simp only [List.mem_cons, List.not_mem_nil, or_false]
    tauto
  · intro g hg
    rcases List.mem_pair.1 hg with rfl | rfl
    · exact Or.inr hfails
    · exact Or.inl rfl
  · exact fun _ => ⟨_, hlast, hconfirms, rfl⟩

end Fetcher

end Courier
