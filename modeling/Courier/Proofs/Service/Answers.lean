import Courier.Proofs.Service.Kept

/-!
# What the service denies

A person can be reached if one of the documents loaded holds a token that shows an address.  If none
does, the answer depends on whether the search found any token at all.  Without one, a search that
was cut short leaves the question open; but with one the service denies that the person can be
reached, wherever it stopped.  So a denial agrees with what was read and is certain of no more
(`Service.isConverged_of_denies_iff`).
-/

namespace Courier

namespace Service

variable {s : Service} {reading : Nat} {now : UInt64} {webId : Iri}

/-- Whether the search of the person's pod loads a document with a token of theirs that shows the
address. -/
def FindsAddress (s : Service) (reading : Nat) (now : UInt64) (webId : Iri) (email : String) :
    Prop :=
  ∃ token, s.Finds reading webId token ∧ s.keptCodec.Shows now webId token email

/-- Whether the search of the person's pod says something about them: it was finished, or it has
loaded a document with a token of theirs. -/
def IsConclusive (s : Service) (reading : Nat) (webId : Iri) : Prop :=
  (s.resolve reading webId).value.isConverged = true ∨ ∃ token, s.Finds reading webId token

/-- Whether the service denies that the person can be reached: by saying so, or by refusing for that
reason to pass a notification on. -/
def Denies (s : Service) (reading : Nat) (now : UInt64) (webId : Iri) : Prop :=
  (s.status reading now webId).value = .ok false ∨
    ∃ mailer sender n, n.target.id = webId ∧
      (s.notify mailer reading now sender n).value = .error (.noEmail webId)

/-! ### Addresses -/

/-- A search that says nothing was cut short before it found a token. -/
lemma not_isConclusive_iff : ¬s.IsConclusive reading webId ↔
    (s.resolve reading webId).value.isConverged = false ∧
      ¬∃ token, s.Finds reading webId token := by
  unfold IsConclusive
  rw [not_or, Bool.not_eq_true]

/-- If the search says nothing, this is reported. -/
lemma verifiedEmails_eq_error (h : ¬s.IsConclusive reading webId) :
    (s.verifiedEmails reading now webId).value =
      .error (.incomplete webId (s.resolve reading webId).value.status) := by
  obtain ⟨hcut, hnone⟩ := not_isConclusive_iff.1 h
  have hkept : s.keptTokens webId (s.resolve reading webId).value = [] :=
    List.eq_nil_iff_forall_not_mem.2 fun token htoken => hnone ⟨token, finds_iff.2 htoken⟩
  rw [value_verifiedEmails, hkept, hcut]
  rfl

/-- If the search says something, the addresses are those that were found. -/
lemma verifiedEmails_eq_ok (now : UInt64) (h : s.IsConclusive reading webId) :
    ∃ emails, (s.verifiedEmails reading now webId).value = .ok emails ∧
      ∀ email, email ∈ emails.toList ↔ s.FindsAddress reading now webId email := by
  refine ⟨s.keptCodec.verifiedEmails now webId
    (s.keptTokens webId (s.resolve reading webId).value), ?_, ?_⟩
  · rw [value_verifiedEmails]
    refine if_neg ?_
    rw [Bool.and_eq_true, Bool.not_eq_true']
    rintro ⟨hempty, hcut⟩
    rcases h with hconverged | ⟨token, htoken⟩
    · rw [hconverged] at hcut
      cases hcut
    · have hkept := finds_iff.1 htoken
      rw [List.isEmpty_iff.1 hempty] at hkept
      cases hkept
  · intro email
    rw [TokenCodec.mem_verifiedEmails_iff]
    unfold FindsAddress
    simp only [finds_iff]

/-! ### Answers -/

/-- If an address was found, the search says something. -/
lemma FindsAddress.isConclusive {email : String} (h : s.FindsAddress reading now webId email) :
    s.IsConclusive reading webId := by
  obtain ⟨token, htoken, -⟩ := h
  exact Or.inr ⟨token, htoken⟩

/-- If the search says nothing, neither does the service. -/
lemma status_eq_error (h : ¬s.IsConclusive reading webId) :
    (s.status reading now webId).value =
      .error (.incomplete webId (s.resolve reading webId).value.status) := by
  change Except.map _ (s.verifiedEmails reading now webId).value = _
  rw [verifiedEmails_eq_error h]
  rfl

/-- If the search says something, so does the service. -/
lemma exists_status_eq_ok (now : UInt64) (h : s.IsConclusive reading webId) :
    ∃ answer, (s.status reading now webId).value = .ok answer ∧
      (answer = true ↔ ∃ email, s.FindsAddress reading now webId email) := by
  obtain ⟨emails, hvalue, hemails⟩ := verifiedEmails_eq_ok now h
  refine ⟨!emails.isEmpty, ?_, ?_⟩
  · change Except.map _ (s.verifiedEmails reading now webId).value = _
    rw [hvalue]
    rfl
  · unfold OrderedSet.isEmpty
    rw [Bool.not_eq_true', List.isEmpty_eq_false_iff_exists_mem]
    exact exists_congr hemails

/-- The service says that a person can be reached exactly if an address was found. -/
lemma status_eq_true_iff : (s.status reading now webId).value = .ok true ↔
    ∃ email, s.FindsAddress reading now webId email := by
  by_cases h : s.IsConclusive reading webId
  · obtain ⟨answer, hstatus, hanswer⟩ := exists_status_eq_ok now h
    rw [hstatus, ← hanswer]
    exact ⟨Except.ok.inj, congrArg _⟩
  · rw [status_eq_error h]
    constructor
    · intro hstatus
      cases hstatus
    · rintro ⟨email, hemail⟩
      exact absurd hemail.isConclusive h

/-- The service denies that a person can be reached exactly if the search says something but found
no address. -/
lemma status_eq_false_iff : (s.status reading now webId).value = .ok false ↔
    s.IsConclusive reading webId ∧ ¬∃ email, s.FindsAddress reading now webId email := by
  by_cases h : s.IsConclusive reading webId
  · obtain ⟨answer, hstatus, hanswer⟩ := exists_status_eq_ok now h
    rw [hstatus, ← hanswer, and_iff_right h, Bool.not_eq_true]
    exact ⟨Except.ok.inj, congrArg _⟩
  · rw [status_eq_error h]
    constructor
    · intro hstatus
      cases hstatus
    · rintro ⟨hconclusive, -⟩
      exact absurd hconclusive h

/-- The service leaves open whether a person can be reached exactly if the search says nothing. -/
lemma status_eq_incomplete_iff : (s.status reading now webId).value =
      .error (.incomplete webId (s.resolve reading webId).value.status) ↔
    ¬s.IsConclusive reading webId := by
  refine ⟨fun hstatus h => ?_, status_eq_error⟩
  obtain ⟨answer, hanswer, -⟩ := exists_status_eq_ok now h
  rw [hanswer] at hstatus
  cases hstatus

/-! ### Notifications -/

/-- A notification fails for want of an address exactly if its actor sends it and the service denies
that its target can be reached. -/
lemma notify_eq_noEmail_iff {mailer : Mailer} {sender : Iri} {n : Notification} :
    (s.notify mailer reading now sender n).value = .error (.noEmail n.target.id) ↔
      sender = n.actor.id ∧ (s.status reading now n.target.id).value = .ok false := by
  by_cases hsender : sender = n.actor.id
  · rw [hsender, and_iff_right rfl, value_notify, status_eq_false_iff]
    by_cases h : s.IsConclusive reading n.target.id
    · obtain ⟨emails, hvalue, hemails⟩ := verifiedEmails_eq_ok now h
      rw [hvalue, and_iff_right h, ← exists_congr hemails, ← List.isEmpty_eq_false_iff_exists_mem,
        Bool.not_eq_false]
      unfold OrderedSet.isEmpty
      dsimp only
      split_ifs with hempty
      · exact iff_of_true rfl hempty
      · refine iff_of_false ?_ hempty
        cases (deliver mailer (emails.toList.map (s.relay n))).value with
        | error e => exact fun herror => nomatch herror
        | ok done => exact fun herror => nomatch herror
    · rw [verifiedEmails_eq_error h]
      exact iff_of_false (fun herror => nomatch herror) fun hdenied => h hdenied.1
  · rw [value_notify_of_ne hsender]
    exact iff_of_false (fun herror => nomatch herror) fun hdenied => hsender hdenied.1

/-- A notification fails for want of a finished search exactly if its actor sends it and the service
leaves open whether its target can be reached. -/
lemma notify_eq_incomplete_iff {mailer : Mailer} {sender : Iri} {n : Notification} :
    (s.notify mailer reading now sender n).value =
        .error (.incomplete n.target.id (s.resolve reading n.target.id).value.status) ↔
      sender = n.actor.id ∧ ¬s.IsConclusive reading n.target.id := by
  by_cases hsender : sender = n.actor.id
  · rw [hsender, and_iff_right rfl, value_notify]
    by_cases h : s.IsConclusive reading n.target.id
    · obtain ⟨emails, hvalue, -⟩ := verifiedEmails_eq_ok now h
      rw [hvalue]
      refine iff_of_false ?_ (not_not.2 h)
      dsimp only
      split_ifs
      · exact fun herror => nomatch herror
      · cases (deliver mailer (emails.toList.map (s.relay n))).value with
        | error e => exact fun herror => nomatch herror
        | ok done => exact fun herror => nomatch herror
    · rw [verifiedEmails_eq_error h]
      exact iff_of_true rfl h
  · rw [value_notify_of_ne hsender]
    exact iff_of_false (fun herror => nomatch herror) fun hopen => hsender hopen.1

/-- The service denies that a person can be reached exactly if the search says something but found
no address. -/
lemma denies_iff : s.Denies reading now webId ↔
    s.IsConclusive reading webId ∧ ¬∃ email, s.FindsAddress reading now webId email := by
  rw [← status_eq_false_iff]
  constructor
  · rintro (hstatus | ⟨mailer, sender, n, rfl, hnotify⟩)
    · exact hstatus
    · exact (notify_eq_noEmail_iff.1 hnotify).2
  · exact Or.inl

/-- The service says that a person can be reached exactly if an address was found, leaves the
question open exactly if the search was cut short without a token, and denies it otherwise, and
notifications by their actor follow this.  So a denial comes with a finished search, unless the
search was cut short, found a token and found no address. -/
theorem isConverged_of_denies_iff (s : Service) (reading : Nat) (now : UInt64) (webId : Iri) :
    let found := (s.resolve reading webId).value
    let status := (s.status reading now webId).value
    let isReached := ∃ email, s.FindsAddress reading now webId email
    let isKeeping := ∃ token, s.Finds reading webId token
    ((s.Denies reading now webId → found.isConverged = true) ↔
        found.isConverged = true ∨ ¬isKeeping ∨ isReached) ∧
      (s.Denies reading now webId ↔ (found.isConverged = true ∨ isKeeping) ∧ ¬isReached) ∧
      (status = .ok true ↔ isReached) ∧
      (status = .ok false ↔ s.Denies reading now webId) ∧
      (status = .error (.incomplete webId found.status) ↔
        found.isConverged = false ∧ ¬isKeeping) ∧
      ∀ mailer n, n.target.id = webId →
        ((s.notify mailer reading now n.actor.id n).value = .error (.noEmail webId) ↔
          s.Denies reading now webId) ∧
        ((s.notify mailer reading now n.actor.id n).value =
            .error (.incomplete webId found.status) ↔
          found.isConverged = false ∧ ¬isKeeping) := by
  intro found status isReached isKeeping
  have hdenies : s.Denies reading now webId ↔
      (found.isConverged = true ∨ isKeeping) ∧ ¬isReached := denies_iff
  have hopen : ¬s.IsConclusive reading webId ↔ found.isConverged = false ∧ ¬isKeeping :=
    not_isConclusive_iff
  refine ⟨?_, hdenies, status_eq_true_iff, ?_, ?_, ?_⟩
  · rw [hdenies]
    tauto
  · rw [denies_iff]
    exact status_eq_false_iff
  · rw [← hopen]
    exact status_eq_incomplete_iff
  · rintro mailer n rfl
    rw [← hopen, denies_iff, ← status_eq_false_iff]
    constructor
    · exact notify_eq_noEmail_iff.trans (and_iff_right rfl)
    · exact notify_eq_incomplete_iff.trans (and_iff_right rfl)

/-- A pod in which a token that shows nothing stands before one that shows an address. -/
def layeredPod : Fetcher :=
  (Web.putDocument {} "a:b"
    "<a:b> <a:t> \"x\" ; <http://www.w3.org/2000/01/rdf-schema#seeAlso> <a:c> ." |>.putDocument
      "a:c" ("<a:b> <a:t> \"" ++ sampleToken ++ "\" .")).fetcher

/-- A search of one document finds the first token only, and a longer search finds both. -/
lemma resolve_layeredPod :
    ((settingsService.facing layeredPod).resolve 0 samplePerson).value.isConverged = false ∧
      settingsService.keptTokens samplePerson
        ((settingsService.facing layeredPod).resolve 0 samplePerson).value = ["x"] ∧
      sampleToken ∈ sampleService.keptTokens samplePerson
        ((sampleService.facing layeredPod).resolve 0 samplePerson).value := by
  decide +kernel

/-- After reading one document the service denies that somebody can be reached whose address it
finds when it may read another. -/
theorem denies_layeredPod :
    ((settingsService.facing layeredPod).resolve 0 samplePerson).value.isConverged = false ∧
      ((settingsService.facing layeredPod).status 0 0 samplePerson).value = .ok false ∧
      (settingsService.facing layeredPod).Denies 0 0 samplePerson ∧
      ((sampleService.facing layeredPod).status 0 0 samplePerson).value = .ok true := by
  obtain ⟨hcut, hkept, hlater⟩ := resolve_layeredPod
  have hdenied : ((settingsService.facing layeredPod).status 0 0 samplePerson).value =
      .ok false := by
    refine status_eq_false_iff.2 ⟨Or.inr ⟨"x", ?_⟩, ?_⟩
    · refine finds_iff.2 ?_
      exact hkept ▸ List.mem_singleton_self _
    · rintro ⟨email, token, htoken, g, hverify, -⟩
      have hmem : token ∈ ["x"] := hkept ▸ finds_iff.1 htoken
      obtain rfl := List.mem_singleton.1 hmem
      cases hverify
  have hfound : (sampleService.facing layeredPod).FindsAddress 0 0 samplePerson "e" :=
    ⟨sampleToken, finds_iff.2 hlater, _, TokenCodec.verify_of_read read_sampleToken rfl, rfl⟩
  exact ⟨hcut, hdenied, Or.inl hdenied, status_eq_true_iff.2 ⟨"e", hfound⟩⟩

end Service

end Courier
