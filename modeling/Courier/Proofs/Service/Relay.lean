import Courier.Proofs.Service.Answers

/-!
# Passing notifications on

A notification goes to every address at which its target can be reached, in the order in which the
addresses were found and up to the first message that is refused (`Service.notify_relays`).  The
messages differ in the address only and the addresses are all different, so no address gets a
notification twice and no two messages look the same to the mailer.  Nothing is handed over for
somebody else, after a search that says nothing, or if no address was found.
-/

namespace Courier

namespace Service

variable {s : Service} {mailer : Mailer} {reading : Nat} {now : UInt64} {n : Notification}
  {emails : OrderedSet String}

/-- Whether the mailer takes the message that passes the notification on to the address. -/
def IsTaken (s : Service) (mailer : Mailer) (n : Notification) (email : String) : Prop :=
  mailer.refusal? (s.relay n email) = none

/-- The addresses are those that the search found, each once. -/
lemma addresses_of_verifiedEmails {webId : Iri}
    (hemails : (s.verifiedEmails reading now webId).value = .ok emails) :
    emails.toList.Nodup ∧
      ∀ email, email ∈ emails.toList ↔ s.FindsAddress reading now webId email := by
  refine ⟨emails.nodup_toList, ?_⟩
  by_cases h : s.IsConclusive reading webId
  · obtain ⟨found, hfound, hiff⟩ := verifiedEmails_eq_ok now h
    rw [hemails] at hfound
    cases hfound
    exact hiff
  · rw [verifiedEmails_eq_error h] at hemails
    cases hemails

/-- The search for addresses fails only by saying nothing. -/
lemma eq_incomplete_of_verifiedEmails {webId : Iri} {e : ServiceError}
    (he : (s.verifiedEmails reading now webId).value = .error e) :
    e = .incomplete webId (s.resolve reading webId).value.status ∧
      ¬s.IsConclusive reading webId := by
  by_cases h : s.IsConclusive reading webId
  · obtain ⟨found, hfound, -⟩ := verifiedEmails_eq_ok now h
    rw [hfound] at he
    cases he
  · rw [verifiedEmails_eq_error h] at he
    cases he
    exact ⟨rfl, h⟩

/-- Without an address nothing is handed over. -/
lemma notify_of_nil (mailer : Mailer)
    (hemails : (s.verifiedEmails reading now n.target.id).value = .ok emails)
    (hnil : emails.toList = []) :
    (s.notify mailer reading now n.actor.id n).value = .error (.noEmail n.target.id) ∧
      (s.notify mailer reading now n.actor.id n).offers = [] := by
  have hempty : emails.isEmpty = true := List.isEmpty_iff.2 hnil
  rw [value_notify, offers_notify, hemails]
  dsimp only
  rw [hempty, hnil]
  exact ⟨rfl, rfl⟩

/-- What comes of a notification to somebody with addresses. -/
lemma notify_of_ne_nil (mailer : Mailer)
    (hemails : (s.verifiedEmails reading now n.target.id).value = .ok emails)
    (hne : emails.toList ≠ []) :
    (s.notify mailer reading now n.actor.id n).value =
        (match (deliver mailer (emails.toList.map (s.relay n))).value with
          | .error e => .error (.mail e)
          | .ok () => .ok emails.size) ∧
      (s.notify mailer reading now n.actor.id n).offers =
        (deliver mailer (emails.toList.map (s.relay n))).offers := by
  have hempty : emails.isEmpty = false := List.isEmpty_eq_false_iff.2 hne
  rw [value_notify, offers_notify, hemails]
  dsimp only
  rw [hempty]
  exact ⟨rfl, rfl⟩

/-- If every message is taken, all of them are handed over. -/
lemma notify_of_isTaken
    (hemails : (s.verifiedEmails reading now n.target.id).value = .ok emails)
    (hne : emails.toList ≠ []) (htaken : ∀ email ∈ emails.toList, s.IsTaken mailer n email) :
    (s.notify mailer reading now n.actor.id n).value = .ok emails.size ∧
      (s.notify mailer reading now n.actor.id n).offers =
        emails.toList.map fun email => ⟨s.relay n email, none⟩ := by
  have hall : deliver mailer (emails.toList.map (s.relay n)) =
      { value := .ok (), offers := (emails.toList.map (s.relay n)).map fun m => ⟨m, none⟩ } :=
    deliver_of_accepts (List.forall_mem_map.2 htaken)
  obtain ⟨hvalue, hoffers⟩ := notify_of_ne_nil mailer hemails hne
  rw [hvalue, hoffers, hall, List.map_map]
  exact ⟨rfl, rfl⟩

/-- If a message is refused, it is the last one that is handed over. -/
lemma notify_of_refused
    (hemails : (s.verifiedEmails reading now n.target.id).value = .ok emails)
    {taken later : List String} {email reason : String}
    (hsplit : emails.toList = taken ++ email :: later)
    (htaken : ∀ e ∈ taken, s.IsTaken mailer n e)
    (hrefused : mailer.refusal? (s.relay n email) = some reason) :
    (s.notify mailer reading now n.actor.id n).value = .error (.mail ⟨email, reason⟩) ∧
      (s.notify mailer reading now n.actor.id n).offers =
        (taken.map fun e => ⟨s.relay n e, none⟩) ++ [⟨s.relay n email, some reason⟩] := by
  have hne : emails.toList ≠ [] := by
    rw [hsplit]
    exact List.append_ne_nil_of_right_ne_nil _ (List.cons_ne_nil _ _)
  have hdelivered : deliver mailer (emails.toList.map (s.relay n)) =
      { value := .error ⟨email, reason⟩
        offers := ((taken.map (s.relay n)).map fun m => ⟨m, none⟩) ++
          [⟨s.relay n email, some reason⟩] } := by
    rw [hsplit, List.map_append, List.map_cons,
      deliver_append (List.forall_mem_map.2 htaken), deliver_cons_of_refused hrefused]
    rfl
  obtain ⟨hvalue, hoffers⟩ := notify_of_ne_nil mailer hemails hne
  rw [hvalue, hoffers, hdelivered, List.map_map]
  exact ⟨rfl, rfl⟩

/-- Unless all messages are taken, there is a first one that is refused. -/
lemma exists_refused {addresses : List String}
    (h : ¬∀ email ∈ addresses, s.IsTaken mailer n email) :
    ∃ taken email later reason, addresses = taken ++ email :: later ∧
      (∀ e ∈ taken, s.IsTaken mailer n e) ∧
        mailer.refusal? (s.relay n email) = some reason := by
  cases hspan : addresses.span fun email => (mailer.refusal? (s.relay n email)).isNone with
  | mk taken rest =>
    obtain ⟨hsplit, htaken, hrest⟩ := eq_append_of_span hspan
    have htaken' : ∀ e ∈ taken, s.IsTaken mailer n e :=
      fun e he => Option.isNone_iff_eq_none.1 (htaken e he)
    cases rest with
    | nil =>
      rw [List.append_nil] at hsplit
      rw [hsplit] at h
      exact absurd htaken' h
    | cons email later =>
      have hrefused := hrest email rfl
      rw [Option.isNone_eq_false_iff, Option.isSome_iff_exists] at hrefused
      obtain ⟨reason, hreason⟩ := hrefused
      exact ⟨taken, email, later, reason, hsplit, htaken', hreason⟩

/-- A notification goes to all addresses of its target exactly if there are any and every message is
taken. -/
lemma notify_eq_ok_iff
    (hemails : (s.verifiedEmails reading now n.target.id).value = .ok emails) {count : Nat} :
    (s.notify mailer reading now n.actor.id n).value = .ok count ↔
      count = emails.toList.length ∧ emails.toList ≠ [] ∧
        ∀ email ∈ emails.toList, s.IsTaken mailer n email := by
  by_cases hnil : emails.toList = []
  · rw [(notify_of_nil mailer hemails hnil).1]
    exact iff_of_false (fun h => nomatch h) fun h => h.2.1 hnil
  by_cases htaken : ∀ email ∈ emails.toList, s.IsTaken mailer n email
  · rw [(notify_of_isTaken hemails hnil htaken).1]
    constructor
    · intro h
      exact ⟨(Except.ok.inj h).symm, hnil, htaken⟩
    · rintro ⟨rfl, -, -⟩
      rfl
  · obtain ⟨taken, email, later, reason, hsplit, hbefore, hrefused⟩ := exists_refused htaken
    rw [(notify_of_refused hemails hsplit hbefore hrefused).1]
    exact iff_of_false (fun h => nomatch h) fun h => htaken h.2.2

/-- Nobody writes for somebody else: this takes no request and hands over nothing.  Otherwise the
requests are those of the search for the target's addresses.  If the search says nothing, this is
the error.  If it says something, the addresses are those it found, all different.  Without any
there is an error; with some, messages that differ in the address only are handed over in order up
to the first that is refused.  The notification succeeds with the number of addresses exactly if
none is refused, and fails with the refusal otherwise. -/
theorem notify_relays (s : Service) (mailer : Mailer) (reading : Nat) (now : UInt64)
    (sender : Iri) (n : Notification) :
    let search := s.verifiedEmails reading now n.target.id
    let t := s.notify mailer reading now sender n
    (sender ≠ n.actor.id → t.value = .error .forbidden ∧ t.requests = [] ∧ t.offers = []) ∧
    (sender = n.actor.id →
      t.requests = search.requests ∧
      (∀ e, search.value = .error e →
        e = .incomplete n.target.id (s.resolve reading n.target.id).value.status ∧
          t.value = .error e ∧ t.offers = []) ∧
      ∀ emails, search.value = .ok emails →
        (emails.toList.Nodup ∧
          ∀ email, email ∈ emails.toList ↔ s.FindsAddress reading now n.target.id email) ∧
        (∃ sender name subject, ∀ email,
          s.relay n email = ⟨sender, ⟨name, email⟩, subject, n.note.content, .message⟩) ∧
        (emails.toList = [] → t.value = .error (.noEmail n.target.id) ∧ t.offers = []) ∧
        (∀ count, t.value = .ok count ↔ count = emails.toList.length ∧ emails.toList ≠ [] ∧
          ∀ email ∈ emails.toList, s.IsTaken mailer n email) ∧
        ((∀ email ∈ emails.toList, s.IsTaken mailer n email) →
          t.offers = emails.toList.map fun email => ⟨s.relay n email, none⟩) ∧
        ∀ taken email later reason, emails.toList = taken ++ email :: later →
          (∀ e ∈ taken, s.IsTaken mailer n e) →
          mailer.refusal? (s.relay n email) = some reason →
            t.value = .error (.mail ⟨email, reason⟩) ∧
              t.offers = (taken.map fun e => ⟨s.relay n e, none⟩) ++
                [⟨s.relay n email, some reason⟩] ∧
              t.delivered = taken.map (s.relay n)) := by
  intro search t
  refine ⟨fun hsender => ?_, ?_⟩
  · have hrefused : t = { value := .error .forbidden } := if_pos hsender
    rw [hrefused]
    exact ⟨rfl, rfl, rfl⟩
  · rintro rfl
    refine ⟨s.requests_notify mailer reading now n, fun e he => ?_, fun emails hemails => ?_⟩
    · have hoffers := s.offers_notify mailer reading now n
      have hvalue := s.value_notify mailer reading now n
      rw [he] at hoffers hvalue
      exact ⟨(eq_incomplete_of_verifiedEmails he).1, hvalue, hoffers⟩
    · refine ⟨addresses_of_verifiedEmails hemails, ⟨_, _, _, fun _ => rfl⟩,
        notify_of_nil mailer hemails, fun count => notify_eq_ok_iff hemails, ?_, ?_⟩
      · intro htaken
        by_cases hnil : emails.toList = []
        · rw [hnil]
          exact (notify_of_nil mailer hemails hnil).2
        · exact (notify_of_isTaken hemails hnil htaken).2
      · intro taken email later reason hsplit htaken hrefused
        obtain ⟨hvalue, hoffers⟩ := notify_of_refused hemails hsplit htaken hrefused
        refine ⟨hvalue, hoffers, ?_⟩
        unfold Activity.delivered
        rw [hoffers]
        simp [List.filter_map, Function.comp_def]

/-- Somebody writes to the person with the address. -/
def sampleNotification : Notification where
  actor := { id := ⟨"a:c"⟩ }
  note := { id := "", content := "Hello" }
  target := { id := samplePerson }

/-- The pod with the token has the address. -/
lemma verifiedEmails_samplePod :
    ((sampleService.facing samplePod).verifiedEmails 0 0 samplePerson).value =
      .ok (.ofList ["e"]) := by
  have hkept : (sampleService.facing samplePod).keptTokens samplePerson
      ((sampleService.facing samplePod).resolve 0 samplePerson).value = [sampleToken] :=
    presented_samplePod
  have hshown : sampleService.keptCodec.verifiedEmail? 0 samplePerson sampleToken = some "e" :=
    TokenCodec.verifiedEmail?_eq_some_iff.2
      ⟨_, TokenCodec.verify_of_read read_sampleToken rfl, rfl⟩
  rw [value_verifiedEmails, hkept]
  change Except.ok (OrderedSet.ofList (List.filterMap
    (sampleService.keptCodec.verifiedEmail? 0 samplePerson) [sampleToken])) = _
  rw [List.filterMap_cons_some hshown, List.filterMap_nil]

/-- The notification reaches the address, unless the message is refused or somebody else sends
it. -/
theorem notify_relays_samplePod :
    let s := sampleService.facing samplePod
    let n := sampleNotification
    (s.notify ⟨fun _ => none⟩ 0 0 n.actor.id n).value = .ok 1 ∧
      (s.notify ⟨fun _ => some "full"⟩ 0 0 n.actor.id n).value = .error (.mail ⟨"e", "full"⟩) ∧
      (s.notify ⟨fun _ => some "full"⟩ 0 0 n.actor.id n).offers =
        [⟨s.relay n "e", some "full"⟩] ∧
      (s.notify ⟨fun _ => none⟩ 0 0 samplePerson n).value = .error .forbidden := by
  intro s n
  have hlist : (OrderedSet.ofList ["e"]).toList = ["e"] := OrderedSet.toList_ofList _
  obtain ⟨-, haccepting⟩ := notify_relays s ⟨fun _ => none⟩ 0 0 n.actor.id n
  obtain ⟨-, hrefusing⟩ := notify_relays s ⟨fun _ => some "full"⟩ 0 0 n.actor.id n
  obtain ⟨hforged, -⟩ := notify_relays s ⟨fun _ => none⟩ 0 0 samplePerson n
  obtain ⟨-, -, hsent⟩ := haccepting rfl
  obtain ⟨-, -, hfull⟩ := hrefusing rfl
  obtain ⟨-, -, -, hcount, -⟩ := hsent _ verifiedEmails_samplePod
  obtain ⟨-, -, -, -, -, hstop⟩ := hfull _ verifiedEmails_samplePod
  obtain ⟨hvalue, hoffers, -⟩ := hstop [] "e" [] "full" hlist (fun _ h => nomatch h) rfl
  refine ⟨(hcount 1).2 ⟨by rw [hlist]; rfl, by rw [hlist]; exact List.cons_ne_nil _ _, ?_⟩,
    hvalue, hoffers, (hforged (by decide)).1⟩
  intro email _
  rfl

end Service

end Courier
