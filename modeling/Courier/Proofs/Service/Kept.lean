import Courier.Proofs.Crawl.Provenance
import Courier.Proofs.Service.Writing

/-!
# What kept tokens are good for

A token that was handed to a person counts wherever it is kept.  As soon as the search of the
person's pod loads a document which says that the person keeps the token, the address is among those
at which they can be reached, until the token is void (`Service.kept_token_counts`).  Nothing else
that the pod holds can prevent this, and it does not matter how the search ends: of the values that
count as the same the first is kept, but all of them have the token as their text, and tokens that
show nothing are passed over.
-/

namespace Courier

namespace Term

/-- What counts as the same as a text is a literal that has it as its value. -/
lemma beq_literal_plain_iff {term : Term} {value : String} :
    (term == .literal (.plain value)) = true ↔ ∃ l, term = .literal l ∧ l.value = value := by
  rw [beq_iff]
  cases term with
  | iri i => simp [identity]
  | literal l => simp [identity, Literal.plain]
  | blank b => simp [identity]

end Term

namespace Service

variable {s : Service} {reading : Nat} {webId : Iri} {token : String}

/-! ### Finding tokens -/

/-- The tokens that a person keeps are the texts among the values of the person's own property. -/
theorem mem_keptTokens_iff {r : Crawl.Resolution} :
    token ∈ s.keptTokens webId r ↔
      .literal (.plain token) ∈ (r.store.objects (.iri webId) s.config.tokenPredicate).toSet := by
  unfold keptTokens
  rw [List.mem_filterMap, OrderedSet.mem_toSet]
  refine exists_congr fun term => and_congr_right fun _ => ?_
  rw [Term.beq_literal_plain_iff]
  cases term <;> simp

/-- Whether the search of the person's pod loads a document which says that the person keeps the
token. -/
def Finds (s : Service) (reading : Nat) (webId : Iri) (token : String) : Prop :=
  ∃ document count triples,
    (document, .loaded count) ∈ (s.resolve reading webId).value.outcomes ∧
      (s.search reading).IsReadAs document triples ∧
      ∃ t ∈ triples, t.subject = .iri webId ∧ t.predicate = s.config.tokenPredicate ∧
        ∃ l : Literal, t.object = .literal l ∧ l.value = token

/-- The tokens found are those of which a document loaded says that the person keeps them. -/
theorem finds_iff :
    s.Finds reading webId token ↔ token ∈ s.keptTokens webId (s.resolve reading webId).value := by
  rw [mem_keptTokens_iff, Store.mem_toSet_objects]
  constructor
  · rintro ⟨document, count, ts, hloaded, hread, t, ht, hsubject, hpredicate, l, hobject, rfl⟩
    have hfact := (s.search reading).inGraph_mem_store_run hloaded hread ht
    obtain ⟨q, hq, hsame⟩ := OrderedSet.mem_toSet.1 hfact
    obtain ⟨hqs, hqp, hqo, -⟩ := Quad.beq_iff.1 hsame
    refine ⟨q, hq, ?_, ?_, ?_⟩
    · rw [← hsubject]
      exact BEq.symm hqs
    · rw [← hpredicate]
      exact hqp.symm
    · have hplain : (t.object == .literal (.plain l.value)) = true :=
        Term.beq_literal_plain_iff.2 ⟨l, hobject, rfl⟩
      exact BEq.trans hqo hplain
  · rintro ⟨q, hq, hsubject, hpredicate, hobject⟩
    obtain ⟨hfetched, ts, hload, t, ht, hqt⟩ := (s.search reading).isSourced_run _ q hq
    have hread := ((s.search reading).load_eq_ok_iff_of_mem_fetched_run hfetched).1 hload
    have hloaded := (s.search reading).loaded_mem_outcomes_run_iff.2 ⟨hfetched, ts, hread, rfl⟩
    rw [hqt] at hsubject hpredicate hobject
    exact ⟨q.graph, ts.length, ts, hloaded, hread, t, ht, Term.eq_iri_of_beq hsubject,
      hpredicate.symm, Term.beq_literal_plain_iff.1 hobject⟩

/-! ### Counting tokens -/

/-- A token that was issued to be kept counts while it holds, wherever it is found. -/
lemma exists_mem_verifiedEmails_of_finds {email : String} {issuedAt now : UInt64}
    (hperson : Iri.isAbsolute webId.text = true)
    (hscheme : s.scheme.Recognizes (s.keptCodec.message (.verified webId email) issuedAt))
    (hfinds : s.Finds reading webId (s.keptCodec.issue (.verified webId email) issuedAt))
    (hnow : now.toNat <
      min (issuedAt.toNat + s.config.tokenLifetime.toNat) (UInt64.size - 1)) :
    ∃ emails, (s.verifiedEmails reading now webId).value = .ok emails ∧
      email ∈ emails.toList := by
  have hread : s.keptCodec.read (s.keptCodec.issue (.verified webId email) issuedAt) =
      .ok (s.keptCodec.grant (.verified webId email) issuedAt) :=
    TokenCodec.read_issue hperson hscheme.isSignature hscheme.verifies
  have hholds : (s.keptCodec.grant (.verified webId email) issuedAt).isExpired now = false := by
    unfold Grant.isExpired
    rw [decide_eq_false_iff_not, UInt64.not_le]
    exact TokenCodec.lt_later_iff.2 hnow
  exact exists_mem_verifiedEmails (finds_iff.1 hfinds) hread hholds rfl

/-- If no message is refused, everybody who can be reached at an address gets a notification there
once. -/
lemma filter_delivered_notify {mailer : Mailer} (hmailer : ∀ m, mailer.refusal? m = none)
    {n : Notification} {now : UInt64} {emails : OrderedSet String}
    (hemails : (s.verifiedEmails reading now n.target.id).value = .ok emails) {email : String}
    (hemail : email ∈ emails.toList) :
    (s.notify mailer reading now n.actor.id n).value = .ok emails.size ∧
      (s.notify mailer reading now n.actor.id n).delivered.filter
        (·.recipient.address = email) = [s.relay n email] := by
  have hne : emails.isEmpty = false :=
    List.isEmpty_eq_false_iff.2 (List.ne_nil_of_mem hemail)
  have hdone : deliver mailer (emails.toList.map (s.relay n)) =
      { value := .ok (), offers := (emails.toList.map (s.relay n)).map fun m => ⟨m, none⟩ } :=
    deliver_of_accepts fun m _ => hmailer m
  have hvalue : (s.notify mailer reading now n.actor.id n).value = .ok emails.size := by
    rw [value_notify, hemails]
    dsimp only
    rw [hne, hdone]
    rfl
  have hdelivered : (s.notify mailer reading now n.actor.id n).delivered =
      emails.toList.map (s.relay n) := by
    unfold Activity.delivered
    rw [offers_notify, hemails]
    dsimp only
    rw [hdone, List.filter_eq_self.2 ?_, List.map_map]
    · exact List.map_id _
    · intro offer hoffer
      obtain ⟨m, -, rfl⟩ := List.mem_map.1 hoffer
      rfl
  have haddress : ((fun m : Message => decide (m.recipient.address = email)) ∘ s.relay n) =
      fun e => decide (e = email) := rfl
  have hcount : emails.toList.count email = 1 :=
    List.count_eq_one_of_mem emails.nodup_toList hemail
  refine ⟨hvalue, ?_⟩
  rw [hdelivered, List.filter_map, haddress, List.filter_eq, hcount]
  rfl

/-- The token that a person was handed when they had shown an address counts wherever the search of
their pod finds it, as long as it holds.  The address is then among those at which they can be
reached, which are all different, and they count as reachable.  Everybody who writes to them for
themselves reaches the address with one message if no message is refused. -/
theorem kept_token_counts (s : Service) (pods : Fetcher) (reading : Nat) (issuedAt : UInt64)
    (claim : Claim) (token : String)
    (htoken : handedToken? ((s.facing pods).finish reading issuedAt claim).value = some token)
    (hperson : Iri.isAbsolute claim.webId.text = true)
    (hscheme :
      s.scheme.Recognizes (s.keptCodec.message (.verified claim.webId claim.email) issuedAt))
    (laterPods : Fetcher) (laterReading : Nat) (now : UInt64)
    (hnow : now.toNat <
      min (issuedAt.toNat + s.config.tokenLifetime.toNat) (UInt64.size - 1))
    (hfinds : (s.facing laterPods).Finds laterReading claim.webId token) :
    (∃ emails, ((s.facing laterPods).verifiedEmails laterReading now claim.webId).value =
        .ok emails ∧ claim.email ∈ emails.toList ∧ emails.toList.Nodup) ∧
      ((s.facing laterPods).status laterReading now claim.webId).value = .ok true ∧
      ∀ (mailer : Mailer) (n : Notification), (∀ m, mailer.refusal? m = none) →
        n.target.id = claim.webId →
          (∃ count, ((s.facing laterPods).notify mailer laterReading now n.actor.id n).value =
              .ok count) ∧
            ((s.facing laterPods).notify mailer laterReading now n.actor.id n).delivered.filter
              (·.recipient.address = claim.email) = [s.relay n claim.email] := by
  rw [handedToken?_finish] at htoken
  obtain rfl := Option.some.inj htoken
  obtain ⟨emails, hemails, hemail⟩ :=
    exists_mem_verifiedEmails_of_finds (s := s.facing laterPods) hperson hscheme hfinds hnow
  refine ⟨⟨emails, hemails, hemail, emails.nodup_toList⟩, ?_, ?_⟩
  · have hne : emails.isEmpty = false :=
      List.isEmpty_eq_false_iff.2 (List.ne_nil_of_mem hemail)
    change Except.map _ ((s.facing laterPods).verifiedEmails laterReading now claim.webId).value = _
    rw [hemails]
    change Except.ok (!emails.isEmpty) = _
    rw [hne]
    rfl
  · intro mailer n hmailer htarget
    rw [← htarget] at hemails
    obtain ⟨hvalue, hdelivered⟩ := filter_delivered_notify hmailer hemails hemail
    exact ⟨⟨_, hvalue⟩, hdelivered⟩

/-- A pod in which the token stands beside one that shows nothing and a resource, and which goes on
in a second document. -/
def crowdedPod : Fetcher :=
  (Web.putDocument {} "a:b" ("<a:b> <a:t> \"x\" , <a:t> , \"" ++ sampleToken ++
    "\"@en ; <http://www.w3.org/2000/01/rdf-schema#seeAlso> <a:c> .")).fetcher

/-- What is found in that pod is cut short. -/
lemma resolve_crowdedPod :
    ((settingsService.facing crowdedPod).resolve 0 samplePerson).value.status = .budgetExhausted ∧
      sampleToken ∈ settingsService.keptTokens samplePerson
        ((settingsService.facing crowdedPod).resolve 0 samplePerson).value := by
  decide +kernel

/-- The token counts although the search is cut short. -/
theorem kept_token_counts_crowdedPod :
    ((settingsService.facing crowdedPod).resolve 0 samplePerson).value.status = .budgetExhausted ∧
      ((settingsService.facing crowdedPod).status 0 0 samplePerson).value = .ok true ∧
      ∃ emails, ((settingsService.facing crowdedPod).verifiedEmails 0 0 samplePerson).value =
        .ok emails ∧ "e" ∈ emails.toList := by
  have htoken : handedToken?
      ((settingsService.facing settingsPod).finish 0 0 shownClaim).value = some sampleToken :=
    handedToken?_finish _ _ _ _
  obtain ⟨⟨emails, hemails, hemail, -⟩, hstatus, -⟩ :=
    kept_token_counts settingsService settingsPod 0 0 shownClaim sampleToken htoken
      rfl ⟨rfl, BEq.rfl⟩ crowdedPod 0 0 (by decide) (finds_iff.2 resolve_crowdedPod.2)
  exact ⟨resolve_crowdedPod.1, hstatus, emails, hemails, hemail⟩

end Service

end Courier
