import Courier.Proofs.Access.Writable
import Courier.Proofs.Crawl.Accounting
import Courier.Proofs.Service.History
import Courier.Proofs.Token.Lifetime

/-!
# What is written where

When an address has been shown, the service writes one token into the person's settings and nowhere
else.  It asks each of the settings found for its permissions and sends one patch to each whose
server grants writing, in the order in which they were found (`Service.finish_writes`).  All other
requests only read.  Whatever comes of the patches, the person is handed the very token that they
have, and it is good for the person and the address.
-/

namespace Courier

namespace Fetcher

variable {f : Fetcher} {r : Request}

/-- Whether the request is answered, and with a status of success. -/
def Fulfils (f : Fetcher) (r : Request) : Prop :=
  ∃ response, f.answer r = .ok response ∧ 200 ≤ response.status ∧ response.status < 300

/-- Answers of success can be recognized. -/
lemma fulfils_iff : f.Fulfils r ↔ (f.answer r).toOption.any Response.isSuccess = true := by
  unfold Fulfils
  cases f.answer r with
  | error e =>
    constructor
    · rintro ⟨response, hanswer, -⟩
      cases hanswer
    · intro h
      cases h
  | ok response =>
    constructor
    · rintro ⟨other, hanswer, hstatus⟩
      obtain rfl : response = other := Except.ok.inj hanswer
      exact isSuccess_iff.2 hstatus
    · intro h
      exact ⟨response, rfl, isSuccess_iff.1 h⟩

instance : DecidablePred f.Fulfils := fun _ =>
  decidable_of_iff _ fulfils_iff.symm

end Fetcher

namespace Service

variable {s : Service}

/-- The patches that go well are those that the fetcher fulfils. -/
lemma succeeds_iff {r : Request} : s.succeeds r = true ↔ s.fetcher.Fulfils r := by
  rw [Fetcher.fulfils_iff]
  unfold succeeds
  cases s.fetcher.answer r <;> rfl

/-- The settings found are the resources among the terms found to be settings. -/
lemma mem_settings_iff {r : Crawl.Resolution} {i : Iri} :
    i ∈ settings r ↔ .iri i ∈ r.bindings.terms SearchPlan.settings := by
  rw [Bindings.iri_mem_terms]
  unfold settings Crawl.Resolution.termsOf
  simp only [List.mem_filterMap, Term.iri?_eq_some_iff, exists_eq_right]

/-- No two settings found are the same. -/
lemma nodup_settings (r : Crawl.Resolution) : (settings r).Nodup := by
  unfold settings
  refine List.Pairwise.filterMap _ ?_ (r.termsOf SearchPlan.settings).distinct
  intro a b hab i hi j hj hij
  rw [Term.iri?_eq_some_iff.1 hi, Term.iri?_eq_some_iff.1 hj, hij, BEq.rfl] at hab
  cases hab

/-- A search only reads. -/
lemma method_of_mem_requests_resolve {reading : Nat} {webId : Iri} {q : Request}
    (h : q ∈ (s.resolve reading webId).requests) : q.method = .get := by
  obtain ⟨⟨instant, r⟩, hr, rfl⟩ := List.mem_map.1 h
  obtain ⟨hbooks, -⟩ := (s.search reading).books_run _
  obtain ⟨d, -, hd⟩ := hbooks.request_eq _ hr
  rw [hd]
  rfl

/-- What finishing does: it searches, asks the settings found for their permissions, and patches
those whose server grants writing. -/
lemma finish_eq (s : Service) (reading : Nat) (now : UInt64) (claim : Claim) :
    s.finish reading now claim =
      let found := s.resolve reading claim.webId
      let patches := ((settings found.value).filter s.fetcher.GrantsWriting).map
        (s.patchRequest claim.webId (s.keptToken now claim))
      { value :=
          if patches.countP s.fetcher.Fulfils = 0 then
            .error (.noWritableLocation (s.keptToken now claim))
          else .ok ⟨s.keptToken now claim, patches.countP s.fetcher.Fulfils, s.verifiedMessage⟩
        requests := found.requests ++ (settings found.value).map .head ++ patches } := by
  have hsaved (patches : List Request) :
      patches.countP (fun q => decide (s.fetcher.Fulfils q)) = patches.countP s.succeeds := by
    refine List.countP_congr fun q _ => ?_
    rw [decide_eq_true_eq]
    exact succeeds_iff.symm
  simp only [← Fetcher.value_findWritable, hsaved]
  rfl

/-- Among the requests made in finishing only the patches are patches. -/
lemma filter_method_finish (s : Service) (reading : Nat) (now : UInt64) (claim : Claim) :
    (s.finish reading now claim).requests.filter (·.method = .patch) =
      ((settings (s.resolve reading claim.webId).value).filter s.fetcher.GrantsWriting).map
        (s.patchRequest claim.webId (s.keptToken now claim)) := by
  have hreads : (s.resolve reading claim.webId).requests.filter (·.method = .patch) = [] := by
    refine List.filter_eq_nil_iff.2 fun q hq => ?_
    rw [method_of_mem_requests_resolve hq]
    decide
  have hheads : ∀ candidates : List Iri,
      (candidates.map Request.head).filter (·.method = .patch) = [] := by
    intro candidates
    refine List.filter_eq_nil_iff.2 fun q hq => ?_
    obtain ⟨i, -, rfl⟩ := List.mem_map.1 hq
    exact Bool.false_ne_true
  have hpatches : ∀ targets : List Iri,
      (targets.map (s.patchRequest claim.webId (s.keptToken now claim))).filter
          (·.method = .patch) =
        targets.map (s.patchRequest claim.webId (s.keptToken now claim)) := by
    intro targets
    refine List.filter_eq_self.2 fun q hq => ?_
    obtain ⟨i, -, rfl⟩ := List.mem_map.1 hq
    rfl
  rw [finish_eq]
  dsimp only
  rw [List.filter_append, List.filter_append, hreads, hheads, hpatches, List.append_nil,
    List.nil_append]

/-- Finishing writes only where it may.  Its patches are one for each of the settings found whose
server grants writing, in the order in which these were found, and each adds the statement with the
token; all other requests read documents or ask for permissions.  It succeeds exactly if some patch
does, and tells how many did.  In any case it hands back the token of the patches, which is accepted
for the person and the address from the start, unless it is issued for no time or at the last
instant. -/
theorem finish_writes (s : Service) (reading : Nat) (now : UInt64) (claim : Claim)
    (hperson : Iri.isAbsolute claim.webId.text = true)
    (hscheme :
      s.scheme.Recognizes (s.keptCodec.message (.verified claim.webId claim.email) now)) :
    let found := (s.resolve reading claim.webId).value
    let candidates := (found.termsOf SearchPlan.settings).toList.filterMap Term.iri?
    let token := s.keptToken now claim
    let patches : List Request :=
      (candidates.filter s.fetcher.GrantsWriting).map fun target =>
        { iri := target, method := .patch, headers := [("content-type", "text/n3")],
          body := some (tokenPatch claim.webId s.config.tokenPredicate token) }
    let saved := patches.countP s.fetcher.Fulfils
    let finished := s.finish reading now claim
    candidates.Nodup ∧
      finished.requests.filter (·.method = .patch) = patches ∧
      finished.requests = found.requests.map (·.2) ++
        candidates.map (fun target => { iri := target, method := .head }) ++ patches ∧
      (∀ r ∈ found.requests, r.2.method = .get) ∧
      finished.value =
        (if saved = 0 then .error (.noWritableLocation token)
        else .ok ⟨token, saved, s.verifiedMessage⟩) ∧
      (∀ later, s.keptCodec.verify token later =
        if later.toNat < min (now.toNat + s.config.tokenLifetime.toNat) (UInt64.size - 1) then
          .ok (s.keptCodec.grant (.verified claim.webId claim.email) now)
        else .error .expired) ∧
      (0 < s.config.tokenLifetime → now.toNat < UInt64.size - 1 →
        s.keptCodec.verify token now =
          .ok (s.keptCodec.grant (.verified claim.webId claim.email) now)) := by
  intro found candidates token patches saved finished
  have hfinish : finished = _ := s.finish_eq reading now claim
  have hverify := @TokenCodec.verify_issue_eq s.keptCodec (.verified claim.webId claim.email) now
    hperson hscheme
  refine ⟨nodup_settings found, s.filter_method_finish reading now claim, ?_, ?_, ?_, hverify, ?_⟩
  · rw [hfinish]
    rfl
  · intro r hr
    exact method_of_mem_requests_resolve (List.mem_map_of_mem hr)
  · rw [hfinish]
    rfl
  · intro hlifetime hnow
    have hpositive : 0 < s.config.tokenLifetime.toNat := UInt64.lt_iff_toNat_lt.1 hlifetime
    have hfirst : now.toNat < min (now.toNat + s.config.tokenLifetime.toNat) (UInt64.size - 1) :=
      lt_min (Nat.lt_add_of_pos_right hpositive) hnow
    exact (hverify now).trans (if_pos hfirst)

/-- A pod with three settings: one takes patches, one says so but does not, and one may be written
to by everybody but whoever asks. -/
def settingsPod : Fetcher :=
  let web := Web.putDocument {} "a:b"
    "<a:b> <http://www.w3.org/ns/pim/space#preferencesFile> <a:x> , <a:y> , <a:z> ."
  let web := ((web.putDocument "a:x" "").putDocument "a:y" "").putDocument "a:z" ""
  let web := web.addHeader "a:x" "WAC-Allow" "user=\"append\"" |>.setPatchStatus "a:x" 205
  let web := web.addHeader "a:y" "wac-allow" "user=\"read write\",public=\"\""
  (web.addHeader "a:z" "WAC-Allow" "user=\"read\",public=\"write\"").fetcher

/-- A service that reads only one document of the pod. -/
def settingsService : Service :=
  { sampleService.facing settingsPod with
    config := { sampleService.config with maxFetches := 1 } }

/-- A claim that is being shown. -/
def shownClaim : Claim :=
  .unverified samplePerson "e"

/-- The token is sent to the two settings that may be written to, and one of them takes it. -/
theorem finish_writes_settingsService :
    (settingsService.finish 0 0 shownClaim).requests.filter (·.method = .patch) =
        ([⟨"a:x"⟩, ⟨"a:y"⟩].map fun target : Iri =>
          { iri := target, method := .patch, headers := [("content-type", "text/n3")],
            body := some (tokenPatch samplePerson ⟨"a:t"⟩ sampleToken) }) ∧
      (∃ verified, (settingsService.finish 0 0 shownClaim).value = .ok verified ∧
        verified.token = sampleToken ∧ verified.saved = 1) ∧
      settingsService.keptCodec.verify sampleToken 0 =
        .ok (settingsService.keptCodec.grant (.verified samplePerson "e") 0) := by
  have htargets : (((settingsService.resolve 0 shownClaim.webId).value.termsOf
      SearchPlan.settings).toList.filterMap Term.iri?).filter
        settingsService.fetcher.GrantsWriting = [⟨"a:x"⟩, ⟨"a:y"⟩] := by
    decide +kernel
  have hsaved : ([⟨"a:x"⟩, ⟨"a:y"⟩].map fun target : Iri =>
      ({ iri := target, method := .patch, headers := [("content-type", "text/n3")],
         body := some (tokenPatch shownClaim.webId settingsService.config.tokenPredicate
          (settingsService.keptToken 0 shownClaim)) } : Request)).countP
            settingsService.fetcher.Fulfils = 1 := by
    decide
  obtain ⟨-, hpatches, -, -, hvalue, -, hverify⟩ :=
    finish_writes settingsService 0 0 shownClaim rfl ⟨rfl, BEq.rfl⟩
  rw [htargets] at hpatches hvalue
  rw [hsaved] at hvalue
  exact ⟨hpatches, ⟨_, hvalue, rfl, rfl⟩, hverify (by decide) (by decide)⟩

end Service

end Courier
