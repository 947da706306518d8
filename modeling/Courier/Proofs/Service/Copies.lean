import Mathlib.Data.Finset.Card
import Courier.Proofs.Service.Search
import Courier.Proofs.Service.Writing

/-!
# How many copies are written

The token of an address is written into a person's settings, one patch for each.  Settings are
resources and not documents: two of them that differ in their fragments only are read through one
document, and the service does not notice.  So the patches go to different documents, and what is
told to be saved is the number of documents with the token, exactly as far as no two of the settings
share one (`Service.finish_copies`).
-/

namespace Courier

/-- A resource without a fragment is its own document. -/
lemma Iri.document_eq_self {iri : Iri} (h : iri.hasFragment = false) : iri.document = iri := by
  have hnone : ∀ c ∈ iri.text.toList, (c != '#') = true := by
    intro c hc
    rw [bne_iff_ne]
    rintro rfl
    rw [hasFragment, List.contains_iff_mem.2 hc] at h
    cases h
  unfold document
  rw [List.takeWhile_eq_self_iff.2 hnone, String.ofList_toList]

namespace Service

/-- The resources that are written to: those of the patches among the requests. -/
def targets (requests : List Request) : List Iri :=
  (requests.filter (·.method = .patch)).map Request.iri

/-- The documents through which the resources are read. -/
def documents (resources : List Iri) : Finset Iri :=
  (resources.map Iri.document).toFinset

/-- Whether no two of the resources are read through one document. -/
def AreApart (resources : List Iri) : Prop :=
  ∀ i ∈ resources, ∀ j ∈ resources, i.document = j.document → i = j

section Resources

variable {resources : List Iri}

/-- Different resources are read through different documents exactly if they are apart. -/
lemma nodup_map_document_iff (h : resources.Nodup) :
    (resources.map Iri.document).Nodup ↔ AreApart resources :=
  List.nodup_map_iff_inj_on h

/-- There are no more documents than resources. -/
lemma card_documents_le : (documents resources).card ≤ resources.length := by
  unfold documents
  exact (List.toFinset_card_le _).trans (List.length_map _).le

/-- Different resources are read through as many documents exactly if they are apart. -/
lemma card_documents_eq_iff (h : resources.Nodup) :
    (documents resources).card = resources.length ↔ AreApart resources := by
  have hlength : (resources.map Iri.document).length = resources.length := List.length_map _
  rw [← nodup_map_document_iff h, ← hlength]
  exact Multiset.toFinset_card_eq_card_iff_nodup

/-- Resources without fragments are apart. -/
lemma areApart_of_hasFragment (h : ∀ i ∈ resources, i.hasFragment = false) :
    AreApart resources := by
  intro i hi j hj hij
  rwa [Iri.document_eq_self (h i hi), Iri.document_eq_self (h j hj)] at hij

end Resources

variable {s : Service} {reading : Nat} {now : UInt64} {claim : Claim}

/-- Some document that the search came to says of each of the settings found that it is one. -/
lemma says_of_mem_settings {i : Iri} (h : i ∈ settings (s.resolve reading claim.webId).value) :
    Says (s.resolve reading claim.webId).value.store.quads.toSet (.iri claim.webId)
      Vocabulary.preferencesFile (.iri i) :=
  (s.search reading).terms_settings_run_subset s.config.discoveryType claim.webId
    (mem_settings_iff.1 h)

/-- The settings found whose server grants writing are written to. -/
lemma targets_finish : targets (s.finish reading now claim).requests =
    (settings (s.resolve reading claim.webId).value).filter s.fetcher.GrantsWriting := by
  rw [targets, filter_method_finish, List.map_map]
  exact List.map_id _

lemma nodup_targets_finish : (targets (s.finish reading now claim).requests).Nodup := by
  rw [targets_finish]
  exact (nodup_settings _).filter _

/-- Those of the resources whose patch goes well are told to be saved. -/
lemma saved_of_finish {verified : Verified}
    (h : (s.finish reading now claim).value = .ok verified) :
    verified.saved =
      (targets ((s.finish reading now claim).requests.filter s.fetcher.Fulfils)).length := by
  rw [finish_eq] at h
  dsimp only at h
  split at h
  · cases h
  · cases h
    rw [targets, List.length_map, List.filter_comm, filter_method_finish,
      List.countP_eq_length_filter]

/-- What is written where, document by document.  The resources written to are different settings of
the person, found on the pod, whose server grants writing.  So the patches go to different documents
exactly if no two of these are read through one document; and what is told to be saved is never less
than the number of documents with the token, and is the same exactly if no two resources whose patch
went well are read through one document.  Both are certain if no document of the pod says that
something with a fragment is the person's settings. -/
theorem finish_copies (s : Service) (reading : Nat) (now : UInt64) (claim : Claim) :
    let facts := (s.resolve reading claim.webId).value.store.quads.toSet
    let finished := s.finish reading now claim
    let patched := targets finished.requests
    let saved := targets (finished.requests.filter s.fetcher.Fulfils)
    patched.Nodup ∧
      (∀ i, i ∈ patched ↔
        i ∈ settings (s.resolve reading claim.webId).value ∧ s.fetcher.GrantsWriting i) ∧
      (∀ i ∈ patched, Says facts (.iri claim.webId) Vocabulary.preferencesFile (.iri i)) ∧
      ((patched.map Iri.document).Nodup ↔ AreApart patched) ∧
      (∀ verified, finished.value = .ok verified →
        verified.saved = saved.length ∧ (documents saved).card ≤ verified.saved ∧
        (verified.saved = (documents saved).card ↔ AreApart saved)) ∧
      ((∀ i, Says facts (.iri claim.webId) Vocabulary.preferencesFile (.iri i) →
          i.hasFragment = false) →
        AreApart patched ∧ AreApart saved) := by
  intro facts finished patched saved
  have hmem : ∀ i, i ∈ patched ↔
      i ∈ settings (s.resolve reading claim.webId).value ∧ s.fetcher.GrantsWriting i := by
    intro i
    rw [show patched = _ from targets_finish, List.mem_filter, decide_eq_true_eq]
  have hstated : ∀ i ∈ patched, Says facts (.iri claim.webId) Vocabulary.preferencesFile (.iri i) :=
    fun i hi => says_of_mem_settings ((hmem i).1 hi).1
  have hsaved : saved.Sublist patched :=
    (List.filter_sublist.filter _).map _
  have hnodup : patched.Nodup := nodup_targets_finish
  refine ⟨hnodup, hmem, hstated, nodup_map_document_iff hnodup, fun verified hverified => ?_,
    fun hpod => ?_⟩
  · have hlength : verified.saved = saved.length := saved_of_finish hverified
    rw [hlength, eq_comm (b := (documents saved).card)]
    exact ⟨rfl, card_documents_le, card_documents_eq_iff (hnodup.sublist hsaved)⟩
  · have hpatched : ∀ i ∈ patched, i.hasFragment = false := fun i hi => hpod i (hstated i hi)
    exact ⟨areApart_of_hasFragment hpatched,
      areApart_of_hasFragment fun i hi => hpatched i (hsaved.subset hi)⟩

/-- A pod whose settings are two parts of one document, both of which may be written to. -/
def partsPod : Fetcher :=
  let web := Web.putDocument {} "a:b"
    "<a:b> <http://www.w3.org/ns/pim/space#preferencesFile> <a:x#one> , <a:x#two> ."
  let web := (web.putDocument "a:x#one" "").addHeader "a:x#one" "WAC-Allow" "user=\"write\""
  let web := (web.putDocument "a:x#two" "").addHeader "a:x#two" "WAC-Allow" "user=\"write\""
  ((web.setPatchStatus "a:x#one" 205).setPatchStatus "a:x#two" 205).fetcher

/-- A service that reads only the card of that pod. -/
def partsService : Service :=
  { sampleService.facing partsPod with
    config := { sampleService.config with maxFetches := 1 } }

/-- The token is written twice into one document, and said to be saved in two places. -/
theorem finish_partsService :
    let finished := partsService.finish 0 0 shownClaim
    ¬ ((targets finished.requests).map Iri.document).Nodup ∧
      ∃ verified, finished.value = .ok verified ∧ verified.saved = 2 ∧
        documents (targets (finished.requests.filter partsService.fetcher.Fulfils)) =
          {⟨"a:x"⟩} := by
  intro finished
  have htargets : (settings (partsService.resolve 0 shownClaim.webId).value).filter
      partsService.fetcher.GrantsWriting = [⟨"a:x#one"⟩, ⟨"a:x#two"⟩] := by
    decide +kernel
  have hpatched : targets finished.requests = [⟨"a:x#one"⟩, ⟨"a:x#two"⟩] :=
    targets_finish.trans htargets
  have hpatches := partsService.filter_method_finish 0 0 shownClaim
  rw [htargets] at hpatches
  have hsaved : targets (finished.requests.filter partsService.fetcher.Fulfils) =
      [⟨"a:x#one"⟩, ⟨"a:x#two"⟩] := by
    rw [targets, List.filter_comm, hpatches]
    decide
  refine ⟨?_, ?_⟩
  · rw [hpatched]
    decide
  · have hfinish := congrArg Traced.value (partsService.finish_eq 0 0 shownClaim)
    dsimp only at hfinish
    rw [htargets] at hfinish
    refine ⟨_, hfinish.trans (if_neg (by decide)), ?_, ?_⟩
    · decide
    · rw [hsaved]
      decide

end Service

end Courier
