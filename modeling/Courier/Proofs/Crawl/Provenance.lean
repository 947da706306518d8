import Courier.Proofs.Crawl.Accounting
import Courier.Proofs.Http.Document

/-!
# Where facts come from

A crawl holds exactly what its documents say.  Every quad is a statement of the document that it has
as its graph, and that document was answered in time, with success and by a text that can be read
(`Setting.isSourced_run`).  What was loaded is held in full; statements that a document repeats
count as often as they stand there, but are held once.  A document that failed, came too late or was
given up when the crawl was stopped adds nothing, and no document adds statements in the name of
another.
-/

namespace Courier.Crawl.Setting

variable (c : Setting) {seed : Bindings}

/-! ### Reading one document -/

/-- Whether the document is answered in time and with success by a text that reads as the
triples. -/
structure IsReadAs (document : Iri) (ts : List Triple) : Prop where
  /-- The answer does not come too late. -/
  delay_le : c.fetcher.delay document.documentRequest ≤ c.limits.fetchTimeout
  /-- It is a success, and its text reads as the triples. -/
  exists_response : ∃ response, c.fetcher.answer document.documentRequest = .ok response ∧
    response.isSuccess = true ∧ Turtle.read c.reading document response.body = .ok ts

/-- A document is loaded exactly if it is answered in time and can be read, and then with what it
reads as. -/
theorem load_eq_ok_iff {document : Iri} (hdocument : document.document = document)
    {ts : List Triple} : c.load document = .ok ts ↔ c.IsReadAs document ts := by
  unfold load
  by_cases hdelay : c.fetcher.delay document.documentRequest ≤ c.limits.fetchTimeout
  · rw [if_pos hdelay, Fetcher.document_eq_ok_iff]
    constructor
    · rintro ⟨response, hanswer, hsuccess, hread⟩
      rw [hdocument] at hread
      exact ⟨hdelay, response, hanswer, Fetcher.isSuccess_iff.2 hsuccess, hread⟩
    · rintro ⟨-, response, hanswer, hsuccess, hread⟩
      rw [← hdocument] at hread
      exact ⟨response, hanswer, Fetcher.isSuccess_iff.1 hsuccess, hread⟩
  · rw [if_neg hdelay]
    constructor
    · intro h
      cases h
    · intro h
      exact absurd h.delay_le hdelay

/-! ### Every quad has a source -/

/-- Whether every quad of a state is a statement of its graph, which was fetched and loaded. -/
def IsSourced (s : State) : Prop :=
  ∀ q ∈ s.store.quads.toList, q.graph ∈ s.fetched ∧
    ∃ ts, c.load q.graph = .ok ts ∧ ∃ t ∈ ts, q = t.inGraph q.graph

variable {c}

/-- Recording what came of a document keeps it so. -/
lemma IsSourced.record {s : State} (h : c.IsSourced s) (instant : Nat) (document : Iri) :
    c.IsSourced (s.record instant document (c.load document)) := by
  intro q hq
  have hfetched : (s.record instant document (c.load document)).fetched =
      insert document s.fetched := by
    ext d
    rw [State.mem_fetched, State.outcomes_record, List.map_append, List.mem_append,
      Set.mem_insert_iff, State.mem_fetched, or_comm]
    simp
  rw [hfetched]
  have hold : q ∈ s.store.quads.toList → q.graph ∈ insert document s.fetched ∧
      ∃ ts, c.load q.graph = .ok ts ∧ ∃ t ∈ ts, q = t.inGraph q.graph := by
    intro hmem
    exact ⟨Set.mem_insert_of_mem _ (h q hmem).1, (h q hmem).2⟩
  cases hload : c.load document with
  | ok ts =>
    rw [hload] at hq
    rcases Store.mem_toList_addGraph hq with hmem | ⟨t, ht, rfl⟩
    · exact hold hmem
    · exact ⟨Set.mem_insert _ _, ts, hload, t, ht, rfl⟩
  | error e =>
    rw [hload] at hq
    exact hold hq

/-- So does recording any number of documents. -/
lemma IsSourced.recordAll {s : State} (h : c.IsSourced s) (jobs : List (Span × Iri)) :
    c.IsSourced (c.recordAll s jobs) := by
  induction jobs generalizing s with
  | nil => exact h
  | cons job jobs ih => exact ih (h.record job.1.finish job.2)

lemma IsSourced.gather {s : State} (h : c.IsSourced s) (documents : List Iri) :
    c.IsSourced (c.gather s documents) := by
  have hrequests : c.IsSourced
      { s with requests := s.requests ++ (c.started s.clock documents).map request } := h
  exact hrequests.recordAll _

variable (c)

/-- However a crawl ends, every quad that it holds is a statement of the document that is its graph,
and this document was loaded. -/
theorem isSourced_run (seed : Bindings) : c.IsSourced (c.run seed).toState := by
  refine c.run_induction (motive := c.IsSourced) ?_ ?_ ?_
  · intro q hq
    cases hq
  · intro s hs q hq
    rw [State.store_evaluate] at hq
    rw [State.fetched_evaluate]
    exact hs q hq
  · intro s documents hs
    obtain ⟨clock, hfetch⟩ := c.exists_fst_fetchBatch_eq s documents
    rw [hfetch]
    exact hs.gather documents

/-! ### Outcomes tell what was read -/

/-- Documents with an outcome are documents, not other resources in them. -/
lemma document_of_mem_fetched_run {d : Iri} (h : d ∈ (c.run seed).fetched) : d.document = d := by
  obtain ⟨hbooks, -⟩ := c.books_run seed
  obtain ⟨r, hr, hrd⟩ := List.mem_map.1 (hbooks.requested_of_mem d h)
  obtain ⟨e, he, hre⟩ := hbooks.request_eq r hr
  rw [hre, iri_documentRequest_of_mem_discovered he] at hrd
  obtain ⟨i, rfl⟩ := exists_document_of_mem_discovered he
  rw [← hrd]
  exact i.document_document

/-- A document with an outcome is loaded exactly if it is answered in time and can be read. -/
lemma load_eq_ok_iff_of_mem_fetched_run {d : Iri} (h : d ∈ (c.run seed).fetched)
    {ts : List Triple} : c.load d = .ok ts ↔ c.IsReadAs d ts :=
  c.load_eq_ok_iff (c.document_of_mem_fetched_run h)

/-- A document is recorded as loaded, with the number of its triples, exactly if it was fetched and
can be read. -/
theorem loaded_mem_outcomes_run_iff {d : Iri} {n : Nat} :
    (d, Outcome.loaded n) ∈ (c.run seed).outcomes ↔
      d ∈ (c.run seed).fetched ∧ ∃ ts, c.IsReadAs d ts ∧ ts.length = n := by
  constructor
  · intro h
    have hfetched := State.mem_fetched_of_mem h
    have houtcome : Outcome.loaded n = c.outcome d := c.outcome_of_mem_outcomes_run h
    refine ⟨hfetched, ?_⟩
    unfold outcome at houtcome
    cases hload : c.load d with
    | error e =>
      rw [hload] at houtcome
      cases houtcome
    | ok ts =>
      rw [hload] at houtcome
      cases houtcome
      exact ⟨ts, (c.load_eq_ok_iff_of_mem_fetched_run hfetched).1 hload, rfl⟩
  · rintro ⟨hfetched, ts, hread, rfl⟩
    have hload := (c.load_eq_ok_iff_of_mem_fetched_run hfetched).2 hread
    obtain ⟨⟨d', o⟩, ho, rfl⟩ := List.mem_map.1 hfetched
    have houtcome : o = c.outcome d' := c.outcome_of_mem_outcomes_run ho
    unfold outcome at houtcome
    rw [hload] at houtcome
    exact houtcome ▸ ho

/-- Whatever a document says that is recorded as loaded is held. -/
lemma inGraph_mem_store_run {d : Iri} {n : Nat}
    (hloaded : (d, Outcome.loaded n) ∈ (c.run seed).outcomes) {ts : List Triple}
    (hread : c.IsReadAs d ts) {t : Triple} (ht : t ∈ ts) :
    t.inGraph d ∈ (c.run seed).store.quads.toSet := by
  have hfetched := State.mem_fetched_of_mem hloaded
  have hload := (c.load_eq_ok_iff_of_mem_fetched_run hfetched).2 hread
  obtain ⟨s, hs⟩ := c.exists_isLastPass_run seed
  rw [hs.facts_eq]
  exact ⟨d, hfetched, ts, hload, t, ht, BEq.rfl⟩

/-- A document that is recorded as failed cannot be read in time: it has one outcome only. -/
lemma not_isReadAs_of_failed_mem_outcomes_run {d : Iri} {e : FetchError}
    (h : (d, Outcome.failed e) ∈ (c.run seed).outcomes) (ts : List Triple) : ¬ c.IsReadAs d ts := by
  intro hread
  have hload := (c.load_eq_ok_iff_of_mem_fetched_run (State.mem_fetched_of_mem h)).2 hread
  have houtcome : Outcome.failed e = c.outcome d := c.outcome_of_mem_outcomes_run h
  unfold outcome at houtcome
  rw [hload] at houtcome
  cases houtcome

/-- The facts of a crawl are the statements of the documents loaded.  Every quad is such a statement
as it stands in its graph, a document loaded has as many triples as its outcome says, and documents
that failed or were requested in vain are the graph of no quad. -/
theorem provenance_run (c : Setting) (seed : Bindings) :
    (∀ q, q ∈ (c.run seed).store.quads.toSet ↔
        ∃ d n ts, (d, Outcome.loaded n) ∈ (c.run seed).outcomes ∧ c.IsReadAs d ts ∧
          ∃ t ∈ ts, (t.inGraph d == q) = true) ∧
      (∀ q ∈ (c.run seed).store.quads.toList,
        ∃ n ts, (q.graph, Outcome.loaded n) ∈ (c.run seed).outcomes ∧ c.IsReadAs q.graph ts ∧
          ∃ t ∈ ts, q = t.inGraph q.graph) ∧
      (∀ d n, (d, Outcome.loaded n) ∈ (c.run seed).outcomes →
        ∃ ts, c.IsReadAs d ts ∧ ts.length = n) ∧
      (∀ d e, (d, Outcome.failed e) ∈ (c.run seed).outcomes →
        (∀ ts, ¬ c.IsReadAs d ts) ∧ ∀ q ∈ (c.run seed).store.quads.toList, q.graph ≠ d) ∧
      ∀ d ∈ (c.run seed).unanswered, ∀ q ∈ (c.run seed).store.quads.toList, q.graph ≠ d := by
  have hsource : ∀ q ∈ (c.run seed).store.quads.toList,
      ∃ n ts, (q.graph, Outcome.loaded n) ∈ (c.run seed).outcomes ∧ c.IsReadAs q.graph ts ∧
        ∃ t ∈ ts, q = t.inGraph q.graph := by
    intro q hq
    obtain ⟨hfetched, ts, hload, ht⟩ := c.isSourced_run seed q hq
    have hread := (c.load_eq_ok_iff_of_mem_fetched_run hfetched).1 hload
    exact ⟨ts.length, ts, c.loaded_mem_outcomes_run_iff.2 ⟨hfetched, ts, hread, rfl⟩, hread, ht⟩
  have hunread : ∀ d, (∀ ts, ¬ c.IsReadAs d ts) →
      ∀ q ∈ (c.run seed).store.quads.toList, q.graph ≠ d := by
    rintro d hd q hq rfl
    obtain ⟨n, ts, -, hread, -⟩ := hsource q hq
    exact hd ts hread
  refine ⟨fun q => ?_, hsource, fun d n h => (c.loaded_mem_outcomes_run_iff.1 h).2,
    fun d e h => ?_, ?_⟩
  · obtain ⟨s, hs⟩ := c.exists_isLastPass_run seed
    rw [hs.facts_eq]
    constructor
    · rintro ⟨d, hfetched, ts, hload, ht⟩
      have hread := (c.load_eq_ok_iff_of_mem_fetched_run hfetched).1 hload
      exact ⟨d, ts.length, ts, c.loaded_mem_outcomes_run_iff.2 ⟨hfetched, ts, hread, rfl⟩,
        hread, ht⟩
    · rintro ⟨d, n, ts, hloaded, hread, ht⟩
      have hfetched := (c.loaded_mem_outcomes_run_iff.1 hloaded).1
      have hload := (c.load_eq_ok_iff_of_mem_fetched_run hfetched).2 hread
      exact ⟨d, hfetched, ts, hload, ht⟩
  · have hfailed := c.not_isReadAs_of_failed_mem_outcomes_run h
    exact ⟨hfailed, hunread d hfailed⟩
  · rintro d hd q hq rfl
    obtain ⟨n, ts, hloaded, -⟩ := hsource q hq
    have hopen := (List.mem_filter.1 hd).2
    simp only [decide_eq_true_eq] at hopen
    exact hopen (List.mem_map_of_mem hloaded)

/-- Reading a card and a document that repeats it, until a deadline that comes before the document
that they refer to does. -/
def echoCrawl : Setting :=
  let web := (Web.putDocument {} "a:card" "<#me> <a:see> <a:more> , <a:more> .").putDocument
    "a:more" "<a:card#me> <a:see> <a:more> , <a:slow> ."
  { cardCrawl with
    fetcher := ((web.putDocument "a:slow" "").setDelay "a:slow" 7).fetcher
    limits := { deadline := some 3 } }

/-- A statement that two documents make is held for each of them, once however often a document
repeats it.  Nothing is held in the name of a document that is missing or comes too late. -/
theorem provenance_echoCrawl :
    (echoCrawl.run cardSeed).outcomes = [(⟨"a:card"⟩, .loaded 2), (⟨"a:more"⟩, .loaded 2)] ∧
      (echoCrawl.run cardSeed).store.quads.toList.map Quad.graph =
        [⟨"a:card"⟩, ⟨"a:more"⟩, ⟨"a:more"⟩] ∧
      (∃ ts, echoCrawl.IsReadAs ⟨"a:card"⟩ ts ∧ ts.length = 2) ∧
      (∀ q ∈ (echoCrawl.run cardSeed).store.quads.toList, q.graph ≠ ⟨"a:slow"⟩) ∧
      ∀ q ∈ (cardCrawl.run cardSeed).store.quads.toList, q.graph ≠ ⟨"a:gone"⟩ := by
  have houtcomes : (echoCrawl.run cardSeed).outcomes =
      [(⟨"a:card"⟩, .loaded 2), (⟨"a:more"⟩, .loaded 2)] := by decide +kernel
  have hopen : ⟨"a:slow"⟩ ∈ (echoCrawl.run cardSeed).unanswered := by decide +kernel
  have hgone : (⟨"a:gone"⟩, Outcome.failed (.status ⟨"a:gone"⟩ 404)) ∈
      (cardCrawl.run cardSeed).outcomes := by decide +kernel
  obtain ⟨-, -, hloaded, -, hunanswered⟩ := provenance_run echoCrawl cardSeed
  obtain ⟨-, -, -, hfailed, -⟩ := provenance_run cardCrawl cardSeed
  refine ⟨houtcomes, by decide +kernel, hloaded _ _ ?_, hunanswered _ hopen, (hfailed _ _ hgone).2⟩
  rw [houtcomes]
  exact List.mem_cons_self

end Courier.Crawl.Setting
