import Courier.Proofs.Crawl.Ending
import Courier.Proofs.Http.Document

/-!
# Documents that fail

A document that fails counts as an empty one.  Let a crawl be repeated with a fetcher that differs
in some documents only: these failed, whether nothing was answered, the server refused, the text
could not be read or it came too late, and now they are there with nothing in them, at the instants
at which they failed.  Then the crawl goes through the same states as before but for what it notes
of these documents (`Setting.Reaches.withFetcher`), so it also ends in the same way.

Whatever fails, a crawl ends only when nothing is left to fetch, when its documents or its time are
used up, or when it is cancelled.
-/

namespace Courier.Crawl

/-! ### What is noted of failures -/

/-- How what is noted of a document compares with what is noted of it where the given documents, all
of which failed, are empty. -/
inductive IsEmptied (failing : Set Iri) : Iri × Outcome → Iri × Outcome → Prop where
  /-- One of the documents failed in the one case and is empty in the other. -/
  | empty {document : Iri} (h : document ∈ failing) (error : FetchError) :
      IsEmptied failing (document, .failed error) (document, .loaded 0)
  /-- Any other document comes to the same in both. -/
  | same {document : Iri} (h : document ∉ failing) (outcome : Outcome) :
      IsEmptied failing (document, outcome) (document, outcome)

lemma IsEmptied.fst_eq {failing : Set Iri} {entry entry' : Iri × Outcome}
    (h : IsEmptied failing entry entry') : entry'.1 = entry.1 := by
  cases h with
  | empty => rfl
  | same => rfl

/-- Whether two states are the same but for the outcomes of some documents, which failed in the one
and are empty in the other. -/
structure State.AgreesBut (failing : Set Iri) (s t : State) : Prop where
  /-- The same statements were loaded. -/
  store : t.store = s.store
  /-- The same was found for every variable. -/
  bindings : t.bindings = s.bindings
  /-- The same documents were discovered. -/
  resources : t.resources = s.resources
  /-- Outcomes were recorded of the same documents, in the same order. -/
  outcomes : List.Forall₂ (IsEmptied failing) s.outcomes t.outcomes
  /-- The observer was told of them at the same instants. -/
  heard : List.Forall₂ (fun e f => f.instant = e.instant ∧ IsEmptied failing e.entry f.entry)
    s.heard t.heard
  /-- The plan was evaluated as often. -/
  passes : t.passes = s.passes
  /-- The same time has passed. -/
  clock : t.clock = s.clock
  /-- The same requests were made at the same instants. -/
  requests : t.requests = s.requests

namespace State.AgreesBut

variable {failing : Set Iri} {s t : State}

lemma start (failing : Set Iri) (seed : Bindings) :
    (State.start seed).AgreesBut failing (State.start seed) :=
  ⟨rfl, rfl, rfl, .nil, .nil, rfl, rfl, rfl⟩

/-- A step of the plan sees nothing of outcomes. -/
lemma step (h : s.AgreesBut failing t) (st : Step) :
    (s.step st).AgreesBut failing (t.step st) := by
  cases st with
  | lookUp m =>
    refine ⟨h.store, ?_, h.resources, h.outcomes, h.heard, h.passes, h.clock, h.requests⟩
    change t.bindings.set _ _ = s.bindings.set _ _
    rw [h.store, h.bindings]
  | addResources v =>
    refine ⟨h.store, h.bindings, ?_, h.outcomes, h.heard, h.passes, h.clock, h.requests⟩
    change t.resources.insertMany _ = s.resources.insertMany _
    rw [h.bindings, h.resources]

lemma foldl_step (h : s.AgreesBut failing t) (row : List Step) :
    (row.foldl State.step s).AgreesBut failing (row.foldl State.step t) := by
  induction row generalizing s t with
  | nil => exact h
  | cons st row ih => exact ih (h.step st)

/-- Neither does a pass. -/
lemma evaluate (h : s.AgreesBut failing t) (plan : Plan) :
    (s.evaluate plan).AgreesBut failing (t.evaluate plan) := by
  have hpasses : t.passes + 1 = s.passes + 1 := congrArg (· + 1) h.passes
  have hcounted : State.AgreesBut failing { s with passes := s.passes + 1 }
      { t with passes := t.passes + 1 } :=
    ⟨h.store, h.bindings, h.resources, h.outcomes, h.heard, hpasses, h.clock, h.requests⟩
  exact hcounted.foldl_step plan.steps

/-- Outcomes are recorded of the same documents. -/
lemma map_fst_outcomes (h : s.AgreesBut failing t) :
    t.outcomes.map Prod.fst = s.outcomes.map Prod.fst := by
  have houtcomes := h.outcomes
  generalize s.outcomes = before, t.outcomes = after at houtcomes
  induction houtcomes with
  | nil => rfl
  | cons hentry _ ih => rw [List.map_cons, List.map_cons, hentry.fst_eq, ih]

/-- A document that failed is as little pending as one that is empty. -/
lemma pending (h : s.AgreesBut failing t) : t.pending = s.pending := by
  have hany : ∀ (u : State) (document : Iri),
      u.outcomes.any (·.1 == document) = (u.outcomes.map Prod.fst).any (· == document) := by
    intro u document
    rw [List.any_map]
    rfl
  unfold State.pending
  simp only [hany, h.map_fst_outcomes, h.resources]

end State.AgreesBut

namespace Setting

/-- The crawl with another fetcher. -/
def withFetcher (c : Setting) (fetcher : Fetcher) : Setting :=
  { c with fetcher }

/-- Whether a fetcher differs from that of a crawl in some documents only, which fail in the crawl
and are empty with the fetcher, at the instants at which they fail. -/
structure IsEmptiedBy (c : Setting) (failing : Set Iri) (fetcher : Fetcher) : Prop where
  /-- Requests for anything else are answered in the same way. -/
  answer_eq : ∀ r : Request, r.iri ∉ failing → fetcher.answer r = c.fetcher.answer r
  /-- The answers take as long. -/
  delay_eq : ∀ r : Request, r.iri ∉ failing → fetcher.delay r = c.fetcher.delay r
  /-- The documents fail in the crawl. -/
  failed : ∀ document ∈ failing, ∃ error, c.load document = .error error
  /-- With the fetcher they can be read and have no statements. -/
  empty : ∀ document ∈ failing, fetcher.document c.reading document = .ok []
  /-- They take as long as before, those that came too late as long as they may. -/
  delay_of_mem : ∀ document ∈ failing, fetcher.delay document.documentRequest =
    min (c.fetcher.delay document.documentRequest) c.limits.fetchTimeout

namespace IsEmptiedBy

variable {c : Setting} {failing : Set Iri} {fetcher : Fetcher} {document : Iri}

/-- Every document takes as long as before. -/
lemma duration_eq (h : c.IsEmptiedBy failing fetcher)
    (hdocument : document.documentRequest.iri = document) :
    (c.withFetcher fetcher).duration document = c.duration document := by
  change min (fetcher.delay _) c.limits.fetchTimeout = min (c.fetcher.delay _) _
  by_cases hfailing : document ∈ failing
  · rw [h.delay_of_mem document hfailing, min_assoc, min_self]
  · rw [h.delay_eq _ (by rwa [hdocument])]

/-- What comes of a document with either fetcher. -/
lemma load_cases (h : c.IsEmptiedBy failing fetcher)
    (hdocument : document.documentRequest.iri = document) :
    (document ∈ failing ∧ (∃ error, c.load document = .error error) ∧
        (c.withFetcher fetcher).load document = .ok []) ∨
      document ∉ failing ∧ (c.withFetcher fetcher).load document = c.load document := by
  have hload : (c.withFetcher fetcher).load document =
      if fetcher.delay document.documentRequest ≤ c.limits.fetchTimeout then
        fetcher.document c.reading document
      else .error (.timeout document) := rfl
  rw [hload]
  by_cases hfailing : document ∈ failing
  · refine Or.inl ⟨hfailing, h.failed document hfailing, ?_⟩
    rw [h.delay_of_mem document hfailing, if_pos (min_le_right _ _), h.empty document hfailing]
  · refine Or.inr ⟨hfailing, ?_⟩
    have helse : document.documentRequest.iri ∉ failing := by
      rwa [hdocument]
    unfold load Fetcher.document
    rw [h.delay_eq _ helse, h.answer_eq _ helse]

/-- Recording a failure changes nothing that recording an empty document does not. -/
lemma record (h : c.IsEmptiedBy failing fetcher)
    (hdocument : document.documentRequest.iri = document) {s t : State}
    (hst : s.AgreesBut failing t) (instant : Nat) :
    (s.record instant document (c.load document)).AgreesBut failing
      (t.record instant document ((c.withFetcher fetcher).load document)) := by
  have hentry : IsEmptied failing (document, c.outcome document)
      (document, (c.withFetcher fetcher).outcome document) := by
    unfold outcome
    rcases h.load_cases hdocument with ⟨hfailing, ⟨error, hbefore⟩, hafter⟩ | ⟨helse, hsame⟩
    · rw [hbefore, hafter]
      exact .empty hfailing error
    · rw [hsame]
      exact .same helse _
  have hstore : (t.record instant document ((c.withFetcher fetcher).load document)).store =
      (s.record instant document (c.load document)).store := by
    rcases h.load_cases hdocument with ⟨-, ⟨error, hbefore⟩, hafter⟩ | ⟨-, hsame⟩
    · rw [hbefore, hafter]
      exact hst.store
    · rw [hsame]
      cases c.load document with
      | ok ts => exact congrArg (·.addGraph document ts) hst.store
      | error e => exact hst.store
  refine ⟨hstore, hst.bindings, hst.resources, ?_, ?_, hst.passes, hst.clock, hst.requests⟩
  · rw [State.outcomes_record, State.outcomes_record]
    exact List.rel_append hst.outcomes (.cons hentry .nil)
  · rw [State.heard_record, State.heard_record]
    exact List.rel_append hst.heard (.cons ⟨rfl, hentry⟩ .nil)

lemma recordAll (h : c.IsEmptiedBy failing fetcher) {jobs : List (Span × Iri)}
    (hjobs : ∀ job ∈ jobs, job.2.documentRequest.iri = job.2) {s t : State}
    (hst : s.AgreesBut failing t) :
    (c.recordAll s jobs).AgreesBut failing ((c.withFetcher fetcher).recordAll t jobs) := by
  induction jobs generalizing s t with
  | nil => exact hst
  | cons job jobs ih =>
    obtain ⟨hjob, hrest⟩ := List.forall_mem_cons.1 hjobs
    exact ih hrest (h.record hjob hst job.1.finish)

/-- A batch has the same schedule with either fetcher. -/
lemma batch_eq (h : c.IsEmptiedBy failing fetcher) {documents : List Iri}
    (hdocuments : ∀ d ∈ documents, d.documentRequest.iri = d) (now : Nat) :
    (c.withFetcher fetcher).batch now documents = c.batch now documents := by
  have hdurations : documents.map (c.withFetcher fetcher).duration = documents.map c.duration :=
    List.map_congr_left fun d hd => h.duration_eq (hdocuments d hd)
  unfold batch
  rw [hdurations]
  rfl

/-- So the same jobs of it are started and recorded, whatever comes of them. -/
lemma gather (h : c.IsEmptiedBy failing fetcher) {documents : List Iri}
    (hdocuments : ∀ d ∈ documents, d.documentRequest.iri = d) {s t : State}
    (hst : s.AgreesBut failing t) :
    (c.gather s documents).AgreesBut failing ((c.withFetcher fetcher).gather t documents) := by
  have hstarted : (c.withFetcher fetcher).started t.clock documents =
      c.started s.clock documents := by
    unfold started
    rw [h.batch_eq hdocuments, hst.clock]
    rfl
  have hrecorded : (c.withFetcher fetcher).recorded t.clock documents =
      c.recorded s.clock documents := by
    unfold recorded
    rw [h.batch_eq hdocuments, hst.clock]
    rfl
  unfold Setting.gather
  rw [hstarted, hrecorded]
  refine h.recordAll (fun job hjob => ?_) ?_
  · exact hdocuments _ (snd_mem_of_mem_batch (c.mem_recorded.1 hjob).1)
  · refine ⟨hst.store, hst.bindings, hst.resources, hst.outcomes, hst.heard, hst.passes,
      hst.clock, ?_⟩
    exact congrArg (· ++ _) hst.requests

/-- A batch ends at the same instant with either fetcher, and is stopped in both crawls or in
none. -/
lemma fetchBatch (h : c.IsEmptiedBy failing fetcher) {documents : List Iri}
    (hdocuments : ∀ d ∈ documents, d.documentRequest.iri = d) {s t : State}
    (hst : s.AgreesBut failing t) :
    ((c.withFetcher fetcher).fetchBatch t documents).2 = (c.fetchBatch s documents).2 ∧
      (c.fetchBatch s documents).1.AgreesBut failing
        ((c.withFetcher fetcher).fetchBatch t documents).1 := by
  have hgather := h.gather hdocuments hst
  have hlast : (c.withFetcher fetcher).lastFinish t.clock documents =
      c.lastFinish s.clock documents := by
    unfold lastFinish
    rw [h.batch_eq hdocuments, hst.clock]
  have hclock : ∀ now, State.AgreesBut failing { c.gather s documents with clock := now }
      { (c.withFetcher fetcher).gather t documents with clock := now } :=
    fun _ => ⟨hgather.store, hgather.bindings, hgather.resources, hgather.outcomes, hgather.heard,
      hgather.passes, rfl, hgather.requests⟩
  have hstop : (c.withFetcher fetcher).stop = c.stop := rfl
  rw [fetchBatch_eq, fetchBatch_eq, hstop, hlast]
  cases c.stop with
  | none => exact ⟨rfl, hclock _⟩
  | some stop =>
    dsimp only
    split
    · exact ⟨rfl, hclock _⟩
    · exact ⟨rfl, hclock _⟩

end IsEmptiedBy

section Emptied

variable (c : Setting) {documents : List Iri} {document : Iri}

/-- The fetcher of a crawl with documents emptied: each is there when it would have failed, and has
nothing in it. -/
def emptied (documents : List Iri) : Fetcher where
  answer r :=
    if r.iri ∈ documents then .ok (.make 200 [("content-type", turtleType)] "")
    else c.fetcher.answer r
  delay r :=
    if r.iri ∈ documents then min (c.fetcher.delay r) c.limits.fetchTimeout
    else c.fetcher.delay r

/-- An emptied document can be read and has no statements. -/
lemma document_emptied (reading : Nat) (h : document ∈ documents)
    (hdocument : document.document = document) (habsolute : Iri.isAbsolute document.text = true) :
    (c.emptied documents).document reading document = .ok [] := by
  have hiri : document.documentRequest.iri ∈ documents := by
    change document.document ∈ documents
    rwa [hdocument]
  have hanswer : (c.emptied documents).answer document.documentRequest =
      .ok (.make 200 [("content-type", turtleType)] "") := if_pos hiri
  refine Fetcher.document_eq_ok_iff.2 ⟨_, hanswer, Fetcher.isSuccess_iff.1 rfl, ?_⟩
  rw [hdocument]
  exact Turtle.read_empty reading habsolute

/-- Whichever documents fail in a crawl, they can be emptied. -/
theorem isEmptiedBy_emptied
    (h : ∀ document ∈ documents, document.document = document ∧
      Iri.isAbsolute document.text = true ∧ ∃ error, c.outcome document = .failed error) :
    c.IsEmptiedBy {d | d ∈ documents} (c.emptied documents) where
  answer_eq _ hr := if_neg hr
  delay_eq _ hr := if_neg hr
  failed document hdocument := by
    obtain ⟨-, -, error, herror⟩ := h document hdocument
    unfold outcome at herror
    cases hload : c.load document with
    | ok ts => rw [hload] at herror; cases herror
    | error e => exact ⟨e, rfl⟩
  empty document hdocument :=
    c.document_emptied _ hdocument (h document hdocument).1 (h document hdocument).2.1
  delay_of_mem document hdocument := by
    refine if_pos ?_
    change document.document ∈ documents
    rwa [(h document hdocument).1]

end Emptied

/-! ### The whole crawl -/

variable {c : Setting} {seed : Bindings} {failing : Set Iri} {fetcher : Fetcher}

/-- After a pass either crawl goes on with the same documents, or ends in the same way. -/
lemma verdict_withFetcher (c : Setting) (fetcher : Fetcher) {s t : State}
    (h : s.AgreesBut failing t) :
    (c.withFetcher fetcher).verdict t t.pending = c.verdict s s.pending ∧
      (c.withFetcher fetcher).next t = c.next s := by
  have hlength : t.outcomes.length = s.outcomes.length := h.outcomes.length_eq.symm
  constructor
  · unfold verdict
    rw [h.pending, hlength, h.clock]
    rfl
  · unfold next
    rw [h.pending, hlength]
    rfl

/-- What a pass and the batch after it do with the other fetcher. -/
lemma IsEmptiedBy.pass (h : c.IsEmptiedBy failing fetcher) {s t : State} (hs : c.Reaches seed s)
    (hst : s.AgreesBut failing t) :
    (c.withFetcher fetcher).verdict (t.evaluate c.plan) (t.evaluate c.plan).pending =
        c.verdict (s.evaluate c.plan) (s.evaluate c.plan).pending ∧
      ∀ s' ending, c.fetchBatch (s.evaluate c.plan) (c.next (s.evaluate c.plan)) = (s', ending) →
        ∃ t', (c.withFetcher fetcher).fetchBatch (t.evaluate c.plan)
          ((c.withFetcher fetcher).next (t.evaluate c.plan)) = (t', ending) ∧
            s'.AgreesBut failing t' := by
  have hpass := hst.evaluate c.plan
  obtain ⟨hverdict, hnext⟩ := c.verdict_withFetcher fetcher hpass
  refine ⟨hverdict, ?_⟩
  intro s' ending hbatch
  -- What is fetched are documents, not other resources in them.
  have hdocuments : ∀ d ∈ c.next (s.evaluate c.plan), d.documentRequest.iri = d := by
    intro d hd
    exact iri_documentRequest_of_mem_discovered
      (hs.resources_subset_discovered.2 (c.next_subset _ hd))
  obtain ⟨hending, hafter⟩ := h.fetchBatch hdocuments hpass
  rw [hbatch] at hending hafter
  rw [hnext]
  exact ⟨_, Prod.ext rfl hending, hafter⟩

/-- For every state of the crawl there is one of the crawl with the other fetcher that is the same
but for the outcomes of the documents. -/
theorem Reaches.withFetcher (h : c.IsEmptiedBy failing fetcher) {s : State}
    (hs : c.Reaches seed s) :
    ∃ t, (c.withFetcher fetcher).Reaches seed t ∧ s.AgreesBut failing t := by
  induction hs with
  | start => exact ⟨_, .start, .start failing seed⟩
  | @batch s s' hs hverdict hbatch ih =>
    obtain ⟨t, ht, hst⟩ := ih
    obtain ⟨hverdict', hfetch⟩ := h.pass hs hst
    obtain ⟨t', hbatch', hst'⟩ := hfetch s' none hbatch
    exact ⟨t', .batch ht (hverdict'.trans hverdict) hbatch', hst'⟩

/-- A crawl in which documents fail ends as it does where these documents are empty: with the same
status, after as many passes and as much time, with the same requests, statements and bindings, and
with outcomes of the same documents in the same order.  Only the outcomes of those documents differ.
Whatever fails, it ends because nothing is left to fetch, because its documents or its time are used
up, or because it is cancelled. -/
theorem run_withFetcher (c : Setting) (seed : Bindings) (failing : Set Iri) (fetcher : Fetcher)
    (h : c.IsEmptiedBy failing fetcher) :
    ((c.withFetcher fetcher).run seed).status = (c.run seed).status ∧
      (c.run seed).AgreesBut failing ((c.withFetcher fetcher).run seed).toState ∧
      ((c.run seed).status = .converged ∨ (c.run seed).outcomes.length = c.limits.maxFetches ∨
        c.limits.deadline = some (c.run seed).clock ∨
        c.cancelled = some (c.run seed).clock) := by
  obtain ⟨s, hs, hends⟩ := c.exists_endsAfter_run seed
  obtain ⟨t, ht, hst⟩ := hs.withFetcher h
  obtain ⟨hverdict', hfetch⟩ := h.pass hs hst
  have hcause := hends.cause hs
  generalize c.run seed = r at hends hcause
  have hreason : r.status = .converged ∨ r.outcomes.length = c.limits.maxFetches ∨
      c.limits.deadline = some r.clock ∨ c.cancelled = some r.clock := by
    cases hstatus : r.status with
    | converged => exact Or.inl rfl
    | cancelled => exact Or.inr (Or.inr (Or.inr (hcause.2 hstatus)))
    | budgetExhausted =>
      rcases hcause.1 hstatus with hspent | hlate
      · exact Or.inr (Or.inl hspent)
      · exact Or.inr (Or.inr (Or.inl hlate))
  cases hends with
  | @verdict status hverdict =>
    have hrun : (c.withFetcher fetcher).run seed = { t.evaluate c.plan with status } :=
      ht.run_eq (.verdict (hverdict'.trans hverdict))
    rw [hrun]
    exact ⟨rfl, hst.evaluate c.plan, hreason⟩
  | @stopped s' status hverdict hbatch =>
    obtain ⟨t', hbatch', hst'⟩ := hfetch s' (some status) hbatch
    have hrun : (c.withFetcher fetcher).run seed = { t' with status } :=
      ht.run_eq (.stopped (hverdict'.trans hverdict) hbatch')
    rw [hrun]
    exact ⟨rfl, hst', hreason⟩

/-- Documents that fail: one is missing, one cannot be reached, one is torn, one comes too late. -/
def brokenDocuments : List Iri :=
  [⟨"a:gone"⟩, ⟨"a:down"⟩, ⟨"a:torn"⟩, ⟨"a:slow"⟩]

/-- A card that says in which order they are to be read. -/
def brokenWeb : Web :=
  let card := "<#me> <a:next> <a:gone> . <a:gone> <a:next> <a:down> . " ++
    "<a:down> <a:next> <a:torn> . <a:torn> <a:next> <a:slow> ."
  let web := ((Web.putDocument {} "a:card" card).putDocument "a:torn" "<").putDocument "a:slow" ""
  (web.put "a:down" .unreachable).setDelay "a:slow" 9

/-- The look-up of what comes after something. -/
def nextLookUp (subject target : String) : Step :=
  .lookUp { subject := .bound ⟨subject⟩, predicate := ⟨"a:next"⟩, target := ⟨target⟩ }

/-- Reading them one after the other: every pass finds one more. -/
def brokenCrawl : Setting where
  fetcher := brokenWeb.fetcher
  limits := { deadline := none, fetchTimeout := 5 }
  plan.steps :=
    [nextLookUp "third" "fourth", nextLookUp "second" "third", nextLookUp "first" "second",
      nextLookUp "person" "first", .addResources ⟨"first"⟩, .addResources ⟨"second"⟩,
      .addResources ⟨"third"⟩, .addResources ⟨"fourth"⟩]

/-- All four fail and the crawl goes on to the next, as it does where they are empty. -/
theorem run_withFetcher_brokenCrawl :
    (brokenCrawl.run cardSeed).outcomes =
        [(⟨"a:card"⟩, .loaded 4), (⟨"a:gone"⟩, .failed (.status ⟨"a:gone"⟩ 404)),
          (⟨"a:down"⟩, .failed (.network ⟨"a:down"⟩ "connection refused")),
          (⟨"a:torn"⟩, .failed (.unreadable (.malformed ⟨"a:torn"⟩))),
          (⟨"a:slow"⟩, .failed (.timeout ⟨"a:slow"⟩))] ∧
      (brokenCrawl.run cardSeed).AgreesBut {d | d ∈ brokenDocuments}
        ((brokenCrawl.withFetcher (brokenCrawl.emptied brokenDocuments)).run cardSeed).toState := by
  have hfailed : ∀ document ∈ brokenDocuments, document.document = document ∧
      Iri.isAbsolute document.text = true ∧
        ∃ error, brokenCrawl.outcome document = .failed error := by
    unfold brokenDocuments
    simp only [List.forall_mem_cons]
    refine ⟨?gone, ?down, ?torn, ?slow, by simp⟩
    case gone => exact ⟨by decide, by decide, .status ⟨"a:gone"⟩ 404, by decide +kernel⟩
    case down =>
      exact ⟨by decide, by decide, .network ⟨"a:down"⟩ "connection refused", by decide +kernel⟩
    case torn =>
      exact ⟨by decide, by decide, .unreadable (.malformed ⟨"a:torn"⟩), by decide +kernel⟩
    case slow => exact ⟨by decide, by decide, .timeout ⟨"a:slow"⟩, by decide +kernel⟩
  have hemptied := brokenCrawl.isEmptiedBy_emptied hfailed
  obtain ⟨-, hagrees, -⟩ := run_withFetcher brokenCrawl cardSeed _ _ hemptied
  exact ⟨by decide +kernel, hagrees⟩

end Setting

end Courier.Crawl
