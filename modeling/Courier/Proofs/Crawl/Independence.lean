import Courier.Proofs.Crawl.Partial
import Courier.Proofs.Crawl.Timeline
import Mathlib.Data.List.Perm.Basic

/-!
# Independence of the schedule

In which order the documents of a batch finish depends on how long they take and on how many are
fetched at once, and with it the order of everything that a crawl gathers.  Nothing else does: two
crawls that differ in this only go through states that are alike, `State.Alike`, pass by pass.

The one thing that could break this is a batch cut short by the number of documents that may still
be fetched, for which documents are left out depends on their order.  But such a batch uses up the
budget while something is pending, so a crawl in which it happens does not converge.
-/

namespace Courier.Crawl

/-- Whether two states differ at most in the order of what they hold, and in time. -/
structure State.Alike (s t : State) : Prop where
  /-- The same is known. -/
  knowledge : t.knowledge = s.knowledge
  /-- The same outcomes are recorded. -/
  outcomes : t.outcomes.Perm s.outcomes
  /-- There were as many passes. -/
  passes : t.passes = s.passes

/-- Whether two crawls differ at most in how long documents take and how many are fetched at
once. -/
structure Setting.SameButSchedule (c d : Setting) : Prop where
  /-- They carry out the same plan. -/
  plan : d.plan = c.plan
  /-- They may fetch as many documents. -/
  maxFetches : d.limits.maxFetches = c.limits.maxFetches
  /-- Every document comes to the same in both. -/
  load : ∀ document, d.load document = c.load document

namespace State.Alike

variable {s t : State}

/-- A pass keeps states alike. -/
theorem evaluate (h : s.Alike t) (plan : Plan) : (s.evaluate plan).Alike (t.evaluate plan) := by
  refine ⟨?_, ?_, ?_⟩
  · rw [knowledge_evaluate, knowledge_evaluate, h.knowledge]
  · rw [outcomes_evaluate, outcomes_evaluate]
    exact h.outcomes
  · rw [passes_evaluate, passes_evaluate, h.passes]

/-- In states that are alike the same documents are pending. -/
lemma pending (h : s.Alike t) : t.pending.Perm s.pending := by
  rw [List.perm_ext_iff_of_nodup t.nodup_pending s.nodup_pending]
  intro d
  have hresources : t.resources.toSet = s.resources.toSet :=
    congrArg Knowledge.documents h.knowledge
  rw [mem_pending, mem_pending, hresources, mem_fetched, mem_fetched,
    (h.outcomes.map Prod.fst).mem_iff]

end State.Alike

namespace Setting

variable {c d : Setting}

/-- It is enough that requests are answered alike and that the same documents come too late. -/
lemma SameButSchedule.of_delay (hplan : d.plan = c.plan)
    (hfetches : d.limits.maxFetches = c.limits.maxFetches) (hreading : d.reading = c.reading)
    (hanswer : d.fetcher.answer = c.fetcher.answer)
    (hdelay : ∀ document : Iri,
      d.fetcher.delay document.documentRequest ≤ d.limits.fetchTimeout ↔
        c.fetcher.delay document.documentRequest ≤ c.limits.fetchTimeout) :
    c.SameButSchedule d := by
  have halike := ReadsAlike.of_delay hplan hreading hanswer hdelay
  exact ⟨hplan, hfetches, halike.load⟩

lemma SameButSchedule.readsAlike (h : c.SameButSchedule d) : c.ReadsAlike d :=
  ⟨h.plan, h.load⟩

/-- A pass leaves states alike if they were, and they get the same verdict. -/
lemma SameButSchedule.evaluate_alike (h : c.SameButSchedule d) (hc : c.IsUntimed)
    (hd : d.IsUntimed) {s t : State} (hst : s.Alike t) :
    (s.evaluate c.plan).Alike (t.evaluate d.plan) ∧
      d.verdict (t.evaluate d.plan) (t.evaluate d.plan).pending =
        c.verdict (s.evaluate c.plan) (s.evaluate c.plan).pending := by
  have hpass : (s.evaluate c.plan).Alike (t.evaluate d.plan) := by
    rw [h.plan]
    exact hst.evaluate c.plan
  have hempty : (t.evaluate d.plan).pending.isEmpty = (s.evaluate c.plan).pending.isEmpty :=
    hpass.pending.isEmpty_eq
  refine ⟨hpass, ?_⟩
  unfold verdict
  rw [hempty, hpass.outcomes.length_eq, h.maxFetches, hc.1, hd.1, hc.2, hd.2]
  rfl

/-- Batches of the same documents keep states alike. -/
lemma Records.alike (h : c.SameButSchedule d) {s s' t t' : State} {order order' : List Iri}
    (hst : s.Alike t) (hs : c.Records s s' order) (ht : d.Records t t' order')
    (horder : order'.Perm order) : s'.Alike t' := by
  obtain ⟨hso, hsf, hsb, hsr, hsp⟩ := hs
  obtain ⟨hto, htf, htb, htr, htp⟩ := ht
  have hfacts : t.store.quads.toSet = s.store.quads.toSet :=
    congrArg Knowledge.facts hst.knowledge
  have hterms : t.bindings.terms = s.bindings.terms := congrArg Knowledge.terms hst.knowledge
  have hresources : t.resources.toSet = s.resources.toSet :=
    congrArg Knowledge.documents hst.knowledge
  have hsame : {document | document ∈ order'} = {document | document ∈ order} :=
    Set.ext fun _ => horder.mem_iff
  refine ⟨Knowledge.ext ?_ ?_ ?_, ?_, ?_⟩
  · change t'.store.quads.toSet = s'.store.quads.toSet
    rw [htf, hsf, hfacts, h.readsAlike.assertions, hsame]
  · change t'.bindings.terms = s'.bindings.terms
    rw [htb, hsb, hterms]
  · change t'.resources.toSet = s'.resources.toSet
    rw [htr, hsr, hresources]
  · rw [hto, hso]
    simp only [h.readsAlike.outcome]
    exact hst.outcomes.append (horder.map _)
  · rw [htp, hsp, hst.passes]

/-- Once the budget is used up while something is pending, a crawl does not converge. -/
lemma status_passes_of_exhausted (c : Setting) (fuel : Nat) {s : State}
    (hbudget : c.limits.maxFetches ≤ s.outcomes.length) (hpending : s.pending ≠ []) :
    (c.passes fuel s).status ≠ .converged := by
  have hstill : (s.evaluate c.plan).pending ≠ [] := by
    rw [Ne, State.pending_eq_nil_iff, State.resources_evaluate, State.fetched_evaluate,
      Set.union_subset_iff, ← State.pending_eq_nil_iff]
    exact fun h => hpending h.1
  intro hrun
  cases hverdict : c.verdict (s.evaluate c.plan) (s.evaluate c.plan).pending with
  | none =>
    have hroom := (c.verdict_eq_none hverdict).2
    rw [State.outcomes_evaluate] at hroom
    omega
  | some status =>
    rw [passes_of_verdict fuel hverdict] at hrun
    subst hrun
    exact hstill (c.verdict_eq_converged_iff.1 hverdict)

/-- A batch that the budget cuts short is the last of a crawl that does not converge. -/
lemma next_eq_pending_of_converged {fuel : Nat} {s t : State}
    (hbatch : c.fetchBatch s (c.next s) = (t, none))
    (hrun : (c.passes fuel t).status = .converged) : c.next s = s.pending := by
  obtain ⟨order, hperm, hrecords⟩ := c.records_of_fetchBatch_eq hbatch
  by_contra hcut
  have hlong : c.limits.maxFetches - s.outcomes.length < s.pending.length := by
    by_contra hle
    exact hcut (List.take_of_length_le (Nat.not_lt.1 hle))
  have hlength : order.length = c.limits.maxFetches - s.outcomes.length := by
    rw [hperm.length_eq, next, List.length_take, min_eq_left hlong.le]
  refine c.status_passes_of_exhausted fuel ?_ ?_ hrun
  · rw [hrecords.outcomes, List.length_append, List.length_map, hlength]
    omega
  · -- Something was left out, and what is left out stays pending.
    intro hnil
    have hsub : s.pending ⊆ c.next s := by
      intro document hdocument
      have hmem := (State.mem_pending.1 hdocument)
      have hfetched : document ∈ t.fetched := by
        refine State.pending_eq_nil_iff.1 hnil ?_
        rw [hrecords.resources]
        exact hmem.1
      rw [hrecords.fetched] at hfetched
      exact hperm.mem_iff.1 (hfetched.resolve_left hmem.2)
    have hle := (List.subperm_of_subset s.nodup_pending hsub).length_le
    rw [next, List.length_take] at hle
    omega

/-- The batches after passes that left states alike leave states alike, unless the budget cuts them
short. -/
lemma fetchBatch_alike (h : c.SameButSchedule d) (hd : d.IsUntimed) {fuel : Nat} {s s' t : State}
    (hst : s.Alike t) (hbatch : c.fetchBatch s (c.next s) = (s', none))
    (hrun : (c.passes fuel s').status = .converged) :
    ∃ t', d.fetchBatch t (d.next t) = (t', none) ∧ s'.Alike t' := by
  have hall : c.next s = s.pending := next_eq_pending_of_converged hbatch hrun
  have hroom : s.pending.length ≤ c.limits.maxFetches - s.outcomes.length := by
    rw [← hall, next, List.length_take]
    exact min_le_left _ _
  have hnext : (d.next t).Perm (c.next s) := by
    rw [hall, next, h.maxFetches, hst.outcomes.length_eq, List.take_of_length_le]
    · exact hst.pending
    · rw [hst.pending.length_eq]
      exact hroom
  have hbatch' := d.fetchBatch_eq_of_stop_eq_none hd.stop_eq_none t (d.next t)
  obtain ⟨order, hperm, hrecords⟩ := c.records_of_fetchBatch_eq hbatch
  obtain ⟨order', hperm', hrecords'⟩ := d.records_of_fetchBatch_eq hbatch'
  -- The orders may differ, but both are orders of everything that is pending.
  refine ⟨_, hbatch', hrecords.alike h hst hrecords' ?_⟩
  exact hperm'.trans (hnext.trans hperm.symm)

/-- Crawls that start alike and of which one converges go through the same passes. -/
theorem passes_alike (h : c.SameButSchedule d) (hc : c.IsUntimed) (hd : d.IsUntimed)
    {fuel : Nat} {s t : State} (hst : s.Alike t)
    (hrun : (c.passes fuel s).status = .converged) :
    (d.passes fuel t).status = .converged ∧
      (c.passes fuel s).toState.Alike (d.passes fuel t).toState := by
  induction fuel generalizing s t with
  | zero =>
    obtain ⟨hpass, hverdict⟩ := h.evaluate_alike hc hd hst
    cases hs : c.verdict (s.evaluate c.plan) (s.evaluate c.plan).pending with
    | some status =>
      rw [passes_of_verdict 0 hs] at hrun ⊢
      rw [passes_of_verdict 0 (hverdict.trans hs)]
      exact ⟨hrun, hpass⟩
    | none =>
      unfold passes at hrun
      simp [hs] at hrun
  | succ fuel ih =>
    obtain ⟨hpass, hverdict⟩ := h.evaluate_alike hc hd hst
    cases hs : c.verdict (s.evaluate c.plan) (s.evaluate c.plan).pending with
    | some status =>
      rw [passes_of_verdict _ hs] at hrun ⊢
      rw [passes_of_verdict _ (hverdict.trans hs)]
      exact ⟨hrun, hpass⟩
    | none =>
      have hbatch := c.fetchBatch_eq_of_stop_eq_none hc.stop_eq_none (s.evaluate c.plan)
        (c.next (s.evaluate c.plan))
      rw [passes_of_batch fuel hs hbatch] at hrun ⊢
      obtain ⟨t', hbatch', halike⟩ := fetchBatch_alike h hd hpass hbatch hrun
      rw [passes_of_batch fuel (hverdict.trans hs) hbatch']
      exact ih halike hrun

/-- Of two crawls without deadline and cancellation that differ only in the schedule, if one
converges then so does the other, after as many passes, with the same facts, the same terms for
every variable, and the same outcome for every document. -/
theorem run_eq_of_sameButSchedule (c d : Setting) (seed : Bindings) (h : c.SameButSchedule d)
    (hc : c.IsUntimed) (hd : d.IsUntimed) (hrun : (c.run seed).status = .converged) :
    (d.run seed).status = .converged ∧
      (d.run seed).passes = (c.run seed).passes ∧
      (d.run seed).store.quads.toSet = (c.run seed).store.quads.toSet ∧
      (∀ v, ((d.run seed).bindings.values v).toSet = ((c.run seed).bindings.values v).toSet) ∧
      (d.run seed).outcomes.Perm (c.run seed).outcomes := by
  have hstart : (State.start seed).Alike (State.start seed) := ⟨rfl, .refl _, rfl⟩
  have hfuel : d.run seed = d.passes c.limits.maxFetches (.start seed) := by
    rw [run, h.maxFetches]
  rw [hfuel]
  obtain ⟨hstatus, halike⟩ := passes_alike h hc hd hstart hrun
  refine ⟨hstatus, halike.passes, ?_, fun v => ?_, halike.outcomes⟩
  · exact congrArg Knowledge.facts halike.knowledge
  · exact congrFun (congrArg Knowledge.terms halike.knowledge) v

/-- Reading what the card refers to with one request at a time, the first of which is slow. -/
def slowCardCrawl : Setting :=
  { cardCrawl with
    fetcher := (cardWeb.setDelay "a:more" 7).fetcher
    limits := { deadline := none, concurrency := 1 } }

/-- The card is read to the same end however slow its documents are. -/
theorem run_eq_slowCardCrawl :
    cardCrawl.SameButSchedule slowCardCrawl ∧ cardCrawl.IsUntimed ∧ slowCardCrawl.IsUntimed ∧
      (cardCrawl.run cardSeed).status = .converged ∧
      (slowCardCrawl.run cardSeed).status = .converged := by
  have hsame : cardCrawl.SameButSchedule slowCardCrawl := by
    refine .of_delay rfl rfl rfl rfl fun document => iff_of_true ?_ (Nat.zero_le _)
    change (List.lookup _ [("a:more", 7)]).getD 0 ≤ 30000
    rw [List.lookup_cons]
    split <;> simp
  have huntimed : cardCrawl.IsUntimed := ⟨rfl, rfl⟩
  have huntimed' : slowCardCrawl.IsUntimed := ⟨rfl, rfl⟩
  exact ⟨hsame, huntimed, huntimed', status_run_cardCrawl,
    (run_eq_of_sameButSchedule cardCrawl slowCardCrawl cardSeed hsame huntimed huntimed'
      status_run_cardCrawl).1⟩

end Setting

end Courier.Crawl
