import Courier.Proofs.Query.Knowledge

/-!
# Looking up

A step that looks up quads lists the terms on one side of the quads that match, each where it came
first (`Match.toList_evaluate`).  Which quads match is told by `Match.selected`.  So the step hears
nothing of quads that do not match, whichever they are: those of documents that it does not trust,
and all quads where it reads a variable without terms (`Match.evaluate_selected`).
-/

namespace Courier

/-- A variable has no terms if it is not bound. -/
lemma Bindings.terms_eq_empty_iff {bindings : Bindings} {v : Variable} :
    bindings.terms v = ∅ ↔ bindings.isBound v = false := by
  rw [Bindings.terms, isBound, OrderedSet.toSet_eq_empty_iff, Bool.not_eq_false']

namespace Match

variable {m : Match} {store : Store} {bindings : Bindings}

/-- What a step finds, in order: the picked side of every quad listed that matches. -/
theorem toList_evaluate (m : Match) (store : Store) (bindings : Bindings) :
    (m.evaluate store bindings).toList =
      ((store.quads.toList.filter (m.pattern bindings).matchesQuad).map
        (·.side m.pick)).eraseDups := by
  rw [evaluate, OrderedSet.toList_ofList, Store.select_eq_filter]

/-- A step finds the same where the same quads match. -/
lemma evaluate_eq {other : Store} {others : Bindings}
    (h : other.quads.toList.filter (m.pattern others).matchesQuad =
      store.quads.toList.filter (m.pattern bindings).matchesQuad) :
    m.evaluate other others = m.evaluate store bindings := by
  rw [evaluate, evaluate, Store.select_eq_filter, Store.select_eq_filter, h]

lemma mem_filter_pattern_iff {q : Quad} :
    q ∈ store.quads.toList.filter (m.pattern bindings).matchesQuad ↔
      q ∈ store.quads.toList ∧ q ∈ m.selected store.quads.toSet bindings.terms := by
  rw [List.mem_filter]
  exact and_congr_right fun hq =>
    m.matchesQuad_pattern bindings (OrderedSet.mem_toSet_of_mem hq)

/-- Whatever a step finds stands on the picked side of a quad that matches. -/
lemma exists_of_mem_evaluate {t : Term} (h : t ∈ (m.evaluate store bindings).toList) :
    ∃ q ∈ store.quads.toList,
      q ∈ m.selected store.quads.toSet bindings.terms ∧ q.side m.pick = t := by
  rw [evaluate, Store.select_eq_filter] at h
  rcases OrderedSet.mem_toList_insertMany h with h | h
  · cases h
  · obtain ⟨q, hq, rfl⟩ := List.mem_map.1 h
    obtain ⟨hmem, hselected⟩ := mem_filter_pattern_iff.1 hq
    exact ⟨q, hmem, hselected, rfl⟩

/-- The picked side of every quad that matches is found once. -/
lemma countP_evaluate {q : Quad} (h : q ∈ m.selected store.quads.toSet bindings.terms) :
    (m.evaluate store bindings).toList.countP (· == q.side m.pick) = 1 := by
  refine OrderedSet.countP_toList ?_
  rw [m.toSet_evaluate]
  exact ⟨q, h, BEq.rfl⟩

/-- A step that reads a variable without terms finds nothing. -/
lemma evaluate_of_isBound_eq_false {v : Variable} (hv : bindings.isBound v = false)
    (hreads : v ∈ (Step.lookUp m).reads) : (m.evaluate store bindings).toList = [] := by
  have hnone : bindings.terms v = ∅ := Bindings.terms_eq_empty_iff.2 hv
  rw [List.eq_nil_iff_forall_not_mem]
  intro t ht
  obtain ⟨q, -, ⟨-, hsubject, -, hobject, hgraph⟩, -⟩ := exists_of_mem_evaluate ht
  have hslot : ∀ slot : Slot, v ∈ slot.reference? → ∀ u, u ∉ slot.admitted bindings.terms := by
    intro slot href u hu
    cases slot with
    | anything => cases href
    | constant c => cases href
    | bound w =>
      obtain rfl : w = v := Option.some.inj href
      change u ∈ bindings.terms w at hu
      rw [hnone] at hu
      exact hu
  simp only [Step.reads, List.mem_append, Option.mem_toList] at hreads
  rcases hreads with (hreads | hreads) | hreads
  · exact hslot _ hreads _ hsubject
  · exact hslot _ hreads _ hobject
  · obtain ⟨i, hi, -⟩ := hgraph v hreads
    rw [hnone] at hi
    exact hi

/-- Quads of documents to which the match is not confined make no difference. -/
lemma evaluate_insertMany {qs : List Quad} {v : Variable} (hv : m.graph = some v)
    (hqs : ∀ q ∈ qs, q.graph ∉ documentsAmong (bindings.terms v)) :
    m.evaluate (store.insertMany qs) bindings = m.evaluate store bindings := by
  obtain ⟨added, hlist, hsub⟩ := store.quads.exists_toList_insertMany qs
  have hadded : added.filter (m.pattern bindings).matchesQuad = [] := by
    rw [List.filter_eq_nil_iff]
    intro q hq hmatches
    have hselected := (m.matchesQuad_pattern bindings (Set.mem_univ q)).1 hmatches
    obtain ⟨-, -, -, -, hgraph⟩ := hselected
    exact hqs q (hsub.subset hq) (hgraph v hv)
  refine evaluate_eq ?_
  change (store.quads.insertMany qs).toList.filter _ = _
  rw [hlist, List.filter_append, hadded, List.append_nil]

/-- The terms of variables that the match does not read make no difference. -/
lemma evaluate_congr {others : Bindings}
    (h : ∀ v ∈ (Step.lookUp m).reads, others.terms v = bindings.terms v) :
    m.evaluate store others = m.evaluate store bindings := by
  refine evaluate_eq (List.filter_congr fun q hq => ?_)
  have hfact : q ∈ store.quads.toSet := OrderedSet.mem_toSet_of_mem hq
  rw [Bool.eq_iff_iff, m.matchesQuad_pattern others hfact, m.matchesQuad_pattern bindings hfact,
    m.selected_eq_of_reads _ h]

/-- A step finds the terms on the picked side of the quads that match, each once, and nothing else;
it finds nothing if it reads a variable that has no terms.  If it is confined to the documents of a
variable, quads of other documents make no difference to what it finds, nor do the terms of
variables that it does not read. -/
theorem evaluate_selected (m : Match) (store : Store) (bindings : Bindings) :
    (∀ t ∈ (m.evaluate store bindings).toList, ∃ q ∈ store.quads.toList,
        q ∈ m.selected store.quads.toSet bindings.terms ∧ q.side m.pick = t) ∧
      (∀ q ∈ store.quads.toList, q ∈ m.selected store.quads.toSet bindings.terms →
        (m.evaluate store bindings).toList.countP (· == q.side m.pick) = 1) ∧
      (∀ v ∈ (Step.lookUp m).reads, bindings.isBound v = false →
        (m.evaluate store bindings).toList = []) ∧
      (∀ v ∈ m.graph, ∀ qs : List Quad,
        (∀ q ∈ qs, q.graph ∉ documentsAmong (bindings.terms v)) →
          m.evaluate (store.insertMany qs) bindings = m.evaluate store bindings) ∧
      ∀ others : Bindings, (∀ v ∈ (Step.lookUp m).reads, others.terms v = bindings.terms v) →
        m.evaluate store others = m.evaluate store bindings := by
  refine ⟨fun t => exists_of_mem_evaluate, fun q _ => countP_evaluate, ?_, ?_, ?_⟩
  · intro v hreads hv
    exact evaluate_of_isBound_eq_false hv hreads
  · intro v hv qs
    exact evaluate_insertMany hv
  · intro others
    exact evaluate_congr

/-- A search for somebody's friends that trusts one page only. -/
def trustingMatch : Match where
  subject := .bound ⟨"person"⟩
  predicate := ⟨"a:friend"⟩
  graph := some ⟨"page"⟩
  target := ⟨"friend"⟩

/-- The person, and something on the page that is trusted. -/
def trustingBindings : Bindings :=
  .ofPairs [(⟨"person"⟩, .iri ⟨"a:b"⟩), (⟨"page"⟩, .iri ⟨"a:page#top"⟩)]

/-- The page names a friend twice, in English first. -/
def trustedStore : Store :=
  Store.insertMany {}
    [⟨.iri ⟨"a:b"⟩, ⟨"a:friend"⟩, .literal (.tagged "Ann" "en"), ⟨"a:page"⟩⟩,
      ⟨.iri ⟨"a:b"⟩, ⟨"a:friend"⟩, .literal (.plain "Ann"), ⟨"a:page"⟩⟩]

/-- The friend is found once, and what another page says makes no difference. -/
theorem evaluate_trustedStore :
    (trustingMatch.evaluate trustedStore trustingBindings).toList =
        [.literal (.tagged "Ann" "en")] ∧
      trustingMatch.evaluate (trustedStore.insertMany
          [⟨.iri ⟨"a:b"⟩, ⟨"a:friend"⟩, .literal (.plain "Eve"), ⟨"a:other"⟩⟩]) trustingBindings =
        trustingMatch.evaluate trustedStore trustingBindings := by
  obtain ⟨-, -, -, hforeign, -⟩ := evaluate_selected trustingMatch trustedStore trustingBindings
  refine ⟨by decide +kernel, hforeign _ rfl _ fun q hq => ?_⟩
  rw [List.mem_singleton.1 hq, Bindings.mem_documentsAmong]
  decide +kernel

end Match

end Courier
