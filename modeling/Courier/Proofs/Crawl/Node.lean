import Courier.Proofs.Crawl.Provenance
import Courier.Proofs.Turtle.Node

/-!
# Nodes of different documents

Whether documents that a crawl has loaded can speak of the same node.  A node without label belongs
to the document that made it.  A label is all that identifies a node with one, so that two documents
which use the same label speak of one node, and what either says of it counts for both
(`Setting.mentions_run`).
-/

namespace Courier

/-- Whether the quad speaks of the node. -/
def Quad.Mentions (q : Quad) (node : BlankNode) : Prop :=
  q.triple.Mentions node

/-- Quads that are the same speak of the same nodes. -/
lemma Quad.mentions_congr {q r : Quad} (h : (q == r) = true) {node : BlankNode} :
    q.Mentions node ↔ r.Mentions node := by
  obtain ⟨hsubject, -, hobject, -⟩ := Quad.beq_iff.1 h
  exact or_congr (Term.eq_blank_iff_of_beq hsubject) (Term.eq_blank_iff_of_beq hobject)

/-- A step whose subject is bound, and which is otherwise free, selects the statements that give the
property of a term that is bound. -/
lemma Match.mem_select_pattern_iff {m : Match} {v : Variable} (hsubject : m.subject = .bound v)
    (hobject : m.object = .anything) (hgraph : m.graph = none) {store : Store} {bindings : Bindings}
    {q : Quad} : q ∈ store.select (m.pattern bindings) ↔
      q ∈ store.quads.toList ∧ q.subject ∈ bindings.terms v ∧ q.predicate = m.predicate := by
  rw [Store.mem_select]
  refine and_congr_right fun hq => ?_
  rw [m.matchesQuad_pattern bindings (OrderedSet.mem_toSet_of_mem hq)]
  unfold selected
  rw [hsubject, hobject, hgraph]
  constructor
  · rintro ⟨-, hbound, hpredicate, -, -⟩
    exact ⟨hbound, hpredicate⟩
  · rintro ⟨hbound, hpredicate⟩
    exact ⟨OrderedSet.mem_toSet_of_mem hq, hbound, hpredicate, trivial, fun _ h => nomatch h⟩

namespace Crawl.Setting

variable (c : Setting) (seed : Bindings)

/-- Whether the text of the document has the label. -/
def Labels (document : Iri) (label : String) : Prop :=
  ∃ response tokens, c.fetcher.answer document.documentRequest = .ok response ∧
    Turtle.Scanner.scanAll response.body.toList = some tokens ∧ .label label.toList ∈ tokens

/-- Whether the document was loaded and states the triple. -/
def States (document : Iri) (t : Triple) : Prop :=
  ∃ n ts, (document, Outcome.loaded n) ∈ (c.run seed).outcomes ∧ c.IsReadAs document ts ∧ t ∈ ts

variable {c seed} {document other : Iri} {t u : Triple} {node : BlankNode} {q : Quad}

/-- A node of a document is one that the document made or one that its text has the label of. -/
theorem States.cases_of_mentions (h : c.States seed document t) (hnode : t.Mentions node) :
    (∃ number, node = .anonymous c.reading document number) ∨
      ∃ label, node = .labelled label ∧ c.Labels document label := by
  obtain ⟨n, ts, -, ⟨-, response, hanswer, -, hread⟩, ht⟩ := h
  obtain ⟨tokens, htokens, howns⟩ := Turtle.owns_of_read hread
  have hown := howns t ht node hnode
  cases node with
  | labelled label => exact Or.inr ⟨label, rfl, response, tokens, hanswer, htokens, hown⟩
  | anonymous reading base number =>
    cases hown
    exact Or.inl ⟨number, rfl⟩

/-- A node of two documents has a label, which both texts have. -/
theorem States.exists_label (h : c.States seed document t) (hnode : t.Mentions node)
    (hother : c.States seed other u) (hnode' : u.Mentions node) (hne : document ≠ other) :
    ∃ label, node = .labelled label ∧ c.Labels document label ∧ c.Labels other label := by
  rcases h.cases_of_mentions hnode with ⟨number, rfl⟩ | ⟨label, rfl, hlabel⟩
  · rcases hother.cases_of_mentions hnode' with ⟨number', hnumber⟩ | ⟨label, hlabel, -⟩
    · cases hnumber
      exact absurd rfl hne
    · cases hlabel
  · rcases hother.cases_of_mentions hnode' with ⟨number', hnumber⟩ | ⟨label', hlabel', hother'⟩
    · cases hnumber
    · cases hlabel'
      exact ⟨label, rfl, hlabel, hother'⟩

/-- What a document states is held. -/
lemma States.exists_mem (h : c.States seed document t) :
    ∃ q ∈ (c.run seed).store.quads.toList, (q == t.inGraph document) = true := by
  obtain ⟨n, ts, hloaded, hread, ht⟩ := h
  exact OrderedSet.mem_toSet.1 (c.inGraph_mem_store_run hloaded hread ht)

/-- What is held is stated by its graph. -/
lemma states_of_mem (hq : q ∈ (c.run seed).store.quads.toList) :
    c.States seed q.graph q.triple := by
  obtain ⟨hfetched, ts, hload, t, ht, heq⟩ := c.isSourced_run seed q hq
  have hread := (c.load_eq_ok_iff_of_mem_fetched_run hfetched).1 hload
  refine ⟨ts.length, ts, c.loaded_mem_outcomes_run_iff.2 ⟨hfetched, ts, hread, rfl⟩, hread, ?_⟩
  rw [heq]
  exact ht

/-- A document has a quad that speaks of a node exactly if it states something of the node. -/
lemma exists_mentions_iff :
    (∃ q ∈ (c.run seed).store.quads.toList, q.graph = document ∧ q.Mentions node) ↔
      ∃ t, c.States seed document t ∧ t.Mentions node := by
  constructor
  · rintro ⟨q, hq, rfl, hnode⟩
    exact ⟨q.triple, states_of_mem hq, hnode⟩
  · rintro ⟨t, ht, hnode⟩
    obtain ⟨q, hq, heq⟩ := ht.exists_mem
    exact ⟨q, hq, (Quad.beq_iff.1 heq).2.2.2, (Quad.mentions_congr heq).2 hnode⟩

/-- However a crawl ends, a node of a quad is one that the quad's document made in this reading or
one that its text has the label of.  So quads of two documents speak of the same node exactly if the
node has a label and both documents, having been loaded, state something of it.

A step therefore never gets from a node of one document to a quad of another, unless the node has a
label that both texts have; and if it has, a step that follows a property of the node does get to
what any other document states. -/
theorem mentions_run (c : Setting) (seed : Bindings) :
    let store := (c.run seed).store
    (∀ q ∈ store.quads.toList, ∀ node, q.Mentions node →
        (∃ number, node = .anonymous c.reading q.graph number) ∨
          ∃ label, node = .labelled label ∧ c.Labels q.graph label) ∧
      (∀ d e node, d ≠ e →
        (((∃ q ∈ store.quads.toList, q.graph = d ∧ q.Mentions node) ∧
            ∃ q ∈ store.quads.toList, q.graph = e ∧ q.Mentions node) ↔
          (∃ label, node = .labelled label) ∧ (∃ t, c.States seed d t ∧ t.Mentions node) ∧
            ∃ t, c.States seed e t ∧ t.Mentions node)) ∧
      (∀ (m : Match) bindings, ∀ q ∈ store.select (m.pattern bindings), ∀ node, q.Mentions node →
        ∀ d t, d ≠ q.graph → c.States seed d t → t.Mentions node →
          ∃ label, node = .labelled label ∧ c.Labels d label ∧ c.Labels q.graph label) ∧
      ∀ (m : Match) v bindings node, m.subject = .bound v → m.object = .anything →
        m.graph = none → .blank node ∈ bindings.terms v →
        ∀ d t, c.States seed d t → t.Mentions node →
          ((∃ q ∈ store.select (m.pattern bindings), q.graph ≠ d ∧ q.subject = .blank node) ↔
            (∃ label, node = .labelled label) ∧ ∃ e u, e ≠ d ∧ c.States seed e u ∧
              u.subject = .blank node ∧ u.predicate = m.predicate) := by
  intro store
  refine ⟨fun q hq node hnode => (states_of_mem hq).cases_of_mentions hnode, ?_, ?_, ?_⟩
  · intro d e node hne
    rw [exists_mentions_iff, exists_mentions_iff]
    constructor
    · rintro ⟨⟨t, ht, hnode⟩, u, hu, hnode'⟩
      obtain ⟨label, hlabel, -⟩ := ht.exists_label hnode hu hnode' hne
      exact ⟨⟨label, hlabel⟩, ⟨t, ht, hnode⟩, u, hu, hnode'⟩
    · exact fun h => h.2
  · intro m bindings q hq node hnode d t hne ht hnode'
    have hstates := states_of_mem (Store.mem_select.1 hq).1
    exact ht.exists_label hnode' hstates hnode hne
  · intro m v bindings node hsubject hobject hgraph hbound d t ht hnode
    constructor
    · rintro ⟨q, hq, hne, hq'⟩
      obtain ⟨hmem, -, hpredicate⟩ := (Match.mem_select_pattern_iff hsubject hobject hgraph).1 hq
      have hstates := states_of_mem hmem
      obtain ⟨label, hlabel, -⟩ := ht.exists_label hnode hstates (Or.inl hq') hne.symm
      exact ⟨⟨label, hlabel⟩, q.graph, q.triple, hne, hstates, hq', hpredicate⟩
    · rintro ⟨-, e, u, hne, hu, hu', hpredicate⟩
      obtain ⟨q, hmem, heq⟩ := hu.exists_mem
      obtain ⟨hsame, hp, -, hg⟩ := Quad.beq_iff.1 heq
      have hq' : q.subject = .blank node := (Term.eq_blank_iff_of_beq hsame).2 hu'
      refine ⟨q, ?_, hg.trans_ne hne, hq'⟩
      rw [Match.mem_select_pattern_iff hsubject hobject hgraph, hq']
      exact ⟨hmem, hbound, hp.trans hpredicate⟩

/-- A card of somebody who knows a friend, and notes of somebody else that use the same label. -/
def friendWeb : Web :=
  (Web.putDocument {} "a:card" "<#me> <a:see> <a:notes> ; <a:knows> _:friend .").putDocument
    "a:notes" "_:friend <a:mbox> <a:mallory> ."

/-- Looking for the mailboxes of friends. -/
def friendCrawl : Setting :=
  { cardCrawl with
    fetcher := friendWeb.fetcher
    plan := { steps := cardCrawl.plan.steps ++ [
      .lookUp { subject := .bound ⟨"person"⟩, predicate := ⟨"a:knows"⟩, target := ⟨"friend"⟩ },
      .lookUp { subject := .bound ⟨"friend"⟩, predicate := ⟨"a:mbox"⟩, target := ⟨"mailbox"⟩ }] } }

/-- The notes say what the mailbox of the friend on the card is. -/
theorem mentions_friendCrawl :
    let r := friendCrawl.run cardSeed
    (∃ q ∈ r.store.quads.toList, ∃ q' ∈ r.store.quads.toList, q.graph ≠ q'.graph ∧
        q.Mentions (.labelled "friend") ∧ q'.Mentions (.labelled "friend")) ∧
      (r.termsOf ⟨"friend"⟩).toList = [.blank (.labelled "friend")] ∧
      (r.termsOf ⟨"mailbox"⟩).toList = [.iri ⟨"a:mallory"⟩] := by
  intro r
  have hquads : r.store.quads.toList.map (fun q => (q.graph, q.subject, q.object)) =
      [(⟨"a:card"⟩, .iri ⟨"a:card#me"⟩, .iri ⟨"a:notes"⟩),
        (⟨"a:card"⟩, .iri ⟨"a:card#me"⟩, .blank (.labelled "friend")),
        (⟨"a:notes"⟩, .blank (.labelled "friend"), .iri ⟨"a:mallory"⟩)] := by
    decide +kernel
  have hmem : ∀ place ∈ r.store.quads.toList.map (fun q => (q.graph, q.subject, q.object)),
      ∃ q ∈ r.store.quads.toList, (q.graph, q.subject, q.object) = place :=
    fun place hplace => List.mem_map.1 hplace
  rw [hquads] at hmem
  obtain ⟨q, hq, hcard⟩ := hmem _ (List.mem_cons_of_mem _ List.mem_cons_self)
  obtain ⟨q', hq', hnotes⟩ := hmem _
    (List.mem_cons_of_mem _ (List.mem_cons_of_mem _ List.mem_cons_self))
  simp only [Prod.mk.injEq] at hcard hnotes
  refine ⟨⟨q, hq, q', hq', ?_, Or.inr hcard.2.2, Or.inl hnotes.2.1⟩, ?_, ?_⟩
  · rw [hcard.1, hnotes.1]
    decide
  · decide +kernel
  · decide +kernel

end Crawl.Setting

end Courier
