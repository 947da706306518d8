import Courier.Http.Web
import Courier.Proofs.Crawl.Accounting
import Courier.Service.SearchPlan

/-!
# Which documents a search leads to

The search of a person's pod, told by what the documents say.  A search asks for the document of the
person and for the documents of the resources that it is led to (`SearchPlan.Names`): those that
some document names as further documents about the person, as their public index or as their
settings, and those that an entry of an index has as its instances.  Anybody may state what class an
entry is about and which instances it has, but that it is an entry counts only if a public index
says so itself (`SearchPlan.IsEntry`).

However a search ends, whatever it asked for is justified in this way by what it holds in the end.
If it converges, it asked for all that is (`Setting.requested_searching`).
-/

namespace Courier

/-! ### What documents say -/

/-- Whether the document says so, among the facts. -/
def Asserts (facts : Set Quad) (document : Iri) (subject : Term) (predicate : Iri)
    (object : Term) : Prop :=
  ∃ q ∈ facts, (q.subject == subject) = true ∧ q.predicate = predicate ∧
    (q.object == object) = true ∧ q.graph = document

/-- Whether some document says so, among the facts. -/
def Says (facts : Set Quad) (subject : Term) (predicate : Iri) (object : Term) : Prop :=
  ∃ document, Asserts facts document subject predicate object

/-- Whether a set has with each of its terms whatever is the same. -/
def IsSaturated (terms : Set Term) : Prop :=
  ∀ t ∈ terms, ∀ u, (t == u) = true → u ∈ terms

section Facts

variable {facts more : Set Quad} {document : Iri} {s t : Term} {p : Iri} {o : Term}

lemma Asserts.mono (h : Asserts facts document s p o) (hfacts : facts ⊆ more) :
    Asserts more document s p o := by
  obtain ⟨q, hq, hrest⟩ := h
  exact ⟨q, hfacts hq, hrest⟩

lemma Says.mono (h : Says facts s p o) (hfacts : facts ⊆ more) : Says more s p o := by
  obtain ⟨document, hd⟩ := h
  exact ⟨document, hd.mono hfacts⟩

lemma Asserts.congr_subject (h : Asserts facts document s p o) (hst : (s == t) = true) :
    Asserts facts document t p o := by
  obtain ⟨q, hq, hsubject, hrest⟩ := h
  exact ⟨q, hq, BEq.trans hsubject hst, hrest⟩

lemma isSaturated_singleton (i : Iri) : IsSaturated {.iri i} := by
  rintro _ rfl u hu
  exact Term.eq_iri_of_beq hu

lemma isSaturated_subjects : IsSaturated {s | Says facts s p o} := by
  rintro s ⟨document, hd⟩ t hst
  exact ⟨document, hd.congr_subject hst⟩

lemma IsSaturated.inter {x y : Set Term} (hx : IsSaturated x) (hy : IsSaturated y) :
    IsSaturated (x ∩ y) :=
  fun t ht u htu => ⟨hx t ht.1 u htu, hy t ht.2 u htu⟩

/-- What a store holds as the objects of a property is what some document says. -/
lemma Store.mem_toSet_objects_iff_says {store : Store} :
    o ∈ (store.objects s p).toSet ↔ Says store.quads.toSet s p o := by
  rw [Store.mem_toSet_objects]
  constructor
  · rintro ⟨q, hq, hsubject, hpredicate, hobject⟩
    exact ⟨q.graph, q, OrderedSet.mem_toSet_of_mem hq, BEq.symm hsubject, hpredicate.symm,
      hobject, rfl⟩
  · rintro ⟨-, q, hq, hsubject, hpredicate, hobject, -⟩
    obtain ⟨r, hr, hrq⟩ := OrderedSet.mem_toSet.1 hq
    obtain ⟨hs, hp, ho, -⟩ := Quad.beq_iff.1 hrq
    exact ⟨r, hr, BEq.symm (BEq.trans hs hsubject), (hp.trans hpredicate).symm,
      BEq.trans ho hobject⟩

end Facts

/-! ### What single steps find -/

namespace Match

variable {facts : Set Quad} {terms : Variable → Set Term} {v target : Variable} {p : Iri}
  {c : Term} {a : Set Term}

/-- The objects of a property of the terms of a variable. -/
lemma found_objects (hv : terms v = a) (ha : IsSaturated a) :
    found { subject := .bound v, predicate := p, target } facts terms =
      {o | ∃ s ∈ a, Says facts s p o} := by
  subst hv
  ext o
  constructor
  · rintro ⟨q, ⟨hq, hsubject, hpredicate, -, -⟩, ho⟩
    exact ⟨q.subject, hsubject, q.graph, q, hq, BEq.rfl, hpredicate, ho, rfl⟩
  · rintro ⟨s, hs, -, q, hq, hsubject, hpredicate, ho, -⟩
    refine ⟨q, ⟨hq, ha s hs _ (BEq.symm hsubject), hpredicate, trivial, ?_⟩, ho⟩
    intro u hu
    cases hu

/-- The terms of a variable whose property has the given object. -/
lemma found_subjects (hv : terms v = a) (ha : IsSaturated a) :
    found { subject := .bound v, predicate := p, object := .constant c, pick := .subject, target }
        facts terms =
      a ∩ {s | Says facts s p c} := by
  subst hv
  ext s
  constructor
  · rintro ⟨q, ⟨hq, hsubject, hpredicate, hobject, -⟩, hs⟩
    exact ⟨ha _ hsubject s hs, q.graph, q, hq, hs, hpredicate, BEq.symm hobject, rfl⟩
  · rintro ⟨hs, -, q, hq, hsubject, hpredicate, hobject, -⟩
    refine ⟨q, ⟨hq, ha s hs _ (BEq.symm hsubject), hpredicate, BEq.symm hobject, ?_⟩, hsubject⟩
    intro u hu
    cases hu

/-- The terms whose property has the given object by what the documents of a variable say. -/
lemma found_in_graph (hv : terms v = a) :
    found { predicate := p, object := .constant c, graph := some v, pick := .subject, target }
        facts terms =
      {s | ∃ i : Iri, .iri i ∈ a ∧ Asserts facts i.document s p c} := by
  subst hv
  ext s
  constructor
  · rintro ⟨q, ⟨hq, -, hpredicate, hobject, hgraph⟩, hs⟩
    obtain ⟨i, hi, hdocument⟩ := hgraph v rfl
    exact ⟨i, hi, q, hq, hs, hpredicate, BEq.symm hobject, hdocument.symm⟩
  · rintro ⟨i, hi, q, hq, hsubject, hpredicate, hobject, hgraph⟩
    refine ⟨q, ⟨hq, trivial, hpredicate, BEq.symm hobject, ?_⟩, hsubject⟩
    intro u hu
    cases hu
    exact ⟨i, hi, hgraph.symm⟩

end Match

namespace Knowledge

variable {f : Set Quad} {t : Variable → Set Term} {d : Set Iri} {m : Match} {row : List Step}
  {s : Set Term}

lemma steps_lookUp (h : m.found f t = s) :
    Knowledge.steps ⟨f, t, d⟩ (.lookUp m :: row) =
      Knowledge.steps ⟨f, Function.update t m.target s, d⟩ row := by
  subst h
  rfl

/-- Looking up resources and marking their documents right after. -/
lemma steps_lookUp_addResources (h : m.found f t = s) :
    Knowledge.steps ⟨f, t, d⟩ (.lookUp m :: .addResources m.target :: row) =
      Knowledge.steps ⟨f, Function.update t m.target s, d ∪ documentsAmong s⟩ row := by
  rw [steps_lookUp h, steps_cons]
  simp only [step, Function.update_self]

end Knowledge

/-! ### Entries and what a search is led to -/

namespace SearchPlan

/-- Whether a public index of the person calls the node an entry.  That it is an index may be said
anywhere, that the node is an entry is said by the document of the index. -/
def IsEntry (facts : Set Quad) (person : Iri) (node : Term) : Prop :=
  ∃ i : Iri, Says facts (.iri person) Vocabulary.publicTypeIndex (.iri i) ∧
    Asserts facts i.document node Vocabulary.type (.iri Vocabulary.typeRegistration)

/-- Whether the facts lead the search of the person's pod for data of the class to the resource. -/
inductive Names (facts : Set Quad) (type person : Iri) : Iri → Prop where
  /-- The resource is another document about the person. -/
  | extended {o : Iri} (h : Says facts (.iri person) Vocabulary.seeAlso (.iri o)) :
      Names facts type person o
  /-- The resource is a public index of the person. -/
  | index {o : Iri} (h : Says facts (.iri person) Vocabulary.publicTypeIndex (.iri o)) :
      Names facts type person o
  /-- The resource is an instance of an entry that is about the class. -/
  | entry {o : Iri} {node : Term} (hentry : IsEntry facts person node)
      (hclass : Says facts node Vocabulary.forClass (.iri type))
      (hinstance : Says facts node Vocabulary.classInstance (.iri o)) : Names facts type person o
  /-- The resource is one of the person's settings. -/
  | settings {o : Iri} (h : Says facts (.iri person) Vocabulary.preferencesFile (.iri o)) :
      Names facts type person o

/-- The documents that the facts justify reading: that of the person and those that the search is
led to. -/
def justified (facts : Set Quad) (type person : Iri) : Set Iri :=
  {d | ∃ i, (i = person ∨ Names facts type person i) ∧ i.document = d}

/-- The facts without the instances of nodes that no index calls an entry. -/
def trusted (facts : Set Quad) (person : Iri) : Set Quad :=
  {q ∈ facts | q.predicate = Vocabulary.classInstance → IsEntry facts person q.subject}

variable {facts more : Set Quad} {type w : Iri} {node : Term}

lemma IsEntry.mono (h : IsEntry facts w node) (hfacts : facts ⊆ more) : IsEntry more w node := by
  obtain ⟨i, hi, hnode⟩ := h
  exact ⟨i, hi.mono hfacts, hnode.mono hfacts⟩

lemma isSaturated_entries : IsSaturated {node | IsEntry facts w node} := by
  rintro s ⟨i, hi, hs⟩ t hst
  exact ⟨i, hi, hs.congr_subject hst⟩

/-- The more is said, the more resources a search is led to. -/
lemma Names.mono {i : Iri} (h : Names facts type w i) (hfacts : facts ⊆ more) :
    Names more type w i := by
  cases h with
  | extended h => exact .extended (h.mono hfacts)
  | index h => exact .index (h.mono hfacts)
  | entry hentry hclass hinstance =>
    exact .entry (hentry.mono hfacts) (hclass.mono hfacts) (hinstance.mono hfacts)
  | settings h => exact .settings (h.mono hfacts)

lemma justified_mono (hfacts : facts ⊆ more) : justified facts type w ⊆ justified more type w := by
  rintro d ⟨i, hi, hid⟩
  exact ⟨i, hi.imp_right fun h => h.mono hfacts, hid⟩

lemma person_mem_justified : w.document ∈ justified facts type w :=
  ⟨w, Or.inl rfl, rfl⟩

lemma asserts_trusted {document : Iri} {s : Term} {p : Iri} {o : Term}
    (h : Asserts facts document s p o) (hp : p = Vocabulary.classInstance → IsEntry facts w s) :
    Asserts (trusted facts w) document s p o := by
  obtain ⟨q, hq, hsubject, hpredicate, hrest⟩ := h
  refine ⟨q, ⟨hq, fun hinstance => ?_⟩, hsubject, hpredicate, hrest⟩
  exact isSaturated_entries s (hp (hpredicate.symm.trans hinstance)) _ (BEq.symm hsubject)

lemma says_trusted {s : Term} {p : Iri} {o : Term} (h : Says facts s p o)
    (hp : p = Vocabulary.classInstance → IsEntry facts w s) : Says (trusted facts w) s p o := by
  obtain ⟨document, hd⟩ := h
  exact ⟨document, asserts_trusted hd hp⟩

/-- Instances of nodes that no index calls an entry lead a search nowhere. -/
theorem Names.of_trusted {i : Iri} (h : Names facts type w i) :
    Names (trusted facts w) type w i := by
  have hother : ∀ {p : Iri}, p ≠ Vocabulary.classInstance →
      ∀ s, p = Vocabulary.classInstance → IsEntry facts w s :=
    fun hp _ h => absurd h hp
  cases h with
  | extended h => exact .extended (says_trusted h (hother (by decide) _))
  | index h => exact .index (says_trusted h (hother (by decide) _))
  | entry hentry hclass hinstance =>
    have hinstance' := says_trusted hinstance fun _ => hentry
    obtain ⟨i, hi, hnode⟩ := hentry
    exact .entry ⟨i, says_trusted hi (hother (by decide) _),
        asserts_trusted hnode (hother (by decide) _)⟩
      (says_trusted hclass (hother (by decide) _)) hinstance'
  | settings h => exact .settings (says_trusted h (hother (by decide) _))

/-! ### One evaluation of the plan -/

/-- The documents that the facts justify, by what names them. -/
lemma justified_eq : justified facts type w =
    {w.document} ∪ documentsAmong {o | Says facts (.iri w) Vocabulary.seeAlso o} ∪
        documentsAmong {o | Says facts (.iri w) Vocabulary.publicTypeIndex o} ∪
      documentsAmong {o | ∃ node ∈
        {node | IsEntry facts w node} ∩ {s | Says facts s Vocabulary.forClass (.iri type)},
          Says facts node Vocabulary.classInstance o} ∪
    documentsAmong {o | Says facts (.iri w) Vocabulary.preferencesFile o} := by
  ext d
  constructor
  · rintro ⟨i, rfl | hi, hid⟩
    · exact Or.inl (Or.inl (Or.inl (Or.inl hid.symm)))
    · cases hi with
      | extended h => exact Or.inl (Or.inl (Or.inl (Or.inr ⟨i, h, hid⟩)))
      | index h => exact Or.inl (Or.inl (Or.inr ⟨i, h, hid⟩))
      | entry hentry hclass hinstance =>
        exact Or.inl (Or.inr ⟨i, ⟨_, ⟨hentry, hclass⟩, hinstance⟩, hid⟩)
      | settings h => exact Or.inr ⟨i, h, hid⟩
  · rintro ((((rfl | ⟨i, h, hid⟩) | ⟨i, h, hid⟩) | ⟨i, ⟨node, ⟨hentry, hclass⟩, h⟩, hid⟩) |
      ⟨i, h, hid⟩)
    · exact person_mem_justified
    · exact ⟨i, Or.inr (.extended h), hid⟩
    · exact ⟨i, Or.inr (.index h), hid⟩
    · exact ⟨i, Or.inr (.entry hentry hclass h), hid⟩
    · exact ⟨i, Or.inr (.settings h), hid⟩

/-- Evaluating the plan where the person is known marks exactly the documents that the facts lead
to, and finds as settings what the facts say they are.  The person stays the same. -/
theorem evaluate_plan (type : Iri) {k : Knowledge} (hk : k.terms person = {.iri w}) :
    (k.evaluate (plan type)).documents ∪ {w.document} =
        k.documents ∪ justified k.facts type w ∧
      (k.evaluate (plan type)).terms settings =
        {o | Says k.facts (.iri w) Vocabulary.preferencesFile o} ∧
      (k.evaluate (plan type)).terms person = {.iri w} := by
  obtain ⟨facts, terms, documents⟩ := k
  have hsaid : ∀ p : Iri, {o | ∃ s ∈ ({.iri w} : Set Term), Says facts s p o} =
      {o | Says facts (.iri w) p o} := by
    intro p
    simp
  have hperson := isSaturated_singleton w
  -- The steps one after the other, each with what it finds.
  unfold Knowledge.evaluate plan
  dsimp only at hk ⊢
  rw [Knowledge.steps_lookUp_addResources (Match.found_objects hk hperson), hsaid,
    Knowledge.steps_lookUp_addResources
      (Match.found_objects (by simp +decide [hk]) hperson), hsaid,
    Knowledge.steps_lookUp
      (Match.found_in_graph (a := {o | Says facts (.iri w) Vocabulary.publicTypeIndex o})
        (by simp)),
    Knowledge.steps_lookUp
      (Match.found_subjects (a := {node | IsEntry facts w node}) (by simp; rfl)
        isSaturated_entries),
    Knowledge.steps_lookUp_addResources
      (Match.found_objects (a := {node | IsEntry facts w node} ∩ _) (by simp; rfl)
        (isSaturated_entries.inter isSaturated_subjects)),
    Knowledge.steps_lookUp_addResources
      (Match.found_objects (by simp +decide [hk]) hperson), hsaid,
    Knowledge.steps_nil]
  refine ⟨?_, by simp, by simp +decide [hk]⟩
  rw [justified_eq]
  ext d
  simp only [Set.mem_union]
  tauto

/-! ### The crawl -/

/-- What a search starts with. -/
def seed (w : Iri) : Bindings :=
  Bindings.empty.insert person (.iri w)

lemma terms_seed (v : Variable) : (seed w).terms v = if v = person then {.iri w} else ∅ := by
  unfold Bindings.terms seed Bindings.insert
  rw [Bindings.values_set]
  split
  next =>
    ext t
    rw [OrderedSet.mem_toSet_insert]
    constructor
    · rintro (ht | ht)
      · exact absurd (OrderedSet.toSet_empty.le ht) (Set.notMem_empty t)
      · exact Term.eq_iri_of_beq ht
    · rintro rfl
      exact Or.inr BEq.rfl
  next => exact OrderedSet.toSet_empty

/-- The seed leads to the document of the person. -/
lemma seedDocuments_seed : Crawl.State.seedDocuments (seed w) = {w.document} := by
  ext d
  constructor
  · rintro ⟨v, i, hi, rfl⟩
    rw [terms_seed] at hi
    split at hi
    next =>
      cases hi
      rfl
    next => cases hi
  · rintro rfl
    refine ⟨person, w, ?_, rfl⟩
    rw [terms_seed, if_pos rfl]
    rfl

end SearchPlan

namespace Crawl.Setting

open SearchPlan

/-- The crawl of the setting that searches for data of the class. -/
def searching (c : Setting) (type : Iri) : Setting :=
  { c with plan := SearchPlan.plan type }

/-- Whether what a search has done so far is justified by what it holds. -/
structure IsJustified (type w : Iri) (s : State) : Prop where
  /-- The person is the one whose pod is searched. -/
  terms_eq : s.bindings.terms person = {.iri w}
  /-- Every document discovered is justified. -/
  resources_subset : s.resources.toSet ⊆ justified s.knowledge.facts type w
  /-- So is every document requested. -/
  requested_subset : ∀ d ∈ s.requested, d ∈ justified s.knowledge.facts type w

variable {type w : Iri} {s : State}

/-- What a pass of a search discovers, and the settings that it finds. -/
lemma knowledge_evaluate_plan (type : Iri) (hs : s.bindings.terms person = {.iri w}) :
    (s.evaluate (SearchPlan.plan type)).resources.toSet ∪ {w.document} =
        s.resources.toSet ∪ justified s.knowledge.facts type w ∧
      (s.evaluate (SearchPlan.plan type)).bindings.terms settings =
        {o | Says s.knowledge.facts (.iri w) Vocabulary.preferencesFile o} ∧
      (s.evaluate (SearchPlan.plan type)).bindings.terms person = {.iri w} := by
  have hpass := evaluate_plan type (k := s.knowledge) hs
  rw [← s.knowledge_evaluate] at hpass
  exact hpass

lemma facts_evaluate_plan :
    (s.evaluate (SearchPlan.plan type)).knowledge.facts = s.knowledge.facts := by
  rw [s.knowledge_evaluate, Knowledge.facts_evaluate]

/-- A pass discovers only what is justified by then. -/
lemma IsJustified.evaluate (h : IsJustified type w s) :
    IsJustified type w (s.evaluate (SearchPlan.plan type)) := by
  obtain ⟨hresources, -, hterms⟩ := knowledge_evaluate_plan type h.terms_eq
  refine ⟨hterms, ?_, ?_⟩
  · rw [facts_evaluate_plan]
    refine (Set.subset_union_left.trans hresources.le).trans ?_
    exact Set.union_subset h.resources_subset subset_rfl
  · rw [facts_evaluate_plan, State.requested, State.requests_evaluate]
    exact h.requested_subset

variable (c : Setting)

/-- Everything that a search does is justified by what it holds by then. -/
theorem isKept_isJustified (type w : Iri) :
    (c.searching type).IsKept (seed w) (IsJustified type w) where
  start := by
    refine ⟨(terms_seed person).trans (if_pos rfl), ?_, ?_⟩
    · rw [State.resources_start, seedDocuments_seed]
      rintro _ rfl
      exact person_mem_justified
    · intro d hd
      cases hd
  evaluate s hs := hs.evaluate
  fetchBatch s hreaches hverdict hs := by
    -- A batch adds facts, and asks for documents that were discovered.
    have hpass := hreaches.resources_subset_discovered.2
    have hnext := (c.searching type).next_subset (s.evaluate (c.searching type).plan)
    have hrecords := (c.searching type).records_gather (s.evaluate (c.searching type).plan)
      ((c.searching type).next (s.evaluate (c.searching type).plan))
    have hmore : justified _ type w ⊆ justified _ type w := justified_mono hrecords.facts_subset
    obtain ⟨clock, hbatch⟩ := (c.searching type).exists_fst_fetchBatch_eq
      (s.evaluate (c.searching type).plan)
      ((c.searching type).next (s.evaluate (c.searching type).plan))
    rw [hbatch]
    refine ⟨?_, ?_, ?_⟩
    · exact (congrArg (fun b => b.terms person) hrecords.bindings).trans hs.terms_eq
    · refine (congrArg OrderedSet.toSet hrecords.resources).le.trans ?_
      exact hs.resources_subset.trans hmore
    · intro d hd
      change d ∈ ((c.searching type).gather _ _).requested at hd
      rw [requested_gather fun d hd => hpass (hnext hd), List.mem_append] at hd
      rcases hd with hd | hd
      · exact hmore (hs.requested_subset d hd)
      · obtain ⟨job, hjob, rfl⟩ := List.mem_map.1 hd
        have hdocument := snd_mem_of_mem_batch (List.mem_filter.1 hjob).1
        exact hmore (hs.resources_subset (hnext hdocument))

/-- When a search converges, it has asked for every document that is justified, and found as
settings what the documents say they are. -/
lemma justified_subset_of_converged
    (hrun : ((c.searching type).run (seed w)).status = .converged) :
    (∀ d ∈ justified ((c.searching type).run (seed w)).store.quads.toSet type w,
        d ∈ ((c.searching type).run (seed w)).requested) ∧
      ((c.searching type).run (seed w)).bindings.terms settings =
        {o | Says ((c.searching type).run (seed w)).store.quads.toSet (.iri w)
          Vocabulary.preferencesFile o} := by
  have hasked := ((c.searching type).isAccounted_run (seed w)).2.2.2.1
  obtain ⟨s, hs, hlast, hpending⟩ :=
    (c.searching type).exists_of_status_run_eq_converged hrun
  have hjustified := (c.isKept_isJustified type w).of_reaches hs
  obtain ⟨hresources, hsettings, -⟩ := knowledge_evaluate_plan type hjustified.terms_eq
  have hstart : w.document ∈ s.resources.toSet := by
    refine hs.invariant.seed_subset ?_
    rw [seedDocuments_seed]
    rfl
  rw [hlast] at hasked ⊢
  have hfacts : (s.evaluate (c.searching type).plan).store.quads.toSet = s.knowledge.facts := by
    rw [State.store_evaluate]
    rfl
  rw [hfacts]
  refine ⟨fun d hd => hasked d ?_, hsettings⟩
  rw [← State.mem_fetched, hs.fetched_eq hpending]
  rcases hresources.ge (Or.inr hd) with hresource | rfl
  · exact hresource
  · rw [State.resources_evaluate]
    exact Or.inl hstart

/-- However a search ends, some document that it holds says of each of the settings found that it is
one. -/
lemma terms_settings_run_subset (type w : Iri) :
    ((c.searching type).run (seed w)).bindings.terms settings ⊆
      {o | Says ((c.searching type).run (seed w)).store.quads.toSet (.iri w)
        Vocabulary.preferencesFile o} := by
  obtain ⟨s, hs, hends⟩ := (c.searching type).exists_endsAfter_run (seed w)
  have hjustified := (c.isKept_isJustified type w).of_reaches hs
  obtain ⟨-, hsettings, -⟩ := knowledge_evaluate_plan type hjustified.terms_eq
  have hfacts : s.knowledge.facts ⊆ (s.evaluate (c.searching type).plan).knowledge.facts :=
    facts_evaluate_plan.ge
  generalize (c.searching type).run (seed w) = r at hends ⊢
  cases hends with
  | verdict hverdict => exact fun o ho => (hsettings.le ho).mono hfacts
  | stopped hverdict hbatch =>
    -- The batch that is stopped adds facts and binds nothing.
    have hrecords := (c.searching type).records_fetchBatch (s.evaluate (c.searching type).plan)
      ((c.searching type).next (s.evaluate (c.searching type).plan))
    rw [hbatch] at hrecords
    have hbindings := congrArg (fun b : Bindings => b.terms settings) hrecords.bindings
    exact fun o ho => (hsettings.le (hbindings.le ho)).mono (hfacts.trans hrecords.facts_subset)

/-- However a search ends, the documents that it asked for are that of the person and those of
resources to which it was led by what it holds, and instances of nodes that no index calls an entry
led to none of them.  If it converges, it asked for all of these documents, and the settings that it
found are what some document says are the settings of the person. -/
theorem requested_searching (c : Setting) (type w : Iri) :
    let r := (c.searching type).run (seed w)
    let facts := r.store.quads.toSet
    (∀ d ∈ r.requested, ∃ i, (i = w ∨ Names facts type w i) ∧ i.document = d) ∧
      (∀ d ∈ r.requested, ∃ i, (i = w ∨ Names (trusted facts w) type w i) ∧ i.document = d) ∧
      (r.status = .converged →
        (∀ i, i = w ∨ Names facts type w i → i.document ∈ r.requested) ∧
        (r.termsOf settings).toSet =
          (r.store.objects (.iri w) Vocabulary.preferencesFile).toSet) := by
  intro r facts
  have hjustified := ((c.isKept_isJustified type w).of_run).requested_subset
  refine ⟨hjustified, fun d hd => ?_, fun hrun => ?_⟩
  · obtain ⟨i, hi, hid⟩ := hjustified d hd
    exact ⟨i, hi.imp_right Names.of_trusted, hid⟩
  · obtain ⟨hasked, hsettings⟩ := c.justified_subset_of_converged hrun
    refine ⟨fun i hi => hasked _ ⟨i, hi, rfl⟩, hsettings.trans ?_⟩
    ext o
    exact Store.mem_toSet_objects_iff_says.symm

/-- A card that names no index, but describes a node as if it were an entry of one. -/
def boldCard : Web :=
  Web.putDocument {} "a:p" "<a:n> a <http://www.w3.org/ns/solid/terms#TypeRegistration> ;
    <http://www.w3.org/ns/solid/terms#forClass> <a:c> ;
    <http://www.w3.org/ns/solid/terms#instance> <a:d> ."

/-- The search of a pod with that card. -/
def boldSearch : Setting :=
  searching { fetcher := boldCard.fetcher, plan := {} } ⟨"a:c"⟩

/-- The search converges without asking for what the node has as its instance. -/
theorem requested_boldSearch :
    let r := boldSearch.run (seed ⟨"a:p"⟩)
    (r.status = .converged ∧ r.requested = [⟨"a:p"⟩]) ∧
      ¬ Names r.store.quads.toSet ⟨"a:c"⟩ ⟨"a:p"⟩ ⟨"a:d"⟩ ∧
      (r.termsOf settings).toSet =
        (r.store.objects (.iri ⟨"a:p"⟩) Vocabulary.preferencesFile).toSet := by
  intro r
  -- One evaluation of the run for both.
  have hpair : (r.status, r.requested) = (.converged, [⟨"a:p"⟩]) := by decide +kernel
  have hrun := Prod.mk.inj hpair
  obtain ⟨-, -, hconverged⟩ :=
    requested_searching { fetcher := boldCard.fetcher, plan := {} } ⟨"a:c"⟩ ⟨"a:p"⟩
  obtain ⟨hasked, hsettings⟩ := hconverged hrun.1
  refine ⟨hrun, fun hd => ?_, hsettings⟩
  -- Had the search been led there, it would have asked for the document.
  have hmem : (⟨"a:d"⟩ : Iri).document ∈ r.requested := hasked _ (Or.inr hd)
  rw [hrun.2] at hmem
  revert hmem
  decide

end Crawl.Setting

end Courier
