import Courier.Proofs.Crawl.Convergence

/-!
# Inclusion of states

One state is within another if the other holds whatever it holds: its quads, the terms of each
variable and the documents discovered.  In which order they were found does not matter, nor what
else the states have recorded.

A pass keeps a state within another (`State.IsWithin.evaluate`).  A step that looks up quads throws
away what was known of its variable, so a pass need not add to what a state holds; but what the step
puts there instead is more where it finds more quads and more terms, and the steps after it read no
less.  States that hold the same are within each other, so a pass leaves them holding the same.
-/

namespace Courier.Crawl

namespace State

/-- Whether everything that the state `s` holds is held by the state `t`. -/
structure IsWithin (s t : State) : Prop where
  /-- Its quads are among those of the other. -/
  store : s.store.quads.isSubset t.store.quads = true
  /-- So are the terms of every variable. -/
  bindings : ∀ v, (s.bindings.values v).isSubset (t.bindings.values v) = true
  /-- So are the documents discovered. -/
  resources : s.resources.isSubset t.resources = true

/-- Whether two states hold the same sets, in whatever order they came to hold them. -/
structure HoldsSame (s t : State) : Prop where
  /-- They have the same quads. -/
  store : (s.store == t.store) = true
  /-- They have the same terms for every variable. -/
  bindings : ∀ v, (s.bindings.values v == t.bindings.values v) = true
  /-- They have discovered the same documents. -/
  resources : (s.resources == t.resources) = true

variable {s t : State}

/-- A state is within another if less is known in it. -/
lemma isWithin_iff : s.IsWithin t ↔ s.knowledge ≤ t.knowledge := by
  constructor
  · rintro ⟨hstore, hbindings, hresources⟩
    refine Knowledge.le_iff.2 ⟨?_, fun v => ?_, ?_⟩
    · exact OrderedSet.isSubset_iff.1 hstore
    · exact OrderedSet.isSubset_iff.1 (hbindings v)
    · exact OrderedSet.isSubset_iff.1 hresources
  · intro h
    obtain ⟨hfacts, hterms, hdocuments⟩ := Knowledge.le_iff.1 h
    refine ⟨?_, fun v => ?_, ?_⟩
    · exact OrderedSet.isSubset_iff.2 hfacts
    · exact OrderedSet.isSubset_iff.2 (hterms v)
    · exact OrderedSet.isSubset_iff.2 hdocuments

/-- States hold the same if each is within the other. -/
lemma holdsSame_iff : s.HoldsSame t ↔ s.IsWithin t ∧ t.IsWithin s := by
  constructor
  · rintro ⟨hstore, hbindings, hresources⟩
    obtain ⟨hst, hts⟩ := OrderedSet.beq_iff_isSubset.1 hstore
    obtain ⟨hst', hts'⟩ := OrderedSet.beq_iff_isSubset.1 hresources
    refine ⟨⟨hst, fun v => ?_, hst'⟩, ⟨hts, fun v => ?_, hts'⟩⟩
    · exact (OrderedSet.beq_iff_isSubset.1 (hbindings v)).1
    · exact (OrderedSet.beq_iff_isSubset.1 (hbindings v)).2
  · rintro ⟨hst, hts⟩
    refine ⟨?_, fun v => ?_, ?_⟩
    · exact OrderedSet.beq_iff_isSubset.2 ⟨hst.store, hts.store⟩
    · exact OrderedSet.beq_iff_isSubset.2 ⟨hst.bindings v, hts.bindings v⟩
    · exact OrderedSet.beq_iff_isSubset.2 ⟨hst.resources, hts.resources⟩

/-- A pass keeps a state within another. -/
lemma IsWithin.evaluate (h : s.IsWithin t) (plan : Plan) :
    (s.evaluate plan).IsWithin (t.evaluate plan) := by
  rw [isWithin_iff, knowledge_evaluate, knowledge_evaluate]
  exact Knowledge.evaluate_mono (isWithin_iff.1 h) plan

/-- A pass keeps one state within another, and it leaves states that hold the same, in whatever
order, holding the same. -/
theorem isWithin_evaluate (plan : Plan) (s t : State) :
    (s.IsWithin t → (s.evaluate plan).IsWithin (t.evaluate plan)) ∧
      (s.HoldsSame t → (s.evaluate plan).HoldsSame (t.evaluate plan)) := by
  refine ⟨fun h => h.evaluate plan, fun h => ?_⟩
  obtain ⟨hst, hts⟩ := holdsSame_iff.1 h
  exact holdsSame_iff.2 ⟨hst.evaluate plan, hts.evaluate plan⟩

/-- The card refers to the given documents, and it used to refer to another one. -/
def referring (documents : List Iri) : State where
  store := .insertMany {} (documents.map fun document =>
    ⟨.iri ⟨"a:card#me"⟩, ⟨"a:see"⟩, .iri document, ⟨"a:card"⟩⟩)
  bindings := Setting.cardSeed.set ⟨"document"⟩ (.ofList (.iri ⟨"a:old"⟩ :: documents.map .iri))
  resources := .ofList (⟨"a:card"⟩ :: documents)

/-- A pass forgets the document that the card used to refer to.  It keeps the state with one of the
others within the state with both, and the state with both the same in either order. -/
theorem isWithin_evaluate_referring :
    (((referring [⟨"a:more"⟩]).evaluate Setting.cardCrawl.plan).bindings.values
        ⟨"document"⟩).toList = [.iri ⟨"a:more"⟩] ∧
      ((referring [⟨"a:more"⟩]).IsWithin (referring [⟨"a:gone"⟩, ⟨"a:more"⟩]) ∧
        ((referring [⟨"a:more"⟩]).evaluate Setting.cardCrawl.plan).IsWithin
          ((referring [⟨"a:gone"⟩, ⟨"a:more"⟩]).evaluate Setting.cardCrawl.plan)) ∧
      ((referring [⟨"a:more"⟩, ⟨"a:gone"⟩]).HoldsSame (referring [⟨"a:gone"⟩, ⟨"a:more"⟩]) ∧
        ((referring [⟨"a:more"⟩, ⟨"a:gone"⟩]).evaluate Setting.cardCrawl.plan).HoldsSame
          ((referring [⟨"a:gone"⟩, ⟨"a:more"⟩]).evaluate Setting.cardCrawl.plan)) := by
  have hvalues : ∀ documents v, (referring documents).bindings.values v =
      if v = ⟨"document"⟩ then .ofList (.iri ⟨"a:old"⟩ :: documents.map .iri)
      else Setting.cardSeed.values v := fun documents v => Bindings.values_set ..
  have hwithin : (referring [⟨"a:more"⟩]).IsWithin (referring [⟨"a:gone"⟩, ⟨"a:more"⟩]) := by
    refine ⟨by decide +kernel, fun v => ?_, by decide +kernel⟩
    rw [hvalues, hvalues]
    split
    · decide +kernel
    · exact OrderedSet.isSubset_iff.2 subset_rfl
  have hsame : (referring [⟨"a:more"⟩, ⟨"a:gone"⟩]).HoldsSame
      (referring [⟨"a:gone"⟩, ⟨"a:more"⟩]) := by
    refine ⟨by decide +kernel, fun v => ?_, by decide +kernel⟩
    rw [hvalues, hvalues]
    split
    · decide +kernel
    · exact OrderedSet.beq_iff.2 rfl
  refine ⟨by decide +kernel, ⟨hwithin, ?_⟩, ⟨hsame, ?_⟩⟩
  · exact (isWithin_evaluate Setting.cardCrawl.plan _ _).1 hwithin
  · exact (isWithin_evaluate Setting.cardCrawl.plan _ _).2 hsame

end State

end Courier.Crawl
