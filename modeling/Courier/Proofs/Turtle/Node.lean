import Courier.Proofs.Turtle.Document
import Mathlib.Data.List.SplitBy

/-!
# Which nodes a document speaks of

A document speaks of two kinds of nodes: those whose label is one of its tokens, and those that it
makes itself, which are told apart by the document, the number of the reading and their own number
(`Source.Owns`).  Reading keeps to these, one step after the other (`Source.Ensures`), so that every
node of every triple is one of them (`owns_of_triples?`).
-/

namespace Courier

/-- Whether the triple speaks of the node. -/
def Triple.Mentions (t : Triple) (node : BlankNode) : Prop :=
  t.subject = .blank node ∨ t.object = .blank node

namespace Turtle

/-- What is read. -/
structure Source where
  /-- The tokens of the document. -/
  tokens : List Token
  /-- The number of the reading and the document. -/
  origin : Nat × Iri

namespace Source

/-- Whether the node is one that the document may speak of: its label is among the tokens, or it was
made in this reading of this document. -/
def Owns (s : Source) : BlankNode → Prop
  | .labelled label => .label label.toList ∈ s.tokens
  | .anonymous reading document _ => (reading, document) = s.origin

/-- Whether the term, if it is a node, is one that the document may speak of. -/
def Allows (s : Source) (term : Term) : Prop :=
  ∀ node, term = .blank node → s.Owns node

/-- Whether reading has kept to the document so far. -/
structure Covers (s : Source) (r : Reader) : Prop where
  /-- The document and the reading are still the same. -/
  origin_eq : r.origin = s.origin
  /-- The tokens still to be read are tokens of the document. -/
  tokens_subset : r.tokens ⊆ s.tokens
  /-- The triples speak only of nodes that the document may speak of. -/
  owns : ∀ entry ∈ r.settled, ∀ node, entry.2.Mentions node → s.Owns node

/-- Whether a step of reading keeps to the document and gives what is told. -/
def Ensures (s : Source) {α : Type} (x : Reading α) (what : α → Prop) : Prop :=
  ∀ r a r', s.Covers r → StateT.run x r = some (a, r') → s.Covers r' ∧ what a

/-- Whether a step of reading keeps to the document. -/
def Keeps (s : Source) {α : Type} (x : Reading α) : Prop :=
  s.Ensures x fun _ => True

variable {s : Source} {α β : Type} {x : Reading α} {f : α → Reading β} {what : α → Prop}
  {result : β → Prop}

/-! ### Rows of steps -/

lemma ensures_pure {a : α} (h : what a) : s.Ensures (pure a) what := by
  intro r b r' hr hrun
  cases hrun
  exact ⟨hr, h⟩

lemma ensures_failure : s.Ensures (failure : Reading α) what := by
  intro r a r' hr hrun
  cases hrun

lemma Ensures.bind (hx : s.Ensures x what) (hf : ∀ a, what a → s.Ensures (f a) result) :
    s.Ensures (x >>= f) result := by
  intro r b r'' hr hrun
  rw [StateT.run_bind] at hrun
  obtain ⟨⟨a, r'⟩, hx', hf'⟩ := Option.bind_eq_some_iff.1 hrun
  obtain ⟨hr', ha⟩ := hx r a r' hr hx'
  exact hf a ha r' b r'' hr' hf'

lemma Keeps.bind (hx : s.Keeps x) (hf : ∀ a, s.Ensures (f a) result) :
    s.Ensures (x >>= f) result :=
  Ensures.bind hx fun a _ => hf a

lemma Ensures.keeps (hx : s.Ensures x what) : s.Keeps x :=
  fun r a r' hr hrun => ⟨(hx r a r' hr hrun).1, trivial⟩

lemma keeps_modify {g : Reader → Reader} (h : ∀ r, s.Covers r → s.Covers (g r)) :
    s.Keeps (modify g : Reading Unit) := by
  intro r u r' hr hrun
  cases hrun
  exact ⟨h r hr, trivial⟩

/-! ### Terms -/

lemma allows_iri (i : Iri) : s.Allows (.iri i) := by
  intro node h
  cases h

lemma allows_literal (l : Literal) : s.Allows (.literal l) := by
  intro node h
  cases h

lemma allows_label {text : List Char} (h : .label text ∈ s.tokens) :
    s.Allows (.blank (.labelled (.ofList text))) := by
  intro node hnode
  cases hnode
  rwa [Owns, String.toList_ofList]

/-! ### Single tokens -/

open Reading

lemma ensures_peek : s.Ensures peek fun token => ∀ t ∈ token, t ∈ s.tokens := by
  intro r token r' hr hrun
  cases hrun
  exact ⟨hr, fun t ht => hr.tokens_subset (List.mem_of_head? ht)⟩

lemma keeps_advance : s.Keeps advance := by
  refine keeps_modify fun r hr => ⟨hr.origin_eq, fun t ht => ?_, hr.owns⟩
  exact hr.tokens_subset (List.mem_of_mem_tail ht)

lemma ensures_next : s.Ensures next fun token => token ∈ s.tokens := by
  unfold next
  refine ensures_peek.bind fun token htoken => ?_
  cases token with
  | none => exact ensures_failure
  | some token => exact keeps_advance.bind fun _ => ensures_pure (htoken token rfl)

lemma keeps_position : s.Keeps position := by
  intro r n r' hr hrun
  cases hrun
  exact ⟨hr, trivial⟩

lemma keeps_expect (mark : Mark) : s.Keeps (expect mark) := by
  unfold expect
  refine ensures_next.bind fun token _ => ?_
  split
  · exact ensures_pure trivial
  · exact ensures_failure

lemma keeps_settle {subject object : Term} (hsubject : s.Allows subject) (hobject : s.Allows object)
    (place : Nat) (predicate : Iri) : s.Keeps (settle place subject predicate object) := by
  refine keeps_modify fun r hr => ⟨hr.origin_eq, hr.tokens_subset, ?_⟩
  refine List.forall_mem_cons.2 ⟨?_, hr.owns⟩
  rintro node (hnode | hnode)
  · exact hsubject node hnode
  · exact hobject node hnode

lemma ensures_freshNode : s.Ensures freshNode s.Allows := by
  intro r term r' hr hrun
  cases hrun
  refine ⟨⟨hr.origin_eq, hr.tokens_subset, hr.owns⟩, ?_⟩
  intro node hnode
  cases hnode
  exact hr.origin_eq

/-! ### Names -/

lemma keeps_get : s.Keeps (get : Reading Reader) := by
  intro r a r' hr hrun
  cases hrun
  exact ⟨hr, trivial⟩

lemma keeps_resolve (reference : List Char) : s.Keeps (resolve reference) := by
  unfold resolve
  refine keeps_get.bind fun r => ?_
  split
  · exact ensures_pure trivial
  · exact ensures_failure

lemma keeps_expand (space localPart : List Char) : s.Keeps (expand space localPart) := by
  unfold expand
  refine keeps_get.bind fun r => ?_
  split
  · exact ensures_failure
  · split
    · exact ensures_pure trivial
    · exact ensures_failure

lemma keeps_resource (token : Token) : s.Keeps (resource token) := by
  unfold resource
  split
  · exact keeps_resolve _
  · exact keeps_expand _ _
  · exact ensures_failure

lemma keeps_property (token : Token) : s.Keeps (property token) := by
  unfold property
  split
  · exact ensures_pure trivial
  · exact keeps_resource _

/-! ### Statements -/

lemma keeps_textObject {subject : Term} (hsubject : s.Allows subject) (predicate : Iri)
    (value : String) : s.Keeps (textObject subject predicate value) := by
  unfold textObject
  refine keeps_position.bind fun after => ensures_peek.keeps.bind fun token => ?_
  split
  · refine keeps_advance.bind fun _ => ?_
    split
    · exact keeps_settle hsubject (allows_literal _) _ _
    · exact ensures_failure
  · refine keeps_advance.bind fun _ => keeps_position.bind fun after => ?_
    refine ensures_next.keeps.bind fun token => (keeps_resource token).bind fun datatype => ?_
    exact keeps_settle hsubject (allows_literal _) _ _
  · exact keeps_settle hsubject (allows_literal _) _ _

/-- Whether objects, lists and rows of properties keep to the document at a depth. -/
structure KeepsAt (s : Source) (depth : Nat) : Prop where
  object : ∀ subject, s.Allows subject → ∀ predicate, s.Keeps (object subject predicate depth)
  elements : ∀ node, s.Allows node → s.Keeps (elements node depth)
  objects : ∀ subject, s.Allows subject → ∀ predicate, s.Keeps (objects subject predicate depth)
  properties : ∀ subject, s.Allows subject → s.Keeps (properties subject depth)
  furtherProperties : ∀ subject, s.Allows subject → s.Keeps (furtherProperties subject depth)

variable {depth : Nat}

/-- An object is a resource, a node or a literal, or a node of its own with what it says. -/
lemma KeepsAt.object_succ (h : s.KeepsAt depth) {subject : Term} (hsubject : s.Allows subject)
    (predicate : Iri) : s.Keeps (Reading.object subject predicate (depth + 1)) := by
  unfold Reading.object
  refine keeps_position.bind fun here => ensures_next.bind fun token htoken => ?_
  split
  next text =>
    exact (keeps_resolve text).bind fun i => keeps_settle hsubject (allows_iri i) _ _
  next space localPart =>
    exact (keeps_expand space localPart).bind fun i => keeps_settle hsubject (allows_iri i) _ _
  next text => exact keeps_settle hsubject (allows_label htoken) _ _
  next value => exact keeps_textObject hsubject _ _
  next =>
    refine ensures_freshNode.bind fun node hnode => ensures_peek.keeps.bind fun after => ?_
    have hclose : s.Keeps (do
        let here ← position
        expect .closeBracket
        settle here subject predicate node) :=
      keeps_position.bind fun place => (keeps_expect _).bind fun _ =>
        keeps_settle hsubject hnode place predicate
    split
    · exact hclose
    · exact (h.properties node hnode).bind fun _ => hclose
  next =>
    refine keeps_position.bind fun place => ensures_peek.keeps.bind fun after => ?_
    split
    · exact keeps_advance.bind fun _ => keeps_settle hsubject (allows_iri _) _ _
    · refine ensures_freshNode.bind fun node hnode => ?_
      exact (keeps_settle hsubject hnode _ _).bind fun _ => h.elements node hnode
  next =>
    split
    · exact keeps_settle hsubject (allows_literal _) _ _
    · exact ensures_failure

lemma KeepsAt.elements_succ (h : s.KeepsAt depth) {node : Term} (hnode : s.Allows node) :
    s.Keeps (Reading.elements node (depth + 1)) := by
  unfold Reading.elements
  refine (h.object node hnode _).bind fun _ => keeps_position.bind fun place => ?_
  refine ensures_peek.keeps.bind fun after => ?_
  split
  · exact keeps_advance.bind fun _ => keeps_settle hnode (allows_iri _) _ _
  · refine ensures_freshNode.bind fun rest hrest => ?_
    exact (keeps_settle hnode hrest _ _).bind fun _ => h.elements rest hrest

lemma KeepsAt.objects_succ (h : s.KeepsAt depth) {subject : Term} (hsubject : s.Allows subject)
    (predicate : Iri) : s.Keeps (Reading.objects subject predicate (depth + 1)) := by
  unfold Reading.objects
  refine (h.object subject hsubject predicate).bind fun _ => ensures_peek.keeps.bind fun after => ?_
  split
  · exact keeps_advance.bind fun _ => h.objects subject hsubject predicate
  · exact ensures_pure trivial

lemma KeepsAt.properties_succ (h : s.KeepsAt depth) {subject : Term} (hsubject : s.Allows subject) :
    s.Keeps (Reading.properties subject (depth + 1)) := by
  unfold Reading.properties
  refine ensures_next.keeps.bind fun token => (keeps_property token).bind fun predicate => ?_
  exact (h.objects subject hsubject predicate).bind fun _ => h.furtherProperties subject hsubject

lemma KeepsAt.furtherProperties_succ (h : s.KeepsAt depth) {subject : Term}
    (hsubject : s.Allows subject) : s.Keeps (Reading.furtherProperties subject (depth + 1)) := by
  unfold Reading.furtherProperties
  refine ensures_peek.keeps.bind fun after => ?_
  split
  · refine keeps_advance.bind fun _ => ensures_peek.keeps.bind fun token => ?_
    split
    · split
      · exact h.properties subject hsubject
      · exact h.furtherProperties subject hsubject
    · exact ensures_failure
  · exact ensures_pure trivial

/-- Everything below a subject keeps to the document, however deep it is nested. -/
theorem keepsAt (s : Source) (depth : Nat) : s.KeepsAt depth := by
  induction depth with
  | zero =>
    constructor <;> intros <;> exact ensures_failure
  | succ depth ih =>
    exact {
      object := fun _ hsubject => ih.object_succ hsubject
      elements := fun _ hnode => ih.elements_succ hnode
      objects := fun _ hsubject => ih.objects_succ hsubject
      properties := fun _ hsubject => ih.properties_succ hsubject
      furtherProperties := fun _ hsubject => ih.furtherProperties_succ hsubject }

/-- A subject is a resource or a node that the document may speak of. -/
lemma ensures_subject (s : Source) (depth : Nat) :
    s.Ensures (subject depth) fun found => s.Allows found.1 := by
  unfold subject
  refine ensures_next.bind fun token htoken => ?_
  split
  next text => exact (keeps_resolve text).bind fun i => ensures_pure (allows_iri i)
  next space localPart =>
    exact (keeps_expand space localPart).bind fun i => ensures_pure (allows_iri i)
  next text => exact ensures_pure (allows_label htoken)
  next =>
    refine ensures_freshNode.bind fun node hnode => ensures_peek.keeps.bind fun after => ?_
    split
    · exact keeps_advance.bind fun _ => ensures_pure hnode
    · refine ((s.keepsAt depth).properties node hnode).bind fun _ => ?_
      exact (keeps_expect _).bind fun _ => ensures_pure hnode
  next =>
    refine ensures_peek.keeps.bind fun after => ?_
    split
    · exact keeps_advance.bind fun _ => ensures_pure (allows_iri _)
    · refine ensures_freshNode.bind fun node hnode => ?_
      exact ((s.keepsAt depth).elements node hnode).bind fun _ => ensures_pure hnode
  next => exact ensures_failure

lemma keeps_statement (s : Source) (depth : Nat) : s.Keeps (statement depth) := by
  unfold statement
  refine (s.ensures_subject depth).bind fun found hfound => ensures_peek.keeps.bind fun after => ?_
  dsimp only
  split
  · exact keeps_expect _
  · exact ((s.keepsAt depth).properties _ hfound).bind fun _ => keeps_expect _

/-! ### Documents -/

lemma keeps_declarePrefix : s.Keeps declarePrefix := by
  unfold declarePrefix
  refine ensures_next.keeps.bind fun name => ?_
  split
  · refine ensures_next.keeps.bind fun token => ?_
    split
    · refine (keeps_resolve _).bind fun i => keeps_modify fun r hr => ?_
      exact ⟨hr.origin_eq, hr.tokens_subset, hr.owns⟩
    · exact ensures_failure
  · exact ensures_failure

lemma keeps_declareBase : s.Keeps declareBase := by
  unfold declareBase
  refine ensures_next.keeps.bind fun token => ?_
  split
  · refine (keeps_resolve _).bind fun i => keeps_modify fun r hr => ?_
    exact ⟨hr.origin_eq, hr.tokens_subset, hr.owns⟩
  · exact ensures_failure

lemma keeps_entry (s : Source) (depth : Nat) : s.Keeps (entry depth) := by
  unfold entry
  refine ensures_peek.keeps.bind fun token => ?_
  split
  · refine keeps_advance.bind fun _ => ?_
    dsimp only
    split
    · exact keeps_declarePrefix.bind fun _ => keeps_expect _
    · split
      · exact keeps_declareBase.bind fun _ => keeps_expect _
      · exact Keeps.bind ensures_failure fun _ => keeps_expect _
  · refine keeps_advance.bind fun _ => ?_
    split
    · exact keeps_declarePrefix
    · split
      · exact keeps_declareBase
      · exact ensures_failure
  · exact s.keeps_statement depth

lemma keeps_entries (s : Source) (depth count : Nat) : s.Keeps (entries depth count) := by
  induction count with
  | zero => exact ensures_pure trivial
  | succ count ih =>
    unfold entries
    refine ensures_peek.keeps.bind fun token => ?_
    split
    · exact (s.keeps_entry depth).bind fun _ => ih
    · exact ensures_pure trivial

end Source

/-- The triples of a reader are those that are settled. -/
lemma Reader.exists_settled_of_mem_triples {r : Reader} {t : Triple} (h : t ∈ r.triples) :
    ∃ entry ∈ r.settled, entry.2 = t := by
  obtain ⟨entry, hentry, ht⟩ := List.mem_map.1 h
  refine ⟨entry, ?_, ht⟩
  rw [List.mem_flatten] at hentry
  obtain ⟨group, hgroup, hmem⟩ := hentry
  rw [← List.flatten_splitBy (fun a b : Nat × Triple => a.1 == b.1) r.settled]
  exact List.mem_flatten.2 ⟨group, List.mem_reverse.1 hgroup, hmem⟩

/-- Every node of a document is one that it labels or that it makes itself. -/
theorem owns_of_triples? {reading : Nat} {base : Iri} {body : String} {ts : List Triple}
    (h : triples? reading base body = some ts) :
    ∃ tokens, Scanner.scanAll body.toList = some tokens ∧
      ∀ t ∈ ts, ∀ node, t.Mentions node → Source.Owns ⟨tokens, (reading, base)⟩ node := by
  obtain ⟨tokens, htokens, hread⟩ := Option.bind_eq_some_iff.1 h
  dsimp only at hread
  obtain ⟨⟨u, r⟩, hrun, hr⟩ := Option.bind_eq_some_iff.1 hread
  cases hr
  refine ⟨tokens, htokens, fun t ht node hnode => ?_⟩
  obtain ⟨entry, hentry, rfl⟩ := Reader.exists_settled_of_mem_triples ht
  have hstart : Source.Covers ⟨tokens, (reading, base)⟩
      { tokens, base, origin := (reading, base) } :=
    ⟨rfl, fun _ h => h, fun _ h => nomatch h⟩
  exact (Source.keeps_entries _ _ _ _ _ _ hstart hrun).1.owns entry hentry node hnode

theorem owns_of_read {reading : Nat} {document : Iri} {body : String} {ts : List Triple}
    (h : read reading document body = .ok ts) :
    ∃ tokens, Scanner.scanAll body.toList = some tokens ∧
      ∀ t ∈ ts, ∀ node, t.Mentions node → Source.Owns ⟨tokens, (reading, document)⟩ node := by
  unfold read at h
  split at h
  · split at h
    next us hus =>
      cases h
      exact owns_of_triples? hus
    next => cases h
  · cases h

end Turtle

end Courier
