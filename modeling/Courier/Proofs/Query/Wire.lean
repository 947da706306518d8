import Courier.Proofs.Collection.Row
import Courier.Proofs.Json.Record

/-!
# Saved plans

A plan whose variables can be named and whose identifiers are absolute is saved, unless a slot holds
a literal or a blank node, and what is saved is loaded as that plan (`Plan.load_save`).  Variables
and identifiers share one written form.  They are told apart by their first character, since an
absolute identifier starts with a letter.  Loading checks all that saving needs: every plan that was
loaded can be saved.
-/

namespace Courier

/-! ### Variables and identifiers -/

namespace Variable

/-- Whether the variable is one that a text names. -/
def IsNamed (v : Variable) : Prop :=
  ∃ text, parse text = .ok v

lemma parse_eq_ok_iff {text : String} {v : Variable} :
    parse text = .ok v ↔ v = named text ∧ isName v.name = true := by
  unfold parse named
  dsimp only
  split
  next h =>
    constructor
    · intro heq
      cases heq
      exact ⟨rfl, h⟩
    · rintro ⟨rfl, -⟩
      rfl
  next h =>
    constructor
    · intro heq
      cases heq
    · rintro ⟨rfl, hname⟩
      exact absurd hname h

lemma isNamed_of_toOption {text : String} {v : Variable} (h : (parse text).toOption = some v) :
    v.IsNamed := by
  refine ⟨text, ?_⟩
  cases hparse : parse text with
  | ok w => rw [hparse] at h; cases h; rfl
  | error e => rw [hparse] at h; cases h

lemma toList_display (v : Variable) : v.display.toList = '?' :: v.name.toList := by
  unfold display
  rw [String.toList_append]
  rfl

lemma named_display (v : Variable) : named v.display = v := by
  unfold named withoutMark
  rw [toList_display]
  change Variable.mk (.ofList v.name.toList) = v
  rw [String.ofList_toList]

/-- The variables that texts name are those with a good name. -/
theorem isNamed_iff {v : Variable} : v.IsNamed ↔ isName v.name = true := by
  constructor
  · rintro ⟨text, htext⟩
    exact (parse_eq_ok_iff.1 htext).2
  · intro hname
    refine ⟨v.display, parse_eq_ok_iff.2 ⟨?_, hname⟩⟩
    exact v.named_display.symm

/-- A variable is named by its written form. -/
theorem parse_display {v : Variable} (h : v.IsNamed) : parse v.display = .ok v :=
  parse_eq_ok_iff.2 ⟨v.named_display.symm, isNamed_iff.1 h⟩

end Variable

/-- An absolute identifier does not start with a question mark. -/
lemma Iri.toList_ne_mark {text : String} (h : isAbsolute text = true) (rest : List Char) :
    text.toList ≠ '?' :: rest := by
  intro htext
  have hscheme : (Reference.ofList ('?' :: rest)).scheme = none := rfl
  unfold isAbsolute at h
  rw [htext] at h
  simp [hscheme] at h

/-! ### Slots -/

namespace Slot

variable {s : Slot} {field : Option Json}

/-- Whether what fills the slot is a variable that a text names, an absolute identifier, or a
constant of another kind. -/
def IsWellFormed : Slot → Prop
  | anything => True
  | constant term => ∀ i, term.iri? = some i → Iri.isAbsolute i.text = true
  | bound v => v.IsNamed

/-- Whether the slot holds a constant that is no named resource. -/
def IsUnwritable : Slot → Prop
  | constant (.literal _) | constant (.blank _) => True
  | constant (.iri _) | anything | bound _ => False

lemma exists_toJson_eq_error_iff (s : Slot) : (∃ e, s.toJson = .error e) ↔ s.IsUnwritable := by
  rcases s with - | (i | l | b) | v
  case constant.literal => exact iff_of_true ⟨_, rfl⟩ trivial
  case constant.blank => exact iff_of_true ⟨_, rfl⟩ trivial
  all_goals
    refine iff_of_false ?_ (fun h => h)
    rintro ⟨e, he⟩
    cases he

/-- A slot is read back from its written form, which is a text if there is one. -/
lemma slot?_of_toJson (hs : s.IsWellFormed) (h : s.toJson = .ok field) :
    Plan.slot? field = some s ∧ ∀ value ∈ field, ∃ text, value = .text text := by
  rcases s with - | (i | l | b) | v
  case anything =>
    cases h
    exact ⟨rfl, fun _ hvalue => by cases hvalue⟩
  case constant.iri =>
    cases h
    -- The text is not taken for a variable, since it does not start with a question mark.
    have habsolute : Iri.isAbsolute i.text = true := hs i rfl
    refine ⟨?_, fun value hvalue => ⟨i.text, (Option.some_inj.1 hvalue).symm⟩⟩
    have hread : Plan.slot? (some (.text i.text)) =
        (Iri.ofString? i.text).map (.constant <| .iri ·) := by
      simp only [Plan.slot?, Json.text, Json.optionalText?, Option.bind_some]
      split
      next rest htext => exact absurd htext (Iri.toList_ne_mark habsolute rest)
      next => rfl
    rw [hread, Iri.ofString?, if_pos habsolute]
    rfl
  case constant.literal => cases h
  case constant.blank => cases h
  case bound =>
    cases h
    refine ⟨?_, fun value hvalue => ⟨v.display, (Option.some_inj.1 hvalue).symm⟩⟩
    simp only [Plan.slot?, Json.text, Json.optionalText?, Option.bind_some, v.toList_display,
      Variable.parse_display hs]
    rfl

/-- Whatever is read can be written. -/
lemma isWellFormed_of_slot? (h : Plan.slot? field = some s) :
    s.IsWellFormed ∧ ¬s.IsUnwritable := by
  obtain ⟨text, -, hslot⟩ := Option.bind_eq_some_iff.1 h
  cases text with
  | none =>
    cases hslot
    exact ⟨trivial, fun h => h⟩
  | some text =>
    dsimp only at hslot
    split at hslot
    · obtain ⟨v, hv, rfl⟩ := Option.map_eq_some_iff.1 hslot
      exact ⟨Variable.isNamed_of_toOption hv, fun h => h⟩
    · obtain ⟨i, hi, rfl⟩ := Option.map_eq_some_iff.1 hslot
      refine ⟨?_, fun h => h⟩
      rintro j hj
      cases hj
      exact Iri.isAbsolute_of_ofString? hi

end Slot

/-! ### Fields that name kinds, variables and sides -/

namespace Plan

/-- The kind of a record that names it first. -/
lemma kind?_record (kind : String) {members : List (String × Json)}
    (h : (members.map Prod.fst).Nodup) (htype : "type" ∉ members.map Prod.fst) :
    kind? (.record (("type", .text kind) :: members)) = some (kind, .record members) := by
  have hnames : ((("type", Json.text kind) :: members).map Prod.fst).Nodup :=
    List.nodup_cons.2 ⟨htype, h⟩
  have hread := Json.fields?_record hnames ["type"] 0
  -- Only the member that names the kind is taken out of the record.
  have hothers : ∀ m ∈ members.map fun m => (some m.1, m.2), (m.1 != some "type") = true := by
    rw [List.forall_mem_map]
    intro m hm
    rw [bne_iff_ne]
    intro hname
    exact htype (List.mem_map.2 ⟨m, hm, Option.some_inj.1 hname⟩)
  have hrest : ((("type", Json.text kind) :: members).map fun m => (some m.1, m.2)).filter
      (·.1 != some "type") = members.map fun m => (some m.1, m.2) := by
    rw [List.map_cons, List.filter_cons_of_neg (by simp), List.filter_eq_self.2 hothers]
  rw [Json.record_eq] at hread ⊢
  unfold kind?
  dsimp only
  rw [hread, hrest, Json.record_eq]
  rfl

/-- A variable that was read is one that a text names. -/
lemma isNamed_of_requiredVariable? {field : Option Json} {v : Variable}
    (h : requiredVariable? field = some v) : v.IsNamed := by
  obtain ⟨text, -, hv⟩ := Option.bind_eq_some_iff.1 h
  exact Variable.isNamed_of_toOption hv

lemma requiredVariable?_display {v : Variable} (h : v.IsNamed) :
    requiredVariable? (some (.text v.display)) = some v := by
  change (Variable.parse v.display).toOption = some v
  rw [Variable.parse_display h]
  rfl

lemma isNamed_of_optionalVariable? {field : Option Json} {v : Variable}
    (h : optionalVariable? field = some (some v)) : v.IsNamed := by
  unfold optionalVariable? at h
  split at h
  · cases h
  · cases h
  · obtain ⟨w, hw, heq⟩ := Option.map_eq_some_iff.1 h
    obtain rfl : w = v := Option.some_inj.1 heq
    exact isNamed_of_requiredVariable? hw

lemma optionalVariable?_display {v : Option Variable} (h : ∀ w ∈ v, w.IsNamed) :
    optionalVariable? (v.map (.text ·.display)) = some v := by
  cases v with
  | none => rfl
  | some w =>
    change (requiredVariable? (some (.text w.display))).map some = some (some w)
    rw [requiredVariable?_display (h w rfl)]
    rfl

lemma side?_word (side : Side) : side? (some (.text side.word)) = some side := by
  cases side <;> rfl

end Plan

/-! ### Steps -/

namespace Match

/-- Whether all variables of the match are such that texts name them, and all its identifiers are
absolute. -/
structure IsWellFormed (m : Match) : Prop where
  /-- The subject is well formed. -/
  subject : m.subject.IsWellFormed
  /-- The predicate is absolute. -/
  predicate : Iri.isAbsolute m.predicate.text = true
  /-- The object is well formed. -/
  object : m.object.IsWellFormed
  /-- The variable of the documents, if there is one, is named by a text. -/
  graph : ∀ v ∈ m.graph, v.IsNamed
  /-- The variable that gets what is found is named by a text. -/
  target : m.target.IsNamed

/-- Whether a side of the match is confined to a constant that is no named resource. -/
def IsUnwritable (m : Match) : Prop :=
  m.subject.IsUnwritable ∨ m.object.IsUnwritable

/-- The fields of a written match whose sides are written as given. -/
def fields (m : Match) (subject object : Option Json) : List (String × Option Json) :=
  [("subject", subject), ("predicate", some (.text m.predicate.text)), ("object", object),
    ("graph", m.graph.map (.text ·.display)), ("pick", some (.text m.pick.word)),
    ("target", some (.text m.target.display))]

lemma nodup_fields (m : Match) (subject object : Option Json) :
    ((m.fields subject object).map Prod.fst).Nodup := by
  change ["subject", "predicate", "object", "graph", "pick", "target"].Nodup
  decide

/-- A record of the fields whose kind is named first is known by its kind. -/
lemma kind?_fields (m : Match) (subject object : Option Json) :
    Plan.kind? (.record (("type", .text "match") :: Json.present (m.fields subject object))) =
      some ("match", .record (Json.present (m.fields subject object))) := by
  have hsublist := Json.map_fst_present_sublist (m.fields subject object)
  have htype : "type" ∉ (m.fields subject object).map Prod.fst := by
    change "type" ∉ ["subject", "predicate", "object", "graph", "pick", "target"]
    decide
  exact Plan.kind?_record "match" ((m.nodup_fields subject object).sublist hsublist)
    fun hmem => htype (hsublist.subset hmem)

variable {m : Match} {subject object : Option Json}

/-- All fields of a written match are texts if its sides are. -/
lemma areTexts_fields (hsubject : ∀ value ∈ subject, ∃ text, value = .text text)
    (hobject : ∀ value ∈ object, ∃ text, value = .text text) :
    Json.AreTexts (Json.present (m.fields subject object)) := by
  have htext : ∀ text, ∀ value ∈ some (Json.text text), ∃ content, value = .text content :=
    fun text value hvalue => ⟨text, (Option.some_inj.1 hvalue).symm⟩
  have hgraph : ∀ value ∈ m.graph.map (Json.text ·.display), ∃ text, value = .text text := by
    intro value hvalue
    obtain ⟨v, -, rfl⟩ := Option.map_eq_some_iff.1 hvalue
    exact ⟨v.display, rfl⟩
  refine Json.areTexts_present ?_
  unfold fields
  simp only [List.forall_mem_cons]
  exact ⟨hsubject, htext _, hobject, hgraph, htext _, htext _, by simp⟩

/-- A match is read back from its fields. -/
lemma match?_fields (h : m.IsWellFormed) (hsubject : Plan.slot? subject = some m.subject)
    (hobject : Plan.slot? object = some m.object) :
    Plan.match? (.record (Json.present (m.fields subject object))) = some m := by
  have hfields : Json.fields? ["subject", "predicate", "object", "graph", "pick", "target"] 0
      (.record (Json.present (m.fields subject object))) =
        some ((m.fields subject object).map Prod.snd) :=
    Json.fields?_record_present (m.nodup_fields subject object) 0
  have hpredicate : (Json.requiredText? (some (.text m.predicate.text))).bind Iri.ofString? =
      some m.predicate := by
    change Iri.ofString? m.predicate.text = _
    rw [Iri.ofString?, if_pos h.predicate]
  unfold Plan.match?
  rw [hfields]
  simp only [fields, List.map_cons, List.map_nil, hsubject, hobject, hpredicate,
    Plan.optionalVariable?_display h.graph, Plan.side?_word,
    Plan.requiredVariable?_display h.target]
  rfl

/-- A match that was read is well formed and can be written. -/
lemma isWellFormed_of_match? {record : Json} (h : Plan.match? record = some m) :
    m.IsWellFormed ∧ ¬m.IsUnwritable := by
  unfold Plan.match? at h
  split at h
  next subject predicate object graph pick target hfields =>
    simp only [bind, Option.bind_eq_some_iff] at h
    obtain ⟨s, hs, p, hp, o, ho, g, hg, side, -, t, ht, heq⟩ := h
    cases heq
    obtain ⟨hsubject, hwritable⟩ := Slot.isWellFormed_of_slot? hs
    obtain ⟨hobject, hwritable'⟩ := Slot.isWellFormed_of_slot? ho
    refine ⟨⟨hsubject, ?_, hobject, ?_, Plan.isNamed_of_requiredVariable? ht⟩, ?_⟩
    · obtain ⟨text, -, habsolute⟩ := hp
      exact Iri.isAbsolute_of_ofString? habsolute
    · rintro v rfl
      exact Plan.isNamed_of_optionalVariable? hg
    · rintro (hunwritable | hunwritable)
      · exact hwritable hunwritable
      · exact hwritable' hunwritable
  next => cases h

end Match

namespace Step

/-- Whether the step is well formed. -/
def IsWellFormed : Step → Prop
  | lookUp m => m.IsWellFormed
  | addResources v => v.IsNamed

/-- Whether a slot of the step holds a constant that is no named resource. -/
def IsUnwritable : Step → Prop
  | lookUp m => m.IsUnwritable
  | addResources _ => False

/-- What is written of a match. -/
lemma toJson_lookUp (m : Match) :
    (lookUp m).toJson = m.subject.toJson.bind fun subject => m.object.toJson.bind fun object =>
      .ok (.record (("type", .text "match") :: Json.present (m.fields subject object))) := by
  have hpresent : ∀ subject object, [("type", Json.text "match")] ++
      Json.member "subject" subject ++ [("predicate", .text m.predicate.text)] ++
      Json.member "object" object ++ Json.member "graph" (m.graph.map (.text ·.display)) ++
      [("pick", .text m.pick.word), ("target", .text m.target.display)] =
        ("type", .text "match") :: Json.present (m.fields subject object) := by
    intro subject object
    simp [Json.present, Match.fields, Json.member]
  unfold toJson
  simp only [hpresent]
  rfl

/-- A written match has both its sides written. -/
lemma exists_of_toJson_lookUp {m : Match} {json : Json} (h : (lookUp m).toJson = .ok json) :
    ∃ subject object, m.subject.toJson = .ok subject ∧ m.object.toJson = .ok object ∧
      json = .record (("type", .text "match") :: Json.present (m.fields subject object)) := by
  rw [toJson_lookUp] at h
  cases hsubject : m.subject.toJson with
  | error e => rw [hsubject] at h; cases h
  | ok subject =>
    cases hobject : m.object.toJson with
    | error e => rw [hsubject, hobject] at h; cases h
    | ok object =>
      rw [hsubject, hobject] at h
      cases h
      exact ⟨subject, object, rfl, rfl, rfl⟩

lemma exists_toJson_eq_error_iff (st : Step) :
    (∃ e, st.toJson = .error e) ↔ st.IsUnwritable := by
  cases st with
  | addResources v =>
    refine iff_of_false ?_ (fun h => h)
    rintro ⟨e, he⟩
    cases he
  | lookUp m =>
    change _ ↔ m.subject.IsUnwritable ∨ m.object.IsUnwritable
    rw [← Slot.exists_toJson_eq_error_iff, ← Slot.exists_toJson_eq_error_iff, toJson_lookUp]
    cases m.subject.toJson with
    | error e => simp [Except.bind]
    | ok subject => cases m.object.toJson <;> simp [Except.bind]

/-- A step is read back from its written form, which is a record of texts. -/
lemma step?_of_toJson {st : Step} {json : Json} (hst : st.IsWellFormed)
    (h : st.toJson = .ok json) :
    Plan.step? json = some st ∧ json.IsTextRecord := by
  cases st with
  | addResources v =>
    cases h
    refine ⟨?_, _, rfl, ?_⟩
    · have hkind : Plan.kind? (.record [("type", .text "add resources"),
          ("variable", .text v.display)]) =
            some ("add resources", .record [("variable", .text v.display)]) :=
        Plan.kind?_record "add resources" (by simp) (by simp)
      unfold Plan.step?
      rw [hkind]
      change (Plan.requiredVariable? (some (.text v.display))).map Step.addResources = _
      rw [Plan.requiredVariable?_display hst]
      rfl
    · intro m hm
      simp only [List.mem_cons, List.not_mem_nil, or_false] at hm
      rcases hm with rfl | rfl
      · exact ⟨_, rfl⟩
      · exact ⟨_, rfl⟩
  | lookUp m =>
    obtain ⟨subject, object, hs, ho, rfl⟩ := exists_of_toJson_lookUp h
    obtain ⟨hsubject, htext⟩ := Slot.slot?_of_toJson hst.subject hs
    obtain ⟨hobject, htext'⟩ := Slot.slot?_of_toJson hst.object ho
    refine ⟨?_, _, rfl, ?_⟩
    · unfold Plan.step?
      rw [m.kind?_fields subject object]
      change (Plan.match? _).map Step.lookUp = _
      rw [Match.match?_fields hst hsubject hobject]
      rfl
    · exact List.forall_mem_cons.2 ⟨⟨"match", rfl⟩, Match.areTexts_fields htext htext'⟩

/-- A step that was read is well formed and can be written. -/
lemma isWellFormed_of_step? {record : Json} {st : Step} (h : Plan.step? record = some st) :
    st.IsWellFormed ∧ ¬st.IsUnwritable := by
  unfold Plan.step? at h
  split at h
  · obtain ⟨m, hm, rfl⟩ := Option.map_eq_some_iff.1 h
    exact Match.isWellFormed_of_match? hm
  · split at h
    · obtain ⟨v, hv, rfl⟩ := Option.map_eq_some_iff.1 h
      exact ⟨Plan.isNamed_of_requiredVariable? hv, fun h => h⟩
    · cases h
  · cases h

end Step

/-! ### Plans -/

namespace Plan

variable {plan : Plan} {text : String}

/-- Whether every step is well formed. -/
def IsWellFormed (plan : Plan) : Prop :=
  ∀ st ∈ plan.steps, st.IsWellFormed

/-- Whether some slot of a step holds a literal or a blank node. -/
def IsUnwritable (plan : Plan) : Prop :=
  ∃ st ∈ plan.steps, st.IsUnwritable

/-- Saving fails exactly where there is a constant without a written form. -/
theorem exists_save_eq_error_iff (plan : Plan) :
    (∃ e, plan.save = .error e) ↔ plan.IsUnwritable := by
  have hsave : (∃ e, plan.save = .error e) ↔ ∃ e, plan.steps.mapM Step.toJson = .error e := by
    unfold save toJson
    cases plan.steps.mapM Step.toJson with
    | ok records => simp [Except.map]
    | error e => simp [Except.map]
  rw [hsave, exists_mapM_eq_error_iff]
  simp only [Step.exists_toJson_eq_error_iff]
  rfl

/-- A plan that can be saved is loaded as it was. -/
theorem load_of_save (hplan : plan.IsWellFormed) (h : plan.save = .ok text) :
    load text = .ok plan := by
  obtain ⟨steps⟩ := plan
  unfold save toJson at h
  cases hrecords : steps.mapM Step.toJson with
  | error e => rw [hrecords] at h; cases h
  | ok records =>
    rw [hrecords] at h
    cases h
    have hrows := (List.forall₂_and_left _ _).2 ⟨hplan, mapM_eq_ok_iff.1 hrecords⟩
    have hsteps : List.Forall₂ (fun record st => record.IsTextRecord ∧ step? record = some st)
        records steps :=
      List.Forall₂.flip (hrows.imp fun st record h => (Step.step?_of_toJson h.1 h.2).symm)
    obtain ⟨htexts, hforall⟩ := (List.forall₂_and_left _ _).1 hsteps
    have hread : records.mapM step? = some steps := mapM_eq_some_iff.2 hforall
    have hkeepable : (Json.array records).isKeepable Json.maxDepth = true :=
      Json.isKeepable_array htexts 125
    have hjson : ofJson? (.array records) = some ⟨steps⟩ := by
      unfold ofJson?
      dsimp only
      rw [if_pos hkeepable, hread]
      rfl
    unfold load
    rw [Json.ofString?_pretty (Json.isTextual_array htexts), Option.bind_some, hjson]

/-- A plan that was loaded is well formed and can be saved. -/
theorem isWellFormed_of_load (h : load text = .ok plan) :
    plan.IsWellFormed ∧ ¬plan.IsUnwritable := by
  have hread : (Json.ofString? text).bind ofJson? = some plan := by
    unfold load at h
    split at h
    next hsome =>
      cases h
      exact hsome
    next => cases h
  obtain ⟨value, -, hvalue⟩ := Option.bind_eq_some_iff.1 hread
  have hsteps : ∀ st ∈ plan.steps, st.IsWellFormed ∧ ¬st.IsUnwritable := by
    unfold ofJson? at hvalue
    split at hvalue
    next records =>
      split at hvalue
      · obtain ⟨steps, hrecords, rfl⟩ := Option.map_eq_some_iff.1 hvalue
        have hrows : List.Forall₂ (fun st record => (st.IsWellFormed ∧ ¬st.IsUnwritable) ∧
            step? record = some st) steps records :=
          (List.Forall₂.flip (mapM_eq_some_iff.1 hrecords)).imp fun st record h =>
            ⟨Step.isWellFormed_of_step? h, h⟩
        exact ((List.forall₂_and_left _ _).1 hrows).1
      · cases hvalue
    next => cases hvalue
  refine ⟨fun st hst => (hsteps st hst).1, ?_⟩
  rintro ⟨st, hst, hunwritable⟩
  exact (hsteps st hst).2 hunwritable

/-- Saving a well-formed plan fails exactly if some slot holds a literal or a blank node, and
otherwise what is saved is loaded as the same plan.  Every plan that is loaded from any text is such
a plan: it can be saved, and is loaded again as it is. -/
theorem load_save :
    (∀ plan : Plan, plan.IsWellFormed →
      ((∃ e, plan.save = .error e) ↔ plan.IsUnwritable) ∧
        ∀ text, plan.save = .ok text → load text = .ok plan) ∧
    ∀ text plan, load text = .ok plan → plan.IsWellFormed ∧ ¬plan.IsUnwritable ∧
      ∃ saved, plan.save = .ok saved ∧ load saved = .ok plan := by
  refine ⟨fun plan hplan => ⟨plan.exists_save_eq_error_iff, fun text => load_of_save hplan⟩, ?_⟩
  intro text plan hload
  obtain ⟨hplan, hwritable⟩ := isWellFormed_of_load hload
  refine ⟨hplan, hwritable, ?_⟩
  cases hsave : plan.save with
  | error e => exact absurd (plan.exists_save_eq_error_iff.1 ⟨e, hsave⟩) hwritable
  | ok saved => exact ⟨saved, rfl, load_of_save hplan hsave⟩

/-- A plan with names and identifiers in letters of other scripts. -/
def samplePlan : Plan where
  steps :=
    [.lookUp
        { subject := .bound ⟨"人"⟩, predicate := ⟨"a:é"⟩, object := .constant (.iri ⟨"a:b?c"⟩)
          graph := some ⟨"b-1"⟩, pick := .subject, target := ⟨"_x"⟩ },
      .addResources ⟨"_x"⟩]

/-- A plan with a literal. -/
def literalPlan : Plan where
  steps :=
    [.lookUp
      { subject := .constant (.literal (.plain "b")), predicate := ⟨"a:b"⟩, target := ⟨"_x"⟩ }]

/-- The one can be saved and is loaded as it was, the other cannot be saved. -/
theorem load_save_samplePlan :
    (∃ text, samplePlan.save = .ok text ∧ load text = .ok samplePlan) ∧
      ∃ e, literalPlan.save = .error e := by
  have hnamed : ∀ v ∈ [Variable.mk "人", ⟨"b-1"⟩, ⟨"_x"⟩], v.IsNamed := by
    simp only [Variable.isNamed_iff]
    decide +kernel
  have htarget : (Variable.mk "_x").IsNamed := hnamed _ (by simp)
  have hsample : samplePlan.IsWellFormed := by
    unfold samplePlan IsWellFormed
    simp only [List.forall_mem_cons]
    refine ⟨⟨hnamed _ (by simp), by decide +kernel, ?_, ?_, htarget⟩, htarget, by simp⟩
    · intro i hi
      cases hi
      decide +kernel
    · intro v hv
      cases hv
      exact hnamed _ (by simp)
  have hliteral : literalPlan.IsWellFormed := by
    unfold literalPlan IsWellFormed
    simp only [List.forall_mem_cons]
    refine ⟨⟨?_, by decide +kernel, trivial, ?_, htarget⟩, by simp⟩
    · intro i hi
      cases hi
    · intro v hv
      cases hv
  obtain ⟨hsaved, hloaded⟩ := load_save.1 samplePlan hsample
  obtain ⟨hrefused, -⟩ := load_save.1 literalPlan hliteral
  refine ⟨?_, hrefused.2 ⟨_, List.mem_singleton_self _, Or.inl trivial⟩⟩
  cases hsave : samplePlan.save with
  | error e =>
    obtain ⟨st, hst, hunwritable⟩ := hsaved.1 ⟨e, hsave⟩
    unfold samplePlan at hst
    simp only [List.mem_cons, List.not_mem_nil, or_false] at hst
    rcases hst with rfl | rfl
    · rcases hunwritable with h | h <;> cases h
    · cases hunwritable
  | ok text => exact ⟨text, rfl, hloaded text hsave⟩

end Plan

end Courier
