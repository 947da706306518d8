import Courier.Proofs.Query.Wire
import Courier.Proofs.Service.Patch
import Courier.Proofs.Token.Claim
import Courier.Service.Notification

/-!
# Written claims and notifications

A claim is read back from what is written of it exactly if it is of a person with an absolute
identifier, and a notification exactly if both of its persons have one; its texts do not matter
(`wire_forms_read_back`).  The reader checks each identifier, however deep in the record it stands.
So whatever is read from any text can be written and read again, and the identifier of a person who
is read stays between its angle brackets wherever it is written between them.
-/

namespace Courier

/-! ### Values and their written forms -/

/-- Whether the value is read back from what is written of it, on one line and on many. -/
def Json.IsReadBack {α : Type} (write : α → Json) (read? : Json → Option α) (a : α) : Prop :=
  (ofString? (write a).compact).bind read? = some a ∧
    (ofString? (write a).pretty).bind read? = some a

/-- No layout loses anything of a record without damaged strings. -/
lemma Json.isReadBack_iff {α : Type} {write : α → Json} {read? : Json → Option α} {a : α}
    (h : (write a).IsTextual) : IsReadBack write read? a ↔ read? (write a) = some a := by
  unfold IsReadBack
  rw [ofString?_compact h, ofString?_pretty h, Option.bind_some, and_self_iff]

/-- An optional text is read as it was written. -/
lemma Json.optionalText?_map_text (value : Option String) :
    optionalText? (value.map text) = some value := by
  cases value with
  | none => rfl
  | some value => rfl

/-- Whether the identifier stays between angle brackets: it holds no character that could end or
escape them, and with them it is read as one reference, whatever follows. -/
def Iri.StaysInBrackets (i : Iri) : Prop :=
  (∀ bad ∈ Grammar.foreign, bad ∉ i.text.toList) ∧
    ∀ rest, Turtle.Scanner.scan ('<' :: (i.text.toList ++ '>' :: rest)) =
      some (.reference i.text.toList, rest)

lemma Iri.staysInBrackets_of_isAbsolute {i : Iri} (h : isAbsolute i.text = true) :
    i.StaysInBrackets :=
  ⟨fun _ hbad => notMem_of_isAbsolute h hbad, scan_reference_of_isAbsolute h⟩

/-! ### Claims -/

namespace Claim

/-- Whether the claim is read back from what is written of it. -/
def IsReadBack (c : Claim) : Prop :=
  Json.IsReadBack toJson ofJson? c

/-- The claims that are read back are those of persons with absolute identifiers. -/
theorem isReadBack_iff {c : Claim} : c.IsReadBack ↔ Iri.isAbsolute c.webId.text = true := by
  unfold IsReadBack
  rw [Json.isReadBack_iff c.isTextual_toJson, ofJson?_toJson, Option.ite_none_right_eq_some,
    and_iff_left rfl]

end Claim

/-! ### Persons and notes -/

namespace Person

/-- The fields of a written person. -/
def fields (p : Person) : List (String × Option Json) :=
  [("type", some (.text "Person")), ("id", some (.text p.id.text)), ("name", p.name.map .text)]

lemma nodup_fields (p : Person) : (p.fields.map Prod.fst).Nodup := by
  change ["type", "id", "name"].Nodup
  decide

lemma toJson_eq (p : Person) : p.toJson = .record (Json.present p.fields) := by
  obtain ⟨id, name⟩ := p
  cases name with
  | none => rfl
  | some name => rfl

lemma isTextual_toJson (p : Person) : p.toJson.IsTextual := by
  have htexts : Json.AreTexts (Json.present p.fields) := by
    refine Json.areTexts_present fun f hf value hvalue => ?_
    simp only [fields, List.mem_cons, List.not_mem_nil, or_false] at hf
    rcases hf with rfl | rfl | rfl
    · exact ⟨_, (Option.some_inj.1 hvalue).symm⟩
    · exact ⟨_, (Option.some_inj.1 hvalue).symm⟩
    · obtain ⟨name, -, rfl⟩ := Option.map_eq_some_iff.1 hvalue
      exact ⟨name, rfl⟩
  rw [toJson_eq]
  exact htexts.isTextual

/-- Exactly the persons with absolute identifiers are read back. -/
theorem ofJson?_toJson (p : Person) :
    ofJson? p.toJson = if Iri.isAbsolute p.id.text then some p else none := by
  have hfields : Json.fields? ["type", "id", "name"] 1 p.toJson =
      some [some (.text "Person"), some (.text p.id.text), p.name.map .text] := by
    rw [toJson_eq]
    exact Json.fields?_record_present p.nodup_fields 1
  unfold ofJson?
  rw [hfields]
  simp only [Json.requiredText?, Json.text, Option.bind_some]
  unfold Iri.ofString?
  split
  next =>
    change (Json.optionalText? (p.name.map .text)).bind _ = _
    rw [Json.optionalText?_map_text]
    rfl
  next => rfl

/-- No person is read but one with an absolute identifier. -/
lemma isAbsolute_of_ofJson? {record : Json} {p : Person} (h : ofJson? record = some p) :
    Iri.isAbsolute p.id.text = true := by
  unfold ofJson? at h
  split at h
  next type id name hfields =>
    simp only [bind, Option.bind_eq_some_iff] at h
    obtain ⟨i, ⟨text, -, hi⟩, name, -, heq⟩ := h
    split at heq
    next =>
      cases heq
      exact Iri.isAbsolute_of_ofString? hi
    next => cases heq
  next => cases h

end Person

namespace Note

lemma isTextual_toJson (n : Note) : n.toJson.IsTextual := by
  simp [toJson, Json.record, Json.text, Json.IsTextual, Json.HaveTextual]

/-- Every note is read back. -/
theorem ofJson?_toJson (n : Note) : ofJson? n.toJson = some n :=
  rfl

end Note

/-! ### Notifications -/

namespace Notification

/-- Whether both persons of the notification have absolute identifiers. -/
def IsAddressed (n : Notification) : Prop :=
  Iri.isAbsolute n.actor.id.text = true ∧ Iri.isAbsolute n.target.id.text = true

/-- Whether the notification is read back from what is written of it. -/
def IsReadBack (n : Notification) : Prop :=
  Json.IsReadBack toJson ofJson? n

/-- The fields of a written notification. -/
def fields (n : Notification) : List (String × Option Json) :=
  [("@context", some (.text n.context)), ("id", n.id.map .text),
    ("type", some (.text "Create")), ("actor", some n.actor.toJson),
    ("object", some n.note.toJson), ("target", some n.target.toJson)]

lemma nodup_fields (n : Notification) : (n.fields.map Prod.fst).Nodup := by
  change ["@context", "id", "type", "actor", "object", "target"].Nodup
  decide

lemma toJson_eq (n : Notification) : n.toJson = .record (Json.present n.fields) := by
  obtain ⟨context, id, actor, note, target⟩ := n
  cases id with
  | none => rfl
  | some id => rfl

lemma isTextual_toJson (n : Notification) : n.toJson.IsTextual := by
  have hactor := n.actor.isTextual_toJson
  have hnote := n.note.isTextual_toJson
  have htarget := n.target.isTextual_toJson
  obtain ⟨context, id, actor, note, target⟩ := n
  cases id with
  | none => exact ⟨rfl, rfl, rfl, rfl, rfl, hactor, rfl, hnote, rfl, htarget, trivial⟩
  | some id => exact ⟨rfl, rfl, rfl, rfl, rfl, rfl, rfl, hactor, rfl, hnote, rfl, htarget, trivial⟩

/-- A written notification is read if both of its persons are read from their own records. -/
lemma ofJson?_toJson (n : Notification) :
    ofJson? n.toJson = (Person.ofJson? n.actor.toJson).bind fun actor =>
      (Person.ofJson? n.target.toJson).map fun target => { n with actor, target } := by
  have hfields : Json.fields? ["@context", "id", "type", "actor", "object", "target"] 0 n.toJson =
      some [some (.text n.context), n.id.map .text, some (.text "Create"), some n.actor.toJson,
        some n.note.toJson, some n.target.toJson] := by
    rw [toJson_eq]
    exact Json.fields?_record_present n.nodup_fields 0
  unfold ofJson?
  rw [hfields]
  simp only [Json.optionalText?_map_text, Note.ofJson?_toJson]
  cases Person.ofJson? n.actor.toJson with
  | none => rfl
  | some actor =>
    cases Person.ofJson? n.target.toJson with
    | none => rfl
    | some target => rfl

/-- The notifications that are read back are those of persons with absolute identifiers. -/
theorem isReadBack_iff {n : Notification} : n.IsReadBack ↔ n.IsAddressed := by
  unfold IsReadBack IsAddressed
  rw [Json.isReadBack_iff n.isTextual_toJson, ofJson?_toJson, Person.ofJson?_toJson,
    Person.ofJson?_toJson]
  by_cases hactor : Iri.isAbsolute n.actor.id.text = true
  · by_cases htarget : Iri.isAbsolute n.target.id.text = true
    · simp [hactor, htarget]
    · simp [htarget]
  · simp [hactor]

/-- No notification is read but between persons with absolute identifiers. -/
lemma isAddressed_of_ofJson? {record : Json} {n : Notification} (h : ofJson? record = some n) :
    n.IsAddressed := by
  unfold ofJson? at h
  split at h
  next context id type actor note target hfields =>
    simp only [bind, Option.bind_eq_some_iff] at h
    obtain ⟨context, -, id, -, actor, hactor, note, -, target, htarget, heq⟩ := h
    split at heq
    next =>
      cases heq
      exact ⟨Person.isAbsolute_of_ofJson? hactor, Person.isAbsolute_of_ofJson? htarget⟩
    next => cases heq
  next => cases h

end Notification

/-! ### Any text -/

/-- Claims and notifications are read back from their written forms exactly if the identifiers of
their persons are absolute.  Whatever text a claim, a notification or a token's grant is read from,
the identifiers of its persons are absolute and cannot leave their brackets, and a claim or a
notification that was read is read back. -/
theorem wire_forms_read_back :
    ((∀ c : Claim, c.IsReadBack ↔ Iri.isAbsolute c.webId.text = true) ∧
      ∀ n : Notification, n.IsReadBack ↔ n.IsAddressed) ∧
    (∀ text c, (Json.ofString? text).bind Claim.ofJson? = some c →
      Iri.isAbsolute c.webId.text = true ∧ c.webId.StaysInBrackets ∧ c.IsReadBack) ∧
    (∀ text n, (Json.ofString? text).bind Notification.ofJson? = some n →
      n.IsAddressed ∧ n.actor.id.StaysInBrackets ∧ n.target.id.StaysInBrackets ∧ n.IsReadBack) ∧
    ∀ bytes g, (Json.ofBytes? bytes).bind Grant.ofJson? = some g →
      Iri.isAbsolute g.claim.webId.text = true ∧ g.claim.webId.StaysInBrackets := by
  refine ⟨⟨fun _ => Claim.isReadBack_iff, fun _ => Notification.isReadBack_iff⟩, ?_, ?_, ?_⟩
  · intro text c hread
    obtain ⟨record, -, hclaim⟩ := Option.bind_eq_some_iff.1 hread
    have habsolute := Claim.isAbsolute_of_ofJson? hclaim
    exact ⟨habsolute, Iri.staysInBrackets_of_isAbsolute habsolute,
      Claim.isReadBack_iff.2 habsolute⟩
  · intro text n hread
    obtain ⟨record, -, hnotification⟩ := Option.bind_eq_some_iff.1 hread
    have haddressed := Notification.isAddressed_of_ofJson? hnotification
    exact ⟨haddressed, Iri.staysInBrackets_of_isAbsolute haddressed.1,
      Iri.staysInBrackets_of_isAbsolute haddressed.2, Notification.isReadBack_iff.2 haddressed⟩
  · intro bytes g hread
    obtain ⟨record, -, hgrant⟩ := Option.bind_eq_some_iff.1 hread
    have habsolute := Claim.isAbsolute_of_ofJson? (Grant.ofJson?_claim hgrant)
    exact ⟨habsolute, Iri.staysInBrackets_of_isAbsolute habsolute⟩

/-- A notification with an empty name, no name, and a text with quotes, a backslash and controls. -/
def quotedNotification : Notification where
  id := some ""
  actor := { id := ⟨"a:é#me"⟩, name := some "" }
  note := { id := "", content := "\"人\"\\u0041\n\x00\x7f" }
  target := { id := ⟨"a:b?c"⟩ }

/-- It is read back.  A claim written as a list is read, and read back; an identifier that holds a
bracket is not. -/
theorem wire_forms_read_back_quotedNotification :
    quotedNotification.IsReadBack ∧
      (Json.ofString? "[\"a:b\", \"e\", true]").bind Claim.ofJson? =
        some ⟨⟨"a:b"⟩, "e", true⟩ ∧
      (Claim.mk ⟨"a:b"⟩ "e" true).IsReadBack ∧ ¬(Claim.mk ⟨"a:b>"⟩ "e" true).IsReadBack := by
  have haddressed : quotedNotification.IsAddressed := by
    unfold Notification.IsAddressed
    decide +kernel
  have hread : (Json.ofString? "[\"a:b\", \"e\", true]").bind Claim.ofJson? =
      some ⟨⟨"a:b"⟩, "e", true⟩ := by decide +kernel
  obtain ⟨-, -, hback⟩ := wire_forms_read_back.2.1 _ _ hread
  refine ⟨(wire_forms_read_back.1.2 _).2 haddressed, hread, hback, ?_⟩
  rw [wire_forms_read_back.1.1]
  decide +kernel

end Courier
