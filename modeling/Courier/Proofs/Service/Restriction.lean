import Courier.Proofs.Access.Membership
import Courier.Proofs.Text.Blank
import Courier.Service.Basic

/-!
# Who may use the service

A service may be restricted to the members of some groups.  The groups are named by the value of a
variable, with commas between them and blanks around them; a value that names something else than
resources is refused.  Everybody whom the service admits is then listed by one of the groups named,
unless the value names nothing at all, having commas and blanks only: such a value restricts nothing
(`Service.authorize_restricted`).
-/

namespace Courier

namespace Config

/-! ### Resources that a value names -/

/-- Whether the value of a variable names the resource: it stands between commas, blanks apart. -/
def Names (value : String) (iri : Iri) : Prop :=
  iri.text ≠ "" ∧ ∃ piece ∈ Text.split ',' value, Text.trim piece = iri.text

variable {name value : String} {iri : Iri} {iris : List Iri} {lookup : String → Option String}
  {config : Config}

lemma readIri_eq_ok_iff :
    readIri name value = .ok iri ↔ value = iri.text ∧ Iri.isAbsolute iri.text = true := by
  unfold readIri Iri.ofString?
  by_cases h : Iri.isAbsolute value = true
  · rw [if_pos h]
    constructor
    · intro hiri
      cases hiri
      exact ⟨rfl, h⟩
    · rintro ⟨rfl, -⟩
      rfl
  · rw [if_neg h]
    refine iff_of_false (fun hiri => nomatch hiri) ?_
    rintro ⟨rfl, habsolute⟩
    exact h habsolute

/-- Nothing but blanks stands between the commas of a value exactly if it has commas and blanks
only. -/
lemma filter_trim_split_eq_nil_iff :
    ((Text.split ',' value).map Text.trim).filter (!·.isEmpty) = [] ↔
      ∀ c ∈ value.toList, c = ',' ∨ Text.isBlank c = true := by
  rw [← Text.forall_mem_split_isBlankText_iff]
  simp [List.filter_eq_nil_iff, Text.trim_eq_empty_iff]

/-- A row of resources is read if it is what stands between the commas, blanks apart, where nothing
stands for no resource. -/
theorem readIris_eq_ok_iff : readIris name value = .ok iris ↔
    ((Text.split ',' value).map Text.trim).filter (!·.isEmpty) = iris.map Iri.text ∧
      ∀ iri ∈ iris, Iri.isAbsolute iri.text = true := by
  unfold readIris
  rw [mapM_eq_ok_iff]
  generalize ((Text.split ',' value).map Text.trim).filter (!·.isEmpty) = texts
  simp only [readIri_eq_ok_iff]
  constructor
  · intro h
    induction h with
    | nil => exact ⟨rfl, fun _ h => nomatch h⟩
    | cons hiri _ ih =>
      rw [List.map_cons, ← ih.1, ← hiri.1]
      exact ⟨rfl, List.forall_mem_cons.2 ⟨hiri.2, ih.2⟩⟩
  · rintro ⟨rfl, h⟩
    rw [List.forall₂_map_left_iff, List.forall₂_same]
    exact fun iri hiri => ⟨rfl, h iri hiri⟩

/-- The resources read are those that the value names. -/
lemma mem_iff_names_of_readIris (h : readIris name value = .ok iris) :
    iri ∈ iris ↔ Names value iri := by
  have hinjective : Function.Injective Iri.text := fun _ _ => congrArg Iri.mk
  rw [← List.mem_map_of_injective hinjective, ← (readIris_eq_ok_iff.1 h).1]
  unfold Names
  simp [and_comm]

/-- No resource is read exactly if the value has commas and blanks only. -/
lemma eq_nil_iff_of_readIris (h : readIris name value = .ok iris) :
    iris = [] ↔ ∀ c ∈ value.toList, c = ',' ∨ Text.isBlank c = true := by
  rw [← filter_trim_split_eq_nil_iff, (readIris_eq_ok_iff.1 h).1, List.map_eq_nil_iff]

/-! ### Groups -/

/-- The groups of a configuration are read from one variable. -/
lemma setting_allowedGroups_of_ofLookup (h : ofLookup lookup = .ok config) :
    setting lookup readIris "ALLOWED_GROUPS" [] = .ok config.allowedGroups := by
  unfold ofLookup at h
  simp only [bind_eq_ok_iff] at h
  obtain ⟨_, -, _, -, _, -, groups, hgroups, _, -, _, -, _, -, _, -, _, -, _, -, hconfig⟩ := h
  cases hconfig
  exact hgroups

/-- A variable that is set is read; if it is blank, this makes no difference. -/
lemma readIris_of_ofLookup (h : ofLookup lookup = .ok config)
    (hvalue : lookup "ALLOWED_GROUPS" = some value) :
    readIris "ALLOWED_GROUPS" value = .ok config.allowedGroups := by
  have hsetting := setting_allowedGroups_of_ofLookup h
  unfold setting setting? at hsetting
  rw [hvalue, Option.filter_some] at hsetting
  cases hblank : Text.isBlankText value with
  | false =>
    rw [hblank] at hsetting
    exact hsetting
  | true =>
    rw [hblank] at hsetting
    have hnone : [] = config.allowedGroups := Except.ok.inj hsetting
    rw [← hnone, readIris_eq_ok_iff]
    refine ⟨filter_trim_split_eq_nil_iff.2 fun c hc => Or.inr ?_, fun _ h => nomatch h⟩
    exact List.all_eq_true.1 hblank c hc

end Config

namespace Service

/-- The service admits whom its groups let in. -/
lemma value_authorize_eq_ok_iff {s : Service} {person : Iri} :
    (s.authorize person).value = .ok () ↔
      s.config.allowedGroups = [] ∨
        ∃ g ∈ s.config.allowedGroups, s.fetcher.Confirms person g := by
  rw [← Fetcher.value_authorize_eq_ok_iff]
  change (s.fetcher.authorize person s.config.allowedGroups).value.mapError _ = _ ↔ _
  cases (s.fetcher.authorize person s.config.allowedGroups).value with
  | error e => exact iff_of_false (fun h => nomatch h) fun h => nomatch h
  | ok _ => exact iff_of_true rfl rfl

/-- A service whose groups are named by the value of a variable admits a person exactly if a group
that is named lists them, or if the value has commas and blanks only, so that it names none. -/
theorem authorize_restricted (s : Service) (lookup : String → Option String) (value : String)
    (hvalue : lookup "ALLOWED_GROUPS" = some value)
    (hconfig : Config.ofLookup lookup = .ok s.config) (person : Iri) :
    (∀ g, g ∈ s.config.allowedGroups ↔ Config.Names value g) ∧
      ((∀ g, ¬ Config.Names value g) ↔ ∀ c ∈ value.toList, c = ',' ∨ Text.isBlank c = true) ∧
      ((s.authorize person).value = .ok () ↔
        (∀ c ∈ value.toList, c = ',' ∨ Text.isBlank c = true) ∨
          ∃ g, Config.Names value g ∧ s.fetcher.Confirms person g) := by
  have hread := Config.readIris_of_ofLookup hconfig hvalue
  have hmem : ∀ g, g ∈ s.config.allowedGroups ↔ Config.Names value g :=
    fun g => Config.mem_iff_names_of_readIris hread
  have hnil := Config.eq_nil_iff_of_readIris hread
  refine ⟨hmem, ?_, ?_⟩
  · simp only [← hmem, ← hnil, List.eq_nil_iff_forall_not_mem]
  · rw [value_authorize_eq_ok_iff, hnil]
    simp only [hmem]

/-- Variables of which only the one that names the groups is set. -/
def groupsLookup (value : String) : String → Option String :=
  fun name => if name = "ALLOWED_GROUPS" then some value else none

/-- A service that is told its groups and signs nothing. -/
def groupsService (groups : List Iri) : Service where
  config := { allowedGroups := groups }
  fetcher := Fetcher.groupsWeb.fetcher
  scheme := { sign := id, isSignature := fun _ => false, verifies := fun _ _ => false }
  issuer := ""

/-- A comma too many makes no difference as long as a group is named: the service admits the person
whom that group lists and no other. -/
theorem authorize_restricted_groupsService :
    ((groupsService [⟨"a:slow#us"⟩]).authorize ⟨"a:p"⟩).value = .ok () ∧
      ((groupsService [⟨"a:slow#us"⟩]).authorize ⟨"a:q"⟩).value ≠ .ok () := by
  have hrestricted := authorize_restricted (groupsService [⟨"a:slow#us"⟩])
    (groupsLookup ", a:slow#us") ", a:slow#us" rfl rfl
  have hlists : (groupsService [⟨"a:slow#us"⟩]).fetcher.Confirms ⟨"a:p"⟩ ⟨"a:slow#us"⟩ :=
    Fetcher.isMember_iff.1 (by decide +kernel)
  have hnot : ¬ (groupsService [⟨"a:slow#us"⟩]).fetcher.Confirms ⟨"a:q"⟩ ⟨"a:slow#us"⟩ := by
    rw [← Fetcher.isMember_iff]
    decide +kernel
  constructor
  · obtain ⟨hmem, -, hadmits⟩ := hrestricted ⟨"a:p"⟩
    exact hadmits.2 (Or.inr ⟨_, (hmem _).1 List.mem_cons_self, hlists⟩)
  · obtain ⟨hmem, hnone, hadmits⟩ := hrestricted ⟨"a:q"⟩
    intro hok
    rcases hadmits.1 hok with hcommas | ⟨g, hg, hconfirms⟩
    · exact hnone.2 hcommas _ ((hmem _).1 List.mem_cons_self)
    · obtain rfl := List.mem_singleton.1 ((hmem g).2 hg)
      exact hnot hconfirms

/-- A comma alone is not blank, so that a service is told to have groups; it names none, and the
service admits everybody, whom no group lists. -/
theorem authorize_commaService :
    Text.isBlankText "," = false ∧
      Config.ofLookup (groupsLookup ",") = .ok (groupsService []).config ∧
      ((groupsService []).authorize ⟨"a:q"⟩).value = .ok () ∧
      ∀ g, Config.Names "," g → ¬ (groupsService []).fetcher.Confirms ⟨"a:q"⟩ g := by
  have hconfig : Config.ofLookup (groupsLookup ",") = .ok (groupsService []).config := rfl
  refine ⟨by decide +kernel, hconfig, value_authorize_eq_ok_iff.2 (Or.inl rfl), fun g hg => ?_⟩
  have hmem := (Config.mem_iff_names_of_readIris (Config.readIris_of_ofLookup hconfig rfl)).2 hg
  exact absurd hmem List.not_mem_nil

end Service

end Courier
