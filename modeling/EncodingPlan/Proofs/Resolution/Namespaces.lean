import EncodingPlan.Proofs.Resolution.Loading
import EncodingPlan.Proofs.Vocabulary

/-! The namespaces of a configuration and what its resolution says of them. The packages of the input
and, after them, the namespaces of all targets for XML schemas say where schemas are found; the
namespaces also give abbreviations. Each is followed on its own: an abbreviation that is given again
leaves the location of its earlier namespace as it was. -/

namespace EncodingPlan

namespace Vocabulary

variable {vocabulary : Vocabulary} {ns abbreviation : String}

/-- The namespace has an abbreviation now. -/
def Abbreviates (vocabulary : Vocabulary) (abbreviation ns : String) : Prop :=
  ∃ declared, vocabulary.namespaceOf? abbreviation = some declared ∧ declared.ns = ns

theorem abbreviates_of_abbreviation? (h : vocabulary.abbreviation? ns = some abbreviation) :
    vocabulary.Abbreviates abbreviation ns := by
  obtain ⟨⟨named, declared⟩, hfind, rfl⟩ := Option.map_eq_some_iff.mp h
  have hns := List.find?_some hfind
  rw [beq_iff_eq] at hns
  exact ⟨declared, Dict.mem_entries.mp (List.mem_of_find?_eq_some hfind), hns⟩

theorem abbreviation?_eq_none_iff :
    vocabulary.abbreviation? ns = none ↔ ∀ abbreviation, ¬ vocabulary.Abbreviates abbreviation ns := by
  rw [abbreviation?, Option.map_eq_none_iff, List.find?_eq_none]
  constructor
  · rintro h abbreviation ⟨declared, hdeclared, hns⟩
    exact h _ (Dict.mem_entries.mpr hdeclared) (beq_iff_eq.mpr hns)
  · rintro h ⟨abbreviation, declared⟩ hmem hns
    exact h abbreviation ⟨declared, Dict.mem_entries.mp hmem, beq_iff_eq.mp hns⟩

end Vocabulary

theorem Settings.gmlNamespace_of_derive {α : Type} [ParameterSource α] {parameters : α}
    {language : Option String} {settings : Settings}
    (h : derive parameters language = .ok settings) :
    settings.gmlNamespace = "http://www.opengis.net/gml/3.2" := by
  obtain ⟨_, _, h⟩ := bind_eq_ok.mp h
  rw [← Except.ok.inj h]

/-! ## What is declared -/

namespace Configuration

variable (configuration : Configuration) (known : Implementations)

/-- The namespaces of all targets for XML schemas, also of those that do not run. -/
def namespaces : List NamespaceDeclaration :=
  configuration.targets.flatMap fun declaration =>
    if known.target? declaration.implementation = some .xmlSchema then declaration.namespaces else []

/-- What is said of where schemas are found. A package names a document, and a namespace may name
none. -/
def schemaLocations : List (String × Option String) :=
  (configuration.input.packages.map fun package => (package.ns, some package.document))
    ++ (configuration.namespaces known).map fun declared => (declared.ns, declared.location)

def vocabularyAdditions : List Vocabulary.Addition :=
  Vocabulary.additionsOf configuration.input ++ (configuration.namespaces known).map .xmlNamespace

theorem vocabulary_eq :
    configuration.vocabulary known = .after (configuration.vocabularyAdditions known) := by
  have hactive (declaration : TargetSection) : declaration.activeNamespaces known =
      if known.target? declaration.implementation = some .xmlSchema then declaration.namespaces
      else [] := by
    rw [TargetSection.activeNamespaces]
    cases known.target? declaration.implementation with
    | none => rfl
    | some kind => cases kind <;> rfl
  rw [vocabulary, Vocabulary.addInput_eq, Vocabulary.addNamespaces_eq, ← List.foldl_append,
    vocabularyAdditions, namespaces, funext hactive]
  rfl

theorem xmlNamespaces_vocabularyAdditions :
    (configuration.vocabularyAdditions known).filterMap Vocabulary.Addition.xmlNamespace? =
      configuration.namespaces known := by
  simp [vocabularyAdditions, Vocabulary.additionsOf, List.filterMap_map, Function.comp_def,
    Vocabulary.Addition.xmlNamespace?]

theorem schemaLocations_vocabularyAdditions :
    (configuration.vocabularyAdditions known).filterMap Vocabulary.Addition.schemaLocation? =
      configuration.schemaLocations known := by
  simp [vocabularyAdditions, schemaLocations, Vocabulary.additionsOf, List.filterMap_map,
    Function.comp_def, Vocabulary.Addition.schemaLocation?]

end Configuration

/-! ## What is loaded -/

namespace Resolution

variable {configuration : Configuration} {replacements : Replacements} {known : Implementations}
  {resolution : Resolution} {findings : Findings}

/-- The last declaration counts, of those that name a namespace for its location and of those that
give an abbreviation for its namespace. -/
structure NamespacesFrom (configuration : Configuration) (known : Implementations)
    (resolution : Resolution) : Prop where
  location : ∀ ns location, LastWith (·.1 = ns) (configuration.schemaLocations known) (ns, location) →
    resolution.vocabulary.schemaLocation? ns = location
  noLocation : ∀ ns, (∀ said ∈ configuration.schemaLocations known, said.1 ≠ ns) →
    resolution.vocabulary.schemaLocation? ns = none
  namespaceOf : ∀ abbreviation declared,
    resolution.vocabulary.namespaceOf? abbreviation = some declared ↔
      LastWith (·.abbreviation = abbreviation) (configuration.namespaces known) declared
  abbreviation : ∀ ns abbreviation, resolution.vocabulary.abbreviation? ns = some abbreviation →
    resolution.vocabulary.Abbreviates abbreviation ns
  noAbbreviation : ∀ ns, resolution.vocabulary.abbreviation? ns = none ↔
    ∀ abbreviation, ¬ resolution.vocabulary.Abbreviates abbreviation ns
  gml : ∀ declared, resolution.vocabulary.namespaceOf? "gml" = some declared →
    resolution.settings.gmlNamespace = declared.ns
  noGml : resolution.vocabulary.namespaceOf? "gml" = none →
    resolution.settings.gmlNamespace = "http://www.opengis.net/gml/3.2"

theorem namespaces_of_load
    (h : load configuration replacements known = .ok (resolution, findings)) :
    NamespacesFrom configuration known resolution := by
  have hloaded := load_eq_ok h
  have hvocabulary := hloaded.vocabulary.trans (configuration.vocabulary_eq known)
  obtain ⟨settings, hderive, hsettings⟩ := hloaded.settings
  refine ⟨fun ns location hlast => ?_, fun ns hnone => ?_, fun abbreviation declared => ?_,
    fun _ _ => Vocabulary.abbreviates_of_abbreviation?,
    fun _ => Vocabulary.abbreviation?_eq_none_iff, fun declared hgml => ?_, fun hnone => ?_⟩
  · rw [hvocabulary, Vocabulary.schemaLocation?, Vocabulary.schemaLocations_after,
      Configuration.schemaLocations_vocabularyAdditions, Dict.get?_foldl_enter_of_lastWith hlast]
  · rw [hvocabulary, Vocabulary.schemaLocation?, Vocabulary.schemaLocations_after,
      Configuration.schemaLocations_vocabularyAdditions, Dict.get?_foldl_enter_of_forall_ne hnone,
      Dict.get?_empty]
  · rw [hvocabulary, Vocabulary.namespaceOf?, Vocabulary.namespaces_after,
      Configuration.xmlNamespaces_vocabularyAdditions, Dict.get?_foldl_enter_eq_some_iff]
  · rw [hsettings, hgml]
    rfl
  · rw [hsettings, hnone]
    exact Settings.gmlNamespace_of_derive hderive

/-- A target that does not run gives the abbreviation of GML and takes away the location of a package,
and a later target gives the abbreviation again. Namespaces of other targets are not declared. -/
theorem namespaces_of_repeated_abbreviation :
    let known : Implementations := .ofList
      [("Schema", .target .xmlSchema), ("Table", .target .sqlDdl)]
    let older : NamespaceDeclaration :=
      { abbreviation := "gml", ns := "urn:gml:31", location := some "gml31.xsd" }
    let newer : NamespaceDeclaration := { abbreviation := "gml", ns := "urn:gml:32" }
    let base : NamespaceDeclaration := { abbreviation := "b", ns := "urn:base" }
    let configuration : Configuration := {
      input := { packages := [{ name := "Base", ns := "urn:base", document := "base.xsd" }] }
      targets := [
        { implementation := "Schema", mode := some "disabled", namespaces := [older, base] },
        { implementation := "Schema", namespaces := [newer] },
        { implementation := "Table", namespaces := [older] }] }
    ∃ resolution findings, load configuration ∅ known = .ok (resolution, findings) ∧
      resolution.vocabulary.schemaLocation? "urn:gml:31" = some "gml31.xsd" ∧
      resolution.vocabulary.schemaLocation? "urn:base" = none ∧
      resolution.vocabulary.schemaLocation? "urn:table" = none ∧
      resolution.vocabulary.namespaceOf? "gml" = some newer ∧
      resolution.vocabulary.abbreviation? "urn:gml:31" = none ∧
      resolution.settings.gmlNamespace = "urn:gml:32" := by
  intro known older newer base configuration
  have hloads : configuration.StandardLoadable ∅ known := by decide +kernel
  obtain ⟨resolution, findings, hload⟩ := hloads.exists_load
  have hfrom := namespaces_of_load hload
  obtain ⟨hnamespaces, hlocations⟩ :
      configuration.namespaces known = [older, base, newer] ∧
      configuration.schemaLocations known = [("urn:base", some "base.xsd"),
        ("urn:gml:31", some "gml31.xsd"), ("urn:base", none), ("urn:gml:32", none)] := by
    decide +kernel
  have hgml : resolution.vocabulary.namespaceOf? "gml" = some newer :=
    (hfrom.namespaceOf _ _).mpr ⟨[older, base], [], hnamespaces, rfl, by simp⟩
  refine ⟨resolution, findings, hload,
    hfrom.location _ _ ⟨[_], [_, _], hlocations, rfl, by simp⟩,
    hfrom.location _ _ ⟨[_, _], [_], hlocations, rfl, by simp⟩,
    hfrom.noLocation _ (by simp [hlocations]), hgml, ?_, hfrom.gml _ hgml⟩
  refine (hfrom.noAbbreviation _).mpr fun abbreviation ⟨declared, hdeclared, hns⟩ => ?_
  have hlast := (hfrom.namespaceOf _ _).mp hdeclared
  have hmem := hlast.mem
  simp only [hnamespaces, List.mem_cons, List.not_mem_nil, or_false] at hmem
  rcases hmem with rfl | rfl | rfl
  · -- the abbreviation was given again
    rw [← hlast.holds, show older.abbreviation = "gml" from rfl, hgml] at hdeclared
    exact absurd hdeclared (by decide)
  · exact absurd hns (by decide)
  · exact absurd hns (by decide)

end Resolution

end EncodingPlan
