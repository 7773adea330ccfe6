import EncodingPlan.Parameter.Standard
import EncodingPlan.Settings.ClassTypes

/-! Settings that are derived from parameters once a configuration is loaded. -/

namespace EncodingPlan

structure Settings where
  createsPropertyConstraints : Bool := true
  ignoresTaggedEncodingRules : Bool := false
  internsStrings : Bool := false
  loadsGlobalIdentifiers : Bool := false
  isAixm : Bool := false
  loadsConstraintsOfSelectedSchemasOnly : Bool := false
  writesDeferrableOutputOnly : Bool := false
  language : String := "en"
  /-- The categories of classes that constraints are created for; nothing stands for all. -/
  constrainedCategories : Option (List ClassCategory) := none
  /-- In ascending order. -/
  excludedPackages : List String := []
  gmlVersion : GmlVersion := .v32
  gmlNamespace : String := "http://www.opengis.net/gml/3.2"
deriving DecidableEq

namespace Settings

/-- Whether a parameter spells a word; surrounding blanks and the case of ASCII letters do not
matter. -/
def spells (value : Option String) (word : String) : Bool :=
  value.any fun text => Text.equalIgnoringAsciiCase (Text.trim text) word

/-- The language of the model: English unless another one is named. -/
def languageOf (raw : Option String) : String :=
  match raw.map Text.trim with
  | none | some "" => "en"
  | some named => Text.lowerCase named

/-- The names between commas, without the blanks around them. A blank list has none. -/
def packagesOf (raw : String) : List String :=
  match Text.trim raw with
  | "" => []
  | listed => Text.sorted ((Text.cutAt ',' listed).map Text.trim)

/-- The version that the XML-schema target is given. -/
def gmlVersionOf {α : Type} [ParameterSource α] (parameters : α) : Except Problem GmlVersion :=
  match ParameterSource.getScoped? parameters TargetKind.xmlSchema.implementationName
      ParameterName.gmlVersion with
  | some raw => GmlVersion.parse raw
  | none => .ok default

/-- Settings by the global parameters; the language comes from the input section. -/
def derive {α : Type} [ParameterSource α] (parameters : α) (language : Option String) :
    Except Problem Settings := do
  let gmlVersion ← gmlVersionOf parameters
  let value := ParameterSource.get? parameters
  pure {
    createsPropertyConstraints := !spells (value "constraintCreationForProperties") "false"
    ignoresTaggedEncodingRules := spells (value "ignoreEncodingRuleTaggedValues") "true"
    internsStrings := spells (value "useStringInterning") "true"
    loadsGlobalIdentifiers := spells (value "loadGlobalIdentifiers") "true"
    isAixm := spells (value "isAIXM") "true"
    loadsConstraintsOfSelectedSchemasOnly :=
      spells (value "loadConstraintsForSelectedSchemasOnly") "true"
    writesDeferrableOutputOnly := spells (value "onlyDeferrableOutputWrite") "true"
    language := languageOf language
    constrainedCategories :=
      (value "classTypesToCreateConstraintsFor").bind ClassTypes.categories
    excludedPackages := ((value "excludedPackages").map packagesOf).getD []
    gmlVersion }

/-- Replaces the namespace of GML if another one is given. -/
def withGmlNamespace (settings : Settings) (ns : Option String) : Settings :=
  { settings with gmlNamespace := ns.getD settings.gmlNamespace }

def constrains (settings : Settings) (category : ClassCategory) : Bool :=
  settings.constrainedCategories.all fun categories => categories.contains category

/-- Whether constraints are created for the classes of a stereotype, which counts by its
category. -/
def constrainsStereotype (settings : Settings) (stereotype : String) : Bool :=
  settings.constrains (.ofStereotype stereotype)

def excludesPackage (settings : Settings) (package : String) : Bool :=
  settings.excludedPackages.contains package

end Settings

end EncodingPlan
