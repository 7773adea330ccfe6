import EncodingPlan.Dict

/-! Configurations as they are given: an input, transformers and targets, each with parameters and
what else it declares. Every part may be left out, and nothing is checked here. -/

namespace EncodingPlan

/-- Values by the names of parameters. -/
abbrev ParameterValues := Dict String String

/-- Where a descriptor of model elements, such as their definition, is read from. -/
structure DescriptorSource where
  descriptor : String := ""
  source : String := ""
  token : Option String := none
  tag : Option String := none
deriving DecidableEq

/-- The schema that a package is written to. -/
structure PackageDeclaration where
  name : String := ""
  ns : String := ""
  abbreviation : String := ""
  document : String := ""
  version : Option String := none
deriving DecidableEq

/-- An encoding rule. One that extends nothing extends the root. -/
structure RuleSetDeclaration where
  parent : Option String := none
  additionalRules : List String := []
deriving DecidableEq

/-- How a model type is written in XML schemas, under each of some encoding rules. -/
structure XsdMapEntry where
  typeName : String := ""
  encodingRules : List String := []
  /-- A property type, or one of two marks that ask to make it from the element. -/
  propertyType : Option String := none
  element : Option String := none
  xmlType : Option String := none
  /-- Whether the type is simple or complex. -/
  typeType : Option String := none
  /-- Whether its content is simple or complex. -/
  typeContent : Option String := none
  nilReason : Option String := none
  xmlAttribute : Option String := none
  xmlAttributeGroup : Option String := none
deriving DecidableEq

/-- How a model type is written by a target that writes no XML schemas. -/
structure MapEntry where
  typeName : String := ""
  rule : String := ""
  targetType : String := ""
  param : Option String := none
deriving DecidableEq

structure NamespaceDeclaration where
  abbreviation : String := ""
  ns : String := ""
  location : Option String := none
deriving DecidableEq

structure InputSection where
  id : Option String := none
  parameters : ParameterValues := ∅
  stereotypeAliases : Dict String String := ∅
  tagAliases : Dict String String := ∅
  descriptorSources : List DescriptorSource := []
  packages : List PackageDeclaration := []
deriving DecidableEq

structure TransformerSection where
  id : String := ""
  implementation : String := ""
  mode : Option String := none
  /-- The stage that feeds it; the input if none is named. -/
  input : Option String := none
  parameters : ParameterValues := ∅
  ruleSets : Dict String RuleSetDeclaration := ∅
deriving DecidableEq

structure TargetSection where
  implementation : String := ""
  mode : Option String := none
  /-- The stages that feed it; the input if none is named. -/
  inputs : List String := []
  parameters : ParameterValues := ∅
  ruleSets : Dict String RuleSetDeclaration := ∅
  xsdMapEntries : List XsdMapEntry := []
  mapEntries : List MapEntry := []
  namespaces : List NamespaceDeclaration := []
deriving DecidableEq

structure Configuration where
  input : InputSection := {}
  dialogParameters : ParameterValues := ∅
  logParameters : ParameterValues := ∅
  transformers : List TransformerSection := []
  targets : List TargetSection := []
deriving DecidableEq

end EncodingPlan
