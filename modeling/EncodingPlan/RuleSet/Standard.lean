import EncodingPlan.RuleSet.Registry

/-! The standard rules and encoding rules. Every configuration starts from them. -/

namespace EncodingPlan

namespace Standard

/-- Rules granted on the root. -/
def coreRules : List String :=
  ["req-xsd-pkg-xsdDocument-unique", "req-xsd-cls-name-unique", "req-xsd-cls-ncname",
   "req-xsd-prop-data-type", "req-xsd-prop-value-type-exists", "req-xsd-prop-ncname",
   "rule-xsd-pkg-contained-packages", "rule-xsd-pkg-dependencies", "rule-xsd-cls-union-as-choice",
   "rule-xsd-cls-unknown-as-object", "rule-xsd-cls-sequence", "rule-xsd-cls-object-element",
   "rule-xsd-cls-type", "rule-xsd-cls-property-type", "rule-xsd-cls-local-properties",
   "rule-arcgis-prop-initialValueByAlias"]

/-- Rules that several GML encodings share. -/
def gmlRules : List String :=
  ["req-xsd-cls-generalization-consistent", "rule-xsd-all-naming-gml",
   "rule-xsd-cls-global-enumeration", "rule-xsd-cls-standard-gml-property-types",
   "rule-xsd-cls-noPropertyType", "rule-xsd-cls-byValuePropertyType",
   "rule-xsd-pkg-gmlProfileSchema", "rule-xsd-prop-targetElement", "rule-xsd-prop-reverseProperty",
   "rule-xsd-prop-defaultCodeSpace", "rule-xsd-prop-inlineOrByReference"]

def iso19136Rules : List String :=
  ["rule-xsd-cls-codelist-asDictionary"]

def gml33Rules : List String :=
  ["rule-xsd-cls-codelist-asDictionaryGml33", "rule-xsd-rel-association-classes"]

def iso19139Rules : List String :=
  ["rule-xsd-cls-enum-object-element", "rule-xsd-cls-enum-property-type",
   "rule-xsd-cls-global-enumeration", "rule-xsd-cls-standard-19139-property-types",
   "rule-xsd-all-naming-19139"]

def sweCommonRules : List String :=
  ["req-xsd-cls-generalization-consistent", "rule-xsd-all-naming-swe",
   "rule-xsd-cls-global-enumeration", "rule-xsd-cls-codelist-asDictionary",
   "rule-xsd-cls-standard-swe-property-types", "rule-xsd-cls-noPropertyType",
   "rule-xsd-cls-byValuePropertyType", "rule-xsd-pkg-gmlProfileSchema",
   "rule-xsd-prop-targetElement", "rule-xsd-prop-reverseProperty",
   "rule-xsd-prop-defaultCodeSpace", "rule-xsd-prop-inlineOrByReference",
   "rule-xsd-prop-xsdAsAttribute", "rule-xsd-prop-soft-typed",
   "rule-xsd-cls-union-as-group-property-type", "rule-xsd-prop-initialValue"]

def gml21Rules : List String :=
  ["rule-xsd-all-gml21", "rule-xsd-cls-codelist-anonymous-xlink"]

def sqlRules : List String :=
  ["rule-sql-cls-feature-types"]

/-- Rules that no standard encoding rule grants. -/
def optionalRules : List String :=
  ["req-all-all-documentation", "req-all-prop-sequenceNumber", "req-xsd-pkg-targetNamespace",
   "req-xsd-pkg-xmlns", "req-xsd-pkg-namespace-schema-only", "rec-xsd-pkg-version",
   "req-xsd-pkg-xsdDocument", "req-xsd-pkg-dependencies", "req-xsd-cls-codelist-asDictionary-true",
   "req-xsd-cls-codelist-extensibility-values", "req-xsd-cls-codelist-extensibility-vocabulary",
   "req-xsd-cls-codelist-no-supertypes", "req-xsd-cls-datatype-noPropertyType",
   "req-xsd-cls-enum-no-supertypes", "req-xsd-cls-mixin-supertypes",
   "req-xsd-cls-mixin-supertypes-overrule", "req-xsd-cls-objecttype-byValuePropertyType",
   "req-xsd-cls-objecttype-noPropertyType", "req-xsd-cls-suppress-no-properties",
   "req-xsd-cls-suppress-subtype", "req-xsd-cls-suppress-supertype",
   "req-xsd-prop-codelist-obligation", "rule-xsd-all-notEncoded", "rule-xsd-cls-adeelement",
   "rule-xsd-cls-basictype", "rule-xsd-cls-codelist-constraints", "rule-xsd-cls-enum-subtypes",
   "rule-xsd-cls-enum-supertypes", "rule-xsd-cls-mixin-classes-as-group",
   "rule-xsd-cls-mixin-classes", "rule-xsd-cls-mixin-classes-non-mixin-supertypes",
   "rule-xsd-cls-no-abstract-classes", "rule-xsd-cls-no-base-class", "rule-xsd-cls-no-gml-types",
   "rule-xsd-cls-okstra-fid", "rule-xsd-cls-okstra-lifecycle",
   "rule-xsd-cls-okstra-schluesseltabelle", "rule-xsd-cls-suppress",
   "rule-xsd-cls-union-asCharacterString", "rule-xsd-cls-union-asGroup",
   "rule-xsd-cls-union-direct", "rule-xsd-cls-union-direct-optionality",
   "rule-xsd-prop-att-map-entry", "rule-xsd-prop-exclude-derived",
   "rule-xsd-prop-length-size-pattern", "rule-xsd-prop-nillable", "rule-xsd-prop-nilReasonAllowed",
   "rule-xsd-prop-gmlArrayProperty", "rule-xsd-prop-gmlListProperty",
   "rule-xsd-prop-qualified-associations", "rule-xsd-all-no-documentation",
   "rule-xsd-cls-local-enumeration", "rule-xsd-cls-local-basictype", "rule-xsd-pkg-dgiwgsp",
   "rule-xsd-pkg-schematron", "rule-xsd-all-tagged-values", "rule-xsd-cls-adehook",
   "rule-all-cls-aixmDatatype", "rule-all-prop-uomAsAttribute", "rule-rdf-prop-parent",
   "rule-sql-cls-object-types", "rule-sql-cls-references-to-external-types",
   "rule-sql-all-associativetables", "rule-sql-prop-exclude-derived", "rule-sql-cls-data-types",
   "rule-sql-prop-check-constraints-for-enumerations", "rule-owl-pkg-singleOntologyPerSchema",
   "rule-owl-pkg-pathInOntologyName", "rule-owl-all-constraints",
   "rule-owl-cls-geosparql-features", "rule-owl-cls-19150-2-features",
   "rule-owl-cls-codelist-external", "rule-owl-prop-suppress-cardinality-restrictions",
   "rule-owl-prop-suppress-allValuesFrom-restrictions",
   "rule-owl-prop-voidable-as-minCardinality0", "rule-owl-all-suppress-dc-source",
   "rule-owl-prop-suppress-asociation-names", "rule-owl-pkg-app-schema-code",
   "rule-rep-prop-optional", "rule-rep-prop-exclude-derived",
   "rule-rep-cls-generate-objectidentifier", "rule-rep-prop-maxLength-from-size",
   "rule-asm-all-identify-profiles"]

/-- An encoding rule with its parent and the rules it grants. -/
structure EncodingRule where
  name : String
  parent : String
  rules : List String

/-- The standard encoding rules in the order of their declaration. -/
def encodingRules : List EncodingRule :=
  [⟨"iso19136_2007", "*", gmlRules ++ iso19136Rules⟩,
   ⟨"gml33", "*", gmlRules ++ gml33Rules⟩,
   ⟨"iso19139_2007", "*", iso19139Rules⟩,
   ⟨"ogcSweCommon2", "*", sweCommonRules⟩,
   ⟨"gml21", "iso19136_2007", gml21Rules⟩,
   ⟨"geoservices", "*", []⟩,
   ⟨"geoservices_extended", "*", []⟩,
   ⟨"sql", "*", sqlRules⟩,
   ⟨"iso19150_2014", "*", []⟩]

def names {what : Named} (texts : List String) : List (Name what) := texts.map Name.ofText

end Standard

namespace Registry

def declareRules (registry : Registry) (rules : List RuleName) : Registry :=
  rules.foldl declareRule registry

def declareEncodingRule (registry : Registry) (rule : Standard.EncodingRule) : Registry :=
  let rules := Standard.names rule.rules
  ((registry.declareRules rules).declareRuleSet (.ofText rule.name) (some (.ofText rule.parent))
    rules).1

/-- The registry that holds the standard rules and encoding rules, and nothing else. -/
def standard : Registry :=
  let core := Standard.names Standard.coreRules
  let rooted := core.foldl (fun registry rule => (registry.declareRule rule).grant rule .root) bare
  (Standard.encodingRules.foldl declareEncodingRule rooted).declareRules
    (Standard.names Standard.optionalRules)

end Registry

end EncodingPlan
