import EncodingPlan.Name

/-! The implementations a stage can have. A target writes the model in some representation, a
transformer changes the model and hands it on. Every kind has a key, by which it is written in
data, and a full implementation name, by which configurations refer to it. -/

namespace EncodingPlan

inductive TargetKind where
  | xmlSchema
  | folSchematron
  | jsonSchema
  | featureCatalogue
  | owl
  | rdf
  | sqlDdl
  | arcGisWorkspace
  | replicationSchema
  | schemaMetadata
deriving DecidableEq, Repr

namespace TargetKind

def all : List TargetKind :=
  [xmlSchema, folSchematron, jsonSchema, featureCatalogue, owl, rdf, sqlDdl, arcGisWorkspace,
   replicationSchema, schemaMetadata]

def key : TargetKind → String
  | xmlSchema => "xml_schema"
  | folSchematron => "fol2_schematron"
  | jsonSchema => "json_schema"
  | featureCatalogue => "feature_catalogue"
  | owl => "owl_iso19150"
  | rdf => "rdf"
  | sqlDdl => "sql_ddl"
  | arcGisWorkspace => "arc_gis_workspace"
  | replicationSchema => "replication_schema"
  | schemaMetadata => "application_schema_metadata"

def ofKey? (text : String) : Option TargetKind := all.find? (·.key == text)

def implementationName : TargetKind → String
  | xmlSchema => "de.interactive_instruments.ShapeChange.Target.XmlSchema.XmlSchema"
  | folSchematron => "de.interactive_instruments.ShapeChange.Target.FOL2Schematron.FOL2Schematron"
  | jsonSchema => "de.interactive_instruments.ShapeChange.Target.JSON.JsonSchema"
  | featureCatalogue =>
    "de.interactive_instruments.ShapeChange.Target.FeatureCatalogue.FeatureCatalogue"
  | owl => "de.interactive_instruments.ShapeChange.Target.Ontology.OWLISO19150"
  | rdf => "de.interactive_instruments.ShapeChange.Target.Ontology.RDF"
  | sqlDdl => "de.interactive_instruments.ShapeChange.Target.SQL.SqlDdl"
  | arcGisWorkspace =>
    "de.interactive_instruments.ShapeChange.Target.ArcGISWorkspace.ArcGISWorkspace"
  | replicationSchema =>
    "de.interactive_instruments.ShapeChange.Target.ReplicationSchema.ReplicationXmlSchema"
  | schemaMetadata =>
    "de.interactive_instruments.ShapeChange.Target.Metadata.ApplicationSchemaMetadata"

/-- The family segment of the rules that belong to this target. -/
def ruleFamily? : TargetKind → Option String
  | xmlSchema => some "xsd"
  | folSchematron => none
  | jsonSchema => some "json"
  | featureCatalogue => some "fc"
  | owl => some "owl"
  | rdf => some "rdf"
  | sqlDdl => some "sql"
  | arcGisWorkspace => some "arcgis"
  | replicationSchema => some "rep"
  | schemaMetadata => some "asm"

/-- The target a rule belongs to. -/
def ofRule? (rule : RuleName) : Option TargetKind :=
  rule.family?.bind fun family => all.find? (·.ruleFamily? == some family)

/-- The encoding rule used where none is configured. -/
def defaultEncodingRule? : TargetKind → Option RuleSetName
  | xmlSchema => some (.ofText "iso19136_2007")
  | owl => some (.ofText "iso19150_2014")
  | sqlDdl => some (.ofText "sql")
  | _ => none

/-- Whether the target reads XML-schema map entries; the others read plain map entries. -/
def usesXsdMapEntries : TargetKind → Bool
  | xmlSchema => true
  | _ => false

end TargetKind

inductive TransformerKind where
  | flattener
  | profiler
  | namingModifier
  | constraintConverter
  | typeConverter
  | identity
deriving DecidableEq, Repr

namespace TransformerKind

def all : List TransformerKind :=
  [flattener, profiler, namingModifier, constraintConverter, typeConverter, identity]

def key : TransformerKind → String
  | flattener => "flattener"
  | profiler => "profiler"
  | namingModifier => "naming_modifier"
  | constraintConverter => "constraint_converter"
  | typeConverter => "type_converter"
  | identity => "identity"

def ofKey? (text : String) : Option TransformerKind := all.find? (·.key == text)

def implementationName : TransformerKind → String
  | flattener => "de.interactive_instruments.ShapeChange.Transformation.Flattening.Flattener"
  | profiler => "de.interactive_instruments.ShapeChange.Transformation.Profiling.Profiler"
  | namingModifier => "de.interactive_instruments.ShapeChange.Transformation.Naming.NamingModifier"
  | constraintConverter =>
    "de.interactive_instruments.ShapeChange.Transformation.Constraints.ConstraintConverter"
  | typeConverter =>
    "de.interactive_instruments.ShapeChange.Transformation.TypeConversion.TypeConverter"
  | identity => "de.interactive_instruments.ShapeChange.Transformation.Identity.IdentityTransform"

end TransformerKind

/-- The two parts an implementation can play. -/
inductive Role where
  | target
  | transformer
deriving DecidableEq, Repr

namespace Role

def key : Role → String
  | target => "target"
  | transformer => "transformer"

instance : ToString Role := ⟨key⟩

end Role

inductive Implementation where
  | target (kind : TargetKind)
  | transformer (kind : TransformerKind)
deriving DecidableEq, Repr

namespace Implementation

/-- Every built-in implementation, targets first. -/
def all : List Implementation :=
  TargetKind.all.map target ++ TransformerKind.all.map transformer

def role : Implementation → Role
  | target _ => .target
  | transformer _ => .transformer

def name : Implementation → String
  | target kind => kind.implementationName
  | transformer kind => kind.implementationName

end Implementation

end EncodingPlan
