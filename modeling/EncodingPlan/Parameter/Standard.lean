import EncodingPlan.GmlVersion
import EncodingPlan.Parameter.Store

/-! The parameters that this library reads itself, and the values that every configuration starts
from. -/

namespace EncodingPlan

namespace ParameterName

/-- The encoding rule for model elements that name none. -/
def defaultEncodingRule : String := "defaultEncodingRule"

/-- Selects one schema by its name. -/
def schemaName : String := "appSchemaName"

/-- Selects schemas by a pattern for their names. -/
def schemaNamePattern : String := "appSchemaNameRegex"

/-- Selects schemas by a pattern for their namespaces. -/
def schemaNamespacePattern : String := "appSchemaNamespaceRegex"

def gmlVersion : String := "gmlVersion"

def language : String := "language"

end ParameterName

namespace ParameterStore

/-- Writes values one after another. -/
def setAll (store : ParameterStore) (values : List (ParameterKey × String)) : ParameterStore :=
  values.foldl (fun store (key, value) => (store.set key value).1) store

/-- The global values of every configuration. -/
def standardGlobals : List (String × String) :=
  [("reportLevel", "INFO"),
   ("xsltFile", "src/main/resources/xslt/result.xsl"),
   (ParameterName.schemaName, ""),
   (ParameterName.schemaNamePattern, ""),
   (ParameterName.schemaNamespacePattern, ""),
   ("publicOnly", "true"),
   ("inputFile", "http://shapechange.net/resources/test/test.xmi"),
   ("inputModelType", "XMI10"),
   ("logFile", "log.xml"),
   ("representTaggedValues", ""),
   ("addTaggedValues", ""),
   ("extractSeparator", "--IMPROBABLE--DUMMY--SEPARATOR--"),
   ("definitionSeparator", "-- Definition --"),
   ("descriptionSeparator", "-- Description --"),
   ("nameSeparator", "-- Name --"),
   ("outputDirectory", "."),
   ("sortedSchemaOutput", "true"),
   ("sortedOutput", "true"),
   ("oclConstraintTypeRegex", "(OCL|Invariant)"),
   ("folConstraintTypeRegex", "(SBVR)")]

/-- The values of single targets: their default encoding rules, and the version of GML. -/
def standardOfTargets : List (ParameterKey × String) :=
  (TargetKind.all.filterMap fun kind =>
    kind.defaultEncodingRule?.map fun rule =>
      (.inScope kind.implementationName ParameterName.defaultEncodingRule, rule.text))
  ++ [(.inScope TargetKind.xmlSchema.implementationName ParameterName.gmlVersion,
       (default : GmlVersion).text)]

def standardValues : List (ParameterKey × String) :=
  (standardGlobals.map fun (name, value) => (.global name, value)) ++ standardOfTargets

/-- Writes the standard values, which pass through the replacements like any other. -/
def seed (store : ParameterStore) : ParameterStore := store.setAll standardValues

end ParameterStore

end EncodingPlan
