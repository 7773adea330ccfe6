import EncodingPlan.Configuration.Basic
import EncodingPlan.Datum.Basic

/-! The written form of configurations. Reading fills in what is left out. -/

namespace EncodingPlan

open Datum (defaulting)

instance : Written DescriptorSource where
  write source :=
    .record [("descriptor", write source.descriptor), ("source", write source.source),
      ("token", write source.token), ("tag", write source.tag)]
  read datum := do
    let fields ← datum.fields? ["descriptor", "source", "token", "tag"]
    pure {
      descriptor := ← defaulting fields "descriptor" ""
      source := ← defaulting fields "source" ""
      token := ← defaulting fields "token" none
      tag := ← defaulting fields "tag" none }

instance : Written PackageDeclaration where
  write package :=
    .record [("packageName", write package.name), ("ns", write package.ns),
      ("nsabr", write package.abbreviation), ("xsdDocument", write package.document),
      ("version", write package.version)]
  read datum := do
    let fields ← datum.fields? ["packageName", "ns", "nsabr", "xsdDocument", "version"]
    pure {
      name := ← defaulting fields "packageName" ""
      ns := ← defaulting fields "ns" ""
      abbreviation := ← defaulting fields "nsabr" ""
      document := ← defaulting fields "xsdDocument" ""
      version := ← defaulting fields "version" none }

instance : Written RuleSetDeclaration where
  write ruleSet :=
    .record [("extends", write ruleSet.parent), ("additionalRules", write ruleSet.additionalRules)]
  read datum := do
    let fields ← datum.fields? ["extends", "additionalRules"]
    pure {
      parent := ← defaulting fields "extends" none
      additionalRules := ← defaulting fields "additionalRules" [] }

instance : Written XsdMapEntry where
  write entry :=
    .record [("type", write entry.typeName), ("encodingRules", write entry.encodingRules),
      ("xmlPropertyType", write entry.propertyType), ("xmlElement", write entry.element),
      ("xmlType", write entry.xmlType), ("xmlTypeType", write entry.typeType),
      ("xmlTypeContent", write entry.typeContent), ("xmlTypeNilReason", write entry.nilReason),
      ("xmlAttribute", write entry.xmlAttribute),
      ("xmlAttributeGroup", write entry.xmlAttributeGroup)]
  read datum := do
    let fields ← datum.fields? ["type", "encodingRules", "xmlPropertyType", "xmlElement",
      "xmlType", "xmlTypeType", "xmlTypeContent", "xmlTypeNilReason", "xmlAttribute",
      "xmlAttributeGroup"]
    pure {
      typeName := ← defaulting fields "type" ""
      encodingRules := ← defaulting fields "encodingRules" []
      propertyType := ← defaulting fields "xmlPropertyType" none
      element := ← defaulting fields "xmlElement" none
      xmlType := ← defaulting fields "xmlType" none
      typeType := ← defaulting fields "xmlTypeType" none
      typeContent := ← defaulting fields "xmlTypeContent" none
      nilReason := ← defaulting fields "xmlTypeNilReason" none
      xmlAttribute := ← defaulting fields "xmlAttribute" none
      xmlAttributeGroup := ← defaulting fields "xmlAttributeGroup" none }

instance : Written MapEntry where
  write entry :=
    .record [("type", write entry.typeName), ("rule", write entry.rule),
      ("targetType", write entry.targetType), ("param", write entry.param)]
  read datum := do
    let fields ← datum.fields? ["type", "rule", "targetType", "param"]
    pure {
      typeName := ← defaulting fields "type" ""
      rule := ← defaulting fields "rule" ""
      targetType := ← defaulting fields "targetType" ""
      param := ← defaulting fields "param" none }

instance : Written NamespaceDeclaration where
  write declared :=
    .record [("nsabr", write declared.abbreviation), ("ns", write declared.ns),
      ("location", write declared.location)]
  read datum := do
    let fields ← datum.fields? ["nsabr", "ns", "location"]
    pure {
      abbreviation := ← defaulting fields "nsabr" ""
      ns := ← defaulting fields "ns" ""
      location := ← defaulting fields "location" none }

instance : Written InputSection where
  write input :=
    .record [("id", write input.id), ("parameters", write input.parameters),
      ("stereotypeAliases", write input.stereotypeAliases), ("tagAliases", write input.tagAliases),
      ("descriptorSources", write input.descriptorSources),
      ("packageInfos", write input.packages)]
  read datum := do
    let fields ← datum.fields? ["id", "parameters", "stereotypeAliases", "tagAliases",
      "descriptorSources", "packageInfos"]
    pure {
      id := ← defaulting fields "id" none
      parameters := ← defaulting fields "parameters" ∅
      stereotypeAliases := ← defaulting fields "stereotypeAliases" ∅
      tagAliases := ← defaulting fields "tagAliases" ∅
      descriptorSources := ← defaulting fields "descriptorSources" []
      packages := ← defaulting fields "packageInfos" [] }

instance : Written TransformerSection where
  write transformer :=
    .record [("id", write transformer.id), ("implementation", write transformer.implementation),
      ("mode", write transformer.mode), ("input", write transformer.input),
      ("parameters", write transformer.parameters), ("ruleSets", write transformer.ruleSets)]
  read datum := do
    let fields ← datum.fields? ["id", "implementation", "mode", "input", "parameters", "ruleSets"]
    pure {
      id := ← defaulting fields "id" ""
      implementation := ← defaulting fields "implementation" ""
      mode := ← defaulting fields "mode" none
      input := ← defaulting fields "input" none
      parameters := ← defaulting fields "parameters" ∅
      ruleSets := ← defaulting fields "ruleSets" ∅ }

instance : Written TargetSection where
  write target :=
    .record [("implementation", write target.implementation), ("mode", write target.mode),
      ("inputs", write target.inputs), ("parameters", write target.parameters),
      ("ruleSets", write target.ruleSets), ("xsdMapEntries", write target.xsdMapEntries),
      ("mapEntries", write target.mapEntries), ("namespaces", write target.namespaces)]
  read datum := do
    let fields ← datum.fields? ["implementation", "mode", "inputs", "parameters", "ruleSets",
      "xsdMapEntries", "mapEntries", "namespaces"]
    pure {
      implementation := ← defaulting fields "implementation" ""
      mode := ← defaulting fields "mode" none
      inputs := ← defaulting fields "inputs" []
      parameters := ← defaulting fields "parameters" ∅
      ruleSets := ← defaulting fields "ruleSets" ∅
      xsdMapEntries := ← defaulting fields "xsdMapEntries" []
      mapEntries := ← defaulting fields "mapEntries" []
      namespaces := ← defaulting fields "namespaces" [] }

instance : Written Configuration where
  write configuration :=
    .record [("input", write configuration.input),
      ("dialogParameters", write configuration.dialogParameters),
      ("logParameters", write configuration.logParameters),
      ("transformers", write configuration.transformers), ("targets", write configuration.targets)]
  read datum := do
    let fields ← datum.fields? ["input", "dialogParameters", "logParameters", "transformers",
      "targets"]
    pure {
      input := ← defaulting fields "input" {}
      dialogParameters := ← defaulting fields "dialogParameters" ∅
      logParameters := ← defaulting fields "logParameters" ∅
      transformers := ← defaulting fields "transformers" []
      targets := ← defaulting fields "targets" [] }

end EncodingPlan
