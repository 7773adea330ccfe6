import EncodingPlan.Datum.Terms
import EncodingPlan.Settings.Basic

/-! The written form of settings. They are derived and never read. -/

namespace EncodingPlan.Settings

def toDatum (settings : Settings) : Datum :=
  .record
    [("constraint_creation_for_properties", write settings.createsPropertyConstraints),
     ("ignore_encoding_rule_tagged_values", write settings.ignoresTaggedEncodingRules),
     ("use_string_interning", write settings.internsStrings),
     ("load_global_identifiers", write settings.loadsGlobalIdentifiers),
     ("is_aixm", write settings.isAixm),
     ("load_constraints_for_selected_schemas_only",
      write settings.loadsConstraintsOfSelectedSchemasOnly),
     ("only_deferrable_output_write", write settings.writesDeferrableOutputOnly),
     ("language", write settings.language),
     ("class_types_to_create_constraints_for",
      write (settings.constrainedCategories.map fun categories =>
        categories.map ClassCategory.key)),
     ("excluded_packages", write settings.excludedPackages),
     ("gml_version", write settings.gmlVersion.text),
     ("gml_ns", write settings.gmlNamespace)]

end EncodingPlan.Settings
