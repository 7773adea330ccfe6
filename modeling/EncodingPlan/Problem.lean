import EncodingPlan.Kind
import EncodingPlan.StageId

/-! Everything that can be wrong with a configuration. A fatal problem ends loading or assembly;
the other two are findings that are collected while work goes on. -/

namespace EncodingPlan

inductive Problem where
  /-- Following the parents of `ruleSet` never ends; `chain` is the walk before the first repeat. -/
  | cyclicInheritance (ruleSet : RuleSetName) (chain : List RuleSetName)
  | unknownBase (ruleSet base : RuleSetName)
  | unknownRule (rule : RuleName) (ruleSet : RuleSetName)
  | duplicateStage (id : StageId)
  | danglingPredecessor (stage : String) (predecessor : StageId)
  | selfReference (id : StageId)
  /-- The transformers of a loop, each followed by its predecessor. -/
  | cyclicPipeline (stages : List StageId)
  | disabledPredecessor (stage : String) (predecessor : StageId)
  | invalidMode (text : String)
  | unknownImplementation (name : String)
  | roleMismatch (name : String) (expected : Role)
  | recordArity (count : Nat)
  | invalidPattern (pattern reason : String)
  | invalidGmlVersion (text : String)
  | noTargets
deriving DecidableEq

/-- Problems that were found and did not end the work, in the order of finding. -/
abbrev Findings := List Problem

namespace Problem

def isFatal : Problem → Bool
  | unknownRule .. | unknownBase .. => false
  | _ => true

def code : Problem → String
  | cyclicInheritance .. => "CFG_RULESET_CYCLE"
  | unknownBase .. => "CFG_RULESET_UNKNOWN_BASE"
  | unknownRule .. => "CFG_RULE_UNKNOWN"
  | duplicateStage .. => "CFG_STAGE_DUPLICATE"
  | danglingPredecessor .. => "CFG_STAGE_DANGLING"
  | selfReference .. => "CFG_STAGE_SELF"
  | cyclicPipeline .. => "CFG_PIPELINE_CYCLE"
  | disabledPredecessor .. => "CFG_STAGE_DISABLED_INPUT"
  | invalidMode .. => "CFG_MODE_INVALID"
  | unknownImplementation .. => "CFG_IMPL_UNKNOWN"
  | roleMismatch .. => "CFG_IMPL_ROLE"
  | recordArity .. => "CFG_MAPPING_ARITY"
  | invalidPattern .. => "CFG_PATTERN_INVALID"
  | invalidGmlVersion .. => "CFG_GML_VERSION"
  | noTargets => "CFG_NO_TARGETS"

/-- Members of a chain or loop, each pointing to the next. -/
def path (members : List String) : String := " -> ".intercalate members

def message : Problem → String
  | cyclicInheritance ruleSet chain =>
    s!"rule set `{ruleSet}` has cyclic inheritance: " ++ path (chain.map Name.text)
  | unknownBase ruleSet base => s!"rule set `{ruleSet}` extends unknown rule set `{base}`"
  | unknownRule rule ruleSet =>
    s!"rule `{rule}` is unknown, but referenced from rule set `{ruleSet}`; " ++
      "this only matters if the rule is used by an encoding rule of the configuration"
  | duplicateStage id => s!"duplicate stage id: {id}"
  | danglingPredecessor stage predecessor =>
    s!"{stage} references unknown predecessor `{predecessor}`"
  | selfReference id => s!"transformer `{id}` uses itself as its input"
  | cyclicPipeline stages =>
    "cyclic pipeline through transformers: " ++ path (stages.map StageId.text)
  | disabledPredecessor stage predecessor =>
    s!"{stage} depends on disabled transformer `{predecessor}`"
  | invalidMode text => s!"invalid processing mode `{text}`"
  | unknownImplementation name => s!"unknown stage implementation `{name}`"
  | roleMismatch name expected => s!"implementation `{name}` cannot be used as a {expected}"
  | recordArity count => s!"mapping record must have 1 to 4 fields, got {count}"
  | invalidPattern pattern reason => s!"invalid parameter name pattern `{pattern}`: {reason}"
  | invalidGmlVersion text =>
    s!"unknown value for gmlVersion: `{text}` (expected 3.3, 3.2, 3.1 or 2.1)"
  | noTargets => "configuration declares no target"

end Problem

end EncodingPlan
