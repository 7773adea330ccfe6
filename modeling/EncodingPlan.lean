import EncodingPlan.ClassCategory
import EncodingPlan.Configuration.Basic
import EncodingPlan.Configuration.Mappings
import EncodingPlan.Configuration.RuleSets
import EncodingPlan.Configuration.Stages
import EncodingPlan.Datum.Basic
import EncodingPlan.Datum.Configuration
import EncodingPlan.Datum.Settings
import EncodingPlan.Datum.Stage
import EncodingPlan.Datum.Terms
import EncodingPlan.Dict
import EncodingPlan.GmlVersion
import EncodingPlan.Implementations
import EncodingPlan.Kind
import EncodingPlan.Logging
import EncodingPlan.Mapping.Record
import EncodingPlan.Mapping.Table
import EncodingPlan.Mapping.Tables
import EncodingPlan.Mode
import EncodingPlan.Name
import EncodingPlan.Parameter.Key
import EncodingPlan.Parameter.KeyedValues
import EncodingPlan.Parameter.Overlay
import EncodingPlan.Parameter.Replacement
import EncodingPlan.Parameter.Standard
import EncodingPlan.Parameter.Store
import EncodingPlan.Pattern.CharSet
import EncodingPlan.Pattern.Condition
import EncodingPlan.Pattern.Expr
import EncodingPlan.Pattern.Meaning
import EncodingPlan.Pattern.Parser
import EncodingPlan.Pattern.Property
import EncodingPlan.Pattern.Search
import EncodingPlan.Pattern.Segmentation
import EncodingPlan.Pattern.Size
import EncodingPlan.Pattern.Syntax
import EncodingPlan.Pattern.Whole
import EncodingPlan.Pipeline.Assembly
import EncodingPlan.Pipeline.Graph
import EncodingPlan.Pipeline.Validation
import EncodingPlan.Problem
import EncodingPlan.Proofs.Pipeline.Execution
import EncodingPlan.Proofs.RuleSet.Cascade
import EncodingPlan.Resolution.Basic
import EncodingPlan.Resolution.SchemaSelection
import EncodingPlan.Resolution.StageView
import EncodingPlan.RuleSet.Registry
import EncodingPlan.RuleSet.Standard
import EncodingPlan.Settings.Basic
import EncodingPlan.Settings.ClassTypes
import EncodingPlan.Stage
import EncodingPlan.StageId
import EncodingPlan.Text.AgeTable
import EncodingPlan.Text.Blank
import EncodingPlan.Text.CaseFolding
import EncodingPlan.Text.CaseFoldingTable
import EncodingPlan.Text.CategoryTable
import EncodingPlan.Text.CodeTable
import EncodingPlan.Text.LowerCase
import EncodingPlan.Text.LowerCaseTable
import EncodingPlan.Text.ScriptLoanTable
import EncodingPlan.Text.ScriptTable
import EncodingPlan.Text.SegmentTable
import EncodingPlan.Text.Sorted
import EncodingPlan.Text.TraitTable
import EncodingPlan.Text.Utf8
import EncodingPlan.Vocabulary
import EncodingPlan.Proofs.Pipeline.DisabledStages
import EncodingPlan.Proofs.Mapping.Nearest
import EncodingPlan.Proofs.RuleSet.Declarations
import EncodingPlan.Proofs.RuleSet.OrderIndependence
import EncodingPlan.Proofs.Parameter.Writes
import EncodingPlan.Proofs.Resolution.Checks
import EncodingPlan.Proofs.Resolution.Sections
import EncodingPlan.Proofs.Resolution.Population
import EncodingPlan.Proofs.Resolution.Refusal
import EncodingPlan.Proofs.Parameter.Sources
import EncodingPlan.Proofs.Resolution.Loading
import EncodingPlan.Proofs.Resolution.StageViews
import EncodingPlan.Proofs.Resolution.Layers
import EncodingPlan.Proofs.Resolution.Isolation
import EncodingPlan.Proofs.Resolution.Replacing
import EncodingPlan.Proofs.RuleSet.Validity
import EncodingPlan.Proofs.Resolution.UnreadParts
import EncodingPlan.Proofs.Resolution.DeclaredRuleSets
import EncodingPlan.Proofs.Mapping.Writes
import EncodingPlan.Proofs.Mapping.Entries
import EncodingPlan.Proofs.Resolution.MapEntries
import EncodingPlan.Proofs.Pipeline.Relabelling
import EncodingPlan.Proofs.Pipeline.Reordering
import EncodingPlan.Proofs.RuleSet.Growth
import EncodingPlan.Proofs.Resolution.SharedValues
import EncodingPlan.Proofs.Text.NormalForm
import EncodingPlan.Proofs.RuleSet.Vocabulary
import EncodingPlan.Proofs.Resolution.LoadFindings
import EncodingPlan.Proofs.FirstOccurrences
import EncodingPlan.Proofs.Pipeline.Walks
import EncodingPlan.Proofs.Pipeline.LeastOrder
import EncodingPlan.Proofs.Pipeline.Loops
import EncodingPlan.Proofs.RuleSet.EndlessWalks
import EncodingPlan.Proofs.Text.LowerCase
import EncodingPlan.Proofs.Datum.ReadBack
import EncodingPlan.Proofs.Datum.Stage
import EncodingPlan.Proofs.Datum.Configuration
import EncodingPlan.Proofs.Pipeline.Depth
import EncodingPlan.Proofs.Pipeline.RepeatedLinks
import EncodingPlan.Proofs.Pipeline.NeighbourLists
import EncodingPlan.Proofs.Resolution.TargetModes
import EncodingPlan.Proofs.Listing
import EncodingPlan.Proofs.Mapping.FlatView
import EncodingPlan.Proofs.Mapping.Partitions
import EncodingPlan.Proofs.Parameter.FlatView
import EncodingPlan.Proofs.Pattern.Spans
import EncodingPlan.Proofs.Pattern.Search
import EncodingPlan.Proofs.Pattern.Counts
import EncodingPlan.Proofs.Pattern.Reading.Tails
import EncodingPlan.Proofs.Pattern.Reading.Escapes
import EncodingPlan.Proofs.Pattern.Reading.Classes
import EncodingPlan.Proofs.Pattern.Reading.Groups
import EncodingPlan.Proofs.Pattern.Reading.Sequences
import EncodingPlan.Proofs.Pattern.WholeTexts
import EncodingPlan.Proofs.Text.AsciiCase
import EncodingPlan.Proofs.Names
import EncodingPlan.Proofs.LastEntry
import EncodingPlan.Proofs.Vocabulary
import EncodingPlan.Proofs.Resolution.Namespaces
import EncodingPlan.Proofs.Implementations
import EncodingPlan.Proofs.Resolution.SchemaSelection
import EncodingPlan.Proofs.Pipeline.WalkSteps
import EncodingPlan.Proofs.Settings.Separators
import EncodingPlan.Proofs.Settings.ClassTypes
import EncodingPlan.Proofs.Settings.WordLists
import EncodingPlan.Proofs.Settings.ConstrainedCategories
