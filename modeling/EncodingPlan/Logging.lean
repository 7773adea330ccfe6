import EncodingPlan.Datum.Basic
import EncodingPlan.Text.LowerCase

/-! How the log is set up: the filter for events, the format of lines and two switches. -/

namespace EncodingPlan

inductive LogFormat where
  /-- Several lines for an event. -/
  | pretty
  /-- One line for an event. -/
  | compact
  /-- One record for an event. -/
  | json
deriving DecidableEq, Repr

namespace LogFormat

def all : List LogFormat := [pretty, compact, json]

def key : LogFormat → String
  | pretty => "pretty"
  | compact => "compact"
  | json => "json"

/-- The format that a variable asks for; whatever names none asks for the compact one. -/
def ofText (raw : String) : LogFormat :=
  match Text.normalForm raw with
  | "pretty" => pretty
  | "json" => json
  | _ => compact

end LogFormat

instance : Written LogFormat :=
  .asName LogFormat.key fun text => LogFormat.all.find? (·.key == text)

structure LogConfig where
  /-- The filter directive. -/
  level : String := "info"
  format : LogFormat := .compact
  /-- Colours. -/
  ansi : Bool := true
  /-- Whether lines tell where an event comes from. -/
  target : Bool := true
deriving DecidableEq, Repr

namespace LogConfig

def development : LogConfig := { level := "debug", format := .pretty }

def production : LogConfig := { level := "info", format := .json, ansi := false }

def test : LogConfig := { level := "trace", ansi := false }

def withLevel (config : LogConfig) (level : String) : LogConfig := { config with level }

/-- The configuration that environment variables ask for. The level of this program comes before
the level for all programs. -/
def ofVariables (ownLevel generalLevel format : Option String) : LogConfig where
  level := (ownLevel.or generalLevel).getD "info"
  format := (format.map LogFormat.ofText).getD .compact

end LogConfig

instance : Written LogConfig where
  write config :=
    .record [("level", write config.level), ("format", write config.format),
      ("ansi", write config.ansi), ("target", write config.target)]
  read datum := do
    let fields ← datum.fields? ["level", "format", "ansi", "target"]
    let standard : LogConfig := {}
    pure {
      level := ← Datum.defaulting fields "level" standard.level
      format := ← Datum.defaulting fields "format" standard.format
      ansi := ← Datum.defaulting fields "ansi" standard.ansi
      target := ← Datum.defaulting fields "target" standard.target }

/-- Why the log could not be set up. -/
inductive LogProblem where
  | filter (directive reason : String)
  | alreadySet
deriving DecidableEq, Repr

namespace LogProblem

def message : LogProblem → String
  | filter directive reason => s!"invalid log filter `{directive}`: {reason}"
  | alreadySet => "a global tracing subscriber is already installed"

end LogProblem

end EncodingPlan
