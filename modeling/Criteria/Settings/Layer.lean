import Criteria.Settings.Address
import Criteria.Settings.Basic

/-!
# Layers of settings

Settings come in layers, of which later ones override earlier ones. Sections are merged key by
key, and any other value takes the place of what was there.

## Main definitions

* `Criteria.Setting.merge` — a value over an earlier one.
* `Criteria.Layer`, `Criteria.Layer.apply` — named values, and all settings with them on top.
* `Criteria.Settings.ofSetting?` — the settings that all layers amount to.
-/

set_option autoImplicit false
set_option relaxedAutoImplicit false

namespace Criteria

/-! ## Merging -/

namespace Setting

mutual

/-- A value over an earlier one: the entries of a section are put over those that are there one by
one, and any other value takes the place of what was there. -/
def merge (earlier : Setting) : Setting → Setting
  | .table entries => .table (mergeEntries earlier.entries entries)
  | later => later

/-- Entries over earlier ones. -/
def mergeEntries (earlier : List (String × Setting)) :
    List (String × Setting) → List (String × Setting)
  | [] => earlier
  | (name, later) :: rest =>
    mergeEntries (updateKey name (fun earlier => merge earlier later) earlier) rest

end

end Setting

/-- The values of one layer, each under the name of the place where it belongs. -/
abbrev Layer := List (String × Setting)

namespace Layer

/-- All settings with one more value on top. -/
def assign (settings : Setting) (assignment : String × Setting) : Setting :=
  settings.updateAt (.ofName assignment.1) fun earlier => earlier.merge assignment.2

/-- All settings with a layer on top. -/
def apply (settings : Setting) (layer : Layer) : Setting := layer.foldl assign settings

end Layer

/-! ## Settings from layers -/

namespace ServerSettings

/-- The section of the server. -/
def ofSetting? (section_ : Setting) : Option ServerSettings := do
  let defaults : ServerSettings := {}
  let host ← section_.readField? 0 "host" Setting.toText? defaults.host
  let port ← section_.readField? 1 "port" Setting.toPort? defaults.port
  some { host, port }

end ServerSettings

namespace ObservabilitySettings

/-- The section of what is logged and counted. -/
def ofSetting? (section_ : Setting) : Option ObservabilitySettings := do
  let defaults : ObservabilitySettings := {}
  let logLevel ← section_.readField? 0 "log_level" Setting.toText? defaults.logLevel
  let logFormat ← section_.readField? 1 "log_format" Setting.toText? defaults.logFormat
  let metricsEnabled ←
    section_.readField? 2 "metrics_enabled" Setting.toBool? defaults.metricsEnabled
  let metricsPort ← section_.readField? 3 "metrics_port" Setting.toPort? defaults.metricsPort
  some { logLevel, logFormat, metricsEnabled, metricsPort }

end ObservabilitySettings

namespace EngineSettings

/-- The section of limits and habits. -/
def ofSetting? (section_ : Setting) : Option EngineSettings := do
  let defaults : EngineSettings := {}
  let maxRuleLength ←
    section_.readField? 0 "max_rule_length" Setting.toNat? defaults.maxRuleLength
  let maxRulesPerCombine ←
    section_.readField? 1 "max_rules_per_combine" Setting.toNat? defaults.maxRulesPerCombine
  let traceEvaluations ←
    section_.readField? 2 "trace_evaluations" Setting.toBool? defaults.traceEvaluations
  some { maxRuleLength, maxRulesPerCombine, traceEvaluations }

end EngineSettings

namespace Settings

/-- What is known of a service before any layer: its name, and its environment. -/
def start (serviceName environment : String) : Setting :=
  .table [("service_name", .text serviceName), ("environment", .text environment)]

/-- The settings that a value amounts to. -/
def ofSetting? (all : Setting) : Option Settings := do
  let serviceName ← all.readField? 0 "service_name" Setting.toText? "rule-admin-service"
  let environment ← all.readField? 1 "environment" Setting.toText? "development"
  let server ← all.readField? 2 "server" ServerSettings.ofSetting? {}
  let observability ← all.readField? 3 "observability" ObservabilitySettings.ofSetting? {}
  let engine ← all.readField? 4 "engine" EngineSettings.ofSetting? {}
  some { serviceName, environment, server, observability, engine }

/-- The settings of a service that layers amount to, the last layer on top. -/
def ofLayers? (serviceName environment : String) (layers : List Layer) : Option Settings :=
  ofSetting? (layers.foldl Layer.apply (start serviceName environment))

end Settings

end Criteria
