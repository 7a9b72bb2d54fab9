/-!
# Settings

What a running service is told about itself.

## Main definitions

* `Criteria.ServerSettings`, `Criteria.ObservabilitySettings`, `Criteria.EngineSettings` — the
  sections.
* `Criteria.Settings` — all settings, with what follows from them.
-/

set_option autoImplicit false
set_option relaxedAutoImplicit false

namespace Criteria

/-- Where a service listens. -/
structure ServerSettings where
  /-- The host name. -/
  host : String := "0.0.0.0"
  /-- The port. -/
  port : Nat := 8080
  deriving DecidableEq

/-- What a service says about its work. -/
structure ObservabilitySettings where
  /-- Which messages are logged. -/
  logLevel : String := "info"
  /-- How they are written. -/
  logFormat : String := "pretty"
  /-- Whether counters are published. -/
  metricsEnabled : Bool := true
  /-- The port on which they are. -/
  metricsPort : Nat := 9090
  deriving DecidableEq

/-- The limits and habits of a service. -/
structure EngineSettings where
  /-- How many characters the text of a rule may have. -/
  maxRuleLength : Nat := 4096
  /-- How many rules may be combined at once. -/
  maxRulesPerCombine : Nat := 100
  /-- Whether evaluations are traced unless the request says otherwise. -/
  traceEvaluations : Bool := false
  deriving DecidableEq

/-- All settings of a service. -/
structure Settings where
  /-- The name of the service. -/
  serviceName : String
  /-- The environment it runs in. -/
  environment : String
  /-- Where it listens. -/
  server : ServerSettings := {}
  /-- What it says about its work. -/
  observability : ObservabilitySettings := {}
  /-- Its limits and habits. -/
  engine : EngineSettings := {}
  deriving DecidableEq

/-- Whether messages are logged as JSON: the format is the word for it, in any case. -/
def ObservabilitySettings.jsonLogs (settings : ObservabilitySettings) : Bool :=
  settings.logFormat.toList.map Char.toLower == ['j', 's', 'o', 'n']

namespace Settings

/-- The address of the service. -/
def serverAddress (settings : Settings) : String :=
  settings.server.host ++ ":" ++ toString settings.server.port

/-- Whether the service runs for its users. -/
def isProduction (settings : Settings) : Bool := settings.environment == "production"

end Settings

end Criteria
