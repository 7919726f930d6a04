import HomeVoice.Grammar.Options

/-!
# What the service is configured with

A configuration is complete: what neither a file nor the environment sets has its default. Only a
configuration without a fault is used.
-/

namespace HomeVoice

/-- The settings of the service; durations in milliseconds. -/
structure Config where
  host : String := "0.0.0.0"
  port : UInt16 := 3000
  database : String := "sqlite:voicehub.db?mode=rwc"
  /-- Which log lines are written. -/
  filter : String := "voicehubd=info,voicehub=info,tower_http=debug"
  /-- How long the registry has to be left alone before a grammar is generated. -/
  debounce : UInt64 := 500
  options : GrammarOptions := {}
  /-- How long a request may take. -/
  timeout : UInt64 := 5000
  /-- The file with devices to import at the start. -/
  seedFile : Option String := none
  deriving DecidableEq, Repr

/-- A setting with a value that cannot be used. -/
inductive ConfigFault where
  | port
  | percentStep
  | temperatureStep
  | timeout
  deriving DecidableEq, Repr

def ConfigFault.message : ConfigFault → String
  | .port => "port must be non-zero"
  | .percentStep => "grammar.percent_step must be within 1..=100"
  | .temperatureStep => "grammar.temperature_step must be within 1..=100"
  | .timeout => "dispatch.timeout_ms must be non-zero"

/-- Why there is no configuration. -/
inductive ConfigError where
  /-- There is a file, but its text cannot be had. -/
  | unreadable
  | malformed
  | invalid (fault : ConfigFault)
  deriving DecidableEq, Repr

def ConfigError.message : ConfigError → String
  | .unreadable => "failed to read config file"
  | .malformed => "failed to parse config file"
  | .invalid fault => "invalid configuration: " ++ fault.message

namespace Config

/-- The address to listen on. -/
def address (config : Config) : String := config.host ++ ":" ++ toString config.port.toNat

/-- A step that leaves values between the bounds. -/
def isStep (step : UInt32) : Bool := step ≠ 0 && step.toNat ≤ GrammarOptions.lastValue

/-- The first fault of a configuration. -/
def fault? (config : Config) : Option ConfigFault :=
  if config.port = 0 then some .port
  else if !isStep config.options.percentStep then some .percentStep
  else if !isStep config.options.temperatureStep then some .temperatureStep
  else if config.timeout = 0 then some .timeout
  else none

example : ({} : Config).fault? = none := by decide
example : ({ port := 0, timeout := 0 } : Config).fault? = some .port := by decide

end Config

end HomeVoice
