import HomeVoice.Config.Basic
import HomeVoice.Toml.Document

/-!
# The sections of a configuration file

A section is a table, or a list that gives its settings in their order. What a section does not
set keeps its default and what no section knows is passed over, but a known setting must have a
value of its kind that fits.
-/

namespace HomeVoice

namespace Toml

/-- The settings that a value gives as a section. A list gives the known names in order, and a date
none of them. -/
def Value.section? (names : List String) : Value → Option (List (String × Value))
  | .table members => some members
  | .list items => some (names.zip items)
  | .dateTime => some []
  | _ => none

/-- A text. -/
def Value.text? : Value → Option String
  | .string text => some text
  | _ => none

/-- A number from zero up to a bound. -/
def Value.below? (bound : Nat) : Value → Option Nat
  | .integer value => if 0 ≤ value ∧ value < bound then some value.toNat else none
  | _ => none

def Value.word16? (value : Value) : Option UInt16 := UInt16.ofNat <$> value.below? UInt16.size

def Value.word32? (value : Value) : Option UInt32 := UInt32.ofNat <$> value.below? UInt32.size

def Value.word64? (value : Value) : Option UInt64 := UInt64.ofNat <$> value.below? UInt64.size

/-- The setting of this name, or the default if it is not set; nothing if it does not fit. -/
def setting {α : Type} (members : List (String × Value)) (name : String)
    (read : Value → Option α) (default : α) : Option α :=
  match members.lookup name with
  | some value => read value
  | none => some default

/-- The settings of a section; none if there is no such section. -/
def sectionOf (members : List (String × Value)) (name : String) (names : List String) :
    Option (List (String × Value)) :=
  setting members name (Value.section? names) []

end Toml

namespace Config

open Toml (setting sectionOf)

/-- The configuration that a file with these members describes. -/
def ofMembers? (members : List (String × Toml.Value)) : Option Config := do
  let defaults : Config := {}
  let server ← sectionOf members "server" ["host", "port"]
  let database ← sectionOf members "database" ["url"]
  let logging ← sectionOf members "logging" ["filter"]
  let grammar ← sectionOf members "grammar" ["debounce_ms", "percent_step", "temperature_step"]
  let dispatch ← sectionOf members "dispatch" ["timeout_ms"]
  let importing ← sectionOf members "import" ["seed_file"]
  return {
    host := ← setting server "host" Toml.Value.text? defaults.host
    port := ← setting server "port" Toml.Value.word16? defaults.port
    database := ← setting database "url" Toml.Value.text? defaults.database
    filter := ← setting logging "filter" Toml.Value.text? defaults.filter
    debounce := ← setting grammar "debounce_ms" Toml.Value.word64? defaults.debounce
    options := {
      percentStep :=
        ← setting grammar "percent_step" Toml.Value.word32? defaults.options.percentStep
      temperatureStep :=
        ← setting grammar "temperature_step" Toml.Value.word32? defaults.options.temperatureStep }
    timeout := ← setting dispatch "timeout_ms" Toml.Value.word64? defaults.timeout
    seedFile := ← setting importing "seed_file" (fun value => some <$> value.text?) none }

/-- The configuration that the text of a file describes. -/
def ofText? (text : String) : Option Config := do ofMembers? (← Toml.read? text)

end Config

end HomeVoice
