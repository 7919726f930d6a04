import HomeVoice.Config.Sections
import HomeVoice.Decimal.Reading

/-!
# The environment has the last word

Variables of the environment override the file. A port that cannot be read overrides nothing; an
address with a colon overrides the host in any case, and the port if that can be read. The address
wins over the host and the port of their own variables.
-/

namespace HomeVoice

/-- The variables of the environment that matter. -/
structure Environment where
  host : Option String := none
  port : Option String := none
  /-- Host and port in one. -/
  bind : Option String := none
  database : Option String := none
  filter : Option String := none
  /-- The filter of all programs, which gives way to that of this one. -/
  commonFilter : Option String := none
  deriving Repr

/-- The port that a text writes: digits, with a plus sign in front or without, and any number of
leading zeros. -/
def portOfText? (text : String) : Option UInt16 :=
  let digits := match text.toList with
    | '+' :: rest => rest
    | text => text
  let value := Decimal.natOfDigits digits
  if digits ≠ [] ∧ digits.all Char.isDigit ∧ value < UInt16.size then some (UInt16.ofNat value)
  else none

/-- A text as what stands before and behind its last colon. -/
def splitAddress? (text : String) : Option (String × String) :=
  let backwards := text.toList.reverse
  match backwards.dropWhile (· ≠ ':') with
  | _ :: host =>
    some (String.ofList host.reverse, String.ofList (backwards.takeWhile (· ≠ ':')).reverse)
  | [] => none

example : splitAddress? "[::1]:80" = some ("[::1]", "80") := by decide +kernel
example : ["+80", "0080"].map portOfText? = [some 80, some 80] := by decide +kernel
example : ["", "+", "-1", " 80", "1e3", "65536"].map portOfText? = List.replicate 6 none := by
  decide +kernel

namespace Environment

/-- The host that the environment sets. -/
def host? (environment : Environment) : Option String :=
  match environment.bind.bind splitAddress? with
  | some (host, _) => some host
  | none => environment.host

/-- The port that the environment sets. -/
def port? (environment : Environment) : Option UInt16 :=
  match environment.bind.bind splitAddress? with
  | some (_, port) => portOfText? port <|> environment.port.bind portOfText?
  | none => environment.port.bind portOfText?

/-- Override a configuration. -/
def override (environment : Environment) (config : Config) : Config :=
  { config with
    host := environment.host?.getD config.host
    port := environment.port?.getD config.port
    database := environment.database.getD config.database
    filter := (environment.filter <|> environment.commonFilter).getD config.filter }

end Environment

/-- What is found in the place of the configuration file. -/
inductive ConfigFile where
  | absent
  | unreadable
  | content (text : String)
  deriving Repr

namespace Config

/-- The configuration that a file describes. -/
def ofFile : ConfigFile → Except ConfigError Config
  | .absent => .ok {}
  | .unreadable => .error .unreadable
  | .content text =>
    match ofText? text with
    | some config => .ok config
    | none => .error .malformed

/-- The configuration of a file and an environment, if it has no fault. -/
def load (file : ConfigFile) (environment : Environment) : Except ConfigError Config := do
  let config := environment.override (← ofFile file)
  match config.fault? with
  | some fault => .error (.invalid fault)
  | none => return config

end Config

end HomeVoice
