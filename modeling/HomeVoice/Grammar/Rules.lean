import HomeVoice.Gbnf.Basic
import HomeVoice.Grammar.Options
import HomeVoice.Grammar.Stem

/-!
# The rules of a command grammar

The grammar derives compact objects with the keys `deviceType`, `action`, `location` and, for
actions that carry a value, `value`, in this order. Each device type has one rule for its actions
without a value, one for its locations and one for its commands; the values have rules of their
own, which are there if some type needs them.
-/

namespace HomeVoice.Grammar

open Gbnf (Symbol Rule)

/-- The version of the form of commands. -/
def formatVersion : Nat := 2

/-- A device type of a grammar with its locations and its vocabulary. -/
structure Section where
  deviceType : DeviceType
  locations : List Location
  actions : List Action
  deriving DecidableEq, Repr

/-- The actions without a value. -/
def Section.plainActions (part : Section) : List Action := part.actions.filter (!·.isNumeric)

/-- The actions with a value and what kind it is of. -/
def Section.numericActions (part : Section) : List (Action × ValueKind) :=
  part.actions.filterMap fun action => action.valueKind.map (action, ·)

/-- A text in quotation marks that stands for itself. -/
def quotedLiteral (text : String) : Symbol := .literal ('"' :: text.toList ++ ['"'])

/-- The name of the rule for the values of a kind. -/
def valueRuleName : ValueKind → List Char
  | .percent => "percent-value".toList
  | .temperature => "temperature-value".toList

def actionRuleName (stem : List Char) : List Char := stem ++ "-action".toList

def locationRuleName (stem : List Char) : List Char := stem ++ "-location".toList

def commandRuleName (stem : List Char) : List Char := stem ++ "-command".toList

/-- The start of a command up to its action. -/
def commandStart (deviceType : DeviceType) : List Char :=
  "\x7b\"deviceType\":\"".toList ++ deviceType.text.toList ++ "\",\"action\":".toList

/-- The alternative for the commands without a value. -/
def plainCommand (part : Section) (stem : List Char) : List Symbol :=
  [.literal (commandStart part.deviceType), .rule (actionRuleName stem),
   .literal ",\"location\":".toList, .rule (locationRuleName stem), .literal ['\x7d']]

/-- The alternative for the commands with a value and one action. -/
def numericCommand (part : Section) (stem : List Char) (action : Action) (kind : ValueKind) :
    List Symbol :=
  [.literal (commandStart part.deviceType ++ '"' :: action.token.toList
        ++ "\",\"location\":".toList),
   .rule (locationRuleName stem), .literal ",\"value\":".toList, .rule (valueRuleName kind),
   .literal ['\x7d']]

/-- A rule that derives the quoted texts of a list. -/
def choiceRule (name : List Char) (texts : List String) : Rule :=
  ⟨name, texts.map fun text => [quotedLiteral text]⟩

/-- The rules of a device type. -/
def Section.rules (part : Section) (stem : List Char) : List Rule :=
  let plain := part.plainActions
  (if plain.isEmpty then [] else [choiceRule (actionRuleName stem) (plain.map (·.token))])
    ++ [choiceRule (locationRuleName stem) (part.locations.map (·.text)),
        ⟨commandRuleName stem,
          (if plain.isEmpty then [] else [plainCommand part stem])
            ++ part.numericActions.map fun entry => numericCommand part stem entry.1 entry.2⟩]

/-- The rule for the values of a kind, if some type has an action with such a value. -/
def valueRule (parts : List Section) (options : GrammarOptions) (kind : ValueKind) : List Rule :=
  if parts.any fun part => part.numericActions.any (·.2 = kind) then
    [choiceRule (valueRuleName kind) ((options.values kind).map toString)]
  else []

/-- All locations of a grammar. -/
def allLocations (parts : List Section) : List Location :=
  (SortedSet.ofList (parts.flatMap (·.locations))).keys

/-- The grammar of the commands for some device types. -/
def ofSections (parts : List Section) (options : GrammarOptions) (version : UInt64) :
    Gbnf.Grammar :=
  let stems := stems (parts.map (·.deviceType))
  { comment :=
      s!"voicehub command grammar v{formatVersion}, registry version {version}".toList
    rules :=
      [⟨"root".toList, stems.map fun stem => [.rule (commandRuleName stem)]⟩,
       choiceRule "device-type".toList (parts.map (·.deviceType.text)),
       choiceRule "location".toList ((allLocations parts).map (·.text))]
        ++ (parts.zip stems).flatMap (fun entry => entry.1.rules entry.2)
        ++ valueRule parts options .percent ++ valueRule parts options .temperature }

end HomeVoice.Grammar
