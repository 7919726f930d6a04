/-!
# Actions and the vocabularies of the built-in device types

An action is what a command asks of a device. Each device type accepts a list of actions, its
vocabulary. Two actions carry a value; all others are complete by themselves.
-/

namespace HomeVoice

/-- Everything that a command can ask for. -/
inductive Action where
  | on | off | toggle
  | «open» | close | stop
  | setPercent | setTemperature
  | increase | decrease
  | play | pause | volumeUp | volumeDown
  deriving DecidableEq, Repr

/-- A token that no action has. -/
structure UnknownAction where
  token : String
  deriving DecidableEq, Repr

def UnknownAction.message (error : UnknownAction) : String := s!"unknown action '{error.token}'"

/-- What the value of an action measures. -/
inductive ValueKind where
  | percent | temperature
  deriving DecidableEq, Repr

namespace Action

/-- All actions in the order in which lists of actions are sorted. -/
def all : List Action :=
  [.on, .off, .toggle, .open, .close, .stop, .setPercent, .setTemperature, .increase, .decrease,
   .play, .pause, .volumeUp, .volumeDown]

/-- The word for the action in commands, grammars and documents. -/
def token : Action → String
  | .on => "on"
  | .off => "off"
  | .toggle => "toggle"
  | .open => "open"
  | .close => "close"
  | .stop => "stop"
  | .setPercent => "set-percent"
  | .setTemperature => "set-temperature"
  | .increase => "increase"
  | .decrease => "decrease"
  | .play => "play"
  | .pause => "pause"
  | .volumeUp => "volume-up"
  | .volumeDown => "volume-down"

/-- The service that the driving system is asked for. -/
def service : Action → String
  | .on => "turn_on"
  | .off => "turn_off"
  | .toggle => "toggle"
  | .open => "open_cover"
  | .close => "close_cover"
  | .stop => "stop"
  | .setPercent => "set_percentage"
  | .setTemperature => "set_temperature"
  | .increase => "increase"
  | .decrease => "decrease"
  | .play => "media_play"
  | .pause => "media_pause"
  | .volumeUp => "volume_up"
  | .volumeDown => "volume_down"

/-- The kind of value that the action carries, if it carries one. -/
def valueKind : Action → Option ValueKind
  | .setPercent => some .percent
  | .setTemperature => some .temperature
  | _ => none

/-- The action carries a value. -/
def isNumeric (action : Action) : Bool := action.valueKind.isSome

/-- The action with this token. -/
def ofToken? (token : String) : Option Action := all.find? (·.token == token)

/-- The action with this token, or the error that there is none. -/
def ofToken (token : String) : Except UnknownAction Action :=
  match ofToken? token with
  | some action => .ok action
  | none => .error ⟨token⟩

/-- The place of an action in the order of all actions. -/
def rank (action : Action) : Nat := all.idxOf action

/-- A list of actions in the order of all actions. -/
def sort (actions : List Action) : List Action :=
  actions.mergeSort fun first second => first.rank ≤ second.rank

/-- The actions without repetition, each at its first place. -/
def distinct (actions : List Action) : List Action :=
  actions.foldl (fun kept action => if action ∈ kept then kept else kept ++ [action]) []

theorem ofToken?_token (action : Action) : ofToken? action.token = some action := by
  cases action <;> decide

theorem token_of_ofToken? {token : String} {action : Action}
    (found : ofToken? token = some action) : action.token = token := by
  simpa using List.find?_some found

end Action

/-- The device types that every registry knows, with their vocabularies. -/
def builtinVocabularies : List (String × List Action) :=
  [("lights", [.on, .off, .toggle, .setPercent]),
   ("heating", [.on, .off, .setTemperature, .increase, .decrease]),
   ("blinds", [.open, .close, .stop, .setPercent]),
   ("switch", [.on, .off, .toggle]),
   ("fan", [.on, .off, .toggle, .setPercent]),
   ("tv", [.on, .off, .play, .pause, .volumeUp, .volumeDown]),
   ("music", [.on, .off, .play, .pause, .stop, .volumeUp, .volumeDown]),
   ("media", [.on, .off, .play, .pause, .volumeUp, .volumeDown])]

/-- The vocabulary of a built-in type, found by its exact name. -/
def builtinVocabulary? (name : String) : Option (List Action) :=
  builtinVocabularies.lookup name

end HomeVoice
