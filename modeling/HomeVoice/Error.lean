import HomeVoice.Action
import HomeVoice.Decimal.Layout
import HomeVoice.Name

/-!
# What can go wrong

Errors are grouped by who has to react to them: an edit of the registry is rejected, a grammar
cannot be generated, grammar and resolution disagree, a command is rejected, a device is not
known, something outside the program failed, or the store did.
-/

namespace HomeVoice

/-- Two or more enabled devices under one pair. -/
structure Conflict where
  deviceType : DeviceType
  location : Location
  deviceIds : List DeviceId
  deriving DecidableEq, Repr

/-- An edit of the registry that is rejected. -/
inductive ConfigurationError where
  | unknownType (deviceType : DeviceType)
  | unknownLocation (location : Location)
  | emptyRegistry
  | invalidName (text : String)
  | duplicateType (deviceType : DeviceType)
  | emptyVocabulary (deviceType : DeviceType)
  | invalidValueRange (min max : Float)
  deriving DecidableEq, Repr

/-- Why an engine's command is malformed. -/
inductive CommandFault where
  /-- The text is no document at all. -/
  | noDocument
  | reason (text : String)
  deriving DecidableEq, Repr

/-- The active grammar and the resolution disagree, or there is no grammar to work with. -/
inductive IntegrityError where
  | unmappedPair (pair : Pair)
  | noActiveGrammar
  | malformedCommand (fault : CommandFault)
  | generationAborted
  | generatorStopped
  deriving DecidableEq, Repr

/-- A command that is rejected. -/
inductive SemanticError where
  | illegalAction (action : String) (deviceType : DeviceType)
  | missingValue (action : Action)
  | invalidValue (text : String)
  | valueOutOfRange (value min max : Float)
  deriving DecidableEq, Repr

/-- A failure of something outside the program. -/
inductive ExternalError where
  | timeout (operation : String) (afterMs : Nat)
  | failed (operation : String)
  deriving DecidableEq, Repr

/-- A failure of a store. -/
inductive StorageError where
  | database
  /-- A stored document cannot be read. -/
  | document
  | versionOutOfRange
  /-- The stored rows do not make a registry. -/
  | inconsistent
  /-- A store in memory was told to refuse the operation. -/
  | refused (operation : String)
  deriving DecidableEq, Repr

/-- Any of the errors. -/
inductive Error where
  | configuration (error : ConfigurationError)
  | conflict (conflicts : List Conflict)
  | integrity (error : IntegrityError)
  | semantic (error : SemanticError)
  | notFound (entity id : String)
  | external (error : ExternalError)
  | storage (error : StorageError)
  deriving DecidableEq, Repr

/-- A text in apostrophes. -/
def apostrophed (text : String) : String := "'" ++ text ++ "'"

/-- Two bounds in brackets. -/
def boundsText (min max : Float) : String :=
  "[" ++ Decimal.messageText min ++ ", " ++ Decimal.messageText max ++ "]"

def ConfigurationError.message : ConfigurationError → String
  | .unknownType deviceType => "unknown device type " ++ apostrophed deviceType.text
  | .unknownLocation location => "unknown location " ++ apostrophed location.text
  | .emptyRegistry => "no enabled device has both a type and a location"
  | .invalidName text => "invalid name " ++ apostrophed text
  | .duplicateType deviceType => "device type " ++ apostrophed deviceType.text ++ " already exists"
  | .emptyVocabulary deviceType =>
    "device type " ++ apostrophed deviceType.text ++ " needs at least one action"
  | .invalidValueRange min max => "invalid value range " ++ boundsText min max

def CommandFault.message : CommandFault → String
  | .noDocument => "<json syntax>"
  | .reason text => text

def IntegrityError.message : IntegrityError → String
  | .unmappedPair pair =>
    "no device is mapped to (" ++ pair.deviceType.text ++ ", " ++ pair.location.text ++ ")"
  | .noActiveGrammar => "no grammar has been generated yet"
  | .malformedCommand fault => "malformed command: " ++ fault.message
  | .generationAborted => "grammar generation was aborted"
  | .generatorStopped => "grammar worker is not running"

def SemanticError.message : SemanticError → String
  | .illegalAction action deviceType =>
    "action " ++ apostrophed action ++ " is not allowed for " ++ apostrophed deviceType.text
  | .missingValue action => "action " ++ apostrophed action.token ++ " needs a value"
  | .invalidValue text => apostrophed text ++ " is not a numeric value"
  | .valueOutOfRange value min max =>
    "value " ++ Decimal.messageText value ++ " is outside " ++ boundsText min max

def ExternalError.message : ExternalError → String
  | .timeout operation afterMs => s!"{operation} timed out after {afterMs}ms"
  | .failed operation => operation ++ " failed"

def StorageError.message : StorageError → String
  | .database => "database error"
  | .document => "JSON serialization error"
  | .versionOutOfRange => "registry version out of range"
  | .inconsistent => "stored registry is inconsistent"
  | .refused operation => operation ++ " failed"

namespace Error

/-- The message with the particulars. -/
def message : Error → String
  | .configuration error => error.message
  | .conflict conflicts => s!"{conflicts.length} conflicting (type, location) pairs"
  | .integrity error => error.message
  | .semantic error => error.message
  | .notFound entity id => entity ++ " " ++ apostrophed id ++ " not found"
  | .external error => error.message
  | .storage error => error.message

/-- The message that only says of which group the error is. -/
def heading : Error → String
  | .configuration _ => "configuration error"
  | .conflict _ => "conflicting device mappings"
  | .integrity _ => "integrity error"
  | .semantic _ => "command rejected"
  | .notFound _ _ => "not found"
  | .external _ => "external call failed"
  | .storage _ => "storage error"

/-- No device has this identifier. -/
def noDevice (id : DeviceId) : Error := .notFound "Device" id.text

end Error

/-- The name that a text writes, or the error that it writes none. -/
def Name.ofText {kind : NameKind} (text : String) : Except ConfigurationError (Name kind) :=
  match Name.ofText? text with
  | some name => .ok name
  | none => .error (.invalidName text)

/-- The identifier that a text is, or the error that it is none. -/
def DeviceId.ofText (text : String) : Except ConfigurationError DeviceId :=
  match DeviceId.ofText? text with
  | some id => .ok id
  | none => .error (.invalidName text)

end HomeVoice
