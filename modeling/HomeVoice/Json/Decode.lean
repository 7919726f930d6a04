import HomeVoice.Json.Reader
import HomeVoice.Text.Quoted

/-!
# Typed values out of documents

A decoder takes a draft apart from left to right and ends at the first fault. The same decoders
serve texts and documents that are already whole; the two differ in a few faults only, and a text
bounds how deep the parts that must be kept aside may nest.
-/

namespace HomeVoice.Json

/-- What stands where something else was expected. -/
inductive Found where
  | null
  | boolean (value : Bool)
  | integer (value : Int)
  | floating (value : Float)
  | string (text : String)
  | sequence
  | map
  deriving DecidableEq, Repr

def Found.message : Found → String
  | .null => "null"
  | .boolean value => s!"boolean `{value}`"
  | .integer value => s!"integer `{value}`"
  | .floating value => "floating point `" ++ Decimal.documentText value ++ "`"
  | .string text => "string " ++ Text.quoted text
  | .sequence => "sequence"
  | .map => "map"

/-- Why a document is not the value that it should be. -/
inductive Fault where
  /-- The text is no document, or it has a number or a string that cannot be read. -/
  | malformed
  | wrongType (found : Found) (expected : String)
  | wrongValue (found : Found) (expected : String)
  | wrongLength (length : Nat) (expected : String)
  | missingField (name : String)
  | duplicateField (name : String)
  | unknownField (name : String) (known : List String)
  | unknownVariant (name : String) (known : List String)
  /-- The value has the right form but is none of its type. -/
  | refused (reason : String)
  deriving DecidableEq, Repr

/-- Names in a message. -/
def nameList (names : List String) : String :=
  ", ".intercalate (names.map fun name => "`" ++ name ++ "`")

/-- The message of a fault; a malformed text has none. -/
def Fault.message? : Fault → Option String
  | .malformed => none
  | .wrongType found expected =>
    some ("invalid type: " ++ found.message ++ ", expected " ++ expected)
  | .wrongValue found expected =>
    some ("invalid value: " ++ found.message ++ ", expected " ++ expected)
  | .wrongLength length expected => some s!"invalid length {length}, expected {expected}"
  | .missingField name => some s!"missing field `{name}`"
  | .duplicateField name => some s!"duplicate field `{name}`"
  | .unknownField name known =>
    some (s!"unknown field `{name}`, expected one of " ++ nameList known)
  | .unknownVariant name known =>
    some (s!"unknown variant `{name}`, expected one of " ++ nameList known)
  | .refused reason => some reason

/-- Where a draft comes from. -/
inductive Medium where
  /-- A text in which so many lists and objects may still be opened within each other. -/
  | text (levels : Nat)
  /-- A document that is already whole. -/
  | whole
  deriving DecidableEq, Repr

/-- The medium inside a list or an object. -/
def Medium.inner : Medium → Medium
  | .text levels => .text (levels - 1)
  | .whole => .whole

/-- A reading of drafts as values of a type. -/
abbrev Decoder (α : Type) := Medium → Draft → Except Fault α

/-- The lists and objects that a text may open within each other where their content is kept. -/
def levelLimit : Nat := 127

/-- Read a value out of what a text holds, if it holds nothing else. -/
def Decoder.ofDocument {α : Type} (decode : Decoder α) (document : Document) : Except Fault α := do
  let value ← decode (.text levelLimit) document.root
  if document.clean then return value else throw .malformed

/-- Read a value out of a text that holds nothing else. -/
def Decoder.ofText {α : Type} (decode : Decoder α) (text : String) : Except Fault α :=
  decode.ofDocument (.ofText text)

/-- Read a value out of a text in bytes that holds nothing else. -/
def Decoder.ofBytes {α : Type} (decode : Decoder α) (text : ByteArray) : Except Fault α :=
  decode.ofDocument (.ofBytes text)

/-- Read a value out of a whole document. -/
def Decoder.ofValue {α : Type} (decode : Decoder α) (value : Value) : Except Fault α :=
  decode .whole (.ofValue value)

/-- What a draft shows to a message, unless it cannot be read at all. -/
def Draft.found : Draft → Except Fault Found
  | .null => .ok .null
  | .boolean value => .ok (.boolean value)
  | .number (some (.integer value)) => .ok (.integer value)
  | .number (some (.floating value)) => .ok (.floating value)
  | .string (some text) => .ok (.string text)
  | .list _ _ => .ok .sequence
  | .object _ _ => .ok .map
  | _ => .error .malformed

/-- The fault of a draft that is not what was expected. -/
def Draft.mismatch {α : Type} (draft : Draft) (expected : String) : Except Fault α := do
  throw (.wrongType (← draft.found) expected)

namespace Decoder

def boolean : Decoder Bool
  | _, .boolean value => .ok value
  | _, draft => draft.mismatch "a boolean"

def string : Decoder String
  | _, .string (some text) => .ok text
  | _, draft => draft.mismatch "a string"

def unit : Decoder Unit
  | _, .null => .ok ()
  | _, draft => draft.mismatch "unit"

/-- A binary64 number, which may be written as an integer. -/
def float : Decoder Float
  | _, .number (some (.floating value)) => .ok value
  | _, .number (some (.integer value)) => .ok (Float.ofInt value)
  | _, draft => draft.mismatch "f64"

/-- A natural number below `2 ^ bits`. -/
def natural (bits : Nat) : Decoder Nat
  | _, .number (some (.integer value)) =>
    if 0 ≤ value ∧ value < (Nat.pow 2 bits : Nat) then .ok value.toNat
    else .error (.wrongValue (.integer value) s!"u{bits}")
  | _, draft => draft.mismatch s!"u{bits}"

/-- A value that may be null. -/
def optional {α : Type} (decode : Decoder α) : Decoder (Option α)
  | _, .null => .ok none
  | medium, draft => (decode medium draft).map some

/-- A list of values. -/
def list {α : Type} (decode : Decoder α) : Decoder (List α)
  | medium, .list items closed => do
    let values ← items.mapM (decode medium.inner)
    if closed then return values else throw .malformed
  | _, draft => draft.mismatch "a sequence"

/-- A value that a check makes out of another one. -/
def refine {α β : Type} (decode : Decoder α) (check : α → Except String β) : Decoder β :=
  fun medium draft => do
    match check (← decode medium draft) with
    | .ok value => return value
    | .error reason => throw (.refused reason)

/-- The value with this name. -/
def pick {α : Type} (choices : List (String × α)) (name : String) : Except Fault α :=
  match choices.lookup name with
  | some value => .ok value
  | none => .error (.unknownVariant name (choices.map Prod.fst))

/-- One of several named values: the name, or an object with the name as its only member and
nothing in it. -/
def choice {α : Type} (choices : List (String × α)) : Decoder α
  | _, .string (some name) => pick choices name
  | .text _, .object ((.string (some name), content) :: others) closed => do
    let value ← pick choices name
    unit .whole content
    if others.isEmpty && closed then return value else throw .malformed
  | .text _, .object ((name, _) :: _) _ => name.mismatch "variant identifier"
  | .text _, _ => .error .malformed
  | .whole, .object [(.string (some name), content)] _ => do
    let value ← pick choices name
    unit .whole content
    return value
  | .whole, .object _ _ => .error (.wrongValue .map "map with a single key")
  | .whole, draft => draft.mismatch "string or map"

/-- The entries of an object whose names are keys. -/
def entries {κ ν : Type} (key : String → Except String κ) (decode : Decoder ν) (medium : Medium) :
    List (Draft × Draft) → Except Fault (List (κ × ν))
  | [] => .ok []
  | (.string (some name), content) :: rest => do
    match key name with
    | .error reason => throw (.refused reason)
    | .ok key' =>
      let value ← decode medium content
      return (key', value) :: (← entries key decode medium rest)
  | _ => .error .malformed

/-- An object as a map. Of members whose names are the same key the last one stays. -/
def map {κ ν : Type} [LT κ] [DecidableEq κ] [DecidableLT κ] [KeyOrder κ]
    (key : String → Except String κ) (decode : Decoder ν) : Decoder (SortedMap κ ν)
  | medium, .object members closed => do
    let read ← entries key decode medium.inner members
    if closed then return SortedMap.ofList read else throw .malformed
  | _, draft => draft.mismatch "a map"

end Decoder

end HomeVoice.Json
