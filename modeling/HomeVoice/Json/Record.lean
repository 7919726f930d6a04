import HomeVoice.Json.Decode

/-!
# Records in documents

A record is read from an object by the names of its fields, in whatever order they stand, or from
a list by their order. Of the faults of an object the first in reading order counts; which fields
are missing is only looked at when the object has ended.
-/

namespace HomeVoice.Json

/-- What it means that a field is not there. -/
inductive Absence (α : Type) where
  /-- The field must be there. -/
  | fault
  /-- An object may leave the field out, a list may not. -/
  | inObject (default : α)
  /-- The field may be left out. -/
  | anywhere (default : α)

/-- A description of records of a type: what is known of one while its object is read, how a
member adds to that, and what comes out in the end. -/
structure Record (α : Type) where
  Slots : Type
  empty : Slots
  names : List String
  /-- Read the member with this name; none if no field has it. -/
  read : Medium → String → Draft → Slots → Option (Except Fault Slots)
  complete : Slots → Except Fault α
  /-- Read the fields off the front of a list. The text says what the whole list should be, the
  number how many fields come before. -/
  take : Medium → String → Nat → List Draft → Except Fault (α × List Draft)

namespace Record

variable {α β : Type}

/-- A record of one field. -/
def field (name : String) (absence : Absence α) (decode : Decoder α) : Record α where
  Slots := Option α
  empty := none
  names := [name]
  read medium member content slot :=
    if member = name then
      some (if slot.isSome then .error (.duplicateField name)
        else (decode medium content).map some)
    else none
  complete
    | some value => .ok value
    | none => match absence with
      | .fault => .error (.missingField name)
      | .inObject default | .anywhere default => .ok default
  take medium expected index
    | item :: rest => (decode medium item).map (·, rest)
    | [] => match absence with
      | .anywhere default => .ok (default, [])
      | _ => .error (.wrongLength index expected)

/-- A field that must be there. -/
def required (name : String) (decode : Decoder α) : Record α := field name .fault decode

/-- A field that may be null or left out of an object. -/
def optional (name : String) (decode : Decoder α) : Record (Option α) :=
  field name (.inObject none) decode.optional

/-- A field that may be left out. -/
def defaulted (name : String) (default : α) (decode : Decoder α) : Record α :=
  field name (.anywhere default) decode

/-- A field that may be null or left out. -/
def lenient (name : String) (decode : Decoder α) : Record (Option α) :=
  field name (.anywhere none) decode.optional

/-- A record that is made of another one. -/
def map (f : α → β) (record : Record α) : Record β where
  Slots := record.Slots
  empty := record.empty
  names := record.names
  read := record.read
  complete slots := (record.complete slots).map f
  take medium expected index items :=
    (record.take medium expected index items).map fun taken => (f taken.1, taken.2)

/-- The fields of one record and then those of another one. -/
def join (first : Record (α → β)) (second : Unit → Record α) : Record β :=
  let second := second ()
  { Slots := first.Slots × second.Slots
    empty := (first.empty, second.empty)
    names := first.names ++ second.names
    read := fun medium member content slots =>
      match first.read medium member content slots.1 with
      | some read => some (read.map (·, slots.2))
      | none => (second.read medium member content slots.2).map (·.map (slots.1, ·))
    complete := fun slots => do
      let f ← first.complete slots.1
      return f (← second.complete slots.2)
    take := fun medium expected index items => do
      let (f, items) ← first.take medium expected index items
      let (value, items) ← second.take medium expected (index + first.names.length) items
      return (f value, items) }

instance : Functor Record := { map := map }

instance : Seq Record := { seq := join }

/-- Read the members of an object. Members that are no fields are passed over, unless the record
is strict. -/
def readMembers (record : Record α) (strict : Bool) (medium : Medium) :
    List (Draft × Draft) → record.Slots → Except Fault record.Slots
  | [], slots => .ok slots
  | (.string (some name), content) :: rest, slots =>
    match record.read medium name content slots with
    | some read => do readMembers record strict medium rest (← read)
    | none =>
      if strict then .error (.unknownField name record.names)
      else if content.isComplete then readMembers record strict medium rest slots
      else .error .malformed
  | _, _ => .error .malformed

/-- What a list for the record should be. -/
def expected (record : Record α) (name : String) : String :=
  let count := record.names.length
  "struct " ++ name ++ (if count = 1 then " with 1 element" else s!" with {count} elements")

/-- The decoder of a record with this name. -/
def decoder (record : Record α) (name : String) (strict : Bool) : Decoder α
  | medium, .object members closed => do
    let slots ← record.readMembers strict medium.inner members record.empty
    if closed then record.complete slots else throw .malformed
  | medium, .list items closed => do
    let (value, left) ← record.take medium.inner (record.expected name) 0 items
    if left.isEmpty && closed then return value
    else match medium with
      | .text _ => throw .malformed
      | .whole => throw (.wrongLength items.length "fewer elements in array")
  | _, draft => draft.mismatch ("struct " ++ name)

/-- Read the members of an object for one record and keep the others aside. -/
def splitMembers (record : Record α) (medium : Medium) :
    List (Draft × Draft) → record.Slots → Except Fault (record.Slots × List (Draft × Draft))
  | [], slots => .ok (slots, [])
  | (.string (some name), content) :: rest, slots =>
    match record.read medium name content slots with
    | some read => do splitMembers record medium rest (← read)
    | none => do
      let isReadable := match medium with
        | .text levels => content.isSound levels
        | .whole => true
      if isReadable then
        let (slots, aside) ← splitMembers record medium rest slots
        return (slots, (.string (some name), content) :: aside)
      else throw .malformed
  | _, _ => .error .malformed

/-- The decoder of an object that holds the fields of two records side by side. The members that
are not fields of the first record are kept aside, and when the object has ended the second record
is read from them. -/
def flattened (outer : Record α) (inner : Record β) (name : String) : Decoder (α × β)
  | medium, .object members closed => do
    let (slots, aside) ← outer.splitMembers medium.inner members outer.empty
    if closed then
      let first ← outer.complete slots
      let innerSlots ← inner.readMembers false .whole aside inner.empty
      return (first, ← inner.complete innerSlots)
    else throw .malformed
  | _, draft => draft.mismatch ("struct " ++ name)

end Record

end HomeVoice.Json
