import HomeVoice.Json.Value
import HomeVoice.SortedMap

/-!
# What can be read of a text that is meant to be a document

A draft is a document in which the reading may have stopped. The place where it stopped is
`broken`, and every list and object around that place is left open and has nothing behind it. So
whoever takes a draft apart from left to right meets a wrong value and the end of the readable
text in the order in which they stand in the text. What stands in the place of a member's name is
kept even if it is no string, but the readable text ends behind it.

Two faults do not stop the reading, since a value that nobody looks at may have them: a number
beyond the range of binary64 and a string with half of a surrogate pair.
-/

namespace HomeVoice.Json

/-- A document as far as it can be read. -/
inductive Draft where
  /-- The reading stopped where a value should be. -/
  | broken
  | null
  | boolean (value : Bool)
  /-- A number; none beyond the range. -/
  | number (value : Option Number)
  /-- A string; none with half of a surrogate pair. -/
  | string (text : Option String)
  | list (items : List Draft) (closed : Bool)
  | object (members : List (Draft × Draft)) (closed : Bool)
  deriving Repr

namespace Draft

/-- The value ends where it should. -/
def isComplete : Draft → Bool
  | .broken => false
  | .list _ closed => closed
  | .object _ closed => closed
  | _ => true

mutual

/-- The value is complete and sound in every part, and at most so many lists and objects lie
within each other. -/
def isSound : Draft → (depth : Nat) → Bool
  | .broken, _ => false
  | .null, _ => true
  | .boolean _, _ => true
  | .number value, _ => value.isSome
  | .string text, _ => text.isSome
  | .list _ _, 0 => false
  | .list items closed, depth + 1 => closed && allSound items depth
  | .object _ _, 0 => false
  | .object members closed, depth + 1 => closed && allMembersSound members depth

def allSound : List Draft → (depth : Nat) → Bool
  | [], _ => true
  | item :: rest, depth => isSound item depth && allSound rest depth

def allMembersSound : List (Draft × Draft) → (depth : Nat) → Bool
  | [], _ => true
  | (name, value) :: rest, depth =>
    isSound name depth && isSound value depth && allMembersSound rest depth

end

mutual

/-- The draft of a whole document. -/
def ofValue : Value → Draft
  | .null => .null
  | .boolean value => .boolean value
  | .number value => .number (some value)
  | .string text => .string (some text)
  | .list items => .list (ofItems items) true
  | .object members => .object (ofMembers members) true

def ofItems : List Value → List Draft
  | [] => []
  | item :: rest => ofValue item :: ofItems rest

def ofMembers : List (String × Value) → List (Draft × Draft)
  | [] => []
  | (name, value) :: rest => (.string (some name), ofValue value) :: ofMembers rest

end

mutual

/-- The document of a draft that is complete and sound. Members come in ascending order of their
names, and of members with one name the last one stays. -/
def value? : Draft → Option Value
  | .broken => none
  | .null => some .null
  | .boolean value => some (.boolean value)
  | .number value => value.map .number
  | .string text => text.map .string
  | .list items closed => if closed then (values? items).map .list else none
  | .object members closed =>
    if closed then (members? members).map fun read => .object (SortedMap.ofList read).entries
    else none

def values? : List Draft → Option (List Value)
  | [] => some []
  | item :: rest => do
    let first ← value? item
    let others ← values? rest
    return first :: others

def members? : List (Draft × Draft) → Option (List (String × Value))
  | [] => some []
  | (name, value) :: rest => do
    let .string (some key) := name | none
    let first ← value? value
    let others ← members? rest
    return (key, first) :: others

end

end Draft

end HomeVoice.Json
