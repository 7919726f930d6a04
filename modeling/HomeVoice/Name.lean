import HomeVoice.SortedMap
import HomeVoice.Text.Alphanumeric
import HomeVoice.Text.Blank
import HomeVoice.Text.Case

/-!
# Names of device types and locations, and device identifiers

Device types and locations are named by the people who live with them, so a name is kept in a
normal form: no blanks at the ends, one space between words, lower case. Only letters, numbers,
the space, `-`, `_` and the apostrophe may be in it, which is why a name never needs escaping. A
device identifier belongs to the system that drives the device and is kept as it came.
-/

namespace HomeVoice

/-- The normal form of a name: its words in lower case, one space between them. -/
def normalizeName (raw : String) : String :=
  String.ofList (Text.lower (Text.joinPieces ' ' (Text.words raw.toList)))

/-- The characters that a name may have. -/
def isNameChar (c : Char) : Bool :=
  Text.isAlphanumeric c || c == ' ' || c == '-' || c == '_' || c == '\''

/-- What a name names. -/
inductive NameKind where
  | deviceType | location
  deriving DecidableEq, Repr

/-- A name in normal form. -/
structure Name (kind : NameKind) where
  text : String
  nonempty : text ≠ ""
  allowed : text.toList.all isNameChar = true
  normal : ∃ raw, normalizeName raw = text

/-- A kind of device: `lights`, `heating`, `robot vacuum`. -/
abbrev DeviceType := Name .deviceType

/-- A place where devices are: `lounge`, `kid's room`. -/
abbrev Location := Name .location

namespace Name

variable {kind : NameKind}

theorem eq_of_text {first second : Name kind} (same : first.text = second.text) :
    first = second := by
  cases first
  cases second
  cases same
  rfl

instance : DecidableEq (Name kind) := fun first second =>
  decidable_of_iff (first.text = second.text) ⟨eq_of_text, congrArg text⟩

instance : LT (Name kind) := ⟨fun first second => first.text < second.text⟩

instance : DecidableLT (Name kind) := fun first second =>
  inferInstanceAs (Decidable (first.text < second.text))

/-- Names are ordered as their texts are. -/
instance : KeyOrder (Name kind) where
  irrefl name := String.lt_irrefl name.text
  trans := String.lt_trans
  connected notBelow notAbove :=
    eq_of_text (KeyOrder.connected (κ := String) notBelow notAbove)

instance : Repr (Name kind) := ⟨fun name _ => repr name.text⟩

/-- The name that a raw text writes; none if its normal form is empty or has a character that
names may not have. -/
def ofText? (raw : String) : Option (Name kind) :=
  if nonempty : normalizeName raw = "" then none
  else if allowed : (normalizeName raw).toList.all isNameChar = true then
    some ⟨normalizeName raw, nonempty, allowed, raw, rfl⟩
  else none

theorem text_of_ofText? {raw : String} {name : Name kind} (read : ofText? raw = some name) :
    name.text = normalizeName raw := by
  unfold ofText? at read
  split at read
  · cases read
  · split at read
    · cases read
      rfl
    · cases read

end Name

/-- The identifier of a device on the system that drives it: any text that is not blank. -/
structure DeviceId where
  text : String
  notBlank : Text.trim text.toList ≠ []

namespace DeviceId

theorem eq_of_text {first second : DeviceId} (same : first.text = second.text) :
    first = second := by
  cases first
  cases second
  cases same
  rfl

instance : DecidableEq DeviceId := fun first second =>
  decidable_of_iff (first.text = second.text) ⟨eq_of_text, congrArg text⟩

instance : LT DeviceId := ⟨fun first second => first.text < second.text⟩

instance : DecidableLT DeviceId := fun first second =>
  inferInstanceAs (Decidable (first.text < second.text))

instance : KeyOrder DeviceId where
  irrefl id := String.lt_irrefl id.text
  trans := String.lt_trans
  connected notBelow notAbove :=
    eq_of_text (KeyOrder.connected (κ := String) notBelow notAbove)

instance : Repr DeviceId := ⟨fun id _ => repr id.text⟩

/-- The identifier with this text, which is kept as it is. -/
def ofText? (text : String) : Option DeviceId :=
  if notBlank : Text.trim text.toList = [] then none else some ⟨text, notBlank⟩

end DeviceId

/-- A device type and a location, which together address a device. -/
structure Pair where
  deviceType : DeviceType
  location : Location
  deriving DecidableEq, Repr

namespace Pair

/-- Pairs are ordered by type and, within a type, by location. -/
instance : LT Pair :=
  ⟨fun first second => first.deviceType < second.deviceType ∨
    (first.deviceType = second.deviceType ∧ first.location < second.location)⟩

instance : DecidableLT Pair := fun first second =>
  inferInstanceAs (Decidable (first.deviceType < second.deviceType ∨
    (first.deviceType = second.deviceType ∧ first.location < second.location)))

instance : KeyOrder Pair where
  irrefl pair below := by
    rcases below with below | ⟨_, below⟩
    · exact KeyOrder.irrefl _ below
    · exact KeyOrder.irrefl _ below
  trans {first second third} below above := by
    rcases below with below | ⟨same, below⟩ <;> rcases above with above | ⟨same', above⟩
    · exact .inl (KeyOrder.trans below above)
    · exact .inl (same' ▸ below)
    · exact .inl (same ▸ above)
    · exact .inr ⟨same.trans same', KeyOrder.trans below above⟩
  connected {first second} notBelow notAbove := by
    have sameType : first.deviceType = second.deviceType :=
      KeyOrder.connected (fun below => notBelow (.inl below)) (fun above => notAbove (.inl above))
    have sameLocation : first.location = second.location :=
      KeyOrder.connected (fun below => notBelow (.inr ⟨sameType, below⟩))
        (fun above => notAbove (.inr ⟨sameType.symm, above⟩))
    cases first
    cases second
    cases sameType
    cases sameLocation
    rfl

end Pair

example : (Name.ofText? "  Living \t Room " : Option Location).map (·.text) =
    some "living room" := by decide +kernel
example : ["", " ", "the \"den\"", "a/b", "back\\slash"].map
    (fun raw => (Name.ofText? raw : Option Location).isNone) = List.replicate 5 true := by
  decide +kernel

end HomeVoice
