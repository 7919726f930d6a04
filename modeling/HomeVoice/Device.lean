import HomeVoice.Action
import HomeVoice.Decimal.Binary
import HomeVoice.Name

/-!
# Devices

A device is addressed by its type and its location. Beside them it carries the attributes under
which the system that drives it reports it, which only the classifier looks at, and the range of
its native values. Two devices are the same device state when `==` says so: bounds of ranges are
compared as numbers, so a range that starts at zero does not care about the sign of the zero.
-/

namespace HomeVoice

/-- The unit of a range of native values. -/
inductive RangeUnit where
  | percent | celsius | fahrenheit | level
  deriving DecidableEq, Repr

namespace RangeUnit

/-- Temperatures keep one decimal, all else none. -/
def decimals : RangeUnit → Nat
  | .celsius | .fahrenheit => 1
  | .percent | .level => 0

def token : RangeUnit → String
  | .percent => "percent"
  | .celsius => "celsius"
  | .fahrenheit => "fahrenheit"
  | .level => "level"

def all : List RangeUnit := [.percent, .celsius, .fahrenheit, .level]

end RangeUnit

/-- The range of a device's native values. -/
structure ValueRange where
  min : Float
  max : Float
  unit : RangeUnit
  bounded : (Decimal.isFinite min && Decimal.isFinite max) = true
  ordered : min < max

namespace ValueRange

instance : BEq ValueRange :=
  ⟨fun first second =>
    first.min.beq second.min && first.max.beq second.max && first.unit == second.unit⟩

instance : Repr ValueRange := ⟨fun range _ => repr (range.min, range.max, range.unit)⟩

/-- The range with these bounds, which must be finite and in ascending order. -/
def ofBounds? (min max : Float) (unit : RangeUnit) : Option ValueRange :=
  if bounded : (Decimal.isFinite min && Decimal.isFinite max) = true then
    if ordered : min < max then some ⟨min, max, unit, bounded, ordered⟩ else none
  else none

/-- The range of a device that declares none. -/
def hundredPercent : ValueRange := ⟨0, 100, .percent, by decide, by decide⟩

/-- The range is the scale of commands itself. -/
def isZeroToHundred (range : ValueRange) : Bool := range.min.beq 0 && range.max.beq 100

/-- The value lies within the bounds; not-a-number never does. -/
def contains (range : ValueRange) (value : Float) : Bool :=
  decide (range.min ≤ value) && decide (value ≤ range.max)

end ValueRange

/-- The attributes under which a device is reported. -/
structure Descriptor where
  stableId : Option String := none
  domain : Option String := none
  displayName : Option String := none
  deviceClass : Option String := none
  area : Option String := none
  parentArea : Option String := none
  parentName : Option String := none
  deriving DecidableEq, Repr, Inhabited

/-- A text without blanks at its ends and in lower case. -/
def trimmedLower (text : List Char) : String := String.ofList (Text.lower (Text.trim text))

/-- The platform of a device: its domain, or else what stands in front of the first point of its
stable identifier. -/
def Descriptor.platform (raw : Descriptor) : Option String :=
  match raw.domain.filter fun domain => Text.trim domain.toList ≠ [] with
  | some domain => some (trimmedLower domain.toList)
  | none => do
    let id ← raw.stableId
    if id.toList.contains '.' then
      let front := trimmedLower (id.toList.takeWhile (· ≠ '.'))
      if front = "" then none else some front
    else none

/-- A device of the home. -/
structure Device where
  id : DeviceId
  enabled : Bool := true
  deviceType : Option DeviceType := none
  location : Option Location := none
  raw : Descriptor := {}
  valueRange : Option ValueRange := none
  deriving BEq, Repr

namespace Device

/-- The type and the location, if both are known. -/
def pair (device : Device) : Option Pair := do
  return ⟨← device.deviceType, ← device.location⟩

/-- Both the type and the location are known. -/
def isClassified (device : Device) : Bool := device.deviceType.isSome && device.location.isSome

/-- The pair under which commands address the device: an enabled device's. -/
def address (device : Device) : Option Pair := if device.enabled then device.pair else none

end Device

example : ({ stableId := some "Light.kitchen.spots" } : Descriptor).platform = some "light" := by
  decide +kernel
example : ({ stableId := some "Light.kitchen", domain := some " Cover " } : Descriptor).platform =
    some "cover" := by decide +kernel
example : (ValueRange.ofBounds? 1 1 .level).isNone ∧
    (ValueRange.ofBounds? (0 / 0) 1 .level).isNone := by decide +kernel

end HomeVoice
