import HomeVoice.Codec.Device
import HomeVoice.Proofs.Json.Decoding
import HomeVoice.Proofs.Text.Words

/-!
# Devices are restored from their documents

Names come out as they were since they are kept in their normal form. A range comes out as it was
if its two bounds survive being written and read.
-/

namespace HomeVoice

open Json (Decoder Record Value Number)

theorem Name.check_text {kind : NameKind} (name : Name kind) : Name.check name.text = .ok name := by
  unfold Name.check
  rw [Name.ofText_text]
  rfl

theorem Name.restores {kind : NameKind} (name : Name kind) : Name.decode.Restores name.encode name :=
  Decoder.restores_refine (Decoder.restores_string name.text) name.check_text

/-- A name that may be missing is restored from null or from its text. -/
theorem Name.restores_optional {kind : NameKind} (name : Option (Name kind)) :
    Name.decode.optional.Restores (.ofOption Name.encode name) name :=
  Decoder.restores_optional fun name _ => ⟨name.restores, nofun⟩

theorem DeviceId.check_text (id : DeviceId) : DeviceId.check id.text = .ok id := by
  unfold DeviceId.check DeviceId.ofText
  rw [DeviceId.ofText?_text]
  rfl

theorem DeviceId.restores (id : DeviceId) : DeviceId.decode.Restores id.encode id :=
  Decoder.restores_refine (Decoder.restores_string id.text) id.check_text

theorem Action.restores (action : Action) : Action.decode.Restores action.encode action := by
  refine Decoder.restores_choice ?_
  cases action <;> rfl

/-- A vocabulary is restored from its text. -/
theorem Action.decode_ofText (actions : List Action) :
    Action.decode.list.ofText (Value.ofList Action.encode actions).text = .ok actions :=
  (Decoder.restores_list fun action _ => action.restores).ofText
    (Value.readsBack_ofList fun _ _ => .string _)

theorem RangeUnit.restores (unit : RangeUnit) : RangeUnit.decode.Restores unit.encode unit := by
  refine Decoder.restores_choice ?_
  cases unit <;> rfl

/-- The number is read back from its text with its last bit. -/
def Decimal.Survives (x : Float) : Prop :=
  Number.ofText (Decimal.documentText x).toList = some (.floating x)

instance (x : Float) : Decidable (Decimal.Survives x) :=
  inferInstanceAs (Decidable (Number.ofText (Decimal.documentText x).toList = some (.floating x)))

theorem Json.Value.readsBack_ofFloat {x : Float} (finite : Decimal.isFinite x = true)
    (survives : Decimal.Survives x) : (Value.ofFloat x).ReadsBack := by
  unfold Value.ofFloat
  rw [if_pos finite]
  exact .number (Number.readsBack_floating finite survives)

namespace ValueRange

/-- The bounds of the range survive being written and read. -/
structure Survives (range : ValueRange) : Prop where
  min : Decimal.Survives range.min
  max : Decimal.Survives range.max

theorem ofBounds_self (range : ValueRange) :
    ofBounds range.min range.max range.unit = .ok range := by
  simp [ofBounds, ofBounds?, range.bounded, range.ordered]

theorem restores (range : ValueRange) : decode.Restores range.encode range := by
  have finite := Bool.and_eq_true_iff.mp range.bounded
  have bounds : record.Restores [("min", .ofFloat range.min), ("max", .ofFloat range.max),
      ("unit", range.unit.encode)] (range.min, range.max, range.unit) :=
    (((Record.restores_field "min" .fault (Decoder.restores_float finite.1)).map _).join
      (Record.restores_field "max" .fault (Decoder.restores_float finite.2)) (by decide)).join
      (Record.restores_field "unit" .fault range.unit.restores) (by decide)
  refine Decoder.restores_refine (bounds.decoder _ _) ?_
  show (ofBounds range.min range.max range.unit).mapError _ = _
  rw [ofBounds_self]
  rfl

theorem Survives.readsBack {range : ValueRange} (survives : range.Survives) :
    range.encode.ReadsBack := by
  have finite := Bool.and_eq_true_iff.mp range.bounded
  refine .object ?_
  simp only [List.forall_mem_cons]
  exact ⟨Value.readsBack_ofFloat finite.1 survives.min,
    Value.readsBack_ofFloat finite.2 survives.max, .string _, nofun⟩

/-- A range is restored from its text. -/
theorem Survives.decode_ofText {range : ValueRange} (survives : range.Survives) :
    decode.ofText range.encode.text = .ok range :=
  range.restores.ofText survives.readsBack

/-- A range that may be missing is restored from null or from its object. -/
theorem restores_optional (range : Option ValueRange) :
    decode.optional.Restores (.ofOption encode range) range :=
  Decoder.restores_optional fun range _ => ⟨range.restores, nofun⟩

theorem readsBack_ofOption {range : Option ValueRange}
    (survive : ∀ given, range = some given → given.Survives) :
    (Value.ofOption encode range).ReadsBack :=
  Value.readsBack_ofOption fun given has => (survive given has).readsBack

end ValueRange

namespace Descriptor

theorem restores_attribute (name : String) (text : Option String) :
    (Record.lenient name Decoder.string).Restores [(name, .ofOption .string text)] text :=
  Record.restores_field name (.anywhere none)
    (Decoder.restores_optional fun text _ => ⟨Decoder.restores_string text, nofun⟩)

/-- The seven attributes are restored from their members. -/
theorem restores_members (raw : Descriptor) : record.Restores raw.members raw :=
  (((((((restores_attribute "stable_id" raw.stableId).map _).join
    (restores_attribute "domain" raw.domain) (by decide)).join
    (restores_attribute "display_name" raw.displayName) (by decide)).join
    (restores_attribute "device_class" raw.deviceClass) (by decide)).join
    (restores_attribute "area" raw.area) (by decide)).join
    (restores_attribute "parent_area" raw.parentArea) (by decide)).join
    (restores_attribute "parent_name" raw.parentName) (by decide)

theorem restores (raw : Descriptor) : decode.Restores raw.encode raw :=
  raw.restores_members.decoder _ _

/-- Attributes are texts or missing. -/
theorem mem_members {raw : Descriptor} {member : String × Value} (listed : member ∈ raw.members) :
    ∃ text, member.2 = .ofOption .string text := by
  simp only [members, List.mem_cons, List.not_mem_nil, or_false] at listed
  rcases listed with rfl | rfl | rfl | rfl | rfl | rfl | rfl <;> exact ⟨_, rfl⟩

theorem readsBack_member {raw : Descriptor} {member : String × Value}
    (listed : member ∈ raw.members) : member.2.ReadsBack := by
  obtain ⟨text, same⟩ := mem_members listed
  rw [same]
  exact Value.readsBack_ofOption fun _ _ => .string _

theorem readsBack_encode (raw : Descriptor) : raw.encode.ReadsBack :=
  .object fun _ listed => readsBack_member listed

/-- A descriptor is restored from its text. -/
theorem decode_ofText (raw : Descriptor) : decode.ofText raw.encode.text = .ok raw :=
  raw.restores.ofText raw.readsBack_encode

end Descriptor

namespace Device

theorem restores (device : Device) : decode.Restores device.encode device := by
  have fields : record.Restores _ device :=
    ((((((Record.restores_field "id" .fault device.id.restores).map _).join
      (Record.restores_field "enabled" .fault (Decoder.restores_boolean device.enabled))
        (by decide)).join
      (Record.restores_field "device_type" (.inObject none)
        (Name.restores_optional device.deviceType)) (by decide)).join
      (Record.restores_field "location" (.inObject none)
        (Name.restores_optional device.location)) (by decide)).join
      (Record.restores_field "raw" (.anywhere ({} : Descriptor)) device.raw.restores)
        (by decide)).join
      (Record.restores_field "value_range" (.inObject none)
        (ValueRange.restores_optional device.valueRange)) (by decide)
  exact fields.decoder _ _

theorem readsBack_encode {device : Device}
    (survive : ∀ range, device.valueRange = some range → range.Survives) :
    device.encode.ReadsBack := by
  refine .object ?_
  simp only [List.forall_mem_cons]
  exact ⟨.string _, .boolean _, Value.readsBack_ofOption fun _ _ => .string _,
    Value.readsBack_ofOption fun _ _ => .string _, device.raw.readsBack_encode,
    ValueRange.readsBack_ofOption survive, nofun⟩

end Device

end HomeVoice
