import HomeVoice.Codec.Dispatch
import HomeVoice.Codec.Validation
import HomeVoice.Import
import HomeVoice.Proofs.Codec.Artifact

/-!
# Everything that is written as a document is read back

Whatever goes into the store, over the wire or into an answer comes out of its text as it went in,
with all the texts that it may hold, and so a text that was read is written in a form that stays.
What is asked of the numbers and the times in it is that they are read back themselves.
-/

namespace HomeVoice

open Json (Decoder Draft Record Value)

namespace Conflict

theorem restores (conflict : Conflict) : decode.Restores conflict.encode conflict := by
  have fields : record.Restores _ conflict :=
    (((Record.restores_field "device_type" .fault conflict.deviceType.restores).map _).join
      (Record.restores_field "location" .fault conflict.location.restores) (by decide)).join
      (Record.restores_field "device_ids" .fault
        (Decoder.restores_list fun id (_ : id ∈ conflict.deviceIds) => id.restores)) (by decide)
  exact fields.decoder _ _

theorem readsBack_encode (conflict : Conflict) : conflict.encode.ReadsBack := by
  refine .object ?_
  simp only [List.forall_mem_cons]
  exact ⟨.string _, .string _, Value.readsBack_ofList fun _ _ => .string _, nofun⟩

end Conflict

theorem Missing.restores (missing : Missing) : Missing.decode.Restores missing.encode missing := by
  refine Decoder.restores_choice ?_
  cases missing <;> rfl

namespace IncompleteDevice

theorem restores (device : IncompleteDevice) : decode.Restores device.encode device := by
  have fields : record.Restores _ device :=
    ((Record.restores_field "device_id" .fault device.deviceId.restores).map _).join
      (Record.restores_field "missing" .fault device.missing.restores) (by decide)
  exact fields.decoder _ _

theorem readsBack_encode (device : IncompleteDevice) : device.encode.ReadsBack := by
  refine .object ?_
  simp only [List.forall_mem_cons]
  exact ⟨.string _, .string _, nofun⟩

end IncompleteDevice

namespace ValidationReport

theorem restores (report : ValidationReport) : decode.Restores report.encode report := by
  have fields : record.Restores _ report :=
    ((Record.restores_field "conflicts" .fault (Decoder.restores_list
      fun conflict (_ : conflict ∈ report.conflicts) => conflict.restores)).map _).join
      (Record.restores_field "incomplete" .fault (Decoder.restores_list
        fun device (_ : device ∈ report.incomplete) => device.restores)) (by decide)
  exact fields.decoder _ _

theorem readsBack_encode (report : ValidationReport) : report.encode.ReadsBack := by
  refine .object ?_
  simp only [List.forall_mem_cons]
  exact ⟨Value.readsBack_ofList fun conflict _ => conflict.readsBack_encode,
    Value.readsBack_ofList fun device _ => device.readsBack_encode, nofun⟩

end ValidationReport

namespace ImportedDevice

theorem restores_outer (item : ImportedDevice) :
    outerRecord.Restores
      ([("id", item.id.encode), ("enabled", .ofOption .boolean item.enabled)] ++
        [("value_range", .ofOption ValueRange.encode item.valueRange)])
      (item.id, item.enabled, item.valueRange) :=
  (((Record.restores_field "id" .fault item.id.restores).map _).join
    (Record.restores_field "enabled" (.anywhere none) (Decoder.restores_optional
      fun enabled (_ : enabled ∈ item.enabled) => ⟨Decoder.restores_boolean enabled, nofun⟩))
      (by decide)).join
    (Record.restores_field "value_range" (.anywhere none)
      (ValueRange.restores_optional item.valueRange)) (by decide)

/-- An item is restored although the members of its descriptor stand among its own. -/
theorem restores (item : ImportedDevice) : decode.Restores item.encode item := by
  intro medium
  have shallow : ∀ member ∈ item.raw.members, ∀ levels,
      (Draft.ofValue member.2).isSound levels = true := by
    intro member listed levels
    obtain ⟨text, same⟩ := Descriptor.mem_members listed
    rw [same]
    cases text <;> rfl
  have parts := Record.restores_flattened item.restores_outer item.raw.restores_members (by decide)
    shallow "ImportedDevice" medium
  show (Record.flattened outerRecord Descriptor.record "ImportedDevice" medium _).map _ = _
  rw [encode, parts]
  rfl

theorem readsBack_encode {item : ImportedDevice}
    (survive : ∀ range, item.valueRange = some range → range.Survives) :
    item.encode.ReadsBack := by
  refine .object ?_
  simp only [List.forall_mem_append, List.forall_mem_cons]
  exact ⟨⟨⟨.string _, Value.readsBack_ofOption fun _ _ => .boolean _, nofun⟩,
    fun _ listed => Descriptor.readsBack_member listed⟩,
    ValueRange.readsBack_ofOption survive, nofun⟩

end ImportedDevice

namespace ImportReport

theorem restores (report : ImportReport) : decode.Restores report.encode report := by
  have ids (listed : List DeviceId) :
      DeviceId.decode.list.Restores (.ofList DeviceId.encode listed) listed :=
    Decoder.restores_list fun id _ => id.restores
  have fields : record.Restores _ report :=
    ((((((Record.restores_field "created" .fault (ids report.created)).map _).join
      (Record.restores_field "updated" .fault (ids report.updated)) (by decide)).join
      (Record.restores_field "unchanged" .fault (ids report.unchanged)) (by decide)).join
      (Record.restores_field "unclassified" .fault (ids report.unclassified)) (by decide)).join
      (Record.restores_field "new_locations" .fault (Decoder.restores_list
        fun location (_ : location ∈ report.newLocations) => location.restores)) (by decide)).join
      (Record.restores_field "registry_version" .fault
        (restores_decodeVersion report.registryVersion)) (by decide)
  exact fields.decoder _ _

theorem readsBack_encode (report : ImportReport) : report.encode.ReadsBack := by
  have ids (listed : List DeviceId) : (Value.ofList DeviceId.encode listed).ReadsBack :=
    Value.readsBack_ofList fun _ _ => .string _
  refine .object ?_
  simp only [List.forall_mem_cons]
  exact ⟨ids _, ids _, ids _, ids _, Value.readsBack_ofList fun _ _ => .string _,
    readsBack_encodeVersion _, nofun⟩

end ImportReport

namespace DispatchRequest

/-- The value of the request is finite and survives being written and read. -/
def Survives (request : DispatchRequest) : Prop :=
  ∀ value, request.value = some value →
    Decimal.isFinite value = true ∧ Decimal.Survives value

theorem Survives.restores {request : DispatchRequest} (survives : request.Survives) :
    decode.Restores request.encode request := by
  have value : (Record.lenient "converted_value" Decoder.float).Restores
      (Value.memberIfSome "converted_value" .ofFloat request.value) request.value := by
    refine Record.restores_lenient _ fun value has => ?_
    have ⟨finite, _⟩ := survives value has
    refine ⟨Decoder.restores_float finite, ?_⟩
    rw [Value.ofFloat, if_pos finite]
    nofun
  have fields : record.Restores _ request :=
    (((Record.restores_field "device_id" .fault request.deviceId.restores).map _).join
      (Record.restores_field "service_name" .fault (Decoder.restores_string request.service))
        (by decide)).join value (by decide)
  exact fields.decoder _ _

theorem Survives.readsBack {request : DispatchRequest} (survives : request.Survives) :
    request.encode.ReadsBack := by
  refine .object ?_
  simp only [List.forall_mem_append, List.forall_mem_cons]
  refine ⟨⟨.string _, .string _, nofun⟩, ?_⟩
  cases has : request.value with
  | none => nofun
  | some value =>
    have ⟨finite, survives⟩ := survives value has
    exact List.forall_mem_singleton.mpr (Value.readsBack_ofFloat finite survives)

end DispatchRequest

/-- What is written of an artifact, an index of pairs, options, a device, a descriptor, a range, an
item of an import, a report of an import or of a validation, a conflict, an incomplete device or a
request comes out of its text as it went in. -/
theorem decode_undoes_encode :
    Artifact.decode.Undoes Artifact.encode Artifact.Survives ∧
    PairIndex.decode.Undoes PairIndex.encode (fun _ => True) ∧
    GrammarOptions.decode.Undoes GrammarOptions.encode (fun _ => True) ∧
    Device.decode.Undoes Device.encode
      (fun device => ∀ range, device.valueRange = some range → range.Survives) ∧
    Descriptor.decode.Undoes Descriptor.encode (fun _ => True) ∧
    ValueRange.decode.Undoes ValueRange.encode ValueRange.Survives ∧
    ImportedDevice.decode.Undoes ImportedDevice.encode
      (fun item => ∀ range, item.valueRange = some range → range.Survives) ∧
    ImportReport.decode.Undoes ImportReport.encode (fun _ => True) ∧
    ValidationReport.decode.Undoes ValidationReport.encode (fun _ => True) ∧
    Conflict.decode.Undoes Conflict.encode (fun _ => True) ∧
    IncompleteDevice.decode.Undoes IncompleteDevice.encode (fun _ => True) ∧
    DispatchRequest.decode.Undoes DispatchRequest.encode DispatchRequest.Survives := by
  refine ⟨?artifact, ?index, ?options, ?device, ?descriptor, ?range, ?item, ?imported, ?report,
    ?conflict, ?incomplete, ?request⟩
  case artifact =>
    exact Decoder.undoes_of_restores (fun _ survives => survives.restores)
      fun _ survives => survives.readsBack
  case index =>
    exact Decoder.undoes_of_restores (fun index _ => PairIndex.restores index)
      fun index _ => PairIndex.readsBack_encode index
  case options =>
    exact Decoder.undoes_of_restores (fun options _ => options.restores)
      fun options _ => options.readsBack_encode
  case device =>
    exact Decoder.undoes_of_restores (fun device _ => device.restores)
      fun _ survive => Device.readsBack_encode survive
  case descriptor =>
    exact Decoder.undoes_of_restores (fun raw _ => raw.restores) fun raw _ => raw.readsBack_encode
  case range =>
    exact Decoder.undoes_of_restores (fun range _ => range.restores)
      fun _ survives => survives.readsBack
  case item =>
    exact Decoder.undoes_of_restores (fun item _ => item.restores)
      fun _ survive => ImportedDevice.readsBack_encode survive
  case imported =>
    exact Decoder.undoes_of_restores (fun report _ => report.restores)
      fun report _ => report.readsBack_encode
  case report =>
    exact Decoder.undoes_of_restores (fun report _ => report.restores)
      fun report _ => report.readsBack_encode
  case conflict =>
    exact Decoder.undoes_of_restores (fun conflict _ => conflict.restores)
      fun conflict _ => conflict.readsBack_encode
  case incomplete =>
    exact Decoder.undoes_of_restores (fun device _ => device.restores)
      fun device _ => device.readsBack_encode
  case request =>
    exact Decoder.undoes_of_restores (fun _ survives => survives.restores)
      fun _ survives => survives.readsBack

section Heater

/-- A heater whose identifier is full of what a text has to escape. -/
def heaterId : DeviceId := ⟨"heat\"er\\ \u0001\n𝄞é", by decide +kernel⟩

def heaterType : DeviceType :=
  ⟨"böiler", by decide, by decide +kernel, "Böiler", by decide +kernel⟩

def heaterPlace : Location :=
  ⟨"oma's küche", by decide, by decide +kernel, "Oma's Küche", by decide +kernel⟩

def heaterRange : ValueRange := ⟨-0.5, 19.9, .celsius, by decide +kernel, by decide +kernel⟩

def heaterItem : ImportedDevice :=
  ⟨heaterId, none, { area := some "\"Küche\"\t" }, some heaterRange⟩

def heaterRequest : DispatchRequest := ⟨heaterId, "set \u007f", some (-0.0)⟩

def heaterArtifact : Artifact where
  grammarText := "root ::= \"\\n\""
  pairIndex := .ofList [(⟨heaterType, heaterPlace⟩, heaterId)]
  vocabularies := .ofList [(heaterType, [.on, .setTemperature])]
  valueRanges := .ofList [(heaterId, heaterRange)]
  generatedAt := ⟨951782400, 120000000⟩
  sourceVersion := 18446744073709551615
  options := {}

theorem decode_undoes_encode_heater :
    Artifact.decode.ofText heaterArtifact.encode.text = .ok heaterArtifact ∧
    ImportedDevice.decode.ofText heaterItem.encode.text = .ok heaterItem ∧
    DispatchRequest.decode.ofText heaterRequest.encode.text = .ok heaterRequest := by
  obtain ⟨artifact, _, _, _, _, _, item, _, _, _, _, request⟩ := decode_undoes_encode
  have range : heaterRange.Survives := ⟨by decide +kernel, by decide +kernel⟩
  refine ⟨artifact.restored _ ⟨fun id found has => ?_, by decide +kernel⟩,
    item.restored _ fun _ has => ?_, request.restored _ fun _ has => ?_⟩
  · cases SortedMap.mem_of_get?_ofList has with
    | head => exact range
    | tail _ later => cases later
  · cases has
    exact range
  · cases has
    exact ⟨by decide +kernel, by decide +kernel⟩

end Heater

end HomeVoice
