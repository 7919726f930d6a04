import HomeVoice.Proofs.Command.Sentence
import HomeVoice.Proofs.Conversion
import HomeVoice.Proofs.Grammar.Commands

/-!
# Which sentences are executed

A sentence of a generated grammar is read as a command for the device under its pair, and nothing
but its value can keep it from being executed. With the arithmetic of rational numbers, all
sentences are executed if and only if every device with an action that carries a value has a range
that keeps its bounds when they are rounded.
-/

namespace HomeVoice

open Time (Timestamp)

/-- The range onto which the values for a device are laid. -/
def Device.nativeRange (device : Device) : ValueRange := device.valueRange.getD .hundredPercent

/-- What the system that drives the devices is asked for, in exact values. -/
structure ExactRequest where
  deviceId : DeviceId
  service : String
  value : Option Rat
  deriving DecidableEq

/-- The request that a command makes by the artifact of its grammar, with the arithmetic of rational
numbers in place of that of binary64 numbers. -/
def Command.resolveExactly (command : Command) (artifact : Artifact) : Option ExactRequest := do
  let (id, scaled) ← (command.target artifact).toOption
  let value ← scaled.mapM fun (range, value) => range.convertExactly (Decimal.exactValue value)
  return ⟨id, command.action.service, value⟩

/-- The text is a command, and its request is to the device under the pair of the command, in the
service of the action and with a value exactly if the action carries one. -/
def Executable (artifact : Artifact) (text : List Char) : Prop :=
  ∃ command request, Command.parse (String.ofList text) = .ok command ∧
    command.resolveExactly artifact = some request ∧
    artifact.pairIndex.get? ⟨command.deviceType, command.location⟩ = some request.deviceId ∧
    request.service = command.action.service ∧
    request.value.isSome = command.action.isNumeric

section Steps

variable {α β : Type} {f : α → Option β} {item : Option α}

private theorem isSome_mapM : (item.mapM f).isSome ↔ ∀ value ∈ item, (f value).isSome := by
  cases item with
  | none => exact ⟨nofun, fun _ => rfl⟩
  | some value =>
    show (some <$> f value).isSome ↔ _
    cases made : f value <;> simp [made]

private theorem isSome_of_mapM {result : Option β} (made : item.mapM f = some result) :
    result.isSome = item.isSome := by
  cases item with
  | none =>
    cases made
    rfl
  | some value =>
    have made : (f value).map some = some result := made
    obtain ⟨_, _, rfl⟩ := Option.map_eq_some_iff.mp made
    rfl

end Steps

section Admitted

variable {registry : Registry} {options : GrammarOptions} {time : Timestamp} {artifact : Artifact}
  {sentence : Sentence} {device : Device}

/-- The command of a sentence is for the device under its pair, and its value goes onto the range
of that device. -/
theorem Sentence.target_command (owned : registry.OwnsIds)
    (made : registry.generate options time = .ok artifact)
    (admitted : sentence.AdmittedBy registry artifact)
    (standing : device ∈ registry.devicesAt sentence.pair) :
    sentence.command.target artifact =
      .ok (device.id, sentence.value.map fun n => (device.nativeRange, Float.ofNat n)) := by
  obtain ⟨_, ⟨actions, known, allowed⟩, valued⟩ := admitted
  have indexed : artifact.pairIndex.get?
      ⟨sentence.command.deviceType, sentence.command.location⟩ = some device.id :=
    Registry.pairIndex_get?_of_standing made standing
  have vocabulary : artifact.vocabularies.get? sentence.command.deviceType = some actions :=
    Registry.vocabularies_get?_of_indexed made indexed known
  have range := Registry.valueRanges_get?_of_devicesAt owned made
    (Registry.devicesAt_eq_singleton made standing)
  have numeric : sentence.command.action.isNumeric = sentence.value.isSome :=
    (isSome_value valued).symm
  unfold Command.target
  dsimp only
  rw [indexed]
  dsimp only
  rw [vocabulary]
  refine require_eq_ok.mpr ⟨allowed, ?_⟩
  rw [range, numeric]
  cases present : sentence.value with
  | none => rfl
  | some n =>
    have value : sentence.command.value = some (Float.ofNat n) :=
      congrArg (·.map Float.ofNat) present
    rw [value]
    rfl

/-- A command without a value makes its request. -/
theorem Sentence.resolve_command (owned : registry.OwnsIds)
    (made : registry.generate options time = .ok artifact)
    (admitted : sentence.AdmittedBy registry artifact)
    (standing : device ∈ registry.devicesAt sentence.pair) (plain : sentence.value = none) :
    sentence.command.resolve artifact = .ok ⟨device.id, sentence.action.service, none⟩ := by
  have targeted := target_command owned made admitted standing
  rw [plain] at targeted
  exact bind_eq_ok.mpr ⟨_, targeted, rfl⟩

/-- Whether a command with a value makes a request is up to the range of its device. -/
theorem Sentence.resolveExactly_command (owned : registry.OwnsIds)
    (made : registry.generate options time = .ok artifact)
    (admitted : sentence.AdmittedBy registry artifact)
    (standing : device ∈ registry.devicesAt sentence.pair) :
    sentence.command.resolveExactly artifact =
      (sentence.value.mapM fun n : Nat => device.nativeRange.convertExactly n).map fun value =>
        ⟨device.id, sentence.action.service, value⟩ := by
  unfold Command.resolveExactly
  rw [target_command owned made admitted standing]
  cases present : sentence.value with
  | none => rfl
  | some n =>
    have exactly := (exactValue_of_le_lastValue n (admitted.valued.le_lastValue n present)).2
    show ((some <$> device.nativeRange.convertExactly (Decimal.exactValue (Float.ofNat n))) >>= _) =
      (some <$> device.nativeRange.convertExactly n).map _
    rw [exactly]
    cases device.nativeRange.convertExactly n <;> rfl

/-- A sentence is executed if and only if the range of its device takes its value. -/
theorem Sentence.executable_iff (owned : registry.OwnsIds)
    (made : registry.generate options time = .ok artifact)
    (admitted : sentence.AdmittedBy registry artifact)
    (standing : device ∈ registry.devicesAt sentence.pair) :
    Executable artifact sentence.text ↔
      ∀ n ∈ sentence.value, (device.nativeRange.convertExactly n).isSome := by
  have read := parse_text admitted.valued.le_lastValue
  have resolved := resolveExactly_command owned made admitted standing
  constructor
  · rintro ⟨command, request, parsed, asked, _⟩
    cases read.symm.trans parsed
    rw [resolved] at asked
    obtain ⟨value, converted, _⟩ := Option.map_eq_some_iff.mp asked
    exact isSome_mapM.mp (Option.isSome_iff_exists.mpr ⟨value, converted⟩)
  · intro taken
    obtain ⟨value, converted⟩ := Option.isSome_iff_exists.mp (isSome_mapM.mpr taken)
    refine ⟨sentence.command, ⟨device.id, sentence.action.service, value⟩, read, ?_,
      Registry.pairIndex_get?_of_standing made standing, rfl, ?_⟩
    · rw [resolved, converted]
      rfl
    · exact (isSome_of_mapM converted).trans (isSome_value admitted.valued)

/-- A pair of the index and an action with a value that its type knows make a sentence for each
value that the grammar lists. -/
theorem Sentence.admittedBy_of_indexed (made : registry.generate options time = .ok artifact)
    {pair : Pair} {id : DeviceId} (indexed : artifact.pairIndex.get? pair = some id)
    {actions : List Action} (known : registry.vocabulary pair.deviceType = some actions)
    {action : Action} (allowed : action ∈ actions) {kind : ValueKind}
    (numeric : action.valueKind = some kind) {n : Nat} (listed : n ∈ options.values kind) :
    Sentence.AdmittedBy registry artifact ⟨pair, action, some n⟩ := by
  refine ⟨⟨id, indexed⟩, ⟨actions, known, allowed⟩, ?_⟩
  unfold ValuedBy
  rw [Registry.generate_options made, numeric]
  exact ⟨n, listed, rfl⟩

theorem Sentence.AdmittedBy.exists_device (made : registry.generate options time = .ok artifact)
    (admitted : sentence.AdmittedBy registry artifact) :
    ∃ device ∈ registry.devicesAt sentence.pair,
      artifact.pairIndex.get? sentence.pair = some device.id := by
  obtain ⟨id, indexed⟩ := admitted.indexed
  obtain ⟨device, alone, rfl⟩ := Registry.devicesAt_of_pairIndex made indexed
  exact ⟨device, by simp [alone], indexed⟩

end Admitted

namespace Registry

/-- Every device that commands give values to has a range that keeps its bounds. -/
def KeepsBounds (registry : Registry) : Prop :=
  ∀ pair, ∀ device ∈ registry.devicesAt pair, ∀ actions,
    registry.vocabulary pair.deviceType = some actions →
    (∃ action ∈ actions, action.isNumeric = true) → device.nativeRange.KeepsBounds

variable {registry : Registry} {options : GrammarOptions} {time : Timestamp} {artifact : Artifact}

theorem keepsBounds_of_rangesIn (ranges : registry.RangesIn ValueRange.KeepsBounds) :
    registry.KeepsBounds := by
  intro pair device standing _ _ _
  obtain ⟨⟨id, found⟩, _⟩ := mem_enabledDevices_iff.mp (mem_devicesAt_iff.mp standing).1
  unfold Device.nativeRange
  cases own : device.valueRange with
  | none => exact ValueRange.keepsBounds_hundredPercent
  | some range => exact ranges id device found range own

theorem KeepsBounds.executable (kept : registry.KeepsBounds) (owned : registry.OwnsIds)
    (made : registry.generate options time = .ok artifact) {sentence : Sentence}
    (admitted : sentence.AdmittedBy registry artifact) : Executable artifact sentence.text := by
  obtain ⟨device, standing, _⟩ := admitted.exists_device made
  refine (Sentence.executable_iff owned made admitted standing).mpr fun n present => ?_
  obtain ⟨actions, known, allowed⟩ := admitted.spoken
  have numeric : sentence.action.isNumeric = true := by
    rw [← Sentence.isSome_value admitted.valued, present]
    rfl
  have range := kept _ device standing actions known ⟨_, allowed, numeric⟩
  exact range.isSome_convertExactly (admitted.valued.le_lastValue n present)

theorem keepsBounds_of_executable (owned : registry.OwnsIds)
    (made : registry.generate options time = .ok artifact)
    (all : ∀ sentence : Sentence, sentence.AdmittedBy registry artifact →
      Executable artifact sentence.text) : registry.KeepsBounds := by
  intro pair device standing actions known ⟨action, allowed, numeric⟩
  obtain ⟨kind, numeric⟩ := Option.isSome_iff_exists.mp numeric
  refine (ValueRange.convertExactly_values_iff device.nativeRange options kind).mp ?_
  intro n listed
  have indexed := pairIndex_get?_of_standing made standing
  have admitted := Sentence.admittedBy_of_indexed made indexed known allowed numeric listed
  exact (Sentence.executable_iff owned made admitted standing).mp (all _ admitted) n rfl

/-- Every text of the language of a generated grammar is read as a command for the device that
stands under its pair. Without a value the command makes its request, in the service of its action.
With a value it does so if the range of the device takes that value, and all texts are executed if
and only if the ranges of all devices with such actions keep their bounds. -/
theorem executable_iff_keepsBounds (reached : registry.Reachable)
    (made : registry.generate options time = .ok artifact) :
    ∃ grammar, Gbnf.Grammar.ofText? artifact.grammarText.toList = some grammar ∧
      (∀ text, grammar.Language text →
        ∃ (sentence : Sentence) (device : Device), text = sentence.text ∧
          Command.parse (String.ofList text) = .ok sentence.command ∧
          registry.devicesAt sentence.pair = [device] ∧
          artifact.pairIndex.get? sentence.pair = some device.id ∧
          (sentence.action.isNumeric = false →
            sentence.command.resolve artifact =
              .ok ⟨device.id, sentence.action.service, none⟩) ∧
          (Executable artifact text ↔
            ∀ n ∈ sentence.value, (device.nativeRange.convertExactly n).isSome)) ∧
      ((∀ text, grammar.Language text → Executable artifact text) ↔ registry.KeepsBounds) := by
  have owned := reached.sound.owned
  obtain ⟨grammar, read, _, _, language⟩ := exists_language reached.sound made
  refine ⟨grammar, read, ?_, ?_, ?_⟩
  · intro text derived
    obtain ⟨sentence, admitted, rfl⟩ := (language text).mp derived
    obtain ⟨device, standing, indexed⟩ := admitted.exists_device made
    refine ⟨sentence, device, rfl, Sentence.parse_text admitted.valued.le_lastValue,
      devicesAt_eq_singleton made standing, indexed, fun plain => ?_,
      Sentence.executable_iff owned made admitted standing⟩
    rw [← Sentence.isSome_value admitted.valued] at plain
    exact Sentence.resolve_command owned made admitted standing
      (Option.not_isSome_iff_eq_none.mp (Bool.eq_false_iff.mp plain))
  · intro all
    refine keepsBounds_of_executable owned made fun sentence admitted => ?_
    exact all _ ((language _).mpr ⟨sentence, admitted, rfl⟩)
  · intro kept text derived
    obtain ⟨sentence, admitted, rfl⟩ := (language text).mp derived
    exact kept.executable owned made admitted

section House

def heating : DeviceType :=
  ⟨"heating", by decide, by decide +kernel, "heating", by decide +kernel⟩

def bedroom : Location := ⟨"bedroom", by decide, by decide +kernel, "bedroom", by decide +kernel⟩

def radiator (range : ValueRange) : Device where
  id := ⟨"rad", by decide +kernel⟩
  deviceType := some heating
  location := some bedroom
  valueRange := some range

/-- A registry with one radiator in it. -/
def house (range : ValueRange) : Except ConfigurationError Registry :=
  Registry.restore 2 [] [bedroom] [radiator range]

def comfortable : ValueRange := ⟨15, 25, .celsius, by decide, by decide⟩

/-- No temperature with one decimal but 20.1 lies in the range. -/
def narrow : ValueRange := ⟨20.04, 20.14, .celsius, by decide +kernel, by decide +kernel⟩

def temperatureSentence (n : Nat) : Sentence := ⟨⟨heating, bedroom⟩, .setTemperature, some n⟩

theorem executable_iff_keepsBounds_comfortable :
    ∃ registry artifact, house comfortable = .ok registry ∧ registry.Reachable ∧
      registry.generate {} ⟨0, 0⟩ = .ok artifact ∧
      Executable artifact (temperatureSentence 37).text := by
  have parts : ((house comfortable).toOption.bind fun registry =>
      (registry.generate {} ⟨0, 0⟩).toOption.map fun artifact =>
        (registry.vocabulary heating, (artifact.pairIndex.get? ⟨heating, bedroom⟩).isSome,
          decide (∀ device ∈ registry.devices.values,
            ∀ range ∈ device.valueRange, range.KeepsBounds))) =
        some (some [.on, .off, .setTemperature, .increase, .decrease], true, true) := by
    decide +kernel
  obtain ⟨registry, restored, parts⟩ := Option.bind_eq_some_iff.mp parts
  obtain ⟨artifact, made, parts⟩ := exists_of_toOption_map parts
  obtain ⟨vocabulary, parts⟩ := Prod.mk.inj parts
  obtain ⟨indexed, kept⟩ := Prod.mk.inj parts
  obtain ⟨id, indexed⟩ := Option.isSome_iff_exists.mp indexed
  have restored := toOption_eq_some.mp restored
  have reached : registry.Reachable := ⟨registry, [], .restored restored, rfl⟩
  refine ⟨registry, artifact, restored, reached, made, ?_⟩
  have admitted : (temperatureSentence 37).AdmittedBy registry artifact :=
    Sentence.admittedBy_of_indexed made indexed vocabulary (by decide) rfl (by decide)
  have ranges : registry.RangesIn ValueRange.KeepsBounds := fun id device found =>
    of_decide_eq_true kept device (SortedMap.mem_values_iff.mpr ⟨id, found⟩)
  obtain ⟨grammar, read, _, _, language⟩ := exists_language reached.sound made
  obtain ⟨grammar', read', _, executed⟩ := executable_iff_keepsBounds reached made
  cases read.symm.trans read'
  exact executed.mpr (keepsBounds_of_rangesIn ranges) _ ((language _).mpr ⟨_, admitted, rfl⟩)

/-- Rounded to one decimal, the lower bound of the narrow range is 20.0, which is below it. -/
theorem not_executable_narrow :
    ∃ registry artifact grammar, house narrow = .ok registry ∧ registry.Reachable ∧
      registry.generate {} ⟨0, 0⟩ = .ok artifact ∧
      Gbnf.Grammar.ofText? artifact.grammarText.toList = some grammar ∧
      grammar.Language (temperatureSentence 1).text ∧
      Command.parse (String.ofList (temperatureSentence 1).text) =
        .ok (temperatureSentence 1).command ∧
      (temperatureSentence 1).command.resolve artifact =
        .error (.semantic (.valueOutOfRange 20 20.04 20.14)) ∧
      ¬ Executable artifact (temperatureSentence 1).text := by
  have parts : ((house narrow).toOption.bind fun registry =>
      (registry.generate {} ⟨0, 0⟩).toOption.map fun artifact =>
        (registry.vocabulary heating, (artifact.pairIndex.get? ⟨heating, bedroom⟩).isSome,
          (match (temperatureSentence 1).command.resolve artifact with
            | .error (.semantic error) => some error
            | _ => none),
          (temperatureSentence 1).command.resolveExactly artifact)) =
        some (some [.on, .off, .setTemperature, .increase, .decrease], true,
          some (.valueOutOfRange 20 20.04 20.14), none) := by
    decide +kernel
  obtain ⟨registry, restored, parts⟩ := Option.bind_eq_some_iff.mp parts
  obtain ⟨artifact, made, parts⟩ := exists_of_toOption_map parts
  obtain ⟨vocabulary, parts⟩ := Prod.mk.inj parts
  obtain ⟨indexed, parts⟩ := Prod.mk.inj parts
  obtain ⟨refused, refusedExactly⟩ := Prod.mk.inj parts
  obtain ⟨id, indexed⟩ := Option.isSome_iff_exists.mp indexed
  have restored := toOption_eq_some.mp restored
  have reached : registry.Reachable := ⟨registry, [], .restored restored, rfl⟩
  have admitted : (temperatureSentence 1).AdmittedBy registry artifact :=
    Sentence.admittedBy_of_indexed made indexed vocabulary (by decide) rfl (by decide)
  have parsed := Sentence.parse_text admitted.valued.le_lastValue
  obtain ⟨grammar, read, _, _, language⟩ := exists_language reached.sound made
  refine ⟨registry, artifact, grammar, restored, reached, made, read,
    (language _).mpr ⟨_, admitted, rfl⟩, parsed, ?_, ?_⟩
  · split at refused
    next failed =>
      cases refused
      exact failed
    · cases refused
  · rintro ⟨command, request, parsed', asked, _⟩
    cases parsed.symm.trans parsed'
    rw [refusedExactly] at asked
    cases asked

end House

end Registry

end HomeVoice
