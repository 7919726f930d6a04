import HomeVoice.Command
import HomeVoice.Proofs.Grammar.Generation

/-!
# What a resolved command asks for

A command that an artifact resolves has its pair in the index and its action in the vocabulary of
its type. A numeric action goes out with a value within the range of the device, any other action
without a value. If the artifact was generated from a registry, all this is there.
-/

namespace HomeVoice

/-- A value that is converted lies within the range. -/
theorem ValueRange.contains_of_convert {range : ValueRange} {value target : Float}
    (converted : range.convert value = .ok target) : range.contains target = true := by
  unfold convert at converted
  dsimp only at converted
  split at converted
  next within =>
    cases converted
    exact within
  · cases converted

namespace Command

/-- The action of a command carries a value exactly when it is numeric, and the value is within
the range. -/
def Carries (action : Action) (range : ValueRange) (value : Option Float) : Prop :=
  if action.isNumeric then ∃ native, value = some native ∧ range.contains native = true
  else value = none

theorem target_ok {command : Command} {artifact : Artifact} {id : DeviceId}
    {scaled : Option (ValueRange × Float)} (targeted : command.target artifact = .ok (id, scaled)) :
    artifact.pairIndex.get? ⟨command.deviceType, command.location⟩ = some id ∧
      (∃ actions, artifact.vocabularies.get? command.deviceType = some actions ∧
        command.action ∈ actions) ∧
      if command.action.isNumeric then
        ∃ value, scaled = some ((artifact.valueRanges.get? id).getD .hundredPercent, value)
      else scaled = none := by
  unfold target at targeted
  dsimp only at targeted
  split at targeted
  next found indexed =>
    split at targeted
    next vocabulary known =>
      obtain ⟨allowed, targeted⟩ := require_eq_ok.mp targeted
      by_cases numeric : command.action.isNumeric = true
      · rw [if_pos numeric] at targeted ⊢
        split at targeted
        · cases targeted
          exact ⟨indexed, ⟨vocabulary, known, allowed⟩, _, rfl⟩
        · cases targeted
      · rw [if_neg numeric] at targeted ⊢
        cases targeted
        exact ⟨indexed, ⟨vocabulary, known, allowed⟩, rfl⟩
    · cases targeted
  · cases targeted

theorem resolve_ok {command : Command} {artifact : Artifact} {request : DispatchRequest}
    (resolved : command.resolve artifact = .ok request) :
    artifact.pairIndex.get? ⟨command.deviceType, command.location⟩ = some request.deviceId ∧
      (∃ actions, artifact.vocabularies.get? command.deviceType = some actions ∧
        command.action ∈ actions) ∧
      request.service = command.action.service ∧
      Carries command.action
        ((artifact.valueRanges.get? request.deviceId).getD .hundredPercent) request.value := by
  unfold resolve at resolved
  obtain ⟨⟨id, scaled⟩, targeted, resolved⟩ := bind_eq_ok.mp resolved
  obtain ⟨value, converted, resolved⟩ := bind_eq_ok.mp resolved
  cases resolved
  obtain ⟨indexed, allowed, carried⟩ := target_ok targeted
  refine ⟨indexed, allowed, rfl, ?_⟩
  unfold Carries
  split at carried
  next numeric =>
    obtain ⟨spoken, rfl⟩ := carried
    obtain ⟨native, conversion, converted⟩ := bind_eq_ok.mp converted
    cases converted
    rw [if_pos numeric]
    exact ⟨native, rfl, ValueRange.contains_of_convert (mapError_eq_ok.mp conversion)⟩
  next plain =>
    cases carried
    cases converted
    rw [if_neg plain]

end Command

/-- The text is a command whose pair belongs to one enabled device of the registry and to no
other, the action is one that the registry has for its type, and the request is to that device, in
the service of that action and with a value that the action and the device admit. -/
def DispatchRequest.JustifiedBy (request : DispatchRequest) (registry : Registry) (text : String) :
    Prop :=
  ∃ command device, Command.parse text = .ok command ∧
    registry.devicesAt ⟨command.deviceType, command.location⟩ = [device] ∧
    request.deviceId = device.id ∧
    (∃ actions, registry.vocabulary command.deviceType = some actions ∧
      command.action ∈ actions) ∧
    request.service = command.action.service ∧
    Command.Carries command.action (device.valueRange.getD .hundredPercent) request.value

/-- A request that a generated artifact leads to is justified by the registry behind it. -/
theorem DispatchRequest.justifiedBy_of_generate {registry : Registry} {options : GrammarOptions}
    {time : Time.Timestamp} {artifact : Artifact} {text : String} {command : Command}
    {request : DispatchRequest} (owned : registry.OwnsIds)
    (made : registry.generate options time = .ok artifact)
    (parsed : Command.parse text = .ok command)
    (resolved : command.resolve artifact = .ok request) : request.JustifiedBy registry text := by
  obtain ⟨indexed, ⟨actions, listed, allowed⟩, service, carried⟩ := Command.resolve_ok resolved
  obtain ⟨device, alone, same⟩ := Registry.devicesAt_of_pairIndex made indexed
  have vocabulary := Registry.vocabulary_of_vocabularies made listed
  rw [← same, Registry.valueRanges_get?_of_devicesAt owned made alone] at carried
  exact ⟨command, device, parsed, alone, same.symm, ⟨actions, vocabulary, allowed⟩, service, carried⟩

end HomeVoice
