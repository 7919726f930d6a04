import HomeVoice.Proofs.Command.Sentence
import HomeVoice.Proofs.Grammar.Generation
import HomeVoice.Proofs.Grammar.Language
import HomeVoice.Proofs.Registry.Runs

/-!
# The language of a grammar is the command set of its registry

The parts of a generated grammar are the device types under which devices stand, each with the
places of its devices and with its vocabulary. So the grammar, read back from its text, derives one
sentence for each pair of the index, each action that the type of the pair knows and each value that
the action takes.
-/

namespace HomeVoice

open Time (Timestamp)

namespace Registry

section Parts

variable {registry : Registry} {sections : List Grammar.Section}

theorem mem_typesInUse_iff {deviceType : DeviceType} :
    deviceType ∈ registry.typesInUse ↔
      ∃ location device, registry.addressed.get? ⟨deviceType, location⟩ = some device := by
  rw [typesInUse, SortedMap.mem_keys_setOfList, List.mem_map]
  constructor
  · rintro ⟨⟨_, location⟩, member, rfl⟩
    exact ⟨location, SortedMap.mem_keys_iff.mp member⟩
  · rintro ⟨location, addressed⟩
    exact ⟨⟨deviceType, location⟩, SortedMap.mem_keys_iff.mpr addressed, rfl⟩

theorem grammarSection_eq_ok_iff {deviceType : DeviceType} {part : Grammar.Section} :
    registry.grammarSection deviceType = .ok part ↔
      ∃ actions, registry.vocabulary deviceType = some actions ∧
        part = ⟨deviceType, (registry.addressed.keys.filter (·.deviceType = deviceType)).map
          (·.location), actions⟩ := by
  unfold grammarSection
  generalize registry.vocabulary deviceType = vocabulary
  cases vocabulary <;> simp [eq_comm]

/-- A part is there for a type in use, and has all places of its devices. -/
theorem section_of_mem (read : registry.grammarSections = .ok sections) {part : Grammar.Section}
    (member : part ∈ sections) :
    part.deviceType ∈ registry.typesInUse ∧
      registry.vocabulary part.deviceType = some part.actions ∧
      ∀ location, location ∈ part.locations ↔
        ∃ device, registry.addressed.get? ⟨part.deviceType, location⟩ = some device := by
  obtain ⟨deviceType, used, made⟩ := mem_of_mapM_eq_ok read member
  obtain ⟨actions, known, rfl⟩ := grammarSection_eq_ok_iff.mp made
  exact ⟨used, known, fun _ => SortedMap.mem_locations_iff⟩

theorem exists_section (read : registry.grammarSections = .ok sections) {deviceType : DeviceType}
    (used : deviceType ∈ registry.typesInUse) :
    ∃ part ∈ sections, part.deviceType = deviceType := by
  obtain ⟨part, member, made⟩ := exists_of_mem_of_mapM read used
  obtain ⟨_, _, rfl⟩ := grammarSection_eq_ok_iff.mp made
  exact ⟨_, member, rfl⟩

/-- Every part has a place and, as vocabularies are not empty, an action. -/
theorem spoken_of_mem (sound : registry.Sound) (read : registry.grammarSections = .ok sections)
    {part : Grammar.Section} (member : part ∈ sections) : part.Spoken := by
  obtain ⟨used, known, locations⟩ := section_of_mem read member
  obtain ⟨location, addressed⟩ := mem_typesInUse_iff.mp used
  exact ⟨List.ne_nil_of_mem ((locations location).mpr addressed),
    (sound.vocabularies _ _ known).1⟩

theorem sections_ne_nil (read : registry.grammarSections = .ok sections)
    (inhabited : registry.addressed.isEmpty = false) : sections ≠ [] := by
  have entries : registry.addressed.entries ≠ [] := by
    intro none
    rw [SortedMap.isEmpty, none] at inhabited
    cases inhabited
  obtain ⟨⟨pair, device⟩, member⟩ := List.exists_mem_of_ne_nil _ entries
  have used := mem_typesInUse_iff.mpr ⟨pair.location, device, SortedMap.mem_entries_iff.mp member⟩
  obtain ⟨part, known, _⟩ := exists_section read used
  exact List.ne_nil_of_mem known

end Parts

variable {registry : Registry} {options : GrammarOptions} {time : Timestamp} {artifact : Artifact}

/-- The text of a generated grammar is read as the grammar of the registry's parts. -/
theorem exists_grammar (sound : registry.Sound)
    (made : registry.generate options time = .ok artifact) :
    ∃ sections, registry.grammarSections = .ok sections ∧
      Gbnf.Grammar.ofText? artifact.grammarText.toList =
        some ⟨[], (Grammar.ofSections sections options registry.version).rules⟩ := by
  obtain ⟨_, inhabited, sections, read, rfl⟩ := generate_ok made
  refine ⟨sections, read, ?_⟩
  have writable := Grammar.writable_ofSections (sections_ne_nil read inhabited)
    (fun part member => spoken_of_mem sound read member) options registry.version
  rw [Gbnf.Grammar.text, String.toList_ofList]
  exact Gbnf.Grammar.ofText?_chars writable

/-- The sentences of the parts are those that the index and the vocabularies admit. -/
theorem covers_iff_admittedBy (made : registry.generate options time = .ok artifact)
    {sections : List Grammar.Section} (read : registry.grammarSections = .ok sections)
    {sentence : Sentence} :
    (∃ part ∈ sections, part.Covers options sentence) ↔ sentence.AdmittedBy registry artifact := by
  obtain ⟨_, _, _, _, rfl⟩ := generate_ok made
  have indexed : (∃ id, (registry.addressed.mapValues (·.id)).get? sentence.pair = some id) ↔
      ∃ device, registry.addressed.get? sentence.pair = some device := by
    rw [SortedMap.get?_mapValues]
    cases registry.addressed.get? sentence.pair <;> simp
  constructor
  · rintro ⟨part, member, deviceType, location, action, valued⟩
    obtain ⟨_, known, locations⟩ := section_of_mem read member
    refine ⟨indexed.mpr ?_, ⟨part.actions, deviceType ▸ known, action⟩, valued⟩
    have addressed := (locations _).mp location
    rwa [← deviceType] at addressed
  · rintro ⟨present, ⟨actions, vocabulary, action⟩, valued⟩
    have addressed := indexed.mp present
    obtain ⟨part, member, deviceType⟩ :=
      exists_section read (mem_typesInUse_iff.mpr ⟨sentence.pair.location, addressed⟩)
    obtain ⟨_, known, locations⟩ := section_of_mem read member
    rw [deviceType, vocabulary] at known
    cases known
    refine ⟨part, member, deviceType.symm, (locations _).mpr ?_, action, valued⟩
    rwa [deviceType]

/-- A device of a registry without conflicts stands alone under its pair. -/
theorem devicesAt_eq_singleton (made : registry.generate options time = .ok artifact)
    {device : Device} {pair : Pair} (standing : device ∈ registry.devicesAt pair) :
    registry.devicesAt pair = [device] := by
  obtain ⟨clear, _⟩ := generate_ok made
  have bound := conflicts_eq_nil_iff.mp clear pair
  cases devices : registry.devicesAt pair with
  | nil => simp [devices] at standing
  | cons head rest =>
    cases rest with
    | nil => simpa [devices, eq_comm] using standing
    | cons _ _ => simp [devices] at bound

/-- An enabled device with a type and a location is the one in the index. -/
theorem pairIndex_get?_of_standing (made : registry.generate options time = .ok artifact)
    {device : Device} {pair : Pair} (standing : device ∈ registry.devicesAt pair) :
    artifact.pairIndex.get? pair = some device.id := by
  have alone := devicesAt_eq_singleton made standing
  obtain ⟨_, _, _, _, rfl⟩ := generate_ok made
  rw [SortedMap.get?_mapValues, get?_addressed, alone]
  rfl

/-- The artifact has the vocabulary of every type in its index. -/
theorem vocabularies_get?_of_indexed
    (made : registry.generate options time = .ok artifact) {pair : Pair} {id : DeviceId}
    {actions : List Action} (indexed : artifact.pairIndex.get? pair = some id)
    (known : registry.vocabulary pair.deviceType = some actions) :
    artifact.vocabularies.get? pair.deviceType = some actions := by
  obtain ⟨_, _, sections, read, rfl⟩ := generate_ok made
  rw [SortedMap.get?_mapValues] at indexed
  obtain ⟨device, addressed, _⟩ := Option.map_eq_some_iff.mp indexed
  obtain ⟨part, member, deviceType⟩ :=
    exists_section read (mem_typesInUse_iff.mpr ⟨pair.location, device, addressed⟩)
  have vocabulary {part : Grammar.Section} (member : part ∈ sections)
      (deviceType : part.deviceType = pair.deviceType) : part.actions = actions := by
    obtain ⟨_, spoken, _⟩ := section_of_mem read member
    rw [deviceType, known] at spoken
    exact (Option.some.inj spoken).symm
  refine SortedMap.get?_ofList_of_mem (List.mem_map.mpr ⟨part, member, ?_⟩) ?_
  · rw [deviceType, vocabulary member deviceType]
  · intro other listed
    obtain ⟨part', member', same⟩ := List.mem_map.mp listed
    obtain ⟨deviceType', rfl⟩ := Prod.mk.inj same
    exact vocabulary member' deviceType'

/-- Whatever the index has can be spoken of. -/
theorem exists_sentence (sound : registry.Sound)
    (made : registry.generate options time = .ok artifact) {pair : Pair} {id : DeviceId}
    (indexed : artifact.pairIndex.get? pair = some id) :
    ∃ sentence : Sentence, sentence.pair = pair ∧ sentence.AdmittedBy registry artifact := by
  obtain ⟨device, alone, _⟩ := devicesAt_of_pairIndex made indexed
  obtain ⟨enabled, classified⟩ :=
    mem_devicesAt_iff.mp (show device ∈ registry.devicesAt pair by simp [alone])
  obtain ⟨⟨key, found⟩, _⟩ := mem_enabledDevices_iff.mp enabled
  obtain ⟨typed, _⟩ := Device.pair_eq_some_iff.mp classified
  obtain ⟨actions, known⟩ := sound.consistent.typed key device pair.deviceType found typed
  obtain ⟨action, listed⟩ := List.exists_mem_of_ne_nil _ (sound.vocabularies _ _ known).1
  cases ofKind : action.valueKind with
  | none =>
    refine ⟨⟨pair, action, none⟩, rfl, ⟨id, indexed⟩, ⟨actions, known, listed⟩, ?_⟩
    simp [Sentence.ValuedBy, ofKind]
  | some kind =>
    refine ⟨⟨pair, action, some GrammarOptions.lastValue⟩, rfl, ⟨id, indexed⟩,
      ⟨actions, known, listed⟩, ?_⟩
    simp [Sentence.ValuedBy, ofKind, GrammarOptions.mem_values_iff]

/-- The text of a generated grammar reads as one that derives the sentences of its registry. -/
theorem exists_language (sound : registry.Sound)
    (made : registry.generate options time = .ok artifact) :
    ∃ grammar, Gbnf.Grammar.ofText? artifact.grammarText.toList = some grammar ∧
      (grammar.rules.map (·.name)).Nodup ∧ grammar.Closed ∧
      ∀ text, grammar.Language text ↔
        ∃ sentence : Sentence, sentence.AdmittedBy registry artifact ∧ text = sentence.text := by
  obtain ⟨sections, read, grammar⟩ := exists_grammar sound made
  refine ⟨_, grammar, Grammar.nodup_names sections options registry.version,
    Grammar.closed_ofSections sections options registry.version, fun text => ?_⟩
  have whole := @Gbnf.Grammar.language_iff_of_rules
    ⟨[], (Grammar.ofSections sections options registry.version).rules⟩ text
    (Grammar.ofSections sections options registry.version) rfl
  rw [whole, Grammar.language_ofSections_iff]
  constructor
  · rintro ⟨part, member, sentence, covered, same⟩
    exact ⟨sentence, (covers_iff_admittedBy made read).mp ⟨part, member, covered⟩, same⟩
  · rintro ⟨sentence, admitted, same⟩
    obtain ⟨part, member, covered⟩ := (covers_iff_admittedBy made read).mpr admitted
    exact ⟨part, member, sentence, covered, same⟩

/-- The text of a generated grammar reads as one in which every rule is defined once and every rule
that is referred to is there. It derives the sentences that the index, the vocabularies and the
options admit and nothing else, so none about a pair that is not in the index, and some about every
enabled device with a type and a location. -/
theorem language_iff_admittedBy (reached : registry.Reachable)
    (made : registry.generate options time = .ok artifact) :
    artifact.options = options ∧
    (∀ kind, (options.values kind).Pairwise (· < ·) ∧
      ∀ value, value ∈ options.values kind ↔
        value = GrammarOptions.firstValue kind ∨
          (GrammarOptions.firstValue kind < value ∧ value < 100 ∧ options.step kind ∣ value) ∨
          value = 100) ∧
    ∃ grammar, Gbnf.Grammar.ofText? artifact.grammarText.toList = some grammar ∧
      (grammar.rules.map (·.name)).Nodup ∧ grammar.Closed ∧
      (∀ text, grammar.Language text ↔
        ∃ sentence : Sentence, sentence.AdmittedBy registry artifact ∧ text = sentence.text) ∧
      (∀ sentence : Sentence, grammar.Language sentence.text →
        ∃ id, artifact.pairIndex.get? sentence.pair = some id) ∧
      ∀ id device pair, registry.get? id = some device → device.enabled = true →
        device.pair = some pair →
        artifact.pairIndex.get? pair = some id ∧
          ∃ sentence : Sentence, sentence.pair = pair ∧ grammar.Language sentence.text := by
  have sound := reached.sound
  refine ⟨generate_options made, fun kind => ⟨GrammarOptions.pairwise_values options kind,
    fun _ => GrammarOptions.mem_values_iff⟩, ?_⟩
  obtain ⟨grammar, read, defined, closed, language⟩ := exists_language sound made
  refine ⟨grammar, read, defined, closed, language, ?_, ?_⟩
  · intro sentence derived
    obtain ⟨other, admitted, same⟩ := (language _).mp derived
    exact (Sentence.eq_of_text same).1 ▸ admitted.indexed
  · intro id device pair found enabled classified
    have standing : device ∈ registry.devicesAt pair :=
      mem_devicesAt_iff.mpr ⟨mem_enabledDevices_iff.mpr ⟨⟨id, found⟩, enabled⟩, classified⟩
    have indexed := pairIndex_get?_of_standing made standing
    rw [sound.owned id device found] at indexed
    obtain ⟨sentence, about, admitted⟩ := exists_sentence sound made indexed
    exact ⟨indexed, sentence, about, (language _).mpr ⟨sentence, admitted, rfl⟩⟩

section Rooms

def tvRoom : DeviceType := ⟨"tv room", by decide, by decide +kernel, "tv room", by decide +kernel⟩

def tvDashRoom : DeviceType :=
  ⟨"tv-room", by decide, by decide +kernel, "tv-room", by decide +kernel⟩

def kidsRoom : Location :=
  ⟨"kid's room", by decide, by decide +kernel, "kid's room", by decide +kernel⟩

def television (text : String) (notBlank : Text.trim text.toList ≠ []) (deviceType : DeviceType) :
    Device where
  id := ⟨text, notBlank⟩
  deviceType := some deviceType
  location := some kidsRoom

/-- Two types ask for one stem, one of them has only an action with a value, and the one in the
garden is not enabled. -/
def rooms : Except ConfigurationError Registry :=
  Registry.restore 7 [(tvRoom, [.setPercent]), (tvDashRoom, [.on, .setTemperature])]
    [kidsRoom, garden]
    [television "a" (by decide +kernel) tvRoom, television "b" (by decide +kernel) tvDashRoom,
      { television "c" (by decide +kernel) tvRoom with location := some garden, enabled := false }]

theorem language_iff_admittedBy_rooms :
    ∃ registry artifact grammar, rooms = .ok registry ∧ registry.Reachable ∧
      registry.generate ⟨0, 4000000000⟩ ⟨0, 0⟩ = .ok artifact ∧
      Gbnf.Grammar.ofText? artifact.grammarText.toList = some grammar ∧
      grammar.Language (Sentence.text ⟨⟨tvDashRoom, kidsRoom⟩, .setTemperature, some 100⟩) ∧
      ¬ grammar.Language (Sentence.text ⟨⟨tvRoom, garden⟩, .setPercent, some 50⟩) := by
  have parts : (rooms.toOption.bind fun registry =>
      (registry.generate ⟨0, 4000000000⟩ ⟨0, 0⟩).toOption.map fun artifact =>
        (registry.vocabulary tvDashRoom,
          (artifact.pairIndex.get? ⟨tvDashRoom, kidsRoom⟩).isSome,
          (artifact.pairIndex.get? ⟨tvRoom, garden⟩).isNone)) =
        some (some [.on, .setTemperature], true, true) := by decide +kernel
  obtain ⟨registry, restored, parts⟩ := Option.bind_eq_some_iff.mp parts
  obtain ⟨artifact, made, parts⟩ := exists_of_toOption_map parts
  obtain ⟨vocabulary, parts⟩ := Prod.mk.inj parts
  obtain ⟨indexed, absent⟩ := Prod.mk.inj parts
  have restored := toOption_eq_some.mp restored
  have reached : registry.Reachable := ⟨registry, [], .restored restored, rfl⟩
  obtain ⟨options, _, grammar, read, _, _, language, others, _⟩ :=
    language_iff_admittedBy reached made
  refine ⟨registry, artifact, grammar, restored, reached, made, read, ?_, ?_⟩
  · refine (language _).mpr ⟨_, ⟨Option.isSome_iff_exists.mp indexed, ⟨_, vocabulary, ?_⟩, ?_⟩, rfl⟩
    · decide
    · rw [options]
      exact ⟨100, by decide, rfl⟩
  · intro derived
    obtain ⟨id, present⟩ := others _ derived
    rw [Option.isNone_iff_eq_none.mp absent] at present
    cases present

end Rooms

end Registry

end HomeVoice
