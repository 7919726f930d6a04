import HomeVoice.Proofs.Registry.InPlace
import HomeVoice.Proofs.Store.Registry

/-!
# What a registry is like after any run of edits

A registry is new, restored from parts or loaded from tables, and then edited any number of times,
with and without success. At the end of such a run every device stands under its own identifier,
with a known type and a known location, the built-in types are all there and the declared ones are
others, every type has a vocabulary, and what was known once is known still.
-/

namespace HomeVoice

namespace Registry

namespace Operation

variable {registry next : Registry}

/-- An edit makes one elementary change at most. -/
theorem changes_of_run {operation : Operation} (sound : registry.Sound)
    (done : operation.run registry = .ok next) :
    ∃ count ≤ 1, Changes (fun _ => True) count registry next := by
  have ranges := registry.rangesIn_true
  cases operation with
  | upsert device => exact changes_of_upsert (run_upsert_eq_ok.mp done) fun _ _ => trivial
  | setEnabled id enabled =>
    obtain ⟨_, set⟩ := run_setEnabled_eq_ok.mp done
    exact changes_of_setEnabled sound ranges set
  | assign id deviceType location =>
    obtain ⟨_, assigned⟩ := run_assign_eq_ok.mp done
    exact changes_of_assign ranges assigned
  | addType deviceType actions => exact changes_of_addType (run_addType_eq_ok.mp done)
  | addLocation location =>
    cases done
    exact changes_of_addLocation registry location

end Operation

/-- Where a registry comes from before it is edited. -/
inductive Origin : Registry → Prop where
  | new : Origin .empty
  /-- A new registry was filled with parts, step by step. -/
  | filled {version : UInt64} {types : List (DeviceType × List Action)}
      {locations : List Location} {devices : List Device} {registry : Registry}
      (filled : (InPlace.restore version types locations devices).result .empty = .ok registry) :
      Origin registry
  | loaded {tables : Store.Tables} {registry : Registry}
      (loaded : tables.load = .ok (some registry)) : Origin registry

/-- The registry after a list of edits, each of which succeeds or fails. -/
def afterAll (registry : Registry) (operations : List Operation) : Registry :=
  operations.foldl Operation.after registry

/-- A registry that edits made of one that was new, restored or loaded. -/
def Reachable (registry : Registry) : Prop :=
  ∃ origin operations, Origin origin ∧ origin.afterAll operations = registry

/-- What is restored from parts is a new registry that is filled with them. -/
theorem Origin.restored {version : UInt64} {types : List (DeviceType × List Action)}
    {locations : List Location} {devices : List Device} {registry : Registry}
    (restored : Registry.restore version types locations devices = .ok registry) :
    Origin registry := by
  have filled := restore_inPlace version types locations devices
  rw [restored] at filled
  exact .filled filled

theorem Origin.sound {registry : Registry} (begun : Origin registry) : registry.Sound := by
  cases begun with
  | new => exact sound_empty
  | filled filled =>
    rw [restore_inPlace] at filled
    exact sound_of_restore (mapError_eq_ok.mp filled)
  | loaded loaded =>
    obtain ⟨_, _, _, _, restored⟩ := Store.Tables.restore_of_load loaded
    exact sound_of_restore restored

section Runs

variable {registry : Registry}

theorem afterAll_append (registry : Registry) (earlier later : List Operation) :
    registry.afterAll (earlier ++ later) = (registry.afterAll earlier).afterAll later :=
  List.foldl_append

/-- An edit, whether it succeeds or fails, leaves a sound registry sound and takes nothing away. -/
theorem Sound.after (sound : registry.Sound) (operation : Operation) :
    (operation.after registry).Sound ∧ (operation.after registry).Extends registry := by
  cases done : operation.run registry with
  | ok next =>
    obtain ⟨_, _, changes⟩ := Operation.changes_of_run sound done
    rw [Operation.after_of_ok sound.owned done]
    exact ⟨changes.sound sound, changes.extensive⟩
  | error error =>
    rw [Operation.after_of_error sound.owned done]
    exact ⟨sound, .refl registry⟩

theorem Sound.afterAll (sound : registry.Sound) (operations : List Operation) :
    (registry.afterAll operations).Sound ∧ (registry.afterAll operations).Extends registry := by
  induction operations generalizing registry with
  | nil => exact ⟨sound, .refl registry⟩
  | cons operation rest ih =>
    have ⟨first, extension⟩ := sound.after operation
    have ⟨last, others⟩ := ih first
    exact ⟨last, others.trans extension⟩

theorem Reachable.sound (reached : registry.Reachable) : registry.Sound := by
  obtain ⟨origin, operations, begun, rfl⟩ := reached
  exact (begun.sound.afterAll operations).1

end Runs

/-- What is true of a registry between any two edits. -/
structure Consistent (registry : Registry) : Prop where
  owned : ∀ id device, registry.get? id = some device → device.id = id
  typed : ∀ id device deviceType, registry.get? id = some device →
    device.deviceType = some deviceType → ∃ actions, registry.vocabulary deviceType = some actions
  located : ∀ id device location, registry.get? id = some device →
    device.location = some location → registry.knowsLocation location = true
  vocabularies : ∀ deviceType actions, registry.vocabulary deviceType = some actions →
    actions ≠ [] ∧ actions.Nodup
  builtin : ∀ line ∈ builtinVocabularies, ∃ deviceType : DeviceType, deviceType.text = line.1 ∧
    registry.vocabulary deviceType = some line.2
  known : ∀ deviceType, deviceType ∈ registry.deviceTypes.keys ↔
    deviceType.text ∈ builtinVocabularies.map Prod.fst ∨ deviceType ∈ registry.customTypes.keys
  disjoint : ∀ deviceType ∈ registry.customTypes.keys,
    deviceType.text ∉ builtinVocabularies.map Prod.fst

theorem Sound.consistent {registry : Registry} (sound : registry.Sound) :
    registry.Consistent where
  owned := sound.owned
  typed id device deviceType found has :=
    knowsType_iff.mp
      ((checkMembership_eq_ok_iff.mp (sound.placed id device found)).1 deviceType has)
  located id device location found has :=
    (checkMembership_eq_ok_iff.mp (sound.placed id device found)).2 location has
  vocabularies := sound.vocabularies
  builtin line member := by
    obtain ⟨⟨deviceType, _, text⟩, builtin, _⟩ := builtinVocabularies_names line member
    refine ⟨deviceType, text, sound.builtin deviceType line.2 ?_⟩
    rw [builtinTypes_get?, text, builtin]
  known deviceType := by
    have builtin := @Sound.knowsType_of_builtin _ sound deviceType
    rw [SortedMap.mem_keys_iff, ← SortedMap.contains_iff, SortedMap.mem_keys_iff,
      ← SortedMap.contains_iff, sound.declared, ← isSome_builtinVocabulary?_iff,
      ← builtinTypes_get?]
    show registry.knowsType deviceType = true ↔ _
    cases known : builtinTypes.get? deviceType with
    | none => simp
    | some _ => simp [builtin (known ▸ rfl)]
  disjoint deviceType declared := by
    rw [SortedMap.mem_keys_iff, ← SortedMap.contains_iff, sound.declared] at declared
    rw [← isSome_builtinVocabulary?_iff, ← builtinTypes_get?, declared.2]
    exact Bool.false_ne_true

/-- After any edits a registry is consistent, and at each point of them it knew nothing that it does
not know, and know alike, at the end. -/
theorem consistent_afterAll {origin : Registry} (begun : Origin origin)
    (operations : List Operation) :
    (origin.afterAll operations).Consistent ∧
      ∀ earlier, earlier <+: operations →
        (∀ deviceType actions, (origin.afterAll earlier).vocabulary deviceType = some actions →
          (origin.afterAll operations).vocabulary deviceType = some actions) ∧
        ∀ location, (origin.afterAll earlier).knowsLocation location = true →
          (origin.afterAll operations).knowsLocation location = true := by
  constructor
  · exact (begun.sound.afterAll operations).1.consistent
  · rintro earlier ⟨later, rfl⟩
    have ⟨sound, _⟩ := begun.sound.afterAll earlier
    have ⟨_, extension⟩ := sound.afterAll later
    rw [afterAll_append]
    exact ⟨extension.types, extension.locations⟩

section Garden

def garden : Location := ⟨"garden", by decide, by decide +kernel, "garden", by decide +kernel⟩

def sprinkler : DeviceType :=
  ⟨"sprinkler", by decide, by decide +kernel, "sprinkler", by decide +kernel⟩

def hose : Device where
  id := ⟨"garden.hose", by decide +kernel⟩
  deviceType := some sprinkler
  location := some garden

/-- Declaring the sprinkler again is refused, and so is a device that no registry has. -/
def gardening : List Operation :=
  [.addType sprinkler [.open, .close], .setEnabled hose.id false,
    .setEnabled ⟨"garden.pond", by decide +kernel⟩ true, .addLocation garden]

theorem consistent_afterAll_gardening :
    ∃ origin, Registry.restore 3 [(sprinkler, [.on, .off, .on])] [garden] [hose] = .ok origin ∧
      (origin.afterAll gardening).Consistent ∧
      (origin.afterAll gardening).vocabulary sprinkler = some [.on, .off] ∧
      (origin.afterAll gardening).knowsLocation garden = true := by
  have parts : (Registry.restore 3 [(sprinkler, [.on, .off, .on])] [garden] [hose]).toOption.map
      (fun origin => (origin.vocabulary sprinkler, origin.knowsLocation garden)) =
        some (some [.on, .off], true) := by decide +kernel
  obtain ⟨origin, restored, parts⟩ := exists_of_toOption_map parts
  obtain ⟨declared, located⟩ := Prod.mk.inj parts
  have ⟨consistent, kept⟩ := consistent_afterAll (.restored restored) gardening
  have ⟨vocabularies, locations⟩ := kept [] List.nil_prefix
  exact ⟨origin, restored, consistent, vocabularies _ _ declared, locations _ located⟩

end Garden

end Registry

end HomeVoice
