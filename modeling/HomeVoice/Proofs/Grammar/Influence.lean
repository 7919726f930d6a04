import HomeVoice.Proofs.Grammar.Verdict

/-!
# What no command can address has no influence on the grammar

Generation reads the enabled devices that have a type and a location, and of each of them its
identifier, its pair and its range; and it reads the vocabularies of their types. Registries that
agree on these, and differ in whatever else they hold, are refused with one error or have grammars
that differ in their times, their versions and the version in the first line of the text.
-/

namespace HomeVoice

open Time (Timestamp)

section Sight

variable {μ : Type} (view : ValueRange → μ)

/-- What is looked at in a device that stands under a pair, of its range only the `view`. -/
def Device.sight (device : Device) : DeviceId × Option μ :=
  (device.id, device.valueRange.map view)

/-- What can be addressed of a device: nothing unless it is enabled and has a type and a location. -/
def Device.addressee (device : Device) : Option (Pair × DeviceId × Option μ) :=
  device.address.map fun pair => (pair, device.sight view)

/-- The first line of a grammar for a registry of this version. -/
def Grammar.headLine (version : UInt64) : String :=
  "# " ++ s!"voicehub command grammar v{Grammar.formatVersion}, registry version {version}" ++ "\n"

/-- The version is in the first line of a grammar and nowhere else. -/
theorem Grammar.exists_text_ofSections (parts : List Grammar.Section) (options : GrammarOptions) :
    ∃ body, ∀ version : UInt64,
      (Grammar.ofSections parts options version).text = Grammar.headLine version ++ body := by
  refine ⟨String.ofList ((Grammar.ofSections parts options 0).rules.flatMap Gbnf.Rule.line), ?_⟩
  intro version
  apply String.toList_inj.mp
  simp [Gbnf.Grammar.text, Gbnf.Grammar.chars, Grammar.headLine, Grammar.ofSections]

end Sight

namespace Registry

/-- The same devices can be addressed in both registries, with the same vocabularies. -/
structure Agrees {μ : Type} (view : ValueRange → μ) (first second : Registry) : Prop where
  addressees : ∀ id, (first.get? id).bind (Device.addressee view) =
    (second.get? id).bind (Device.addressee view)
  vocabularies : ∀ id pair, first.Stands id pair →
    first.vocabulary pair.deviceType = second.vocabulary pair.deviceType

/-- Under a pair with a device there is one that stands there. -/
theorem exists_stands_of_addressed {registry : Registry} {pair : Pair} {device : Device}
    (addressed : registry.addressed.get? pair = some device) : ∃ id, registry.Stands id pair := by
  rw [get?_addressed] at addressed
  obtain ⟨listed, classified⟩ := mem_devicesAt_iff.mp (List.mem_of_getLast? addressed)
  obtain ⟨⟨id, found⟩, enabled⟩ := mem_enabledDevices_iff.mp listed
  exact ⟨id, device, found, enabled, Device.pair_eq_some_iff.mp classified⟩

/-- A device that cannot be addressed may take the place of another such one. -/
theorem addressee_put {μ : Type} (view : ValueRange → μ) {registry : Registry} {device : Device}
    (before : (registry.get? device.id).bind Device.address = none) (hidden : device.address = none)
    (id : DeviceId) :
    ((registry.put device).get? id).bind (Device.addressee view) =
      (registry.get? id).bind (Device.addressee view) := by
  rw [get?_put]
  split
  next here =>
    subst here
    cases found : registry.get? device.id with
    | none => simp [Device.addressee, hidden]
    | some other =>
      rw [found] at before
      have away : other.address = none := before
      simp [Device.addressee, hidden, away]
  · rfl

namespace Agrees

variable {μ : Type} {view : ValueRange → μ} {first second : Registry}

theorem devicesAt (agree : first.Agrees view second) (pair : Pair) :
    (first.devicesAt pair).map (Device.sight view) =
      (second.devicesAt pair).map (Device.sight view) := by
  have listed (registry : Registry) : (registry.devicesAt pair).map (Device.sight view) =
      ((registry.devices.filter fun _ device => device.address = some pair).mapValues
        (Device.sight view)).values := by
    rw [SortedMap.values_mapValues, SortedMap.values_filter]
    unfold Registry.devicesAt enabledDevices
    rw [List.filter_filter]
    congr 2
    funext device
    unfold Device.address
    cases device.enabled <;> simp
  have looked (registry : Registry) (id : DeviceId) :
      ((registry.devices.filter fun _ device => device.address = some pair).mapValues
        (Device.sight view)).get? id =
      ((registry.get? id).bind (Device.addressee view)).bind fun entry =>
        if entry.1 = pair then some entry.2 else none := by
    rw [SortedMap.get?_mapValues, SortedMap.get?_filter]
    unfold Registry.get?
    cases registry.devices.get? id with
    | none => rfl
    | some device =>
      cases address : device.address with
      | none => simp [Device.addressee, address]
      | some other => by_cases here : other = pair <;> simp [Device.addressee, address, here]
  rw [listed, listed]
  congr 1
  apply SortedMap.ext
  intro id
  rw [looked, looked, agree.addressees]

theorem conflicts (agree : first.Agrees view second) :
    first.validate.conflicts = second.validate.conflicts := by
  have groups : first.groups = second.groups := by
    apply SortedMap.ext
    intro pair
    have ids := congrArg (List.map Prod.fst) (agree.devicesAt pair)
    rw [List.map_map, List.map_map] at ids
    have same : (first.devicesAt pair).map (·.id) = (second.devicesAt pair).map (·.id) := ids
    have grouped (registry : Registry) : registry.groups.get? pair =
        if ((registry.devicesAt pair).map (·.id)).isEmpty then none
        else some ((registry.devicesAt pair).map (·.id)) := by
      rw [get?_groups]
      cases registry.devicesAt pair <;> rfl
    rw [grouped, grouped, same]
  unfold Registry.validate
  rw [groups]

theorem addressed (agree : first.Agrees view second) :
    first.addressed.mapValues (Device.sight view) =
      second.addressed.mapValues (Device.sight view) := by
  apply SortedMap.ext
  intro pair
  rw [SortedMap.get?_mapValues, SortedMap.get?_mapValues, get?_addressed, get?_addressed,
    ← List.getLast?_map, ← List.getLast?_map, agree.devicesAt]

theorem addressed_keys (agree : first.Agrees view second) :
    first.addressed.keys = second.addressed.keys := by
  rw [← SortedMap.keys_mapValues (Device.sight view), agree.addressed, SortedMap.keys_mapValues]

theorem addressed_isEmpty (agree : first.Agrees view second) :
    first.addressed.isEmpty = second.addressed.isEmpty := by
  rw [SortedMap.isEmpty_eq_keys, agree.addressed_keys, ← SortedMap.isEmpty_eq_keys]

theorem pairIndex (agree : first.Agrees view second) :
    first.addressed.mapValues (·.id) = second.addressed.mapValues (·.id) := by
  have seen (registry : Registry) : registry.addressed.mapValues (·.id) =
      (registry.addressed.mapValues (Device.sight view)).mapValues Prod.fst := by
    rw [SortedMap.mapValues_mapValues]
    rfl
  rw [seen, seen, agree.addressed]

theorem valueRanges (agree : first.Agrees view second) :
    (SortedMap.ofList (first.addressed.values.filterMap fun device =>
        device.valueRange.map (device.id, ·))).mapValues view =
      (SortedMap.ofList (second.addressed.values.filterMap fun device =>
        device.valueRange.map (device.id, ·))).mapValues view := by
  have seen (registry : Registry) :
      (registry.addressed.values.filterMap fun device =>
        device.valueRange.map (device.id, ·)).map (fun entry => (entry.1, view entry.2)) =
      (registry.addressed.mapValues (Device.sight view)).values.filterMap fun seen =>
        seen.2.map (seen.1, ·) := by
    rw [SortedMap.values_mapValues, List.filterMap_map, List.map_filterMap]
    congr 1
    funext device
    show (device.valueRange.map _).map _ = (device.valueRange.map view).map _
    rw [Option.map_map, Option.map_map]
    rfl
  rw [SortedMap.mapValues_ofList, SortedMap.mapValues_ofList, seen, seen, agree.addressed]

theorem typesInUse (agree : first.Agrees view second) : first.typesInUse = second.typesInUse := by
  unfold Registry.typesInUse
  rw [agree.addressed_keys]

theorem grammarSections (agree : first.Agrees view second) :
    first.grammarSections = second.grammarSections := by
  unfold Registry.grammarSections
  rw [← agree.typesInUse]
  refine mapM_congr fun deviceType used => ?_
  obtain ⟨location, device, addressed⟩ := mem_typesInUse_iff.mp used
  obtain ⟨id, standing⟩ := exists_stands_of_addressed addressed
  unfold Registry.grammarSection
  rw [agree.vocabularies id _ standing, agree.addressed_keys]

end Agrees

/-- Registries in which the same devices can be addressed, with the same vocabularies, are refused
with the same error, or give grammars for the same devices, with the same vocabularies and texts
but for the version in the first line, whatever else the registries hold and whenever it is done. -/
theorem generate_of_agrees {μ : Type} {view : ValueRange → μ} {first second : Registry}
    (agree : first.Agrees view second) (options : GrammarOptions) (time later : Timestamp) :
    (∃ error, first.generate options time = .error error ∧
      second.generate options later = .error error) ∨
    ∃ made other body,
      first.generate options time = .ok made ∧ second.generate options later = .ok other ∧
      made.grammarText = Grammar.headLine first.version ++ body ∧
      other.grammarText = Grammar.headLine second.version ++ body ∧
      made.pairIndex = other.pairIndex ∧ made.vocabularies = other.vocabularies ∧
      made.valueRanges.mapValues view = other.valueRanges.mapValues view ∧
      made.options = other.options ∧
      made.sourceVersion = first.version ∧ other.sourceVersion = second.version ∧
      made.generatedAt = time ∧ other.generatedAt = later := by
  rw [generate_eq_ite first, generate_eq_ite second, agree.conflicts, agree.addressed_isEmpty,
    agree.grammarSections]
  by_cases clear : second.validate.conflicts = []
  · rw [if_pos clear, if_pos clear]
    by_cases nothing : second.addressed.isEmpty = true
    · rw [if_pos nothing, if_pos nothing]
      exact .inl ⟨_, rfl, rfl⟩
    · rw [if_neg nothing, if_neg nothing]
      cases second.grammarSections with
      | error error => exact .inl ⟨_, rfl, rfl⟩
      | ok sections =>
        obtain ⟨body, text⟩ := Grammar.exists_text_ofSections sections options
        exact .inr ⟨_, _, body, rfl, rfl, text _, text _, agree.pairIndex, rfl, agree.valueRanges,
          rfl, rfl, rfl, rfl, rfl⟩
  · rw [if_neg clear, if_neg clear]
    exact .inl ⟨_, rfl, rfl⟩

section Rooms

theorem trim_c_ne_nil : Text.trim "c".toList ≠ [] := by decide +kernel

/-- The television in the garden with another type, and reported in another way. -/
def stowed : Device :=
  { television "c" trim_c_ne_nil tvDashRoom with
    location := some garden, enabled := false, raw := { domain := some "media_player" } }

/-- A television that stands nowhere yet. -/
def boxed : Device :=
  { television "box" (by decide +kernel) tvRoom with location := none }

theorem generate_of_agrees_rooms :
    ∃ registry, rooms = .ok registry ∧
      let other := { (registry.put stowed).put boxed with version := 99, locations := .empty }
      registry.Agrees id other ∧
        ∃ made again body, registry.generate {} ⟨0, 0⟩ = .ok made ∧
          other.generate {} ⟨5, 0⟩ = .ok again ∧
          made.grammarText = Grammar.headLine 7 ++ body ∧
          again.grammarText = Grammar.headLine 99 ++ body := by
  have parts : rooms.toOption.map (fun registry =>
      (registry.version, (registry.generate {} ⟨0, 0⟩).isOk,
        ((registry.get? stowed.id).bind Device.address).isNone,
        (registry.get? boxed.id).isNone)) = some (7, true, true, true) := by decide +kernel
  obtain ⟨registry, restored, parts⟩ := exists_of_toOption_map parts
  simp only [Prod.mk.injEq, Option.isNone_iff_eq_none] at parts
  obtain ⟨version, succeeds, garden, absent⟩ := parts
  obtain ⟨artifact, generated⟩ := exists_of_isOk succeeds
  have aside : ((registry.put stowed).get? boxed.id).bind Device.address = none := by
    rw [get?_put, if_neg (by decide +kernel), absent]
    rfl
  have agree : registry.Agrees id
      { (registry.put stowed).put boxed with version := 99, locations := .empty } :=
    ⟨fun key => ((addressee_put id aside rfl key).trans (addressee_put id garden rfl key)).symm,
      fun _ _ _ => rfl⟩
  refine ⟨registry, restored, agree, ?_⟩
  rcases generate_of_agrees agree {} ⟨0, 0⟩ ⟨5, 0⟩ with
    ⟨error, refused, _⟩ | ⟨made, again, body, first, second, text, text', _⟩
  · rw [generated] at refused
    cases refused
  · exact ⟨made, again, body, first, second, version ▸ text, text'⟩

end Rooms

end Registry

end HomeVoice
