import HomeVoice.Proofs.Store.Registry
import HomeVoice.Proofs.System.Dispatch
import HomeVoice.Proofs.System.Effects

/-!
# What is published is stored

The tables always hold the registry that was published last, or nothing before the first commit.
That is so through edits that fail, commits that fail and any number of starts. The registry that
is loaded is compared with `==`: a batch that changes a device and changes it back may leave a zero
with another sign, and that is no change to be committed.
-/

namespace HomeVoice.System

open Hub (Process)
open Store (Database Tables)

variable {system after : System Database} {event : Event Database}

/-- The bounds of all ranges survive being written and read, and nobody else writes to the tables,
which may be out of reach at any time. -/
def KeepsTables (system : System Database) : Event Database → Prop
  | .edit edit => edit.RangesIn ValueRange.Survives
  | .disturb store => store.tables = system.store.tables
  | _ => True

/-- The tables hold this registry, which is the same as the one that was published last. -/
structure Stores (system : System Database) (stored : Registry) : Prop where
  encodes : system.store.tables.Encodes stored
  same : stored.Same system.registry
  sound : system.registry.Sound
  survive : stored.RangesIn ValueRange.Survives
  ranges : system.registry.RangesIn ValueRange.Survives
  version : system.store.tables.version =
    if system.commits = 0 then none else some (stored.version.toNat : Int)
  fresh : system.commits = 0 → system.registry = .empty

theorem stores_first (options : GrammarOptions) (debounce now : Nat) :
    (first ({} : Database) options debounce now).Stores .empty where
  encodes := Tables.encodes_empty
  same := .refl _
  sound := Registry.sound_empty
  survive id device found := by cases found
  ranges id device found := by cases found
  version := rfl
  fresh _ := rfl

variable {stored : Registry}

theorem Stores.load (stores : system.Stores stored) :
    system.store.tables.load = .ok (if system.commits = 0 then none else some stored) := by
  by_cases fresh : system.commits = 0
  · have version := stores.version
    rw [if_pos fresh] at version ⊢
    unfold Tables.load
    rw [version]
    rfl
  · have version := stores.version
    rw [if_neg fresh] at version ⊢
    exact stores.encodes.load (stores.same.symm.sound stores.sound) stores.survive version

/-- What is loaded, or the empty registry if there is nothing, is the same as the one that was
published last. -/
theorem Stores.same_of_load (stores : system.Stores stored) {loaded : Option Registry}
    (found : system.store.tables.load = .ok loaded) : (loaded.getD .empty).Same system.registry := by
  cases stores.load.symm.trans found
  by_cases fresh : system.commits = 0
  · rw [if_pos fresh, stores.fresh fresh]
    exact .refl _
  · rw [if_neg fresh]
    exact stores.same

/-- What does not touch the registry and its tables keeps them in step. -/
theorem Stores.frame (stores : system.Stores stored)
    (rows : after.store.tables.SameRegistry system.store.tables)
    (registry : after.registry = system.registry) (commits : after.commits = system.commits) :
    after.Stores stored where
  encodes :=
    { deviceTypes := rows.deviceTypes ▸ stores.encodes.deviceTypes
      locations := rows.locations ▸ stores.encodes.locations
      devices := rows.devices ▸ stores.encodes.devices }
  same := registry ▸ stores.same
  sound := registry ▸ stores.sound
  survive := stores.survive
  ranges := registry ▸ stores.ranges
  version := by
    rw [rows.version, commits]
    exact stores.version
  fresh := by
    rw [registry, commits]
    exact stores.fresh

/-- The changes to the registry are committed before it is published. -/
theorem Stores.commit (stores : system.Stores stored) {next : Registry} {count : Nat}
    {store : Database} (changes : Registry.Changes ValueRange.Survives count system.registry next)
    (written : system.store.tables.commit (.between system.registry next) = .ok store.tables) :
    (system.commit next store).Stores ((Changeset.between system.registry next).overlay stored) := by
  have sound := changes.sound stores.sound
  have laid := Changeset.overlay_between changes.extensive sound stores.same
  have ranges := changes.rangesIn stores.ranges
  exact
    { encodes := stores.encodes.commit written
      same := laid
      sound
      survive := Registry.RangesIn.overlay stores.survive ranges
      ranges
      version := (Tables.commit_eq_ok written).2.1
      fresh := nofun }

/-- A start on the stored registry. -/
theorem Stores.restart (stores : system.Stores stored) {loaded : Option Registry}
    (options : GrammarOptions) (debounce : Nat) (found : system.store.tables.load = .ok loaded) :
    (system.boot options debounce loaded).Stores stored := by
  have same := found.symm.trans stores.load
  by_cases fresh : system.commits = 0
  · rw [if_pos fresh] at same
    cases same
    have registry : system.registry = .empty := stores.fresh fresh
    exact stores.frame (.refl _) registry.symm rfl
  · rw [if_neg fresh] at same
    cases same
    exact
      { encodes := stores.encodes
        same := .refl stored
        sound := stores.same.symm.sound stores.sound
        survive := stores.survive
        ranges := stores.survive
        version := stores.version
        fresh := fun none => absurd none fresh }

theorem KeepsTables.undisturbed (kept : KeepsTables system event) : Undisturbed system event := by
  cases event with
  | disturb store => exact kept
  | _ => trivial

theorem Stores.step (stores : system.Stores stored) (step : Step system event after)
    (kept : KeepsTables system event) : ∃ stored, after.Stores stored := by
  cases step.effect kept.undisturbed with
  | rest registry commits rows => exact ⟨stored, stores.frame rows registry commits⟩
  | commit asked done _ written =>
    subst asked
    obtain ⟨count, _, changes⟩ :=
      Hub.RegistryEdit.changes_of_run stores.sound stores.ranges kept done
    exact ⟨_, stores.commit changes written⟩
  | boot _ found => exact ⟨stored, stores.restart _ _ found⟩

theorem stores_of_reachable {options : GrammarOptions} {debounce now : Nat}
    (reached : Reachable KeepsTables (first {} options debounce now) system) :
    ∃ stored, system.Stores stored := by
  induction reached with
  | start => exact ⟨_, stores_first options debounce now⟩
  | step _ step kept ih =>
    obtain ⟨stored, stores⟩ := ih
    exact stores.step step kept

/-- However the system came where it is: loading the tables gives a registry equal to the one that
was published last, or none exactly when nothing was ever committed and that one is empty. An edit
that is answered with an error leaves tables and registry as they were. -/
theorem load_eq_published {options : GrammarOptions} {debounce now : Nat}
    (reached : Reachable KeepsTables (first {} options debounce now) system) :
    (∃ loaded, system.store.tables.load = .ok loaded ∧
      (loaded = none ↔ system.commits = 0 ∧ system.registry = .empty) ∧
      ∀ registry ∈ loaded, (registry == system.registry) = true) ∧
    ∀ edit error, (system.edit edit).1 = .error error → (system.edit edit).2 = system := by
  obtain ⟨stored, stores⟩ := stores_of_reachable reached
  refine ⟨⟨_, stores.load, ?_, ?_⟩, ?_⟩
  · by_cases fresh : system.commits = 0
    · simp [fresh, stores.fresh fresh]
    · simp [fresh]
  · intro registry found
    split at found
    · cases found
    · cases found
      exact Registry.beq_iff_same.mpr stores.same
  · intro edit error failed
    rcases system.edit_cases edit with same | ⟨answer, next, store, _, _, _, edited⟩
    · exact same
    · rw [edited] at failed
      cases failed

/-- A call takes permitted steps if what it asks for is permitted. -/
theorem keepsTables_of_takes {call : Hub.Call Database} (takes : call.Takes system event)
    (survive : ∀ change, call = .edit change → change.RangesIn ValueRange.Survives)
    (untouched : ∀ change dispatcher, call = .disturb change dispatcher →
      ∀ store, (change store).tables = store.tables) : KeepsTables system event := by
  have undisturbed := undisturbed_of_takes takes untouched
  cases event with
  | disturb store => exact undisturbed
  | edit edit => exact survive edit (Hub.Call.eq_of_takes_edit takes)
  | _ => trivial

/-- Whatever a hub that was started on new tables is asked, and however often it starts again, the
tables hold the registry that it published last. -/
theorem load_of_calls {settings : HubSettings} {dispatcher : Hub.Dispatcher} {now : Nat}
    {started hub : Hub Database} {calls : List (Hub.Call Database)}
    (opened : Hub.start { store := ({} : Database), dispatcher, now } settings = .ok started)
    (called : calls.foldlM Hub.call started = .ok hub)
    (survive : ∀ change, .edit change ∈ calls → change.RangesIn ValueRange.Survives)
    (untouched : ∀ change dispatcher, .disturb change dispatcher ∈ calls →
      ∀ store, (change store).tables = store.tables) :
    ∃ loaded, hub.outside.store.tables.load = .ok loaded ∧
      (loaded.getD .empty == hub.registry) = true := by
  have reached : hub.Reached KeepsTables (first {} settings.options settings.debounce now) := by
    refine Hub.reached_of_calls opened called ?_
    intro call member system event takes
    refine keepsTables_of_takes takes ?_ ?_
    · rintro change rfl
      exact survive change (by simpa using member)
    · rintro change dispatcher rfl
      exact untouched change dispatcher (by simpa using member)
  obtain ⟨system, reached, represents⟩ := reached
  obtain ⟨stored, stores⟩ := stores_of_reachable reached
  rw [← represents.store, ← represents.registry]
  exact ⟨_, stores.load, Registry.beq_iff_same.mpr (stores.same_of_load stores.load)⟩

/-- The store may get out of reach, and in reach again, at any time. -/
theorem Reachable.outage {start : System Database} (reached : Reachable KeepsTables start system)
    (isBroken : Bool) :
    Reachable KeepsTables start { system with store := { system.store with isBroken } } :=
  reached.step (.disturb system { system.store with isBroken }) rfl

/-- A store that is out of reach lets no edit through. -/
theorem edit_of_isBroken (broken : system.store.isBroken = true) (edit : Hub.RegistryEdit) :
    (system.edit edit).2 = system := by
  rcases system.edit_cases edit with same | ⟨_, _, _, _, _, committed, _⟩
  · exact same
  · have reached := (Database.unlessBroken_eq_ok.mp committed).1
    rw [broken] at reached
    cases reached

section Dimmer

/-! The home with one lamp again, whose range has bounds between whole numbers. -/

def dimmed : ValueRange := ⟨0.5, 99.5, .percent, by decide +kernel, by decide +kernel⟩

theorem survives_dimmed : dimmed.Survives := ⟨by decide +kernel, by decide +kernel⟩

def dimmer : Device := { lamp with valueRange := some dimmed }

/-- Two edits are committed, one fails since the store is out of reach, and the system starts
again. -/
theorem load_eq_published_dimmer :
    ∃ system : System Database, Reachable KeepsTables (first {} {} 500 0) system ∧
      system.commits = 2 ∧ ∃ registry, system.store.tables.load = .ok (some registry) ∧
        (registry == system.registry) = true := by
  have survives : (Hub.RegistryEdit.upsertDevice dimmer).RangesIn ValueRange.Survives := by
    rintro range ⟨⟩
    exact survives_dimmed
  have edited : ∃ system, Reachable KeepsTables (first ({} : Database) {} 500 0) system ∧
      system.commits = 2 :=
    ⟨_, (Reachable.start.step (.edit _ (.addLocation lounge)) trivial).step
      (.edit _ (.upsertDevice dimmer)) survives, by decide +kernel⟩
  obtain ⟨system, edited, commits⟩ := edited
  have failed := (edited.outage true).step (.edit _ (.setEnabled lamp.id false)) trivial
  rw [edit_of_isBroken rfl] at failed
  obtain ⟨⟨loaded, found, _⟩, _⟩ := load_eq_published (failed.outage false)
  have again := (failed.outage false).step
    (.restart {} 500 (Database.unlessBroken_eq_ok.mpr ⟨rfl, found⟩)) trivial
  obtain ⟨⟨stored, load, nothing, equal⟩, _⟩ := load_eq_published again
  refine ⟨_, again, commits, ?_⟩
  cases stored with
  | none =>
    have fresh : system.commits = 0 := (nothing.mp rfl).1
    rw [commits] at fresh
    cases fresh
  | some registry => exact ⟨registry, load, equal registry rfl⟩

end Dimmer

end HomeVoice.System
