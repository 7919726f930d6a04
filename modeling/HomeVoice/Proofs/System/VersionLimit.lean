import HomeVoice.Proofs.Import.Items
import HomeVoice.Proofs.System.WarmStart

/-!
# The version never runs over

The version of the registry has 64 bits and is stored in a column of 63 and a sign. A start takes
in no version beyond the column, a commit writes none, and between the two one edit cannot raise the
version on its own copy so far that it starts again at zero. So the column is the only limit: an
edit that would lead beyond it fails at the commit, and all is as it was before.
-/

namespace HomeVoice

open Hub (RegistryEdit)
open Store (Database Tables)

/-- The greatest version that the store has room for. -/
def versionLimit : Nat := 0x7FFFFFFFFFFFFFFF

namespace Registry

/-- Elementary changes one after the other, each of which raises the version as a number. -/
inductive Climbs : Nat → Registry → Registry → Prop where
  | none (registry : Registry) : Climbs 0 registry registry
  | more {count : Nat} {first second third : Registry} (before : Climbs count first second)
      (change : Change (fun _ => True) second third)
      (raised : third.version.toNat = second.version.toNat + 1) : Climbs (count + 1) first third

variable {count : Nat} {first second : Registry}

theorem Climbs.version (climbs : Climbs count first second) :
    second.version.toNat = first.version.toNat + count := by
  induction climbs with
  | none => rfl
  | more _ _ raised ih => rw [raised, ih, Nat.add_assoc]

/-- Changes raise the version one by one as long as there is room for all of them. -/
theorem Changes.climbs (changes : Changes (fun _ => True) count first second)
    (room : first.version.toNat + count < 0x10000000000000000) : Climbs count first second := by
  induction changes with
  | none => exact .none _
  | @more count first second third _ change ih =>
    have climbs := ih (by omega)
    have below := climbs.version
    refine .more climbs change ?_
    rw [change.version, UInt64.toNat_add]
    show (second.version.toNat + 1) % 0x10000000000000000 = _
    omega

end Registry

/-- Whatever the tables load as has the stored version. -/
theorem Store.Tables.version_of_load {tables : Tables} {loaded : Option Registry}
    (found : tables.load = .ok loaded)
    (column : ∀ version ∈ tables.version, version ≤ versionLimit) :
    (loaded.getD .empty).version.toNat ≤ versionLimit ∧
      (tables.version = some ((loaded.getD .empty).version.toNat : Int) ∨
        tables.version = none ∧ loaded.getD .empty = .empty) := by
  rcases load_cases found with ⟨fresh, rfl⟩ | ⟨version, registry, stored, positive, rfl, _, _, _,
    restored⟩
  · exact ⟨Nat.zero_le _, .inr ⟨fresh, rfl⟩⟩
  · have small := column version stored
    have same : (registry.version.toNat : Int) = version := by
      rw [Registry.version_of_restore restored, UInt64.toNat_ofNat']
      unfold versionLimit at small
      omega
    refine ⟨?_, .inl ?_⟩
    · show registry.version.toNat ≤ versionLimit
      omega
    · show tables.version = some (registry.version.toNat : Int)
      rw [same, stored]

namespace System

/-- The registry is sound, its version has room in the store, and it is the stored one. -/
structure Counted (system : System Database) : Prop where
  sound : system.registry.Sound
  small : system.registry.version.toNat ≤ versionLimit
  stored : system.store.tables.version = some (system.registry.version.toNat : Int) ∨
    system.store.tables.version = none ∧ system.registry = .empty

variable {system after : System Database} {event : Event Database}

theorem counted_boot {loaded : Option Registry} {options : GrammarOptions} {debounce : Nat}
    (found : system.store.tables.load = .ok loaded)
    (column : ∀ version ∈ system.store.tables.version, version ≤ versionLimit) :
    (system.boot options debounce loaded).Counted := by
  obtain ⟨small, stored⟩ := Tables.version_of_load found column
  exact ⟨Tables.sound_of_load found, small, stored⟩

theorem Counted.column (counted : system.Counted) :
    ∀ version ∈ system.store.tables.version, version ≤ versionLimit := by
  intro version listed
  have small := counted.small
  rcases counted.stored with stored | ⟨fresh, _⟩
  · cases stored.symm.trans listed
    omega
  · cases fresh.symm.trans listed

theorem Counted.step (counted : system.Counted) (step : Step system event after)
    (undisturbed : Undisturbed system event) : after.Counted := by
  have effect := step.effect undisturbed
  have sound := effect.sound counted.sound
  cases effect with
  | rest registry _ rows =>
    refine ⟨sound, registry ▸ counted.small, ?_⟩
    rw [rows.version, registry]
    exact counted.stored
  | commit _ done _ written =>
    obtain ⟨small, stored, _⟩ := Tables.commit_eq_ok written
    exact ⟨sound, Nat.le_of_lt_succ small, .inl stored⟩
  | boot _ found => exact counted_boot found counted.column

theorem Counted.reachable (counted : system.Counted)
    (reached : Reachable Undisturbed system after) : after.Counted := by
  induction reached with
  | start => exact counted
  | step _ step undisturbed ih => exact ih.step step undisturbed

end System

namespace Hub

/-- The version of the published registry has room in the store and is the stored one. -/
structure WithinLimit (hub : Hub Database) : Prop where
  published : hub.registry.version.toNat ≤ versionLimit
  stored : hub.outside.store.tables.version = some (hub.registry.version.toNat : Int) ∨
    hub.outside.store.tables.version = none ∧ hub.registry = .empty

/-- How an edit ends. Its own copy of the registry climbs; where it would climb beyond the limit, or
the store is out of reach, the edit fails and leaves the hub with its tables as it was. -/
inductive KeepsLimit (hub : Hub Database) (edit : RegistryEdit) : Prop where
  /-- A batch is never refused, and any other edit is refused before it raises the version. -/
  | refused {error : Error} (failed : edit.run hub.registry = .error error)
      (single : ∀ batch, edit ≠ .importDevices batch)
      (answered : hub.edit edit.run = (.error error, hub))
  /-- An edit that changes nothing succeeds whatever the version is. -/
  | idle {answer : edit.Answer} (done : edit.run hub.registry = .ok (answer, hub.registry))
      (answered : hub.edit edit.run = (.ok answer, hub))
  | beyond {answer : edit.Answer} {next : Registry} {count : Nat}
      (done : edit.run hub.registry = .ok (answer, next)) (climbs : hub.registry.Climbs count next)
      (large : versionLimit < next.version.toNat) {fault : StorageError}
      (cause : hub.outside.store.isBroken = false → fault = .versionOutOfRange)
      (answered : hub.edit edit.run = (.error (.storage fault), hub))
  | unreachable {answer : edit.Answer} {next : Registry} {count : Nat}
      (done : edit.run hub.registry = .ok (answer, next))
      (climbs : hub.registry.Climbs (count + 1) next) (small : next.version.toNat ≤ versionLimit)
      (broken : hub.outside.store.isBroken = true)
      (answered : hub.edit edit.run = (.error (.storage .database), hub))
  | published {answer : edit.Answer} {next : Registry} {count : Nat} {after : Hub Database}
      (done : edit.run hub.registry = .ok (answer, next))
      (climbs : hub.registry.Climbs (count + 1) next) (small : next.version.toNat ≤ versionLimit)
      (answered : hub.edit edit.run = (.ok answer, after)) (published : after.registry = next)
      (stored : after.outside.store.tables.version = some (next.version.toNat : Int))

/-- A commit beyond the limit fails. -/
theorem commit_of_large {store : Database} {changes : Changeset}
    (large : versionLimit < changes.version.toNat) :
    ∃ fault, Storage.commit store changes = .error fault ∧
      (store.isBroken = false → fault = .versionOutOfRange) := by
  have refused : store.tables.commit changes = .error .versionOutOfRange := by
    have beyond : ¬ changes.version.toNat < 0x8000000000000000 := by
      unfold versionLimit at large
      omega
    unfold Tables.commit Store.storedVersion
    rw [if_neg beyond]
    rfl
  cases broken : store.isBroken with
  | true =>
    refine ⟨.database, ?_, nofun⟩
    show store.unlessBroken _ = _
    rw [Database.unlessBroken, broken]
    rfl
  | false =>
    refine ⟨.versionOutOfRange, ?_, fun _ => rfl⟩
    show store.unlessBroken _ = _
    rw [Database.unlessBroken, broken, refused]
    rfl

variable {hub : Hub Database} {system : System Database}

theorem Represents.withinLimit (represents : hub.Represents system) (counted : system.Counted) :
    hub.WithinLimit where
  published := represents.registry ▸ counted.small
  stored := by
    rw [← represents.store, ← represents.registry]
    exact counted.stored

theorem Represents.keepsLimit (represents : hub.Represents system) (counted : system.Counted)
    {edit : RegistryEdit} (fits : edit.FitsMemory) : hub.KeepsLimit edit := by
  have sound : hub.registry.Sound := represents.registry ▸ counted.sound
  have small : hub.registry.version.toNat ≤ versionLimit := represents.registry ▸ counted.small
  cases done : edit.run hub.registry with
  | error error =>
    refine .refused done ?_ (edit_of_error done)
    rintro batch rfl
    cases done.symm.trans (sound.run_importDevices batch)
  | ok outcome =>
    obtain ⟨answer, next⟩ := outcome
    obtain ⟨count, few, changes⟩ :=
      RegistryEdit.changes_of_run sound hub.registry.rangesIn_true edit.rangesIn_true done
    have climbs := changes.climbs (by
      have := fits.size_lt
      unfold versionLimit at small
      omega)
    have version := climbs.version
    cases count with
    | zero =>
      cases changes
      exact .idle done (edit_of_same done rfl)
    | succ count =>
      have changed : next.version ≠ hub.registry.version := by
        rw [Ne, ← UInt64.toNat_inj]
        omega
      by_cases large : versionLimit < next.version.toNat
      · obtain ⟨fault, lost, cause⟩ := @commit_of_large hub.outside.store
          (.between hub.registry next) large
        exact .beyond done climbs large cause (edit_of_lost done changed lost)
      · have fitting : next.version.toNat < 0x8000000000000000 := by
          unfold versionLimit at large
          omega
        cases broken : hub.outside.store.isBroken with
        | true =>
          have lost : Storage.commit hub.outside.store (.between hub.registry next) =
              .error .database := by
            show hub.outside.store.unlessBroken _ = _
            rw [Database.unlessBroken, broken]
            rfl
          exact .unreachable done climbs (Nat.not_lt.mp large) broken
            (edit_of_lost done changed lost)
        | false =>
          obtain ⟨store, committed, _⟩ := Database.exists_commit broken
            (.between hub.registry next) fitting
          obtain ⟨after, answered, published⟩ := edit_of_commit done changed committed
          obtain ⟨later, taken, represented⟩ := represents.edit edit
          rw [answered] at represented
          have counted := counted.reachable (taken.mono fun _ _ takes =>
            System.undisturbed_of_takes takes fun _ _ same => by cases same)
          refine .published done climbs (Nat.not_lt.mp large) answered published ?_
          rcases (represented.withinLimit counted).stored with stored | ⟨_, empty⟩
          · rw [stored, published]
          · have none : next.version.toNat = 0 := by
              rw [← published, empty]
              rfl
            omega

/-- Whatever is in the tables, if they can be loaded: after any calls the published version is the
stored one and within the limit, and an edit climbs step by step, is published if the store has room
for its version, and otherwise fails with a storage error and leaves all as it was. -/
theorem withinLimit_of_calls {tables : Tables} {loaded : Option Registry}
    (found : tables.load = .ok loaded) (column : ∀ version ∈ tables.version, version ≤ versionLimit)
    (dispatcher : Dispatcher) (now : Nat) (settings : HubSettings) :
    ∃ started,
      Hub.start { store := ({ tables } : Database), dispatcher, now } settings = .ok started ∧
      started.registry = loaded.getD .empty ∧
      ∀ (calls : List (Call Database)) (hub : Hub Database),
        calls.foldlM Hub.call started = .ok hub →
        (∀ change dispatcher, Call.disturb change dispatcher ∈ calls →
          ∀ store : Database, (change store).tables = store.tables) →
        hub.WithinLimit ∧ ∀ edit : RegistryEdit, edit.FitsMemory → hub.KeepsLimit edit := by
  have loads : Storage.loadRegistry ({ tables } : Database) = .ok loaded :=
    Database.unlessBroken_eq_ok.mpr ⟨rfl, found⟩
  obtain ⟨started, opened, registry⟩ :=
    @exists_start Database _ { store := { tables }, dispatcher, now } loaded loads settings
  refine ⟨started, opened, registry, ?_⟩
  intro calls hub called untouched
  let origin := (System.first ({ tables } : Database) settings.options settings.debounce now).boot
    settings.options settings.debounce loaded
  have around : Surroundings.Around { store := ({ tables } : Database), dispatcher, now } origin :=
    ⟨rfl, rfl, rfl⟩
  have booted := (reached_of_start around opened).mono fun _ _ takes =>
    System.undisturbed_of_takes takes fun _ _ same => by cases same
  obtain ⟨system, reached, represents⟩ := booted.calls called fun call member _ _ takes =>
    System.undisturbed_of_takes takes fun change dispatcher same =>
      untouched change dispatcher (same ▸ member)
  have counted : system.Counted := (System.counted_boot found column).reachable reached
  exact ⟨represents.withinLimit counted, fun edit fits => represents.keepsLimit counted fits⟩

section Full

/-- Tables that hold the last version there is room for. -/
def fullTables : Tables := { version := some 0x7FFFFFFFFFFFFFFF }

/-- One location more is one version too many; after that an edit that changes nothing succeeds. -/
theorem withinLimit_of_calls_full :
    ∃ started : Hub Database,
      Hub.start { store := ({ tables := fullTables } : Database) } {} = .ok started ∧
      started.WithinLimit ∧ started.registry.version.toNat = versionLimit ∧
      (∃ fault, started.edit (RegistryEdit.addLocation System.lounge).run =
        (.error (.storage fault), started)) ∧
      ∃ report, started.edit (RegistryEdit.importDevices []).run = (.ok report, started) := by
  have found : fullTables.load =
      .ok (some { Registry.empty with version := 0x7FFFFFFFFFFFFFFF }) := rfl
  have column : ∀ version ∈ fullTables.version, version ≤ versionLimit := by
    rintro version ⟨⟩
    decide
  obtain ⟨started, opened, registry, always⟩ := withinLimit_of_calls found column .succeeding 0 {}
  obtain ⟨within, keeps⟩ := always [] started rfl fun _ _ listed => by cases listed
  have full : started.registry.version.toNat = versionLimit := by
    rw [registry]
    rfl
  refine ⟨started, opened, within, full, ?_, _, edit_of_same rfl rfl⟩
  cases keeps (.addLocation System.lounge) trivial with
  | refused failed _ _ => cases failed
  | idle done _ =>
    have same : (started.registry.addLocation System.lounge).2.version = started.registry.version :=
      congrArg (fun outcome : Bool × Registry => outcome.2.version) (Except.ok.inj done)
    rw [registry] at same
    exact absurd same (by decide +kernel)
  | beyond _ _ _ _ answered => exact ⟨_, answered⟩
  | unreachable _ climbs small _ _ =>
    have version := climbs.version
    omega
  | published _ climbs small _ _ _ =>
    have version := climbs.version
    omega

end Full

end Hub

end HomeVoice
