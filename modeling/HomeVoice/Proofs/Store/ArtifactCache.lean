import HomeVoice.Proofs.Store.Database

/-!
# The cache of grammars is one slot

Whatever was in the cache and whatever calls were made, once a call has stored a grammar the cache
holds that of the last such call and nothing else. It gives it out for its own version and its own
options and finds nothing for any others. A grammar whose version does not fit into a row is
refused, and the cache stays as it was.
-/

namespace HomeVoice.Store

/-- A call that is to store a grammar, while the tables can be reached or not. -/
structure CacheCall where
  artifact : Artifact
  isBroken : Bool := false

/-- What the call makes of the tables. -/
def CacheCall.run (call : CacheCall) (tables : Tables) : Except StorageError Tables :=
  (Storage.storeArtifact (⟨tables, call.isBroken⟩ : Database) call.artifact).map (·.tables)

/-- A call that succeeds leaves its grammar as the only one in the cache. -/
theorem CacheCall.run_eq_ok_iff {call : CacheCall} {tables next : Tables} :
    call.run tables = .ok next ↔
      call.isBroken = false ∧ call.artifact.sourceVersion.toNat < 0x8000000000000000 ∧
        next = tables.caching call.artifact := by
  unfold run
  rw [map_eq_ok]
  constructor
  · rintro ⟨store, kept, rfl⟩
    have intact := (Database.unlessBroken_eq_ok.mp kept).1
    exact ⟨intact, Tables.storeArtifact_eq_ok_iff.mp (Database.storeArtifact_eq_ok kept)⟩
  · rintro ⟨intact, small, rfl⟩
    have written : tables.storeArtifact call.artifact = .ok (tables.caching call.artifact) :=
      Tables.storeArtifact_eq_ok_iff.mpr ⟨small, rfl⟩
    exact ⟨_, Database.unlessBroken_eq_ok.mpr ⟨intact, map_eq_ok.mpr ⟨_, written, rfl⟩⟩, rfl⟩

/-- A call succeeds exactly if the tables can be reached and the version fits into a row. -/
theorem CacheCall.exists_run_iff {call : CacheCall} {tables : Tables} :
    (∃ next, call.run tables = .ok next) ↔
      call.isBroken = false ∧ call.artifact.sourceVersion.toNat < 0x8000000000000000 := by
  constructor
  · rintro ⟨next, done⟩
    obtain ⟨intact, small, _⟩ := run_eq_ok_iff.mp done
    exact ⟨intact, small⟩
  · rintro ⟨intact, small⟩
    exact ⟨_, run_eq_ok_iff.mpr ⟨intact, small, rfl⟩⟩

/-- The tables, and the grammar that was stored last if there was one. -/
structure CacheHistory where
  tables : Tables
  last : Option Artifact := none

namespace CacheHistory

/-- The call is made: it stores its grammar, or it fails and nothing happens. -/
def note (history : CacheHistory) (call : CacheCall) : CacheHistory :=
  match call.run history.tables with
  | .ok next => ⟨next, some call.artifact⟩
  | .error _ => history

/-- The calls are made one after the other. -/
def after (tables : Tables) (calls : List CacheCall) : CacheHistory :=
  calls.foldl note ⟨tables, none⟩

/-- All that was done to the tables is that the cache has the grammar that was stored last. -/
structure Exact (start : Tables) (history : CacheHistory) : Prop where
  untouched : history.last = none → history.tables = start
  holds : ∀ artifact, history.last = some artifact →
    history.tables = start.caching artifact

theorem Exact.note {start : Tables} {history : CacheHistory} (exact : history.Exact start)
    (call : CacheCall) : (history.note call).Exact start := by
  unfold CacheHistory.note
  split
  next next done =>
    obtain ⟨_, _, rfl⟩ := CacheCall.run_eq_ok_iff.mp done
    -- the row of an earlier call goes, and all else is as at the start in both cases
    have rest : history.tables.caching call.artifact = start.caching call.artifact := by
      rcases known : history.last with _ | artifact
      · rw [exact.untouched known]
      · rw [exact.holds artifact known]
        rfl
    refine ⟨nofun, ?_⟩
    rintro _ ⟨⟩
    exact rest
  · exact exact

theorem exact_after (tables : Tables) (calls : List CacheCall) :
    (after tables calls).Exact tables := by
  have start : Exact tables ⟨tables, none⟩ := ⟨fun _ => rfl, nofun⟩
  unfold after
  generalize (⟨tables, none⟩ : CacheHistory) = history at start
  induction calls generalizing history with
  | nil => exact start
  | cons call rest ih => exact ih _ (start.note call)

/-- A call that fails changes nothing. -/
theorem note_of_error {history : CacheHistory} {call : CacheCall}
    (failed : ∀ next, call.run history.tables ≠ .ok next) : history.note call = history := by
  unfold note
  split
  next next done => exact absurd done (failed next)
  · rfl

end CacheHistory

/-- A call succeeds exactly if the store is in reach and the version fits into a row, and changes
nothing if it fails. From any tables, after any calls of which one at least has stored its grammar,
the cache has one row, and the rest of the tables is as it was; the grammar that was stored last is
found, as it was, exactly under its version and its options; and whatever is found is of the version
and the options asked for, in a row of this form of commands. -/
theorem cache_is_one_slot (start : Tables) {calls : List CacheCall} {artifact : Artifact}
    (stored : (CacheHistory.after start calls).last = some artifact)
    (survives : artifact.Survives) :
    let held := (CacheHistory.after start calls).tables
    (∀ (call : CacheCall) (history : CacheHistory),
      ((∃ next, call.run history.tables = .ok next) ↔
        call.isBroken = false ∧ call.artifact.sourceVersion.toNat < 0x8000000000000000) ∧
      ((∀ next, call.run history.tables ≠ .ok next) → history.note call = history)) ∧
    held.artifacts.entries =
      [((artifact.sourceVersion.toNat : Int), artifactRow artifact)] ∧
    { held with artifacts := start.artifacts } = start ∧
    (∀ version options, version.toNat < 0x8000000000000000 →
      Storage.loadArtifact (⟨held, false⟩ : Database) version options =
        .ok (if artifact.sourceVersion = version ∧ artifact.options = options then some artifact
          else none)) ∧
    ∀ version options found,
      Storage.loadArtifact (⟨held, false⟩ : Database) version options = .ok (some found) →
        found.sourceVersion = version ∧ found.options = options ∧
          ∃ row, held.artifacts.get? (version.toNat : Int) = some row ∧
            row.formatVersion = Grammar.formatVersion := by
  intro held
  have exact : held = start.caching artifact :=
    (CacheHistory.exact_after start calls).holds artifact stored
  have answers (version : UInt64) (options : GrammarOptions) :
      Storage.loadArtifact (⟨held, false⟩ : Database) version options =
        (start.caching artifact).loadArtifact version options := by
    rw [exact]
    rfl
  have loaded (version : UInt64) (options : GrammarOptions)
      (small : version.toNat < 0x8000000000000000) :=
    (answers version options).trans (start.loadArtifact_caching survives small options)
  refine ⟨?_, ?_, ?_, loaded, ?_⟩
  · intro call history
    exact ⟨CacheCall.exists_run_iff, CacheHistory.note_of_error⟩
  · rw [exact]
    rfl
  · rw [exact]
    rfl
  · intro version options found given
    obtain ⟨small, row, present, form, _⟩ :=
      Tables.exists_row_of_loadArtifact ((answers version options).symm.trans given)
    have same := given.symm.trans (loaded version options small)
    split at same
    next known =>
      cases same
      exact ⟨known.1, known.2, row, exact ▸ present, form⟩
    · cases same

section Slot

/-- A grammar without sentences. -/
def silent (version : UInt64) (options : GrammarOptions) : Artifact where
  grammarText := ""
  pairIndex := .empty
  vocabularies := .empty
  valueRanges := .empty
  generatedAt := ⟨0, 0⟩
  sourceVersion := version
  options := options

def coarse : GrammarOptions := { percentStep := 25 }

theorem silent_survives (version : UInt64) (options : GrammarOptions) :
    (silent version options).Survives where
  ranges := nofun
  generatedAt := (by decide +kernel : Time.Timestamp.Survives ⟨0, 0⟩)

/-- Rows of an older form of commands are in the cache. -/
def cluttered : Tables where
  artifacts := .ofList [(7, ⟨1, "", "{}"⟩), (12, ⟨1, "", ""⟩)]

/-- One grammar is stored, one has too great a version, the first one is stored again with other
options, and the tables cannot be reached any more. -/
def cacheCalls : List CacheCall :=
  [⟨silent 7 {}, false⟩, ⟨silent 0x8000000000000000 {}, false⟩, ⟨silent 7 coarse, false⟩,
    ⟨silent 9 {}, true⟩]

theorem cache_is_one_slot_cluttered :
    (CacheHistory.after cluttered cacheCalls).last = some (silent 7 coarse) ∧
    (CacheHistory.after cluttered cacheCalls).tables.artifacts.entries =
      [(7, artifactRow (silent 7 coarse))] ∧
    Storage.loadArtifact
      (⟨(CacheHistory.after cluttered cacheCalls).tables, false⟩ : Database) 7 coarse =
      .ok (some (silent 7 coarse)) ∧
    Storage.loadArtifact
      (⟨(CacheHistory.after cluttered cacheCalls).tables, false⟩ : Database) 7 {} = .ok none := by
  have last : (CacheHistory.after cluttered cacheCalls).last = some (silent 7 coarse) := rfl
  obtain ⟨_, row, _, loaded, _⟩ :=
    cache_is_one_slot cluttered last (silent_survives 7 coarse)
  refine ⟨last, row, ?_, ?_⟩
  · rw [loaded 7 coarse (by decide)]
    rfl
  · rw [loaded 7 {} (by decide), if_neg (by decide)]

end Slot

end HomeVoice.Store
