import HomeVoice.Proofs.Codec.Artifact
import HomeVoice.Proofs.Store.Registry
import HomeVoice.Store.Database

/-!
# What a store of tables answers

A store that answers answers from its tables. The cache of grammars gives out what was put into it:
every row that it holds is the row of a grammar that survives being written and read, under the
version of that grammar. Once a grammar is stored it is the only one there.
-/

namespace HomeVoice.Store

namespace Database

variable {store next : Database}

theorem unlessBroken_eq_ok {α : Type} {answer : Except StorageError α} {result : α} :
    store.unlessBroken answer = .ok result ↔ store.isBroken = false ∧ answer = .ok result := by
  unfold unlessBroken
  cases store.isBroken <;> simp

theorem loadRegistry_eq_ok {loaded : Option Registry}
    (found : Storage.loadRegistry store = .ok loaded) : store.tables.load = .ok loaded :=
  (unlessBroken_eq_ok.mp found).2

theorem commit_eq_ok {changes : Changeset} (committed : Storage.commit store changes = .ok next) :
    store.tables.commit changes = .ok next.tables := by
  obtain ⟨_, done⟩ := unlessBroken_eq_ok.mp committed
  obtain ⟨tables, written, rfl⟩ := map_eq_ok.mp done
  exact written

/-- A store in reach commits everything that has a version of 63 bits. -/
theorem exists_commit (intact : store.isBroken = false) (changes : Changeset)
    (small : changes.version.toNat < 0x8000000000000000) :
    ∃ next, Storage.commit store changes = .ok next ∧ next.isBroken = false := by
  have written : ∃ tables, store.tables.commit changes = .ok tables :=
    ⟨_, bind_eq_ok.mpr ⟨_, storedVersion_eq_ok_iff.mpr ⟨small, rfl⟩, rfl⟩⟩
  obtain ⟨tables, written⟩ := written
  refine ⟨{ store with tables }, unlessBroken_eq_ok.mpr ⟨intact, ?_⟩, intact⟩
  exact map_eq_ok.mpr ⟨tables, written, rfl⟩

/-- A store in reach caches every grammar of such a version. -/
theorem exists_storeArtifact (intact : store.isBroken = false) {artifact : Artifact}
    (small : artifact.sourceVersion.toNat < 0x8000000000000000) :
    ∃ next, Storage.storeArtifact store artifact = .ok next ∧ next.isBroken = false := by
  have written : ∃ tables, store.tables.storeArtifact artifact = .ok tables :=
    ⟨_, bind_eq_ok.mpr ⟨_, storedVersion_eq_ok_iff.mpr ⟨small, rfl⟩, rfl⟩⟩
  obtain ⟨tables, written⟩ := written
  refine ⟨{ store with tables }, unlessBroken_eq_ok.mpr ⟨intact, ?_⟩, intact⟩
  exact map_eq_ok.mpr ⟨tables, written, rfl⟩

theorem loadArtifact_eq_ok {version : UInt64} {options : GrammarOptions} {artifact : Option Artifact}
    (found : Storage.loadArtifact store version options = .ok artifact) :
    store.tables.loadArtifact version options = .ok artifact :=
  (unlessBroken_eq_ok.mp found).2

theorem storeArtifact_eq_ok {artifact : Artifact}
    (kept : Storage.storeArtifact store artifact = .ok next) :
    store.tables.storeArtifact artifact = .ok next.tables := by
  obtain ⟨_, done⟩ := unlessBroken_eq_ok.mp kept
  obtain ⟨tables, written, rfl⟩ := map_eq_ok.mp done
  exact written

end Database

/-- Options are told apart by their texts. -/
theorem optionsText_injective {first second : GrammarOptions}
    (same : optionsText first = optionsText second) : first = second := by
  have read := first.restores.ofText first.readsBack_encode
  have again := second.restores.ofText second.readsBack_encode
  unfold optionsText at same
  rw [same] at read
  exact Except.ok.inj (read.symm.trans again)

namespace Tables

variable {tables next : Tables} {artifact : Artifact} {cached : List Artifact}

section Only

/-- The tables with this grammar in the cache and no other one. -/
def caching (tables : Tables) (artifact : Artifact) : Tables :=
  { tables with artifacts :=
      SortedMap.single (artifact.sourceVersion.toNat : Int) (artifactRow artifact) }

/-- A grammar with a version of 63 bits is cached in the place of all others. -/
theorem storeArtifact_eq_ok_iff :
    tables.storeArtifact artifact = .ok next ↔
      artifact.sourceVersion.toNat < 0x8000000000000000 ∧ next = tables.caching artifact := by
  unfold storeArtifact
  rw [bind_eq_ok]
  simp only [SortedMap.filter_insert, storedVersion_eq_ok_iff]
  constructor
  · rintro ⟨_, ⟨small, rfl⟩, written⟩
    cases written
    exact ⟨small, rfl⟩
  · rintro ⟨small, rfl⟩
    exact ⟨_, ⟨small, rfl⟩, rfl⟩

/-- The one grammar is found under its version and its options, and nothing under any others. -/
theorem loadArtifact_caching (tables : Tables) (survives : artifact.Survives) {version : UInt64}
    (small : version.toNat < 0x8000000000000000) (options : GrammarOptions) :
    (tables.caching artifact).loadArtifact version options =
      .ok (if artifact.sourceVersion = version ∧ artifact.options = options then some artifact
        else none) := by
  have numbered : storedVersion version = .ok (version.toNat : Int) :=
    storedVersion_eq_ok_iff.mpr ⟨small, rfl⟩
  have found : (tables.caching artifact).findArtifact version.toNat options =
      if artifact.sourceVersion = version ∧ artifact.options = options then
        some (artifactRow artifact) else none := by
    unfold findArtifact
    rw [caching, SortedMap.get?_single]
    by_cases here : artifact.sourceVersion = version
    · subst here
      by_cases known : artifact.options = options
      · subst known
        simp [artifactRow]
      · have apart : optionsText artifact.options ≠ optionsText options :=
          fun same => known (optionsText_injective same)
        simp [artifactRow, known, apart]
    · have apart : (artifact.sourceVersion.toNat : Int) ≠ version.toNat :=
        fun same => here (UInt64.toNat_inj.mp (Int.ofNat.inj same))
      simp only [here, apart, if_false, false_and, Option.filter_none]
  have payload : Artifact.decode.ofText (artifactRow artifact).payload = .ok artifact :=
    survives.decode_ofText
  unfold Tables.loadArtifact
  rw [numbered, ok_bind, found]
  by_cases hit : artifact.sourceVersion = version ∧ artifact.options = options
  · rw [if_pos hit, if_pos hit]
    dsimp only
    rw [payload]
    rfl
  · rw [if_neg hit, if_neg hit]
    rfl

end Only

/-- All rows of the cache are rows of these grammars, under the versions of the grammars. -/
def CachesFrom (tables : Tables) (cached : List Artifact) : Prop :=
  ∀ version row, tables.artifacts.get? version = some row →
    ∃ artifact ∈ cached, artifact.Survives ∧ version = artifact.sourceVersion.toNat ∧
      row = artifactRow artifact

theorem cachesFrom_empty : ({} : Tables).CachesFrom [] := by
  intro version row found
  cases found

/-- A grammar is only found in a row of this version, this form of commands and these options. -/
theorem exists_row_of_loadArtifact {version : UInt64} {options : GrammarOptions}
    (found : tables.loadArtifact version options = .ok (some artifact)) :
    version.toNat < 0x8000000000000000 ∧
      ∃ row, tables.artifacts.get? (version.toNat : Int) = some row ∧
        row.formatVersion = Grammar.formatVersion ∧ row.options = optionsText options ∧
        Artifact.decode.ofText row.payload = .ok artifact := by
  unfold Tables.loadArtifact at found
  obtain ⟨stored, numbered, found⟩ := bind_eq_ok.mp found
  obtain ⟨small, rfl⟩ := storedVersion_eq_ok_iff.mp numbered
  split at found
  · cases found
  next row held =>
    obtain ⟨present, matching⟩ := Option.filter_eq_some_iff.mp held
    obtain ⟨form, known⟩ := of_decide_eq_true matching
    split at found
    next read =>
      cases found
      exact ⟨small, row, present, form, known, read⟩
    · cases found

theorem CachesFrom.loadArtifact (caches : tables.CachesFrom cached) {version : UInt64}
    {options : GrammarOptions} {artifact : Artifact}
    (found : tables.loadArtifact version options = .ok (some artifact)) :
    artifact ∈ cached ∧ artifact.sourceVersion = version := by
  obtain ⟨_, _, present, _, _, read⟩ := exists_row_of_loadArtifact found
  obtain ⟨original, known, survives, keyed, rfl⟩ := caches _ _ present
  have payload : Artifact.decode.ofText (artifactRow original).payload = .ok original :=
    survives.decode_ofText
  cases payload.symm.trans read
  exact ⟨known, UInt64.toNat_inj.mp (Int.ofNat.inj keyed.symm)⟩

/-- Only the grammar that was stored last stays. -/
theorem cachesFrom_storeArtifact (survives : artifact.Survives)
    (kept : tables.storeArtifact artifact = .ok next) (others : List Artifact) :
    next.CachesFrom (artifact :: others) := by
  obtain ⟨_, rfl⟩ := storeArtifact_eq_ok_iff.mp kept
  intro version row found
  rw [caching, SortedMap.get?_single] at found
  split at found
  next here =>
    cases found
    exact ⟨artifact, List.mem_cons_self, survives, here.symm, rfl⟩
  · cases found

/-- The grammar that was stored last is found under its version and its options. -/
theorem loadArtifact_of_storeArtifact (survives : artifact.Survives)
    (kept : tables.storeArtifact artifact = .ok next) :
    next.loadArtifact artifact.sourceVersion artifact.options = .ok (some artifact) := by
  obtain ⟨small, rfl⟩ := storeArtifact_eq_ok_iff.mp kept
  rw [loadArtifact_caching tables survives small, if_pos ⟨rfl, rfl⟩]

/-- Caching a grammar leaves the registry alone. -/
theorem storeArtifact_eq_ok (kept : tables.storeArtifact artifact = .ok next) :
    ∃ artifacts, next = { tables with artifacts } :=
  ⟨_, (storeArtifact_eq_ok_iff.mp kept).2⟩

end Tables

end HomeVoice.Store
