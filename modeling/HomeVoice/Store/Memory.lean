import HomeVoice.Storage

/-!
# A store in memory

The store in memory keeps what is committed as a registry and every grammar that is cached, and
can be told to refuse any of its operations. It counts what it is asked.
-/

namespace HomeVoice.Store

/-- The operations that are refused. -/
structure Refusals where
  load : Bool := false
  commit : Bool := false
  cacheLoad : Bool := false
  cacheStore : Bool := false
  deriving DecidableEq, Repr

/-- A store in memory. -/
structure Memory where
  registry : Option Registry := none
  /-- The committed changesets, the last one first. -/
  commits : List Changeset := []
  /-- The cached grammars, the newest one first. -/
  artifacts : List Artifact := []
  /-- How often the cache was asked for a grammar. -/
  lookups : Nat := 0
  refusals : Refusals := {}
  /-- The cache answers with grammars of other options, too. -/
  ignoresOptions : Bool := false

namespace Memory

/-- Answer unless the operation is refused. -/
def unlessRefused {α : Type} (refused : Bool) (operation : String) (answer : α) :
    Except StorageError α :=
  if refused then .error (.refused operation) else .ok answer

instance : Storage Memory where
  loadRegistry store := unlessRefused store.refusals.load "load" store.registry
  commit store changes := unlessRefused store.refusals.commit "commit"
    { store with
      registry := some (changes.overlay (store.registry.getD .empty))
      commits := changes :: store.commits }
  loadArtifact store version options := unlessRefused store.refusals.cacheLoad "cache load" <|
    store.artifacts.find? fun artifact =>
      artifact.sourceVersion = version ∧ (store.ignoresOptions ∨ artifact.options = options)
  storeArtifact store artifact := unlessRefused store.refusals.cacheStore "cache store"
    { store with artifacts := artifact :: store.artifacts }
  noteLookup store := { store with lookups := store.lookups + 1 }

end Memory

end HomeVoice.Store
