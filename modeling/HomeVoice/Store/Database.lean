import HomeVoice.Storage
import HomeVoice.Store.ArtifactCache
import HomeVoice.Store.Registry

/-!
# A store of tables

The tables as a store. A store that is broken answers nothing any more.
-/

namespace HomeVoice.Store

/-- Tables that may have become unreachable. -/
structure Database where
  tables : Tables := {}
  isBroken : Bool := false

namespace Database

/-- Answer unless the store is broken. -/
def unlessBroken {α : Type} (store : Database) (answer : Except StorageError α) :
    Except StorageError α :=
  if store.isBroken then .error .database else answer

instance : Storage Database where
  loadRegistry store := store.unlessBroken store.tables.load
  commit store changes := store.unlessBroken <|
    (store.tables.commit changes).map fun tables => { store with tables }
  loadArtifact store version options :=
    store.unlessBroken (store.tables.loadArtifact version options)
  storeArtifact store artifact := store.unlessBroken <|
    (store.tables.storeArtifact artifact).map fun tables => { store with tables }
  noteLookup store := store

end Database

end HomeVoice.Store
