import HomeVoice.Changeset
import HomeVoice.Grammar.Artifact

/-!
# What a store must be able to do

A store keeps the registry and caches grammars. A commit that fails leaves the store as it is. The
cache is only a help: a failure of it costs time and nothing else.
-/

namespace HomeVoice

/-- A store for the registry and for grammars. -/
class Storage (σ : Type) where
  /-- The registry as it was last committed; none before the first commit. -/
  loadRegistry : σ → Except StorageError (Option Registry)
  commit : σ → Changeset → Except StorageError σ
  /-- The cached grammar of a registry's version with these options. -/
  loadArtifact : σ → UInt64 → GrammarOptions → Except StorageError (Option Artifact)
  storeArtifact : σ → Artifact → Except StorageError σ
  /-- The store after the cache was asked, whatever it answered. -/
  noteLookup : σ → σ

end HomeVoice
