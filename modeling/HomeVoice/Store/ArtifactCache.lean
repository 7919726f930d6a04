import HomeVoice.Codec.Artifact
import HomeVoice.Store.Tables

/-!
# Cached grammars in the store

A grammar is cached under the version of its registry with the version of the form of commands
and the options it was generated with, and is found only if all three are right. Storing one
removes those of all other versions.
-/

namespace HomeVoice.Store

/-- The options of a grammar as they are stored. -/
def optionsText (options : GrammarOptions) : String := options.encode.text

/-- A grammar as it is cached. -/
def artifactRow (artifact : Artifact) : ArtifactRow where
  formatVersion := Grammar.formatVersion
  options := optionsText artifact.options
  payload := artifact.encode.text

namespace Tables

/-- The row that caches a grammar of this version with these options. -/
def findArtifact (tables : Tables) (version : Int) (options : GrammarOptions) :
    Option ArtifactRow :=
  (tables.artifacts.get? version).filter fun row =>
    row.formatVersion = Grammar.formatVersion ∧ row.options = optionsText options

/-- The cached grammar of a registry's version with these options, if there is one. -/
def loadArtifact (tables : Tables) (version : UInt64) (options : GrammarOptions) :
    Except StorageError (Option Artifact) := do
  match tables.findArtifact (← storedVersion version) options with
  | none => return none
  | some row =>
    match Artifact.decode.ofText row.payload with
    | .ok artifact => return some artifact
    | .error _ => throw .document

/-- Cache a grammar in the place of all others. -/
def storeArtifact (tables : Tables) (artifact : Artifact) : Except StorageError Tables := do
  let version ← storedVersion artifact.sourceVersion
  return { tables with
    artifacts := (tables.artifacts.insert version (artifactRow artifact)).filter
      fun key _ => key = version }

end Tables

end HomeVoice.Store
