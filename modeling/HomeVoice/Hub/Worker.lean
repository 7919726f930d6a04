import HomeVoice.Grammar.Artifact

/-!
# The grammar worker

The worker keeps a grammar ready. It watches the published registries, waits until no edit came
for a while and then generates; a request makes it generate at once. A grammar that was generated
takes the place of the active one; an attempt that fails leaves the active one serving and is
noted in the status.
-/

namespace HomeVoice.Hub

open Time (Timestamp)

/-- How the generation of grammars is doing. -/
structure GrammarStatus where
  /-- The grammar that serves. -/
  active : Option ArtifactMetadata := none
  /-- The registry version of the last attempt. -/
  registryVersion : UInt64 := 0
  conflicts : List Conflict := []
  incomplete : List IncompleteDevice := []
  lastError : Option String := none
  lastAttemptAt : Option Timestamp := none
  deriving DecidableEq, Repr

/-- The worker. -/
structure Worker where
  options : GrammarOptions
  /-- How long no edit must have come before the worker generates, in milliseconds. -/
  debounce : Nat
  artifact : Option Artifact := none
  status : GrammarStatus := {}
  /-- When the worker generates unless an edit or a request comes before. -/
  deadline : Option Nat := none
  isRunning : Bool := true

namespace Worker

/-- A grammar becomes the active one. -/
def publish (worker : Worker) (artifact : Artifact) (report : ValidationReport)
    (time : Timestamp) : Worker :=
  { worker with
    artifact := some artifact
    status := {
      active := some artifact.metadata
      registryVersion := artifact.sourceVersion
      conflicts := report.conflicts
      incomplete := report.incomplete
      lastError := none
      lastAttemptAt := some time } }

/-- An attempt for a registry ends with an error. -/
def noteFailure (worker : Worker) (snapshot : Registry) (error : Error) (time : Timestamp) :
    Worker :=
  { worker with
    status := { worker.status with
      registryVersion := snapshot.version
      conflicts := snapshot.validate.conflicts
      incomplete := snapshot.validate.incomplete
      lastError := some error.heading
      lastAttemptAt := some time } }

/-- An attempt for a registry ends. -/
def conclude (worker : Worker) (snapshot : Registry) (result : Except Error Artifact)
    (time : Timestamp) : Worker :=
  match result with
  | .ok artifact => worker.publish artifact snapshot.validate time
  | .error error => worker.noteFailure snapshot error time

/-- The worker at its start, with what the cache answered: a grammar with the right options is
published, anything else makes the worker generate at once. -/
def start (worker : Worker) (snapshot : Registry)
    (cached : Except StorageError (Option Artifact)) (now : Nat) (time : Timestamp) : Worker :=
  match cached with
  | .ok (some artifact) =>
    if artifact.options = worker.options then worker.publish artifact snapshot.validate time
    else { worker with deadline := some now }
  | _ => { worker with deadline := some now }

/-- A registry was published: the waiting starts again. -/
def noticeEdit (worker : Worker) (now : Nat) : Worker :=
  if worker.isRunning then { worker with deadline := some (now + worker.debounce) } else worker

/-- The active grammar is that of the registry with the right options. -/
def isCurrent (worker : Worker) (snapshot : Registry) : Bool :=
  worker.artifact.any fun artifact =>
    artifact.sourceVersion == snapshot.version && artifact.options == worker.options

/-- The worker stops and generates no more. -/
def stop (worker : Worker) : Worker := { worker with deadline := none, isRunning := false }

end Worker

end HomeVoice.Hub
