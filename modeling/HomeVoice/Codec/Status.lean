import HomeVoice.Codec.Artifact
import HomeVoice.Codec.Validation
import HomeVoice.Hub.Worker

/-!
# The status of the grammar worker in documents
-/

namespace HomeVoice.Hub

open Json (Value)

def GrammarStatus.encode (status : GrammarStatus) : Value :=
  .object
    [("active", .ofOption ArtifactMetadata.encode status.active),
     ("registry_version", encodeVersion status.registryVersion),
     ("conflicts", .ofList Conflict.encode status.conflicts),
     ("incomplete", .ofList IncompleteDevice.encode status.incomplete),
     ("last_error", .ofOption .string status.lastError),
     ("last_attempt_at", .ofOption Time.Timestamp.encode status.lastAttemptAt)]

end HomeVoice.Hub
