import HomeVoice.Codec.Artifact
import HomeVoice.Proofs.Codec.Device

/-!
# Artifacts are restored from their documents

An artifact comes out of its text as it went in, all maps and lists included, if the bounds of its
ranges and the time of its generation survive being written and read.
-/

namespace HomeVoice

open Json (Decoder Draft Record Value)
open Time (Timestamp)

theorem restores_decodeWord (word : UInt32) : decodeWord.Restores (.ofNat word.toNat) word := by
  intro medium
  have small : word.toNat < Nat.pow 2 32 := word.toNat_lt
  unfold decodeWord
  rw [Decoder.restores_natural small]
  simp [Except.map]

theorem restores_decodeVersion (version : UInt64) :
    decodeVersion.Restores (encodeVersion version) version := by
  intro medium
  have small : version.toNat < Nat.pow 2 64 := version.toNat_lt
  unfold decodeVersion encodeVersion
  rw [Decoder.restores_natural small]
  simp [Except.map]

theorem readsBack_encodeVersion (version : UInt64) : (encodeVersion version).ReadsBack :=
  Value.readsBack_ofNat version.toNat_lt

/-- The point in time is read back from its text. -/
def Time.Timestamp.Survives (time : Timestamp) : Prop := ofText time.text = .ok time

instance (time : Timestamp) : Decidable time.Survives :=
  inferInstanceAs (Decidable (Timestamp.ofText time.text = .ok time))

theorem Time.Timestamp.Survives.restores {time : Timestamp} (survives : time.Survives) :
    Timestamp.decode.Restores time.encode time := by
  intro medium
  have read : ofText time.text = .ok time := survives
  unfold Timestamp.decode Timestamp.encode
  dsimp only [Draft.ofValue]
  rw [read]
  rfl

namespace GrammarOptions

theorem restores (options : GrammarOptions) : decode.Restores options.encode options := by
  have steps : record.Restores [("percent_step", .ofNat options.percentStep.toNat),
      ("temperature_step", .ofNat options.temperatureStep.toNat)] options :=
    ((Record.restores_field "percent_step" .fault (restores_decodeWord options.percentStep)).map
      _).join (Record.restores_field "temperature_step" .fault
        (restores_decodeWord options.temperatureStep)) (by decide)
  exact steps.decoder _ _

theorem readsBack_encode (options : GrammarOptions) : options.encode.ReadsBack := by
  have small (word : UInt32) : word.toNat < UInt64.size :=
    Nat.lt_trans word.toNat_lt (by decide)
  refine .object ?_
  simp only [List.forall_mem_cons]
  exact ⟨Value.readsBack_ofNat (small _), Value.readsBack_ofNat (small _), nofun⟩

end GrammarOptions

namespace PairIndex

theorem restores_entry (entry : Pair × DeviceId) :
    decodeEntry.Restores (encodeEntry entry) entry := by
  have names : entryRecord.Restores [("device_type", entry.1.deviceType.encode),
      ("location", entry.1.location.encode), ("device_id", entry.2.encode)] entry :=
    (((Record.restores_field "device_type" .fault entry.1.deviceType.restores).map _).join
      (Record.restores_field "location" .fault entry.1.location.restores) (by decide)).join
      (Record.restores_field "device_id" .fault entry.2.restores) (by decide)
  exact names.decoder _ _

theorem restores (index : PairIndex) : decode.Restores (encode index) index := by
  intro medium
  unfold decode encode
  rw [Decoder.restores_list fun entry _ => restores_entry entry]
  show Except.ok (SortedMap.ofList index.entries) = _
  rw [SortedMap.ofList_entries]

theorem readsBack_encode (index : PairIndex) : (encode index).ReadsBack := by
  refine Value.readsBack_ofList ?_
  intro entry _
  refine .object ?_
  simp only [List.forall_mem_cons]
  exact ⟨.string _, .string _, .string _, nofun⟩

end PairIndex

namespace Artifact

/-- Bounds and time of the artifact survive being written and read. -/
structure Survives (artifact : Artifact) : Prop where
  ranges : ∀ id range, artifact.valueRanges.get? id = some range → range.Survives
  generatedAt : artifact.generatedAt.Survives

theorem Survives.restores {artifact : Artifact} (survives : artifact.Survives) :
    decode.Restores artifact.encode artifact := by
  have vocabularies : (Decoder.map Name.check Action.decode.list).Restores _ artifact.vocabularies :=
    Decoder.restores_map Name.text (Value.ofList Action.encode) (fun entry _ => entry.1.check_text)
      (fun entry _ => Decoder.restores_list fun action _ => action.restores)
  have valueRanges : (Decoder.map DeviceId.check ValueRange.decode).Restores _ artifact.valueRanges :=
    Decoder.restores_map DeviceId.text ValueRange.encode (fun entry _ => entry.1.check_text)
      (fun entry _ => entry.2.restores)
  have fields : record.Restores _ artifact :=
    (((((((Record.restores_field "grammar_text" .fault
      (Decoder.restores_string artifact.grammarText)).map _).join
      (Record.restores_field "pair_index" .fault (PairIndex.restores artifact.pairIndex))
        (by decide)).join
      (Record.restores_field "vocabularies" .fault vocabularies) (by decide)).join
      (Record.restores_field "value_ranges" .fault valueRanges) (by decide)).join
      (Record.restores_field "generated_at" .fault survives.generatedAt.restores) (by decide)).join
      (Record.restores_field "source_registry_version" .fault
        (restores_decodeVersion artifact.sourceVersion)) (by decide)).join
      (Record.restores_field "options" .fault artifact.options.restores) (by decide)
  exact fields.decoder _ _

theorem Survives.readsBack {artifact : Artifact} (survives : artifact.Survives) :
    artifact.encode.ReadsBack := by
  refine .object ?_
  simp only [List.forall_mem_cons]
  refine ⟨.string _, PairIndex.readsBack_encode _, .object ?_, .object ?_, .string _,
    readsBack_encodeVersion _, artifact.options.readsBack_encode, nofun⟩
  · intro member known
    obtain ⟨entry, _, rfl⟩ := List.mem_map.mp known
    exact Value.readsBack_ofList fun _ _ => .string _
  · intro member known
    obtain ⟨entry, here, rfl⟩ := List.mem_map.mp known
    exact (survives.ranges entry.1 entry.2 (SortedMap.mem_entries_iff.mp here)).readsBack

/-- An artifact is restored from its text. -/
theorem Survives.decode_ofText {artifact : Artifact} (survives : artifact.Survives) :
    decode.ofText artifact.encode.text = .ok artifact :=
  survives.restores.ofText survives.readsBack

end Artifact

end HomeVoice
