import HomeVoice.Proofs.Command.Execution
import HomeVoice.Proofs.Decimal.RoundTrip

/-!
# Commands and their texts

A command is read back from its own text, and a sentence of a grammar is the text of the command that
it is read as: what the grammar spells out and what a document of a command writes are the same
characters.
-/

namespace HomeVoice

open Decimal (isFinite messageText)

namespace Command

theorem readValue_messageText {x : Float} (finite : isFinite x = true) :
    readValue (messageText x) = .ok x := by
  unfold readValue
  rw [Text.trim_of_no_blank (Decimal.isBlank_of_mem_messageText finite), String.ofList_toList,
    Decimal.readNumber_messageText finite]
  exact if_pos finite

theorem ofWire_toWire {command : Command} (finite : ∀ x ∈ command.value, isFinite x = true) :
    ofWire command.toWire = .ok command := by
  have known : Action.ofToken? command.toWire.action = some command.action :=
    Action.ofToken?_token command.action
  have value : command.toWire.value.mapM readValue = .ok command.value := by
    show (command.value.map messageText).mapM readValue = .ok command.value
    cases present : command.value with
    | none => rfl
    | some x =>
      show some <$> readValue (messageText x) = .ok (some x)
      rw [readValue_messageText (finite x present)]
      rfl
  unfold ofWire
  refine bind_eq_ok.mpr ⟨_, Sentence.readName_text command.deviceType, ?_⟩
  refine bind_eq_ok.mpr ⟨_, Sentence.readName_text command.location, ?_⟩
  rw [known]
  exact bind_eq_ok.mpr ⟨_, value, rfl⟩

/-- A command is read from its own text. -/
theorem parse_encode {command : Command} (finite : ∀ x ∈ command.value, isFinite x = true) :
    parse command.encode.text = .ok command := by
  unfold parse encode
  rw [WireCommand.decode_ofText]
  exact bind_eq_ok.mpr ⟨_, mapError_ok .., ofWire_toWire finite⟩

end Command

namespace Sentence

/-- Whole numbers are written without a point. -/
theorem messageText_of_le_lastValue : ∀ n ≤ GrammarOptions.lastValue,
    messageText (Float.ofNat n) = toString n := by
  decide +kernel

/-- A sentence is the text of its command. -/
theorem text_encode_command {sentence : Sentence}
    (small : ∀ n ∈ sentence.value, n ≤ GrammarOptions.lastValue) :
    sentence.command.encode.text = String.ofList sentence.text := by
  have value : (sentence.value.map Float.ofNat).map messageText = sentence.value.map toString := by
    rw [Option.map_map]
    exact Option.map_congr fun n present => messageText_of_le_lastValue n (small n present)
  have wire : sentence.command.toWire = sentence.wire := by
    unfold Command.toWire Sentence.command Sentence.wire
    rw [value]
  unfold Command.encode
  rw [wire]
  exact congrArg String.ofList sentence.chars_encode_wire

end Sentence

namespace Command

/-- A command without a value or with a finite one is read back from its text, and every text of the
language of a generated grammar is read as the command that has this text. -/
theorem canonical_on_wire :
    (∀ command : Command, (∀ x ∈ command.value, isFinite x = true) →
      parse command.encode.text = .ok command) ∧
    ∀ (registry : Registry) (options : GrammarOptions) (time : Time.Timestamp) (artifact : Artifact),
      registry.Reachable → registry.generate options time = .ok artifact →
      ∃ grammar, Gbnf.Grammar.ofText? artifact.grammarText.toList = some grammar ∧
        ∀ text, grammar.Language text → ∃ command : Command,
          parse (String.ofList text) = .ok command ∧ command.encode.text = String.ofList text := by
  refine ⟨fun command => parse_encode, ?_⟩
  intro registry options time artifact reached made
  obtain ⟨grammar, read, _, _, language⟩ := Registry.exists_language reached.sound made
  refine ⟨grammar, read, fun text derived => ?_⟩
  obtain ⟨sentence, admitted, rfl⟩ := (language text).mp derived
  have small := admitted.valued.le_lastValue
  exact ⟨sentence.command, Sentence.parse_text small, Sentence.text_encode_command small⟩

section Rooms

open Registry (rooms tvDashRoom kidsRoom)

def hottest : Sentence := ⟨⟨tvDashRoom, kidsRoom⟩, .setTemperature, some 100⟩

def tepid : Command := ⟨tvDashRoom, .setTemperature, kidsRoom, some 21.35⟩

theorem canonical_on_wire_rooms :
    parse tepid.encode.text = .ok tepid ∧
    ∃ registry artifact grammar, rooms = .ok registry ∧ registry.Reachable ∧
      registry.generate ⟨0, 4000000000⟩ ⟨0, 0⟩ = .ok artifact ∧
      Gbnf.Grammar.ofText? artifact.grammarText.toList = some grammar ∧
      grammar.Language hottest.text ∧
      ∃ command : Command, parse (String.ofList hottest.text) = .ok command ∧
        command.encode.text = String.ofList hottest.text := by
  obtain ⟨readBack, spelled⟩ := canonical_on_wire
  refine ⟨readBack tepid ?_, ?_⟩
  · rintro _ ⟨⟩
    decide +kernel
  have parts : (rooms.toOption.bind fun registry =>
      (registry.generate ⟨0, 4000000000⟩ ⟨0, 0⟩).toOption.map fun artifact =>
        (registry.vocabulary tvDashRoom,
          (artifact.pairIndex.get? ⟨tvDashRoom, kidsRoom⟩).isSome)) =
        some (some [.on, .setTemperature], true) := by decide +kernel
  obtain ⟨registry, restored, parts⟩ := Option.bind_eq_some_iff.mp parts
  obtain ⟨artifact, made, parts⟩ := exists_of_toOption_map parts
  obtain ⟨vocabulary, indexed⟩ := Prod.mk.inj parts
  obtain ⟨id, indexed⟩ := Option.isSome_iff_exists.mp indexed
  have restored := toOption_eq_some.mp restored
  have reached : registry.Reachable := ⟨registry, [], .restored restored, rfl⟩
  have admitted : hottest.AdmittedBy registry artifact :=
    Sentence.admittedBy_of_indexed made indexed vocabulary (by decide) rfl (by decide)
  obtain ⟨grammar, read, texts⟩ := spelled registry _ _ artifact reached made
  obtain ⟨grammar', read', _, _, language⟩ := Registry.exists_language reached.sound made
  cases read.symm.trans read'
  have derived := (language _).mpr ⟨hottest, admitted, rfl⟩
  exact ⟨registry, artifact, grammar, restored, reached, made, read, derived, texts _ derived⟩

end Rooms

end Command

end HomeVoice
