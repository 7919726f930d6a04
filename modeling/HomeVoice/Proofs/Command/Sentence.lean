import HomeVoice.Command
import HomeVoice.Grammar.Sentence
import HomeVoice.Proofs.Codec.Device
import HomeVoice.Proofs.Decimal.Reading
import HomeVoice.Proofs.Text.Plain

/-!
# Sentences are commands

The text of a sentence is that of a written command, since nothing in it is escaped in a document.
So it is read back as that command, and no other sentence about another pair or with another action
has the same text.
-/

namespace HomeVoice

open Json (Decoder Record Value stringText)

namespace WireCommand

theorem restores (command : WireCommand) : decode.Restores command.encode command := by
  have members : record.Restores ([("deviceType", .string command.deviceType),
      ("action", .string command.action), ("location", .string command.location)]
        ++ Value.memberIfSome "value" .string command.value) command :=
    (((((Record.restores_field "deviceType" .fault (Decoder.restores_string _)).map _).join
      (Record.restores_field "action" .fault (Decoder.restores_string _)) (by decide)).join
      (Record.restores_field "location" .fault (Decoder.restores_string _)) (by decide))).join
      (Record.restores_lenient "value" fun text _ => ⟨Decoder.restores_string text, nofun⟩)
      (by decide)
  exact members.decoder _ _

theorem decode_ofText (command : WireCommand) :
    decode.ofText command.encode.text = .ok command := by
  refine command.restores.ofText (.object (List.forall_mem_append.mpr ⟨?_, ?_⟩))
  · simp only [List.forall_mem_cons]
    exact ⟨.string _, .string _, .string _, nofun⟩
  · cases command.value with
    | none => exact nofun
    | some text => exact List.forall_mem_singleton.mpr (.string text)

end WireCommand

namespace Sentence

/-- The written command that a sentence is. -/
def wire (sentence : Sentence) : WireCommand :=
  ⟨sentence.pair.deviceType.text, sentence.action.token, sentence.pair.location.text,
    sentence.value.map toString⟩

/-- The command that a sentence means. -/
def command (sentence : Sentence) : Command :=
  ⟨sentence.pair.deviceType, sentence.action, sentence.pair.location,
    sentence.value.map Float.ofNat⟩

theorem chars_encode_wire (sentence : Sentence) : sentence.wire.encode.chars = sentence.text := by
  obtain ⟨⟨deviceType, location⟩, action, value⟩ := sentence
  have first := stringText_of_isPlain (isPlain_text deviceType)
  have second := stringText_of_isPlain (isPlain_token action)
  have third := stringText_of_isPlain (isPlain_text location)
  unfold text
  cases value with
  | none =>
    show '\x7b' :: (stringText "deviceType" ++ ':' :: stringText deviceType.text ++ ',' ::
      (stringText "action" ++ ':' :: stringText action.token ++ ',' ::
      (stringText "location" ++ ':' :: stringText location.text))) ++ ['\x7d'] = _
    rw [first, second, third]
    simp only [List.append_assoc, List.cons_append]
    rfl
  | some value =>
    have fourth := stringText_of_isPlain (isPlain_toString value)
    show '\x7b' :: (stringText "deviceType" ++ ':' :: stringText deviceType.text ++ ',' ::
      (stringText "action" ++ ':' :: stringText action.token ++ ',' ::
      (stringText "location" ++ ':' :: stringText location.text ++ ',' ::
      (stringText "value" ++ ':' :: stringText (toString value))))) ++ ['\x7d'] = _
    rw [first, second, third, fourth]
    simp only [List.append_assoc, List.cons_append]
    rfl

theorem decode_text (sentence : Sentence) :
    WireCommand.decode.ofText (String.ofList sentence.text) = .ok sentence.wire := by
  rw [← chars_encode_wire]
  exact sentence.wire.decode_ofText

/-- A sentence tells its pair and its action. -/
theorem eq_of_text {first second : Sentence} (same : first.text = second.text) :
    first.pair = second.pair ∧ first.action = second.action := by
  have read := decode_text first
  rw [same, decode_text second] at read
  have wires : second.wire = first.wire := Except.ok.inj read
  obtain ⟨deviceType, token, location, _⟩ := WireCommand.mk.inj wires
  constructor
  · obtain ⟨⟨firstType, firstLocation⟩, _, _⟩ := first
    obtain ⟨⟨secondType, secondLocation⟩, _, _⟩ := second
    cases Name.eq_of_text deviceType
    cases Name.eq_of_text location
    rfl
  · have actions := Action.ofToken?_token second.action
    rw [token, Action.ofToken?_token] at actions
    exact Option.some.inj actions

/-- The values of the scale are binary64 numbers. -/
theorem exactValue_of_le_lastValue : ∀ n ≤ GrammarOptions.lastValue,
    Decimal.isFinite (Float.ofNat n) = true ∧ Decimal.exactValue (Float.ofNat n) = n := by
  decide +kernel

theorem readValue_toString {n : Nat} (small : n ≤ GrammarOptions.lastValue) :
    Command.readValue (toString n) = .ok (Float.ofNat n) := by
  have short : (Decimal.digitsOf n).length ≤ 3 :=
    (Nat.length_toDigits_le_iff (by decide) (by decide)).mpr (Nat.lt_of_le_of_lt small (by decide))
  have trimmed : String.ofList (Text.trim (toString n).toList) = toString n := by
    rw [Text.trim_of_no_blank, String.ofList_toList]
    intro c member
    rw [Decimal.toList_toString] at member
    exact Text.isBlank_of_isDigit (Decimal.isDigit_of_mem_digitsOf member)
  unfold Command.readValue
  rw [trimmed, Decimal.readNumber_toString (by omega)]
  exact if_pos (exactValue_of_le_lastValue n small).1

/-- No value that a grammar lists is above a hundred. -/
theorem ValuedBy.le_lastValue {options : GrammarOptions} {sentence : Sentence}
    (valued : sentence.ValuedBy options) :
    ∀ n ∈ sentence.value, n ≤ GrammarOptions.lastValue := by
  intro n present
  unfold ValuedBy at valued
  split at valued
  · rw [valued] at present
    cases present
  · obtain ⟨value, listed, same⟩ := valued
    rw [same] at present
    cases present
    exact GrammarOptions.le_lastValue_of_mem_values listed

theorem isSome_value {options : GrammarOptions} {sentence : Sentence}
    (valued : sentence.ValuedBy options) : sentence.value.isSome = sentence.action.isNumeric := by
  unfold ValuedBy at valued
  unfold Action.isNumeric
  split at valued
  next plain => rw [plain, valued]; rfl
  next numeric =>
    obtain ⟨value, _, same⟩ := valued
    rw [numeric, same]
    rfl

theorem readName_text {kind : NameKind} (name : Name kind) :
    Command.readName name.text = .ok name := by
  unfold Command.readName
  rw [Name.ofText_text]
  rfl

theorem ofWire_wire {sentence : Sentence}
    (small : ∀ n ∈ sentence.value, n ≤ GrammarOptions.lastValue) :
    Command.ofWire sentence.wire = .ok sentence.command := by
  have known : Action.ofToken? sentence.wire.action = some sentence.action :=
    Action.ofToken?_token sentence.action
  have value : sentence.wire.value.mapM Command.readValue = .ok sentence.command.value := by
    show (sentence.value.map toString).mapM Command.readValue = .ok (sentence.value.map Float.ofNat)
    cases present : sentence.value with
    | none => rfl
    | some n =>
      show (some <$> Command.readValue (toString n)) = .ok (some (Float.ofNat n))
      rw [readValue_toString (small n present)]
      rfl
  unfold Command.ofWire
  refine bind_eq_ok.mpr ⟨_, readName_text sentence.pair.deviceType, ?_⟩
  refine bind_eq_ok.mpr ⟨_, readName_text sentence.pair.location, ?_⟩
  rw [known]
  exact bind_eq_ok.mpr ⟨_, value, rfl⟩

/-- The text of a sentence is read as the command that the sentence means. -/
theorem parse_text {sentence : Sentence}
    (small : ∀ n ∈ sentence.value, n ≤ GrammarOptions.lastValue) :
    Command.parse (String.ofList sentence.text) = .ok sentence.command := by
  unfold Command.parse
  rw [decode_text]
  exact bind_eq_ok.mpr ⟨_, mapError_ok .., ofWire_wire small⟩

end Sentence

end HomeVoice
