import HomeVoice.Grammar.Sentence
import HomeVoice.Proofs.Grammar.Rules

/-!
# What a command grammar derives

From the root a grammar derives the sentences of its device types and nothing else.
-/

namespace HomeVoice.Grammar

open Gbnf (Symbol Rule SequenceDerives derives_literal_iff derives_rule_of_nodup
  sequenceDerives_cons_iff sequenceDerives_nil_iff sequenceDerives_singleton_iff)

/-- A text in quotation marks. -/
def quoted (text : String) : List Char := ['"'] ++ (text.toList ++ ['"'])

/-- The sentences that a part of a grammar is there for. -/
structure Section.Covers (part : Section) (options : GrammarOptions) (sentence : Sentence) :
    Prop where
  deviceType : sentence.pair.deviceType = part.deviceType
  location : sentence.pair.location ∈ part.locations
  action : sentence.action ∈ part.actions
  valued : sentence.ValuedBy options

/-- The text of a sentence without a value, as its rules put it together. -/
theorem text_plain (deviceType : DeviceType) (location : Location) (action : Action) :
    Sentence.text ⟨⟨deviceType, location⟩, action, none⟩ =
      commandStart deviceType ++ (quoted action.token ++
        (",\"location\":".toList ++ (quoted location.text ++ ['\x7d']))) := by
  have key : "\",\"action\":\"".toList = "\",\"action\":".toList ++ ['"'] := by decide
  have place : "\",\"location\":\"".toList =
      ['"'] ++ (",\"location\":".toList ++ ['"']) := by decide
  have close : "\"\x7d".toList = ['"'] ++ ['\x7d'] := by decide
  unfold Sentence.text commandStart quoted
  rw [key, place, close]
  simp only [List.append_assoc, List.nil_append]

/-- The text of a sentence with a value, as its rules put it together. -/
theorem text_numeric (deviceType : DeviceType) (location : Location) (action : Action)
    (value : Nat) :
    Sentence.text ⟨⟨deviceType, location⟩, action, some value⟩ =
      (commandStart deviceType ++ '"' :: action.token.toList ++ "\",\"location\":".toList) ++
        (quoted location.text ++
          (",\"value\":".toList ++ (quoted (toString value) ++ ['\x7d']))) := by
  have key : "\",\"action\":\"".toList = "\",\"action\":".toList ++ ['"'] := by decide
  have place : "\",\"location\":\"".toList = "\",\"location\":".toList ++ ['"'] := by decide
  have amount : "\",\"value\":\"".toList = ['"'] ++ (",\"value\":".toList ++ ['"']) := by decide
  have close : "\"\x7d".toList = ['"'] ++ ['\x7d'] := by decide
  have token : '"' :: action.token.toList = ['"'] ++ action.token.toList := rfl
  unfold Sentence.text commandStart quoted
  dsimp only
  rw [key, place, amount, close, token]
  simp only [List.append_assoc]

theorem derives_choiceRule {grammar : Gbnf.Grammar} (unique : (grammar.rules.map (·.name)).Nodup)
    {name : List Char} {texts : List String} (known : choiceRule name texts ∈ grammar.rules)
    {text : List Char} :
    Symbol.Derives grammar (.rule name) text ↔ ∃ choice ∈ texts, text = quoted choice := by
  refine (derives_rule_of_nodup unique known).trans ?_
  simp [choiceRule, quotedLiteral, quoted, sequenceDerives_singleton_iff, derives_literal_iff]

section Commands

variable {parts : List Section} {options : GrammarOptions} {version : UInt64} {text : List Char}

theorem derives_actionRule {entry : Section × List Char} (known : entry ∈ stemmed parts)
    (given : entry.1.plainActions ≠ []) :
    Symbol.Derives (ofSections parts options version) (.rule (actionRuleName entry.2)) text ↔
      ∃ action ∈ entry.1.plainActions, text = quoted action.token := by
  refine (derives_choiceRule (nodup_names ..) (actionRule_mem known given)).trans ?_
  simp only [List.mem_map, exists_exists_and_eq_and]

theorem derives_locationRule {entry : Section × List Char} (known : entry ∈ stemmed parts) :
    Symbol.Derives (ofSections parts options version) (.rule (locationRuleName entry.2)) text ↔
      ∃ location ∈ entry.1.locations, text = quoted location.text := by
  refine (derives_choiceRule (nodup_names ..) (locationRule_mem known)).trans ?_
  simp only [List.mem_map, exists_exists_and_eq_and]

theorem derives_valueRule {part : Section} (known : part ∈ parts) {action : Action}
    {kind : ValueKind} (numeric : (action, kind) ∈ part.numericActions) :
    Symbol.Derives (ofSections parts options version) (.rule (valueRuleName kind)) text ↔
      ∃ value ∈ options.values kind, text = quoted (toString value) := by
  refine (derives_choiceRule (nodup_names ..) (choiceOfValues_mem known numeric)).trans ?_
  simp only [List.mem_map, exists_exists_and_eq_and]

theorem derives_plainCommand {entry : Section × List Char} (known : entry ∈ stemmed parts)
    (given : entry.1.plainActions ≠ []) :
    SequenceDerives (ofSections parts options version) (plainCommand entry.1 entry.2) text ↔
      ∃ action ∈ entry.1.plainActions, ∃ location ∈ entry.1.locations,
        text = Sentence.text ⟨⟨entry.1.deviceType, location⟩, action, none⟩ := by
  simp only [plainCommand, sequenceDerives_cons_iff, sequenceDerives_nil_iff, derives_literal_iff,
    derives_actionRule known given, derives_locationRule known, text_plain]
  constructor
  · rintro ⟨_, _, rfl, ⟨_, _, ⟨action, plain, rfl⟩, ⟨_, _, rfl, ⟨_, _, ⟨location, here, rfl⟩,
      ⟨_, _, rfl, rfl, rfl⟩, rfl⟩, rfl⟩, rfl⟩, rfl⟩
    exact ⟨action, plain, location, here, by rw [List.append_nil]⟩
  · rintro ⟨action, plain, location, here, rfl⟩
    exact ⟨_, _, rfl, ⟨_, _, ⟨action, plain, rfl⟩, ⟨_, _, rfl, ⟨_, _, ⟨location, here, rfl⟩,
      ⟨_, _, rfl, rfl, (List.append_nil _).symm⟩, rfl⟩, rfl⟩, rfl⟩, rfl⟩

theorem derives_numericCommand {entry : Section × List Char} (known : entry ∈ stemmed parts)
    {action : Action} {kind : ValueKind} (numeric : (action, kind) ∈ entry.1.numericActions) :
    SequenceDerives (ofSections parts options version)
        (numericCommand entry.1 entry.2 action kind) text ↔
      ∃ location ∈ entry.1.locations, ∃ value ∈ options.values kind,
        text = Sentence.text ⟨⟨entry.1.deviceType, location⟩, action, some value⟩ := by
  simp only [numericCommand, sequenceDerives_cons_iff, sequenceDerives_nil_iff, derives_literal_iff,
    derives_locationRule known, derives_valueRule (mem_of_stemmed known) numeric, text_numeric]
  constructor
  · rintro ⟨_, _, rfl, ⟨_, _, ⟨location, here, rfl⟩, ⟨_, _, rfl, ⟨_, _, ⟨value, listed, rfl⟩,
      ⟨_, _, rfl, rfl, rfl⟩, rfl⟩, rfl⟩, rfl⟩, rfl⟩
    exact ⟨location, here, value, listed, by rw [List.append_nil]⟩
  · rintro ⟨location, here, value, listed, rfl⟩
    exact ⟨_, _, rfl, ⟨_, _, ⟨location, here, rfl⟩, ⟨_, _, rfl, ⟨_, _, ⟨value, listed, rfl⟩,
      ⟨_, _, rfl, rfl, (List.append_nil _).symm⟩, rfl⟩, rfl⟩, rfl⟩, rfl⟩

/-- The commands of a device type are its sentences. -/
theorem derives_commandRule {entry : Section × List Char} (known : entry ∈ stemmed parts) :
    Symbol.Derives (ofSections parts options version) (.rule (commandRuleName entry.2)) text ↔
      ∃ sentence : Sentence, entry.1.Covers options sentence ∧ text = sentence.text := by
  refine (derives_rule_of_nodup (nodup_names ..) (commandRule_mem known)).trans ?_
  constructor
  · rintro ⟨sequence, chosen, derived⟩
    rcases mem_commands_iff.mp chosen with ⟨given, rfl⟩ | ⟨action, kind, numeric, rfl⟩
    · obtain ⟨action, plain, location, here, same⟩ := (derives_plainCommand known given).mp derived
      obtain ⟨listed, noKind⟩ := mem_plainActions_iff.mp plain
      have valued : Sentence.ValuedBy options ⟨⟨entry.1.deviceType, location⟩, action, none⟩ := by
        simp [Sentence.ValuedBy, noKind]
      exact ⟨_, ⟨rfl, here, listed, valued⟩, same⟩
    · obtain ⟨location, here, value, within, same⟩ :=
        (derives_numericCommand known numeric).mp derived
      obtain ⟨listed, ofKind⟩ := mem_numericActions_iff.mp numeric
      have valued : Sentence.ValuedBy options
          ⟨⟨entry.1.deviceType, location⟩, action, some value⟩ := by
        simp [Sentence.ValuedBy, ofKind, within]
      exact ⟨_, ⟨rfl, here, listed, valued⟩, same⟩
  · rintro ⟨⟨⟨deviceType, location⟩, action, value⟩, ⟨rfl, here, listed, valued⟩, same⟩
    unfold Sentence.ValuedBy at valued
    cases ofKind : action.valueKind with
    | none =>
      have plain := mem_plainActions_iff.mpr ⟨listed, ofKind⟩
      have given := List.ne_nil_of_mem plain
      simp only [ofKind] at valued
      subst valued
      exact ⟨_, mem_commands_iff.mpr (.inl ⟨given, rfl⟩),
        (derives_plainCommand known given).mpr ⟨action, plain, location, here, same⟩⟩
    | some kind =>
      have numeric := mem_numericActions_iff.mpr ⟨listed, ofKind⟩
      simp only [ofKind] at valued
      obtain ⟨value, within, rfl⟩ := valued
      exact ⟨_, mem_commands_iff.mpr (.inr ⟨action, kind, numeric, rfl⟩),
        (derives_numericCommand known numeric).mpr ⟨location, here, value, within, same⟩⟩

/-- The language of a grammar is made of the sentences of its parts. -/
theorem language_ofSections_iff :
    (ofSections parts options version).Language text ↔
      ∃ part ∈ parts, ∃ sentence : Sentence,
        part.Covers options sentence ∧ text = sentence.text := by
  have root := (@mem_rules_iff parts options version _).mpr (.inl rfl)
  refine (derives_rule_of_nodup (nodup_names ..) root).trans ?_
  constructor
  · rintro ⟨sequence, chosen, derived⟩
    obtain ⟨entry, known, rfl⟩ := List.mem_map.mp chosen
    have derived := (derives_commandRule known).mp (sequenceDerives_singleton_iff.mp derived)
    exact ⟨entry.1, mem_of_stemmed known, derived⟩
  · rintro ⟨part, member, derived⟩
    obtain ⟨stem, known⟩ := exists_stem member
    exact ⟨_, List.mem_map_of_mem known,
      sequenceDerives_singleton_iff.mpr ((derives_commandRule known).mpr derived)⟩

end Commands

end HomeVoice.Grammar
