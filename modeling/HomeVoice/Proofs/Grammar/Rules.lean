import Mathlib.Data.List.Flatten
import HomeVoice.Grammar.Rules
import HomeVoice.Proofs.Gbnf.Language
import HomeVoice.Proofs.Gbnf.Reading
import HomeVoice.Proofs.Grammar.Stems
import HomeVoice.Proofs.SortedMap
import HomeVoice.Proofs.Text.Plain

/-!
# The rules of a command grammar fit together

The rules of a device type are told apart by what stands behind their stems, and those of different
types by the stems. So no rule is defined twice, every rule that is referred to is there, and all of
them can be written down and read back.
-/

namespace HomeVoice.Grammar

open Gbnf (Symbol Rule IsName isRuleChar)

/-- What stands behind a stem in the names of rules. -/
def endings : List (List Char) := ["-action".toList, "-location".toList, "-command".toList]

/-- The names of rules that have no stem. -/
def plainNames : List (List Char) :=
  ["root".toList, "device-type".toList, "location".toList, valueRuleName .percent,
    valueRuleName .temperature]

/-- A name with a stem tells the stem and what stands behind it. -/
theorem eq_of_append_ending {stem other ending ending' : List Char} (first : ending ∈ endings)
    (second : ending' ∈ endings) (same : stem ++ ending = other ++ ending') :
    stem = other ∧ ending = ending' := by
  have apart : ∀ ending ∈ endings, ∀ ending' ∈ endings, ending <:+ ending' → ending = ending' := by
    decide
  have here : ending <:+ stem ++ ending := List.suffix_append ..
  have there : ending' <:+ stem ++ ending := same ▸ List.suffix_append ..
  have equal : ending = ending' := by
    rcases List.suffix_or_suffix_of_suffix here there with within | within
    · exact apart _ first _ second within
    · exact (apart _ second _ first within).symm
  exact ⟨List.append_cancel_right (equal ▸ same), equal⟩

theorem append_ending_not_mem_plainNames {stem ending : List Char} (known : ending ∈ endings) :
    stem ++ ending ∉ plainNames := by
  have apart : ∀ ending ∈ endings, ∀ name ∈ plainNames, ¬ ending <:+ name := by decide
  intro member
  exact apart ending known _ member (List.suffix_append ..)

/-- Stems that differ make names that differ, and none of the names without a stem. -/
theorem nodup_ruleNames {stems : List (List Char)} (apart : stems.Nodup) :
    (plainNames ++ stems.flatMap fun stem => endings.map (stem ++ ·)).Nodup := by
  refine List.nodup_append.mpr ⟨by decide, List.nodup_flatMap.mpr ⟨?_, ?_⟩, ?_⟩
  · intro stem _
    refine List.Nodup.map ?_ (by decide)
    intro first second same
    exact List.append_cancel_left same
  · refine apart.imp ?_
    intro first second differ name here there
    obtain ⟨ending, known, rfl⟩ := List.mem_map.mp here
    obtain ⟨ending', known', same⟩ := List.mem_map.mp there
    exact differ (eq_of_append_ending known' known same).1.symm
  · rintro name known other member rfl
    obtain ⟨stem, _, here⟩ := List.mem_flatMap.mp member
    obtain ⟨ending, listed, rfl⟩ := List.mem_map.mp here
    exact append_ending_not_mem_plainNames listed known

/-- The device types of a grammar with their stems. -/
def stemmed (parts : List Section) : List (Section × List Char) :=
  parts.zip (stems (parts.map (·.deviceType)))

section Stemmed

variable {parts : List Section}

theorem map_snd_stemmed (parts : List Section) :
    (stemmed parts).map Prod.snd = stems (parts.map (·.deviceType)) :=
  List.map_snd_zip (by simp [length_stems])

theorem map_fst_stemmed (parts : List Section) : (stemmed parts).map Prod.fst = parts :=
  List.map_fst_zip (by simp [length_stems])

theorem exists_stem {part : Section} (member : part ∈ parts) :
    ∃ stem, (part, stem) ∈ stemmed parts := by
  rw [← map_fst_stemmed parts] at member
  obtain ⟨⟨_, stem⟩, known, rfl⟩ := List.mem_map.mp member
  exact ⟨stem, known⟩

theorem mem_of_stemmed {entry : Section × List Char} (member : entry ∈ stemmed parts) :
    entry.1 ∈ parts := by
  rw [← map_fst_stemmed parts]
  exact List.mem_map_of_mem member

theorem isStem_of_stemmed {entry : Section × List Char} (member : entry ∈ stemmed parts) :
    IsStem entry.2 := by
  have given : entry.2 ∈ stems (parts.map (·.deviceType)) := by
    rw [← map_snd_stemmed parts]
    exact List.mem_map_of_mem member
  exact (isTidy_of_mem_stems given).isStem

end Stemmed

section Names

theorem names_rules_sublist (part : Section) (stem : List Char) :
    ((part.rules stem).map (·.name)).Sublist (endings.map (stem ++ ·)) := by
  unfold Section.rules
  dsimp only
  split
  · exact List.sublist_cons_self ..
  · exact List.Sublist.refl _

theorem names_stemmed_sublist (parts : List Section) :
    ((stemmed parts).flatMap fun entry => (entry.1.rules entry.2).map (·.name)).Sublist
      ((stems (parts.map (·.deviceType))).flatMap fun stem => endings.map (stem ++ ·)) := by
  rw [← map_snd_stemmed, List.flatMap_map]
  exact List.Sublist.flatMap_right _ fun entry _ => names_rules_sublist entry.1 entry.2

theorem names_valueRule_sublist (parts : List Section) (options : GrammarOptions)
    (kind : ValueKind) :
    ((valueRule parts options kind).map (·.name)).Sublist [valueRuleName kind] := by
  unfold valueRule
  split
  · exact List.Sublist.refl _
  · exact List.nil_sublist _

/-- No rule is defined twice. -/
theorem nodup_names (parts : List Section) (options : GrammarOptions) (version : UInt64) :
    ((ofSections parts options version).rules.map (·.name)).Nodup := by
  have names : (ofSections parts options version).rules.map (·.name) =
      ["root".toList, "device-type".toList, "location".toList] ++
        ((stemmed parts).flatMap fun entry => (entry.1.rules entry.2).map (·.name)) ++
        (valueRule parts options .percent).map (·.name) ++
        (valueRule parts options .temperature).map (·.name) := by
    simp only [ofSections, stemmed, List.map_append, List.map_flatMap]
    rfl
  have plain (middle : List (List Char)) :
      (["root".toList, "device-type".toList, "location".toList] ++ middle ++
        [valueRuleName .percent] ++ [valueRuleName .temperature]).Perm (plainNames ++ middle) := by
    rw [List.append_assoc, List.append_assoc]
    refine (List.perm_append_comm.append_left _).trans ?_
    exact List.Perm.refl _
  have apart := nodup_ruleNames (nodup_stems (parts.map (·.deviceType)))
  rw [names]
  refine List.Sublist.nodup ?_ ((plain _).nodup_iff.mpr apart)
  exact (((List.Sublist.refl _).append (names_stemmed_sublist parts)).append
    (names_valueRule_sublist parts options .percent)).append
      (names_valueRule_sublist parts options .temperature)

end Names

/-- The rules of a grammar: three for all device types, those of each type and those of values. -/
theorem mem_rules_iff {parts : List Section} {options : GrammarOptions} {version : UInt64}
    {rule : Rule} :
    rule ∈ (ofSections parts options version).rules ↔
      rule = ⟨"root".toList, (stemmed parts).map fun entry => [.rule (commandRuleName entry.2)]⟩ ∨
      rule = choiceRule "device-type".toList (parts.map (·.deviceType.text)) ∨
      rule = choiceRule "location".toList ((allLocations parts).map (·.text)) ∨
      (∃ entry ∈ stemmed parts, rule ∈ entry.1.rules entry.2) ∨
      ∃ kind, rule ∈ valueRule parts options kind := by
  have roots :
      (stems (parts.map (·.deviceType))).map (fun stem => [Symbol.rule (commandRuleName stem)]) =
        (stemmed parts).map fun entry => [.rule (commandRuleName entry.2)] := by
    rw [← map_snd_stemmed, List.map_map]
    rfl
  have kinds : (∃ kind, rule ∈ valueRule parts options kind) ↔
      rule ∈ valueRule parts options .percent ∨ rule ∈ valueRule parts options .temperature := by
    constructor
    · rintro ⟨kind, member⟩
      cases kind with
      | percent => exact .inl member
      | temperature => exact .inr member
    · rintro (member | member)
      · exact ⟨_, member⟩
      · exact ⟨_, member⟩
  rw [kinds, ← roots]
  simp [ofSections, stemmed]

def Section.actionRule (part : Section) (stem : List Char) : Rule :=
  choiceRule (actionRuleName stem) (part.plainActions.map (·.token))

def Section.locationRule (part : Section) (stem : List Char) : Rule :=
  choiceRule (locationRuleName stem) (part.locations.map (·.text))

def Section.commandRule (part : Section) (stem : List Char) : Rule :=
  ⟨commandRuleName stem,
    (if part.plainActions.isEmpty then [] else [plainCommand part stem])
      ++ part.numericActions.map fun entry => numericCommand part stem entry.1 entry.2⟩

def choiceOfValues (options : GrammarOptions) (kind : ValueKind) : Rule :=
  choiceRule (valueRuleName kind) ((options.values kind).map toString)

theorem mem_sectionRules_iff {part : Section} {stem : List Char} {rule : Rule} :
    rule ∈ part.rules stem ↔
      (part.plainActions ≠ [] ∧ rule = part.actionRule stem) ∨
      rule = part.locationRule stem ∨ rule = part.commandRule stem := by
  unfold Section.rules Section.actionRule Section.locationRule Section.commandRule
  cases part.plainActions <;> simp

theorem mem_valueRule_iff {parts : List Section} {options : GrammarOptions} {kind : ValueKind}
    {rule : Rule} :
    rule ∈ valueRule parts options kind ↔
      (∃ part ∈ parts, ∃ action, (action, kind) ∈ part.numericActions) ∧
        rule = choiceOfValues options kind := by
  have needed : (parts.any fun part => part.numericActions.any (·.2 = kind)) = true ↔
      ∃ part ∈ parts, ∃ action, (action, kind) ∈ part.numericActions := by
    simp [List.any_eq_true]
  unfold valueRule choiceOfValues
  split
  next present => simp [needed.mp present]
  next absent => simp [mt needed.mpr absent]

theorem mem_plainActions_iff {part : Section} {action : Action} :
    action ∈ part.plainActions ↔ action ∈ part.actions ∧ action.valueKind = none := by
  simp [Section.plainActions, Action.isNumeric]

theorem mem_numericActions_iff {part : Section} {action : Action} {kind : ValueKind} :
    (action, kind) ∈ part.numericActions ↔
      action ∈ part.actions ∧ action.valueKind = some kind := by
  simp only [Section.numericActions, List.mem_filterMap, Option.map_eq_some_iff, Prod.mk.injEq]
  constructor
  · rintro ⟨other, member, _, has, rfl, rfl⟩
    exact ⟨member, has⟩
  · rintro ⟨member, has⟩
    exact ⟨action, member, kind, has, rfl, rfl⟩

/-- The alternatives of a command rule, one for the plain actions and one for each other action. -/
theorem mem_commands_iff {part : Section} {stem : List Char} {sequence : List Symbol} :
    sequence ∈ (part.commandRule stem).alternatives ↔
      (part.plainActions ≠ [] ∧ sequence = plainCommand part stem) ∨
      ∃ action kind, (action, kind) ∈ part.numericActions ∧
        sequence = numericCommand part stem action kind := by
  have numeric : sequence ∈ part.numericActions.map
      (fun entry => numericCommand part stem entry.1 entry.2) ↔
      ∃ action kind, (action, kind) ∈ part.numericActions ∧
        sequence = numericCommand part stem action kind := by
    simp [eq_comm]
  rw [Section.commandRule, List.mem_append, numeric]
  cases part.plainActions <;> simp

/-- A part of a grammar has something to say. -/
structure Section.Spoken (part : Section) : Prop where
  locations : part.locations ≠ []
  actions : part.actions ≠ []

section Writable

theorem isRuleChar_of_isStemChar {c : Char} (stem : isStemChar c = true) : isRuleChar c = true := by
  have alphanumeric : c.isAlphanum = true := by
    show (c.isUpper || c.isLower || c.isDigit) = true
    simp only [isStemChar, Bool.or_eq_true] at stem
    rcases stem with digit | lower
    · rw [digit, Bool.or_true]
    · rw [lower, Bool.or_true, Bool.true_or]
  simp [isRuleChar, alphanumeric]

theorem isName_append_ending {stem ending : List Char} (good : IsStem stem)
    (known : ending ∈ endings) : IsName (stem ++ ending) := by
  have plain : ∀ ending ∈ endings, ending.all isRuleChar = true := by decide
  refine ⟨by simp [good.1], ?_⟩
  intro c member
  rcases List.mem_append.mp member with front | behind
  · rcases good.2 c front with stem | rfl
    · exact isRuleChar_of_isStemChar stem
    · decide
  · exact List.all_eq_true.mp (plain ending known) c behind

theorem isName_of_mem_plainNames {name : List Char} (known : name ∈ plainNames) : IsName name := by
  have plain : ∀ name ∈ plainNames, name ≠ [] ∧ name.all isRuleChar = true := by decide
  exact ⟨(plain name known).1, List.all_eq_true.mp (plain name known).2⟩

theorem not_mem_commandStart (deviceType : DeviceType) : '\n' ∉ commandStart deviceType :=
  List.not_mem_append
    (List.not_mem_append (by decide) (isPlain_text deviceType).newline_not_mem) (by decide)

theorem writable_choiceRule {name : List Char} {texts : List String} (good : IsName name)
    (given : texts ≠ []) (whole : ∀ text ∈ texts, '\n' ∉ text.toList) :
    (choiceRule name texts).Writable where
  name := good
  alternatives := by simpa [choiceRule] using given
  symbols := by
    intro sequence member symbol inside
    obtain ⟨text, known, rfl⟩ := List.mem_map.mp member
    rw [List.mem_singleton.mp inside]
    show '\n' ∉ '"' :: text.toList ++ ['"']
    simp [whole text known]

variable {part : Section} {stem : List Char} (good : IsStem stem)

include good

theorem isName_actionRuleName : IsName (actionRuleName stem) :=
  isName_append_ending good (by decide)

theorem isName_locationRuleName : IsName (locationRuleName stem) :=
  isName_append_ending good (by decide)

theorem isName_commandRuleName : IsName (commandRuleName stem) :=
  isName_append_ending good (by decide)

theorem writable_plainCommand : ∀ symbol ∈ plainCommand part stem, symbol.Writable := by
  simp only [plainCommand, List.forall_mem_cons, Symbol.Writable]
  exact ⟨not_mem_commandStart part.deviceType, isName_actionRuleName good, by decide,
    isName_locationRuleName good, by decide, nofun⟩

theorem writable_numericCommand (action : Action) (kind : ValueKind) :
    ∀ symbol ∈ numericCommand part stem action kind, symbol.Writable := by
  have value : IsName (valueRuleName kind) :=
    isName_of_mem_plainNames (by cases kind <;> decide)
  have start : '\n' ∉ commandStart part.deviceType ++ '"' :: action.token.toList
      ++ "\",\"location\":".toList := by
    refine List.not_mem_append (List.not_mem_append (not_mem_commandStart part.deviceType) ?_)
      (by decide)
    exact List.not_mem_cons_of_ne_of_not_mem (by decide) (isPlain_token action).newline_not_mem
  simp only [numericCommand, List.forall_mem_cons, Symbol.Writable]
  exact ⟨start, isName_locationRuleName good, by decide, value, by decide, nofun⟩

theorem writable_sectionRules (spoken : part.Spoken) :
    ∀ rule ∈ part.rules stem, rule.Writable := by
  intro rule member
  rcases mem_sectionRules_iff.mp member with ⟨given, rfl⟩ | rfl | rfl
  · refine writable_choiceRule (isName_actionRuleName good) (by simpa using given) ?_
    intro text known
    obtain ⟨action, _, rfl⟩ := List.mem_map.mp known
    exact (isPlain_token action).newline_not_mem
  · refine writable_choiceRule (isName_locationRuleName good) (by simpa using spoken.locations) ?_
    intro text known
    obtain ⟨location, _, rfl⟩ := List.mem_map.mp known
    exact (isPlain_text location).newline_not_mem
  · refine ⟨isName_commandRuleName good, ?_, ?_⟩
    · obtain ⟨action, known⟩ := List.exists_mem_of_ne_nil _ spoken.actions
      cases kind : action.valueKind with
      | none =>
        have plain := List.ne_nil_of_mem (mem_plainActions_iff.mpr ⟨known, kind⟩)
        exact List.ne_nil_of_mem (mem_commands_iff.mpr (.inl ⟨plain, rfl⟩))
      | some kind' =>
        have numeric := mem_numericActions_iff.mpr ⟨known, kind⟩
        exact List.ne_nil_of_mem (mem_commands_iff.mpr (.inr ⟨action, kind', numeric, rfl⟩))
    · intro sequence chosen
      rcases mem_commands_iff.mp chosen with ⟨_, rfl⟩ | ⟨action, kind, _, rfl⟩
      · exact writable_plainCommand good
      · exact writable_numericCommand good action kind

end Writable

theorem values_ne_nil (options : GrammarOptions) (kind : ValueKind) : options.values kind ≠ [] := by
  simp [GrammarOptions.values]

theorem mem_allLocations_iff {parts : List Section} {location : Location} :
    location ∈ allLocations parts ↔ ∃ part ∈ parts, location ∈ part.locations := by
  rw [allLocations, SortedMap.mem_keys_setOfList, List.mem_flatMap]

section Whole

variable {parts : List Section} (given : parts ≠ []) (spoken : ∀ part ∈ parts, part.Spoken)

include given spoken

/-- The grammar can be written down. -/
theorem writable_ofSections (options : GrammarOptions) (version : UInt64) :
    (ofSections parts options version).Writable where
  comment := by
    simp only [ofSections, String.toList_append, List.mem_append, not_or]
    exact ⟨⟨⟨by decide, by decide⟩, by decide⟩, (isPlain_toString version.toNat).newline_not_mem⟩
  rules := by
    intro rule member
    rcases mem_rules_iff.mp member with rfl | rfl | rfl | ⟨entry, known, member⟩ | ⟨kind, member⟩
    · have name : IsName "root".toList := isName_of_mem_plainNames (by decide)
      refine ⟨name, ?_, ?_⟩
      · intro none
        have length := congrArg List.length none
        rw [List.length_map, ← List.length_map Prod.fst, map_fst_stemmed] at length
        exact given (List.eq_nil_of_length_eq_zero length)
      · intro sequence chosen symbol inside
        obtain ⟨entry, known, rfl⟩ := List.mem_map.mp chosen
        rw [List.mem_singleton.mp inside]
        exact isName_commandRuleName (isStem_of_stemmed known)
    · refine writable_choiceRule (isName_of_mem_plainNames (by decide)) (by simpa using given) ?_
      intro text known
      obtain ⟨part, _, rfl⟩ := List.mem_map.mp known
      exact (isPlain_text part.deviceType).newline_not_mem
    · refine writable_choiceRule (isName_of_mem_plainNames (by decide)) ?_ ?_
      · obtain ⟨part, known⟩ := List.exists_mem_of_ne_nil _ given
        obtain ⟨location, here⟩ := List.exists_mem_of_ne_nil _ (spoken part known).locations
        have listed := mem_allLocations_iff.mpr ⟨part, known, here⟩
        exact List.ne_nil_of_mem (List.mem_map_of_mem listed)
      · intro text known
        obtain ⟨location, _, rfl⟩ := List.mem_map.mp known
        exact (isPlain_text location).newline_not_mem
    · exact writable_sectionRules (isStem_of_stemmed known) (spoken _ (mem_of_stemmed known)) _
        member
    · obtain ⟨_, rfl⟩ := mem_valueRule_iff.mp member
      refine writable_choiceRule (isName_of_mem_plainNames (by cases kind <;> decide))
        (by simpa using values_ne_nil options kind) ?_
      intro text known
      obtain ⟨n, _, rfl⟩ := List.mem_map.mp known
      exact (isPlain_toString n).newline_not_mem

end Whole

section Members

variable {parts : List Section} {options : GrammarOptions} {version : UInt64}

theorem mem_rules_of_section {entry : Section × List Char} (known : entry ∈ stemmed parts)
    {rule : Rule} (member : rule ∈ entry.1.rules entry.2) :
    rule ∈ (ofSections parts options version).rules :=
  mem_rules_iff.mpr (.inr (.inr (.inr (.inl ⟨entry, known, member⟩))))

theorem commandRule_mem {entry : Section × List Char} (known : entry ∈ stemmed parts) :
    entry.1.commandRule entry.2 ∈ (ofSections parts options version).rules :=
  mem_rules_of_section known (mem_sectionRules_iff.mpr (.inr (.inr rfl)))

theorem locationRule_mem {entry : Section × List Char} (known : entry ∈ stemmed parts) :
    entry.1.locationRule entry.2 ∈ (ofSections parts options version).rules :=
  mem_rules_of_section known (mem_sectionRules_iff.mpr (.inr (.inl rfl)))

theorem actionRule_mem {entry : Section × List Char} (known : entry ∈ stemmed parts)
    (given : entry.1.plainActions ≠ []) :
    entry.1.actionRule entry.2 ∈ (ofSections parts options version).rules :=
  mem_rules_of_section known (mem_sectionRules_iff.mpr (.inl ⟨given, rfl⟩))

theorem choiceOfValues_mem {part : Section} (known : part ∈ parts) {action : Action}
    {kind : ValueKind} (numeric : (action, kind) ∈ part.numericActions) :
    choiceOfValues options kind ∈ (ofSections parts options version).rules :=
  mem_rules_iff.mpr (.inr (.inr (.inr (.inr
    ⟨kind, mem_valueRule_iff.mpr ⟨⟨part, known, action, numeric⟩, rfl⟩⟩))))

end Members

/-- A choice of texts refers to no rule. -/
theorem not_mem_choiceRule {name other : List Char} {texts : List String} {sequence : List Symbol}
    (chosen : sequence ∈ (choiceRule name texts).alternatives) : .rule other ∉ sequence := by
  obtain ⟨text, _, rfl⟩ := List.mem_map.mp chosen
  simp [quotedLiteral]

/-- Every rule that is referred to is there. -/
theorem closed_ofSections (parts : List Section) (options : GrammarOptions) (version : UInt64) :
    (ofSections parts options version).Closed := by
  have named {rule : Rule} (member : rule ∈ (ofSections parts options version).rules) :
      rule.name ∈ (ofSections parts options version).rules.map (·.name) :=
    List.mem_map_of_mem member
  intro rule member sequence chosen name inside
  rcases mem_rules_iff.mp member with rfl | rfl | rfl | ⟨entry, known, member⟩ | ⟨kind, member⟩
  · obtain ⟨entry, known, rfl⟩ := List.mem_map.mp chosen
    cases List.mem_singleton.mp inside
    exact named (commandRule_mem known)
  · exact absurd inside (not_mem_choiceRule chosen)
  · exact absurd inside (not_mem_choiceRule chosen)
  · rcases mem_sectionRules_iff.mp member with ⟨_, rfl⟩ | rfl | rfl
    · exact absurd inside (not_mem_choiceRule chosen)
    · exact absurd inside (not_mem_choiceRule chosen)
    · rcases mem_commands_iff.mp chosen with ⟨given, rfl⟩ | ⟨action, kind, numeric, rfl⟩
      · have named : name = actionRuleName entry.2 ∨ name = locationRuleName entry.2 := by
          simpa [plainCommand] using inside
        rcases named with rfl | rfl
        · exact named (actionRule_mem known given)
        · exact named (locationRule_mem known)
      · have named : name = locationRuleName entry.2 ∨ name = valueRuleName kind := by
          simpa [numericCommand] using inside
        rcases named with rfl | rfl
        · exact named (locationRule_mem known)
        · exact named (@choiceOfValues_mem _ options version _ (mem_of_stemmed known) _ _ numeric)
  · obtain ⟨_, rfl⟩ := mem_valueRule_iff.mp member
    exact absurd inside (not_mem_choiceRule chosen)

end HomeVoice.Grammar
