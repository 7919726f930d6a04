import HomeVoice.Classifier.Location
import HomeVoice.Error
import HomeVoice.Proofs.Text.Plain
import HomeVoice.Proofs.Text.Words

/-!
# Names and areas are final

A text is the text of a name exactly if it is in lower case, has single spaces between its words and
none at its ends, and has only characters that names may have. So a name is read from its own text,
whoever reads it again, and nothing of it is escaped. The location of an area is final as well: it
has no underscore, and what an alias means is no alias.
-/

namespace HomeVoice

open Text (IsPiece isBlank joinPieces words)

/-- The normal form of names: no space at either end or beside another one, only characters that
names may have, and lower case. -/
structure IsNormal (text : List Char) : Prop where
  nonempty : text ≠ []
  first : text.head? ≠ some ' '
  last : text.getLast? ≠ some ' '
  single : text.IsChain fun c d => c = ' ' → d ≠ ' '
  allowed : ∀ c ∈ text, Text.isAlphanumeric c = true ∨ c = ' ' ∨ c = '-' ∨ c = '_' ∨ c = '\''
  lower : Text.lower text = text

theorem isBlank_space : isBlank ' ' = true := by decide

/-- What is normalized is put together from words, and lower case is done with it. -/
theorem normalizeName_spec (raw : String) :
    (∃ parts, (∀ piece ∈ parts, IsPiece isBlank piece) ∧
      (normalizeName raw).toList = joinPieces ' ' parts) ∧
      Text.lower (normalizeName raw).toList = (normalizeName raw).toList := by
  have text : (normalizeName raw).toList = Text.lower (joinPieces ' ' (words raw.toList)) :=
    String.toList_ofList
  have good : ∀ piece ∈ words raw.toList, IsPiece isBlank piece :=
    fun _ member => Text.isPiece_of_mem_pieces member
  obtain ⟨lowered, _, whole, same⟩ := Text.lowerFrom_joinPieces good []
  exact ⟨⟨lowered, whole, text.trans same⟩, by rw [text, Text.lower_lower]⟩

/-- A name is in normal form. -/
theorem Name.isNormal {kind : NameKind} (name : Name kind) : IsNormal name.text.toList := by
  obtain ⟨raw, normal⟩ := name.normal
  obtain ⟨⟨parts, good, joined⟩, lower⟩ := normalizeName_spec raw
  rw [normal] at joined lower
  have apart {c : Char} (ordinary : isBlank c = false) : c ≠ ' ' := by
    rintro rfl
    rw [isBlank_space] at ordinary
    cases ordinary
  refine ⟨?_, ?_, ?_, ?_, ?_, lower⟩
  · intro empty
    exact name.nonempty (String.toList_eq_nil_iff.mp empty)
  · intro starts
    rw [joined] at starts
    exact apart (Text.isSeparator_head?_joinPieces good starts) rfl
  · intro ends
    rw [joined] at ends
    exact apart (Text.isSeparator_getLast?_joinPieces good ends) rfl
  · rw [joined]
    refine (Text.isChain_joinPieces good).imp ?_
    rintro _ d notTwo rfl
    exact apart (notTwo isBlank_space)
  · intro c member
    exact isNameChar_iff.mp (isPlain_text name c member)

theorem apart_blankTable : (Text.alphanumericTable.all fun range => Text.blankTable.all fun gap =>
    Nat.blt range.2 gap.1 || Nat.blt gap.2 range.1) = true := by
  decide +kernel

/-- Of the characters of names the space is the only blank. -/
theorem isBlank_iff_of_isNameChar {c : Char} (allowed : isNameChar c = true) :
    isBlank c = true ↔ c = ' ' := by
  constructor
  · intro blank
    rcases isNameChar_iff.mp allowed with alphanumeric | rfl | rfl | rfl | rfl
    · obtain ⟨range, known, above, below⟩ := Text.inTable_iff.mp alphanumeric
      obtain ⟨gap, listed, above', below'⟩ := Text.inTable_iff.mp blank
      have apart := List.all_eq_true.mp (List.all_eq_true.mp apart_blankTable range known) gap listed
      simp only [Bool.or_eq_true, Nat.blt_eq] at apart
      omega
    · rfl
    -- Neither the hyphen nor the underscore nor the apostrophe is a blank.
    all_goals cases blank
  · rintro rfl
    exact isBlank_space

/-- A text in normal form has itself as its normal form. -/
theorem IsNormal.normalizeName {text : String} (normal : IsNormal text.toList) :
    normalizeName text = text := by
  have only : ∀ c ∈ text.toList, isBlank c = true ↔ c = ' ' := fun c member =>
    isBlank_iff_of_isNameChar (isNameChar_iff.mpr (normal.allowed c member))
  have whole : joinPieces ' ' (words text.toList) = text.toList :=
    Text.joinPieces_pieces normal.first normal.last normal.single only
  unfold HomeVoice.normalizeName
  rw [whole, normal.lower, String.ofList_toList]

namespace Name

variable {kind : NameKind}

theorem text_of_ofText {raw : String} {name : Name kind} (read : Name.ofText raw = .ok name) :
    name.text = normalizeName raw := by
  unfold Name.ofText at read
  split at read
  next found =>
    cases read
    exact text_of_ofText? found
  · cases read

/-- Every text in normal form is the text of a name. -/
theorem exists_of_isNormal {text : String} (normal : IsNormal text.toList) :
    ∃ name : Name kind, name.text = text := by
  refine ⟨⟨text, ?_, ?_, text, normal.normalizeName⟩, rfl⟩
  · rintro rfl
    exact normal.nonempty rfl
  · exact List.all_eq_true.mpr fun c member => isNameChar_iff.mpr (normal.allowed c member)

end Name

namespace Classifier

/-- An area as it is looked up among the aliases. -/
def areaName (area : String) : String := normalizeName (area.map fun c => if c = '_' then ' ' else c)

theorem underscore_not_mem_areaName (area : String) : '_' ∉ (areaName area).toList := by
  intro member
  have text : (areaName area).toList = Text.lower (joinPieces ' '
      (words (area.toList.map fun c => if c = '_' then ' ' else c))) := by
    rw [areaName, normalizeName, String.toList_ofList, String.toList_map]
  rw [text] at member
  -- The underscore is no form of a capital, so it is there before lower case; but it is no space
  -- between words, and inside the words all underscores are replaced.
  rcases Text.mem_of_mem_joinPieces (Text.mem_of_mem_lowerFrom (by decide) member) with
    space | ⟨piece, known, inside⟩
  · cases space
  · have there := List.mem_flatten.mpr ⟨piece, known, inside⟩
    rw [words, Text.flatten_pieces] at there
    obtain ⟨c, _, replaced⟩ := List.mem_map.mp (List.mem_filter.mp there).1
    split at replaced
    · cases replaced
    next other => exact other replaced

/-- A name without underscores is looked up as it is. -/
theorem areaName_text {kind : NameKind} {name : Name kind} (without : '_' ∉ name.text.toList) :
    areaName name.text = name.text := by
  have kept : name.text.toList.map (fun c => if c = '_' then ' ' else c) =
      name.text.toList.map id := by
    refine List.map_congr_left fun c member => if_neg ?_
    rintro rfl
    exact without member
  have same : (name.text.map fun c => if c = '_' then ' ' else c) = name.text := by
    apply String.toList_inj.mp
    rw [String.toList_map, kept, List.map_id]
  rw [areaName, same, name.isNormal.normalizeName]

/-- What an alias means is no alias, has no underscore and is in normal form. -/
theorem areaAliases_final : ((areaAliases.map Prod.snd).eraseDups.all fun meant =>
    (areaAliases.lookup meant).isNone && !meant.toList.contains '_' &&
      normalizeName meant == meant) = true := by
  decide +kernel

theorem areaLocation_eq (area : String) :
    areaLocation area = Name.ofText? ((areaAliases.lookup (areaName area)).getD (areaName area)) :=
  rfl

/-- The location of an area is no alias and has no underscore. -/
theorem lookup_text_of_areaLocation {area : String} {location : Location}
    (found : areaLocation area = some location) :
    areaAliases.lookup location.text = none ∧ '_' ∉ location.text.toList := by
  rw [areaLocation_eq] at found
  have text := Name.text_of_ofText? found
  cases aliased : areaAliases.lookup (areaName area) with
  | none =>
    have same : location.text = areaName area := by
      rw [text, aliased, Option.getD_none, areaName, normalizeName_normalizeName]
    rw [same]
    exact ⟨aliased, underscore_not_mem_areaName area⟩
  | some meant =>
    obtain ⟨before, behind, split, _⟩ := List.lookup_eq_some_iff.mp aliased
    have listed : (areaName area, meant) ∈ areaAliases := by
      rw [split]
      exact List.mem_append_right _ List.mem_cons_self
    have known : meant ∈ (areaAliases.map Prod.snd).eraseDups :=
      List.mem_eraseDups.mpr (List.mem_map_of_mem listed)
    have final := List.all_eq_true.mp areaAliases_final _ known
    simp only [Bool.and_eq_true, Option.isNone_iff_eq_none, Bool.not_eq_true', beq_iff_eq,
      List.contains_eq_mem, decide_eq_false_iff_not] at final
    obtain ⟨⟨unaliased, without⟩, normal⟩ := final
    have same : location.text = meant := by
      rw [text, aliased, Option.getD_some, normal]
    rw [same]
    exact ⟨unaliased, without⟩

end Classifier

/-- Names are in normal form and nothing of them is escaped; each is read from its own text, and so
is every text in normal form. Areas lead to locations that lead to themselves. -/
theorem names_are_final :
    (∀ (kind : NameKind) (raw : String) (name : Name kind), Name.ofText raw = .ok name →
      name.text = normalizeName raw ∧ IsNormal name.text.toList ∧
        name.text.toList.flatMap Json.escapeChar = name.text.toList ∧
        name.text.toList.flatMap Gbnf.escapeChar = name.text.toList ∧
        Name.ofText name.text = .ok name) ∧
    (∀ (kind : NameKind) (text : String), IsNormal text.toList →
      ∃ name : Name kind, Name.ofText text = .ok name ∧ name.text = text) ∧
    (∀ raw : String, normalizeName (normalizeName raw) = normalizeName raw) ∧
    ∀ (area : String) (location : Location), Classifier.areaLocation area = some location →
      Classifier.areaAliases.lookup location.text = none ∧
        Classifier.areaLocation location.text = some location := by
  refine ⟨?_, ?_, normalizeName_normalizeName, ?_⟩
  · intro kind raw name read
    have plain := isPlain_text name
    exact ⟨Name.text_of_ofText read, name.isNormal, plain.flatMap_escapeChar,
      plain.flatMap_gbnfEscapeChar, name.ofText_text⟩
  · intro kind text normal
    obtain ⟨name, rfl⟩ : ∃ name : Name kind, name.text = text := Name.exists_of_isNormal normal
    exact ⟨name, name.ofText_text, rfl⟩
  · intro area location found
    obtain ⟨unaliased, without⟩ := Classifier.lookup_text_of_areaLocation found
    refine ⟨unaliased, ?_⟩
    rw [Classifier.areaLocation_eq, Classifier.areaName_text without, unaliased, Option.getD_none,
      Name.ofText?_text]

/-- A place with blanks of two kinds, a sigma at the end of a word and an underscore in its name. -/
def atticText : String := "  ΟΔΟΣ \t Kid's_Attic "

def attic : Location := (Name.ofText? atticText).get (by decide +kernel)

def masterBedroom : Location := (Name.ofText? "bedroom").get (by decide +kernel)

theorem names_are_final_attic :
    Name.ofText atticText = .ok attic ∧ attic.text = "οδος kid's_attic" ∧
      IsNormal attic.text.toList ∧ Name.ofText attic.text = .ok attic ∧
      (∃ name : DeviceType, Name.ofText attic.text = .ok name ∧ name.text = attic.text) ∧
      Classifier.areaLocation "Master__Bedroom " = some masterBedroom ∧
      Classifier.areaLocation masterBedroom.text = some masterBedroom := by
  obtain ⟨read, texts, _, areas⟩ := names_are_final
  have constructed : Name.ofText atticText = .ok attic := by decide +kernel
  obtain ⟨_, normal, _, _, again⟩ := read .location atticText attic constructed
  have found : Classifier.areaLocation "Master__Bedroom " = some masterBedroom := by decide +kernel
  exact ⟨constructed, by decide +kernel, normal, again, texts .deviceType attic.text normal,
    found, (areas "Master__Bedroom " masterBedroom found).2⟩

end HomeVoice
