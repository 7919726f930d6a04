import HomeVoice.Classifier.Classification
import HomeVoice.Proofs.Text.Spelling

/-!
# The classifier does not care for spelling

Areas are compared as names, keywords are looked for in a text without case and separators, and
the platform is read in lower case. So the case of a letter from `A` to `Z` counts nowhere, and
where it is not the platform that is read an underscore counts as a space.
-/

namespace HomeVoice

open Text (SameLetter LowerAlike)

/-- The same character, but for the case of a letter and for a space in place of an underscore. -/
def SameOrSpace (c d : Char) : Prop := SameLetter c d ∨ c = '_' ∧ d = ' '

instance : DecidableRel SameOrSpace := fun c d =>
  inferInstanceAs (Decidable (c.toLower = d.toLower ∨ c = '_' ∧ d = ' '))

/-- The second attribute is the first one with other characters in place of some, if it is there. -/
def Respelled (same : Char → Char → Prop) : Option String → Option String → Prop :=
  Option.Rel fun text other => List.Forall₂ same text.toList other.toList

/-- The second descriptor is the first one in other letters. An underscore of the identifier or of
the domain stays, for these two give the platform. -/
structure Descriptor.Respelled (raw other : Descriptor) : Prop where
  stableId : HomeVoice.Respelled SameLetter raw.stableId other.stableId
  domain : HomeVoice.Respelled SameLetter raw.domain other.domain
  displayName : HomeVoice.Respelled SameOrSpace raw.displayName other.displayName
  deviceClass : HomeVoice.Respelled SameOrSpace raw.deviceClass other.deviceClass
  area : HomeVoice.Respelled SameOrSpace raw.area other.area
  parentArea : HomeVoice.Respelled SameOrSpace raw.parentArea other.parentArea
  parentName : HomeVoice.Respelled SameOrSpace raw.parentName other.parentName

theorem Respelled.orSpace {text other : Option String} (same : Respelled SameLetter text other) :
    Respelled SameOrSpace text other := by
  cases same with
  | none => exact .none
  | some letters => exact .some (letters.imp fun _ _ letter => .inl letter)

theorem Respelled.bind_eq {α : Type} {same : Char → Char → Prop} {read : String → Option α}
    (agree : ∀ text other : String, List.Forall₂ same text.toList other.toList →
      read text = read other) {text other : Option String} (respelled : Respelled same text other) :
    text.bind read = other.bind read := by
  cases respelled with
  | none => rfl
  | some letters => exact agree _ _ letters

namespace Classifier

variable {c d : Char} {text other : String} {raw respelled : Descriptor}

/-- What keywords are looked for in: a separator of identifiers is a space. -/
def keywordLetter (c : Char) : Char := if c = '_' ∨ c = '.' then ' ' else c

theorem SameOrSpace.lowerAlike (same : SameOrSpace c d) : LowerAlike keywordLetter c d := by
  rcases same with letter | ⟨rfl, rfl⟩
  · exact letter.lowerAlike keywordLetter
  · exact ⟨by decide, by decide +kernel, by decide +kernel, by decide +kernel⟩

theorem haystack_of_sameOrSpace (same : List.Forall₂ SameOrSpace text.toList other.toList) :
    haystack text = haystack other :=
  congrArg String.ofList (Text.lowerFrom_of_alike .nil
    (same.imp fun _ _ => SameOrSpace.lowerAlike))

theorem keywordLocation_of_sameOrSpace (same : List.Forall₂ SameOrSpace text.toList other.toList) :
    keywordLocation text = keywordLocation other := by
  unfold keywordLocation
  rw [haystack_of_sameOrSpace same]

/-- With spaces for underscores the names of areas differ in the case of letters only. -/
theorem areaLocation_of_sameOrSpace (same : List.Forall₂ SameOrSpace text.toList other.toList) :
    areaLocation text = areaLocation other := by
  have spaced {c d : Char} (same : SameOrSpace c d) :
      SameLetter (if c = '_' then ' ' else c) (if d = '_' then ' ' else d) := by
    rcases same with letter | ⟨rfl, rfl⟩
    · have together : decide (c = '_') = decide (d = '_') :=
        letter.apply (f := fun c => decide (c = '_')) (by decide)
      rw [decide_eq_decide] at together
      by_cases under : c = '_'
      · rw [if_pos under, if_pos (together.mp under)]
        rfl
      · rw [if_neg under, if_neg fun other => under (together.mpr other)]
        exact letter
    · rfl
  unfold areaLocation
  rw [normalizeName_of_sameLetter]
  rw [String.toList_map, String.toList_map]
  exact List.rel_map (fun _ _ letters => spaced letters) same

theorem attributeText_of_respelled {value again : Option String}
    (same : Respelled SameOrSpace value again) : attributeText value = attributeText again := by
  unfold attributeText
  cases same with
  | none => rfl
  | some letters => exact haystack_of_sameOrSpace letters

theorem trimmedLower_of_sameLetter {text other : List Char}
    (same : List.Forall₂ SameLetter text other) : trimmedLower text = trimmedLower other :=
  congrArg String.ofList
    (SameLetter.lower (Text.trim_related (fun _ _ letter => letter.isBlank) same))

/-- The platform that an identifier tells. -/
def platformOfId (id : String) : Option String :=
  if id.toList.contains '.' then
    let front := trimmedLower (id.toList.takeWhile (· ≠ '.'))
    if front = "" then none else some front
  else none

theorem platformOfId_of_sameLetter (same : List.Forall₂ SameLetter text.toList other.toList) :
    platformOfId text = platformOfId other := by
  have point (c d : Char) (letter : SameLetter c d) : decide (c ≠ '.') = decide (d ≠ '.') :=
    letter.apply (f := fun c => decide (c ≠ '.')) (by decide)
  have pointed : text.toList.contains '.' = other.toList.contains '.' := by
    rw [List.contains_eq_any_beq, List.contains_eq_any_beq]
    refine Text.any_related (fun c d letter => ?_) same
    exact letter.apply (by decide)
  unfold platformOfId
  rw [pointed, trimmedLower_of_sameLetter (Text.takeWhile_related point same)]

theorem platform_of_respelled (stableId : Respelled SameLetter raw.stableId respelled.stableId)
    (domain : Respelled SameLetter raw.domain respelled.domain) :
    raw.platform = respelled.platform := by
  have ids : raw.stableId.bind platformOfId = respelled.stableId.bind platformOfId :=
    stableId.bind_eq fun _ _ => platformOfId_of_sameLetter
  unfold Descriptor.platform
  generalize raw.domain = first at domain
  generalize respelled.domain = second at domain
  cases domain with
  | none => exact ids
  | @some text other letters =>
    have trimmed := Text.trim_related (fun _ _ letter => letter.isBlank) letters
    rw [Option.filter_some, Option.filter_some]
    by_cases blank : Text.trim text.toList = []
    · have blank' := (Text.eq_nil_iff_of_related trimmed).mp blank
      rw [if_neg (by simpa using blank), if_neg (by simpa using blank')]
      exact ids
    · have filled := fun other => blank ((Text.eq_nil_iff_of_related trimmed).mpr other)
      rw [if_pos (by simpa using blank), if_pos (by simpa using filled)]
      exact congrArg some (trimmedLower_of_sameLetter letters)

theorem deviceType_of_respelled (same : raw.Respelled respelled) :
    deviceType raw = deviceType respelled := by
  unfold deviceType
  rw [platform_of_respelled same.stableId same.domain,
    attributeText_of_respelled same.stableId.orSpace, attributeText_of_respelled same.displayName,
    attributeText_of_respelled same.deviceClass]

example : [({ stableId := some "media_player.x" } : Descriptor),
    { stableId := some "media player.x" }].map (fun raw => (deviceType raw).isSome) =
    [true, false] := by
  decide +kernel

theorem location_of_respelled (same : raw.Respelled respelled) :
    location raw = location respelled := by
  have areas {text other : Option String} (same : Respelled SameOrSpace text other) :
      text.bind areaLocation = other.bind areaLocation :=
    same.bind_eq fun _ _ => areaLocation_of_sameOrSpace
  have keywords {text other : Option String} (same : Respelled SameOrSpace text other) :
      text.bind keywordLocation = other.bind keywordLocation :=
    same.bind_eq fun _ _ => keywordLocation_of_sameOrSpace
  unfold location strategies
  rw [areas same.area, areas same.parentArea, keywords same.stableId.orSpace,
    keywords same.displayName, keywords same.parentName]

end Classifier

namespace Classification

/-- A descriptor in other letters is classified as it was, and by the same attribute. -/
theorem ofDescriptor_of_respelled {raw respelled : Descriptor} (same : raw.Respelled respelled) :
    ofDescriptor raw = ofDescriptor respelled := by
  unfold ofDescriptor
  rw [Classifier.deviceType_of_respelled same, Classifier.location_of_respelled same]

/-- A lamp behind a switch. Lower case makes a final sigma of the one in the identifier. -/
def lamp : Descriptor :=
  { stableId := some "SWITCH.ΟΔΟΣ_A", displayName := some "Bed_Side_LAMP",
    parentArea := some "Wine_CELLAR" }

def lampRespelled : Descriptor :=
  { stableId := some "switch.ΟΔΟΣ_a", displayName := some "bed side_lamp",
    parentArea := some "wine cellar" }

theorem ofDescriptor_of_respelled_lamp :
    lamp.Respelled lampRespelled ∧ ofDescriptor lamp = ofDescriptor lampRespelled ∧
      (ofDescriptor lamp).deviceType.map (·.text) = some "lights" ∧
      (ofDescriptor lamp).place.map (fun found => (found.1.text, found.2)) =
        some ("wine cellar", .parentArea) := by
  have same : lamp.Respelled lampRespelled :=
    ⟨.some (by decide +kernel), .none, .some (by decide +kernel), .none, .none,
      .some (by decide +kernel), .none⟩
  exact ⟨same, ofDescriptor_of_respelled same, by decide +kernel, by decide +kernel⟩

end Classification

end HomeVoice
