import HomeVoice.Json.Record
import HomeVoice.Proofs.Json.Reading
import HomeVoice.Proofs.Outcome
import HomeVoice.Proofs.SortedMap
import HomeVoice.Proofs.Text.Characters

/-!
# Decoders that restore what was encoded

A decoder restores an item from a document if it makes the item of it, wherever the document comes
from. Decoders are put together of smaller ones, and so is what they restore: what a record is
restored from are the members that its fields are restored from, one behind the other.
-/

namespace HomeVoice.Json

variable {α β : Type}

/-- The decoder makes this item of the document. -/
def Decoder.Restores (decode : Decoder α) (value : Value) (item : α) : Prop :=
  ∀ medium, decode medium (.ofValue value) = .ok item

/-- What is restored from a document is restored from its text. -/
theorem Decoder.Restores.ofText {decode : Decoder α} {value : Value} {item : α}
    (restores : decode.Restores value item) (back : value.ReadsBack) :
    decode.ofText value.text = .ok item := by
  unfold Decoder.ofText Decoder.ofDocument
  rw [back.ofText]
  dsimp only
  rw [restores]
  rfl

/-- The bytes of a text hold what the text holds. -/
theorem Document.ofBytes_toUTF8 (text : String) : Document.ofBytes text.toUTF8 = .ofText text := by
  unfold Document.ofBytes
  rw [Text.foldCharacters_toUTF8]
  rfl

theorem Decoder.ofBytes_toUTF8 (decode : Decoder α) (text : String) :
    decode.ofBytes text.toUTF8 = decode.ofText text :=
  congrArg decode.ofDocument (Document.ofBytes_toUTF8 text)

/-- Items of a kind come out of their texts as they went in. So whatever text such an item was read
from, the text that is written of it is not changed any more by being read and written again. -/
structure Decoder.Undoes (decode : Decoder α) (encode : α → Value) (Kind : α → Prop) : Prop where
  restored : ∀ item, Kind item → decode.ofText (encode item).text = .ok item
  settled : ∀ text item, decode.ofText text = .ok item → Kind item →
    (decode.ofText (encode item).text).map (fun again => (encode again).text) =
      .ok (encode item).text

theorem Decoder.undoes_of_restores {decode : Decoder α} {encode : α → Value} {Kind : α → Prop}
    (restores : ∀ item, Kind item → decode.Restores (encode item) item)
    (back : ∀ item, Kind item → (encode item).ReadsBack) : decode.Undoes encode Kind := by
  have restored (item : α) (kind : Kind item) : decode.ofText (encode item).text = .ok item :=
    (restores item kind).ofText (back item kind)
  refine ⟨restored, fun _ item _ kind => ?_⟩
  rw [restored item kind]
  rfl

namespace Draft

theorem ofItems_eq_map (items : List Value) : ofItems items = items.map ofValue := by
  induction items with
  | nil => rfl
  | cons item rest ih => rw [ofItems, ih, List.map_cons]

theorem ofMembers_append (front back : List (String × Value)) :
    ofMembers (front ++ back) = ofMembers front ++ ofMembers back := by
  induction front with
  | nil => rfl
  | cons member rest ih => rw [List.cons_append, ofMembers, ofMembers, ih, List.cons_append]

end Draft

namespace Decoder

theorem restores_boolean (value : Bool) : boolean.Restores (.boolean value) value := fun _ => rfl

theorem restores_string (text : String) : string.Restores (.string text) text := fun _ => rfl

theorem restores_float {x : Float} (finite : Decimal.isFinite x = true) :
    float.Restores (.ofFloat x) x := by
  intro medium
  unfold Value.ofFloat
  rw [if_pos finite]
  rfl

theorem restores_natural {bits n : Nat} (small : n < Nat.pow 2 bits) :
    (natural bits).Restores (.ofNat n) n := by
  intro medium
  show (if 0 ≤ (n : Int) ∧ (n : Int) < (Nat.pow 2 bits : Nat) then Except.ok (n : Int).toNat
    else _) = _
  have within : 0 ≤ (n : Int) ∧ (n : Int) < (Nat.pow 2 bits : Nat) := by omega
  rw [if_pos within]
  rfl

theorem restores_optional {decode : Decoder α} {encode : α → Value} {item : Option α}
    (present : ∀ some ∈ item, decode.Restores (encode some) some ∧ encode some ≠ .null) :
    decode.optional.Restores (.ofOption encode item) item := by
  intro medium
  cases item with
  | none => rfl
  | some item =>
    obtain ⟨restores, filled⟩ := present item rfl
    have made := restores medium
    show decode.optional medium (.ofValue (encode item)) = _
    cases content : encode item with
    | null => exact absurd content filled
    | _ =>
      rw [content] at made
      show (decode medium _).map some = _
      rw [made]
      rfl

theorem restores_list {decode : Decoder α} {encode : α → Value} {items : List α}
    (each : ∀ item ∈ items, decode.Restores (encode item) item) :
    decode.list.Restores (.ofList encode items) items := by
  intro medium
  have read : (Draft.ofItems (items.map encode)).mapM (decode medium.inner) = .ok items := by
    rw [Draft.ofItems_eq_map, List.map_map]
    exact mapM_map_eq_ok fun item member => each item member medium.inner
  show (do
    let values ← (Draft.ofItems (items.map encode)).mapM (decode medium.inner)
    if true then return values else throw Fault.malformed) = _
  rw [read]
  rfl

theorem restores_refine {decode : Decoder α} {check : α → Except String β} {value : Value}
    {raw : α} {item : β} (restores : decode.Restores value raw) (passed : check raw = .ok item) :
    (decode.refine check).Restores value item := by
  intro medium
  unfold refine
  rw [restores]
  simp only [bind, Except.bind]
  rw [passed]
  rfl

theorem restores_choice {choices : List (String × α)} {name : String} {item : α}
    (known : choices.lookup name = some item) : (choice choices).Restores (.string name) item := by
  intro medium
  show pick choices name = _
  unfold pick
  rw [known]

section Maps

variable {κ ν : Type} [LT κ] [DecidableEq κ] [DecidableLT κ] [KeyOrder κ]

omit [LT κ] [DecidableEq κ] [DecidableLT κ] [KeyOrder κ] in
private theorem entries_ofMembers {key : String → Except String κ} {decode : Decoder ν}
    {text : κ → String} {encode : ν → Value} {items : List (κ × ν)}
    (keys : ∀ item ∈ items, key (text item.1) = .ok item.1)
    (each : ∀ item ∈ items, decode.Restores (encode item.2) item.2) (medium : Medium) :
    entries key decode medium
        (Draft.ofMembers (items.map fun item => (text item.1, encode item.2))) = .ok items := by
  induction items with
  | nil => rfl
  | cons item rest ih =>
    have ⟨firstKey, otherKeys⟩ := List.forall_mem_cons.mp keys
    have ⟨first, others⟩ := List.forall_mem_cons.mp each
    rw [List.map_cons, Draft.ofMembers, entries, firstKey]
    dsimp only
    rw [first, ih otherKeys others]
    rfl

theorem restores_map {key : String → Except String κ} {decode : Decoder ν} (text : κ → String)
    (encode : ν → Value) {map : SortedMap κ ν}
    (keys : ∀ item ∈ map.entries, key (text item.1) = .ok item.1)
    (each : ∀ item ∈ map.entries, decode.Restores (encode item.2) item.2) :
    (Decoder.map key decode).Restores
      (.object (map.entries.map fun item => (text item.1, encode item.2))) map := by
  intro medium
  show (do
    let read ← entries key decode medium.inner
      (Draft.ofMembers (map.entries.map fun item : κ × ν => (text item.1, encode item.2)))
    if true then return SortedMap.ofList read else throw Fault.malformed) = _
  rw [entries_ofMembers keys each]
  show Except.ok (SortedMap.ofList map.entries) = _
  rw [SortedMap.ofList_entries]

end Maps

end Decoder

namespace Record

/-- Members that a record reads one after the other. -/
inductive Fills (record : Record α) (medium : Medium) :
    List (String × Value) → record.Slots → record.Slots → Prop where
  | none (slots : record.Slots) : Fills record medium [] slots slots
  | more {name : String} {value : Value} {rest : List (String × Value)}
      {slots next final : record.Slots}
      (read : record.read medium name (.ofValue value) slots = some (.ok next))
      (others : Fills record medium rest next final) :
      Fills record medium ((name, value) :: rest) slots final

theorem Fills.trans {record : Record α} {medium : Medium} {written others : List (String × Value)}
    {slots next final : record.Slots} (front : record.Fills medium written slots next)
    (back : record.Fills medium others next final) :
    record.Fills medium (written ++ others) slots final := by
  induction front with
  | none => exact back
  | more read _ ih => exact .more read (ih back)

theorem Fills.readMembers {record : Record α} {medium : Medium} {written : List (String × Value)}
    {slots final : record.Slots} (fills : record.Fills medium written slots final) (strict : Bool) :
    record.readMembers strict medium (Draft.ofMembers written) slots = .ok final := by
  induction fills with
  | none => rfl
  | more read _ ih =>
    rw [Draft.ofMembers, Record.readMembers, read]
    exact ih

/-- The record makes this item of the members, and lets members alone that are not its fields. -/
structure Restores (record : Record α) (written : List (String × Value)) (item : α) : Prop where
  fills : ∀ medium, ∃ slots, record.Fills medium written record.empty slots ∧
    record.complete slots = .ok item
  names : ∀ entry ∈ written, entry.1 ∈ record.names
  others : ∀ medium name content slots, name ∉ record.names →
    record.read medium name content slots = none

theorem restores_field {decode : Decoder α} {value : Value} {item : α} (name : String)
    (absence : Absence α) (restores : decode.Restores value item) :
    (field name absence decode).Restores [(name, value)] item where
  fills medium := by
    refine ⟨some item, .more ?_ (.none _), rfl⟩
    show (if name = name then some (if (Option.none : Option α).isSome then _
      else (decode medium (.ofValue value)).map some) else none) = _
    rw [if_pos rfl, restores]
    rfl
  names := by
    rintro entry member
    rw [List.mem_singleton.mp member]
    exact List.mem_singleton_self name
  others medium member content slots apart := by
    exact if_neg fun same => apart (List.mem_singleton.mpr same)

/-- Where a field may be left out, an item that is not there is restored from no member. -/
theorem restores_absent (name : String) (default : α) (decode : Decoder α) :
    (field name (.anywhere default) decode).Restores [] default where
  fills _ := ⟨none, .none _, rfl⟩
  names := nofun
  others _ _ _ _ apart := if_neg fun same => apart (List.mem_singleton.mpr same)

theorem restores_lenient (name : String) {decode : Decoder α} {encode : α → Value}
    {item : Option α}
    (present : ∀ some ∈ item, decode.Restores (encode some) some ∧ encode some ≠ .null) :
    (lenient name decode).Restores (Value.memberIfSome name encode item) item := by
  cases item with
  | none => exact restores_absent name none decode.optional
  | some item =>
    exact restores_field name (.anywhere none) (Decoder.restores_optional present)

theorem Fills.map {record : Record α} {medium : Medium} {written : List (String × Value)}
    {slots final : record.Slots} (fills : record.Fills medium written slots final) (f : α → β) :
    (f <$> record).Fills medium written slots final := by
  induction fills with
  | none => exact .none _
  | more read _ ih => exact .more read ih

theorem Restores.map {record : Record α} {written : List (String × Value)} {item : α} (f : α → β)
    (restores : record.Restores written item) : (f <$> record).Restores written (f item) where
  fills medium := by
    obtain ⟨slots, fills, complete⟩ := restores.fills medium
    refine ⟨slots, fills.map f, ?_⟩
    show (record.complete slots).map f = _
    rw [complete]
    rfl
  names := restores.names
  others := restores.others

section Join

variable {first : Record (α → β)} {second : Record α} {medium : Medium}
  {written : List (String × Value)}

private theorem Fills.joinLeft {slots final : first.Slots}
    (fills : first.Fills medium written slots final) (aside : second.Slots) :
    (first <*> second).Fills medium written (slots, aside) (final, aside) := by
  induction fills with
  | none => exact .none _
  | more read _ ih =>
    refine .more ?_ ih
    simp [Seq.seq, join, read, Except.map]

private theorem Fills.joinRight {slots final : second.Slots}
    (fills : second.Fills medium written slots final) (done : first.Slots)
    (passed : ∀ entry ∈ written, ∀ content,
      first.read medium entry.1 content done = Option.none) :
    (first <*> second).Fills medium written (done, slots) (done, final) := by
  induction fills with
  | none => exact .none _
  | more read _ ih =>
    have ⟨here, later⟩ := List.forall_mem_cons.mp passed
    refine .more ?_ (ih later)
    simp [Seq.seq, join, here, read, Except.map]

theorem Restores.join {others : List (String × Value)} {f : α → β} {item : α}
    (front : first.Restores written f) (back : second.Restores others item)
    (apart : ∀ name ∈ second.names, name ∉ first.names) :
    (first <*> second).Restores (written ++ others) (f item) where
  fills medium := by
    obtain ⟨slots, fills, complete⟩ := front.fills medium
    obtain ⟨more, fillsMore, completeMore⟩ := back.fills medium
    have passed : ∀ entry ∈ others, ∀ content,
        first.read medium entry.1 content slots = none := by
      intro entry member content
      exact front.others _ _ _ _ (apart entry.1 (back.names entry member))
    refine ⟨(slots, more), (fills.joinLeft _).trans (fillsMore.joinRight slots passed), ?_⟩
    simp [Seq.seq, Record.join, complete, completeMore, bind, Except.bind, pure, Except.pure]
  names entry member := by
    rcases List.mem_append.mp member with here | there
    · exact List.mem_append_left _ (front.names entry here)
    · exact List.mem_append_right _ (back.names entry there)
  others medium name content slots outside := by
    have missed : name ∉ first.names ∧ name ∉ second.names := not_or.mp (List.mem_append.not.mp outside)
    simp [Seq.seq, Record.join, front.others _ _ _ _ missed.1, back.others _ _ _ _ missed.2]

end Join

/-- A record is restored from the object of its members. -/
theorem Restores.decoder {record : Record α} {written : List (String × Value)} {item : α}
    (restores : record.Restores written item) (name : String) (strict : Bool) :
    (record.decoder name strict).Restores (.object written) item := by
  intro medium
  obtain ⟨slots, fills, complete⟩ := restores.fills medium.inner
  show (do
    let slots ← record.readMembers strict medium.inner (Draft.ofMembers written) record.empty
    if true then record.complete slots else throw Fault.malformed) = _
  rw [fills.readMembers]
  exact complete

/-- A member in front that is no field of the record is passed over. -/
theorem Restores.decoder_behind {record : Record α} {written : List (String × Value)} {item : α}
    (restores : record.Restores written item) (name : String) {other : String × Value}
    (outside : other.1 ∉ record.names) (complete : (Draft.ofValue other.2).isComplete = true) :
    (record.decoder name false).Restores (.object (other :: written)) item := by
  intro medium
  rw [← restores.decoder name false medium]
  have passed : record.readMembers false medium.inner (Draft.ofMembers (other :: written))
      record.empty =
        record.readMembers false medium.inner (Draft.ofMembers written) record.empty := by
    rw [Draft.ofMembers, Record.readMembers, restores.others _ _ _ _ outside]
    simp [complete]
  show (do
    let slots ← record.readMembers false medium.inner (Draft.ofMembers (other :: written))
      record.empty
    if true then record.complete slots else throw Fault.malformed) = _
  rw [passed]
  rfl

section Flattened

/-! The members of one record may stand among those of another one. -/

variable {outer : Record α} {inner : Record β} {medium : Medium}

theorem Fills.of_append {front back : List (String × Value)} {slots final : outer.Slots}
    (fills : outer.Fills medium (front ++ back) slots final) :
    ∃ next, outer.Fills medium front slots next ∧ outer.Fills medium back next final := by
  induction front generalizing slots with
  | nil => exact ⟨slots, .none slots, fills⟩
  | cons member rest ih =>
    cases fills with
    | more read others =>
      obtain ⟨next, first, second⟩ := ih others
      exact ⟨next, .more read first, second⟩

theorem Fills.splitMembers {written : List (String × Value)} {slots next : outer.Slots}
    (fills : outer.Fills medium written slots next) (rest : List (Draft × Draft)) :
    outer.splitMembers medium (Draft.ofMembers written ++ rest) slots =
      outer.splitMembers medium rest next := by
  induction fills with
  | none => rfl
  | more read _ ih =>
    simp only [Draft.ofMembers, List.cons_append, Record.splitMembers, read]
    exact ih

/-- Members that are no fields of the record, with nothing in them that a text may not nest, are
kept aside. -/
theorem splitMembers_aside {written : List (String × Value)}
    (passed : ∀ entry ∈ written, ∀ content slots, outer.read medium entry.1 content slots = none)
    (sound : ∀ entry ∈ written, ∀ levels, (Draft.ofValue entry.2).isSound levels = true)
    (rest : List (Draft × Draft)) (slots : outer.Slots) :
    outer.splitMembers medium (Draft.ofMembers written ++ rest) slots =
      (outer.splitMembers medium rest slots).map fun split =>
        (split.1, Draft.ofMembers written ++ split.2) := by
  induction written with
  | nil =>
    rw [Draft.ofMembers, List.nil_append]
    cases outer.splitMembers medium rest slots <;> rfl
  | cons member others ih =>
    have ⟨passedHere, passedLater⟩ := List.forall_mem_cons.mp passed
    have ⟨soundHere, soundLater⟩ := List.forall_mem_cons.mp sound
    simp only [Draft.ofMembers, List.cons_append, Record.splitMembers, passedHere,
      ih passedLater soundLater]
    cases medium with
    | text levels =>
      simp only [soundHere levels, if_true]
      cases outer.splitMembers (.text levels) rest slots <;> rfl
    | whole => cases outer.splitMembers .whole rest slots <;> rfl

/-- Two records are restored from one object in which the members of the second one stand among
those of the first. -/
theorem restores_flattened {front middle back : List (String × Value)} {first : α} {second : β}
    (outside : outer.Restores (front ++ back) first) (inside : inner.Restores middle second)
    (apart : ∀ name ∈ inner.names, name ∉ outer.names)
    (sound : ∀ entry ∈ middle, ∀ levels, (Draft.ofValue entry.2).isSound levels = true)
    (name : String) :
    (flattened outer inner name).Restores (.object (front ++ middle ++ back)) (first, second) := by
  intro medium
  obtain ⟨slots, fills, complete⟩ := outside.fills medium.inner
  obtain ⟨next, fillsFront, fillsBack⟩ := fills.of_append
  obtain ⟨innerSlots, fillsInner, completeInner⟩ := inside.fills .whole
  have passed : ∀ entry ∈ middle, ∀ content slots,
      outer.read medium.inner entry.1 content slots = none := by
    intro entry member content slots
    exact outside.others _ _ _ _ (apart entry.1 (inside.names entry member))
  have split : outer.splitMembers medium.inner (Draft.ofMembers (front ++ middle ++ back))
      outer.empty = .ok (slots, Draft.ofMembers middle) := by
    have ended := fillsBack.splitMembers []
    rw [List.append_nil] at ended
    rw [Draft.ofMembers_append, Draft.ofMembers_append, List.append_assoc,
      fillsFront.splitMembers, splitMembers_aside passed sound, ended]
    simp [Record.splitMembers, Except.map]
  simp only [flattened, Draft.ofValue]
  rw [split]
  simp [complete, fillsInner.readMembers, completeInner, bind, Except.bind, pure, Except.pure]

end Flattened

end Record

end HomeVoice.Json
