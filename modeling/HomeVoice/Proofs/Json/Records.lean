import HomeVoice.Json.Record
import HomeVoice.Proofs.Outcome

/-!
# What a record is read from

A strict record is read from an object whose members are its fields and nothing else, each at most
once, in any order: of two records side by side each one takes the members with its own names. From a
list it is read by the order of its fields.
-/

namespace HomeVoice.Json

variable {α β : Type}

namespace Draft

/-- A draft of a string, the name of a member for instance. -/
def ofString (text : String) : Draft := .string (some text)

/-- The member has one of these names. -/
def isNamed (names : List String) (member : Draft × Draft) : Bool :=
  match member.1 with
  | .string (some name) => names.contains name
  | _ => false

theorem isNamed_iff {names : List String} {member : Draft × Draft} :
    isNamed names member = true ↔ ∃ name ∈ names, member.1 = ofString name := by
  obtain ⟨key, content⟩ := member
  unfold isNamed ofString
  cases key with
  | string text =>
    cases text with
    | none => simp
    | some text => simp
  | _ => simp

end Draft

namespace Decoder

/-- What does not fit is never read. -/
theorem mismatch_ne_ok {draft : Draft} {expected : String} {item : α} :
    draft.mismatch expected ≠ .ok item := by
  intro success
  obtain ⟨_, _, thrown⟩ := bind_eq_ok.mp success
  cases thrown

theorem string_eq_ok_iff {medium : Medium} {draft : Draft} {text : String} :
    string medium draft = .ok text ↔ draft = .ofString text := by
  unfold string Draft.ofString
  split
  · simp
  next other =>
    refine iff_of_false mismatch_ne_ok ?_
    rintro rfl
    exact other text rfl

theorem optional_eq_ok_iff {decode : Decoder α} {medium : Medium} {draft : Draft}
    {item : Option α} (filled : ∀ value, decode medium .null ≠ .ok value) :
    decode.optional medium draft = .ok item ↔
      draft = .null ∧ item = none ∨ ∃ value, decode medium draft = .ok value ∧ some value = item := by
  unfold optional
  split
  · simp [filled, eq_comm]
  next other =>
    have apart : draft ≠ .null := other
    rw [map_eq_ok, or_iff_right (mt And.left apart)]

end Decoder

namespace Record

/-- The strict record is made of the members of an object. -/
def Accepts (record : Record α) (medium : Medium) (members : List (Draft × Draft)) (item : α) :
    Prop :=
  ∃ slots, record.readMembers true medium members record.empty = .ok slots ∧
    record.complete slots = .ok item

/-- The members of an object are told apart by their names alone. -/
structure IsByName (record : Record α) : Prop where
  reads : ∀ medium name content slots,
    record.read medium name content slots = none ↔ name ∉ record.names
  unordered : ∀ {medium members members' item}, members.Perm members' →
    record.Accepts medium members item → record.Accepts medium members' item

section Reading

variable {record : Record α} {medium : Medium} {member : Draft × Draft}
  {rest : List (Draft × Draft)} {slots final : record.Slots}

theorem readMembers_cons_eq_ok :
    record.readMembers true medium (member :: rest) slots = .ok final ↔
      ∃ name, member.1 = .ofString name ∧ ∃ next,
        record.read medium name member.2 slots = some (.ok next) ∧
        record.readMembers true medium rest next = .ok final := by
  obtain ⟨key, content⟩ := member
  constructor
  · intro success
    cases key with
    | string text =>
      cases text with
      | none => cases success
      | some name =>
        refine ⟨name, rfl, ?_⟩
        rw [readMembers] at success
        split at success
        next read found =>
          obtain ⟨next, done, success⟩ := bind_eq_ok.mp success
          exact ⟨next, by rw [found, done], success⟩
        next => cases success
    | _ => cases success
  · rintro ⟨name, rfl, next, read, success⟩
    simp only [Draft.ofString, readMembers, read]
    exact success

end Reading

/-- An object has no members but those of its record. -/
theorem Accepts.isNamed {record : Record α} (byName : record.IsByName) {medium : Medium}
    {members : List (Draft × Draft)} {item : α} (accepted : record.Accepts medium members item) :
    ∀ member ∈ members, Draft.isNamed record.names member = true := by
  obtain ⟨final, success, _⟩ := accepted
  generalize record.empty = slots at success
  induction members generalizing slots with
  | nil => exact nofun
  | cons member rest ih =>
    obtain ⟨name, named, next, read, others⟩ := readMembers_cons_eq_ok.mp success
    refine List.forall_mem_cons.mpr ⟨Draft.isNamed_iff.mpr ⟨name, ?_, named⟩, ih next others⟩
    rw [← Decidable.not_not (p := name ∈ record.names), ← byName.reads medium name member.2 slots,
      read]
    nofun

section Field

variable {name : String} {absence : Absence α} {decode : Decoder α} {medium : Medium} {item : α}

/-- A member is read into an empty slot. -/
theorem read_field_eq_ok {member : String} {content : Draft} {slot next : Option α} :
    (field name absence decode).read medium member content slot = some (.ok next) ↔
      member = name ∧ slot = none ∧ ∃ value, decode medium content = .ok value ∧
        some value = next := by
  show (if member = name then
      some (if slot.isSome then .error (.duplicateField name)
        else (decode medium content).map some)
      else none) = some (.ok next) ↔ _
  by_cases same : member = name
  · rw [if_pos same, Option.some.injEq, and_iff_right same]
    cases slot with
    | none => simp [map_eq_ok]
    | some => simp
  · simp [same]

/-- A field is read from one member with its name, or from nothing if it may be left out. -/
theorem accepts_field_iff {members : List (Draft × Draft)} :
    (field name absence decode).Accepts medium members item ↔
      members = [] ∧ (absence = .inObject item ∨ absence = .anywhere item) ∨
        ∃ content, members = [(.ofString name, content)] ∧ decode medium content = .ok item := by
  constructor
  · rintro ⟨final, success, complete⟩
    cases members with
    | nil =>
      cases success
      cases absence <;> cases complete
      · exact .inl ⟨rfl, .inl rfl⟩
      · exact .inl ⟨rfl, .inr rfl⟩
    | cons member rest =>
      obtain ⟨_, named, _, first, others⟩ := readMembers_cons_eq_ok.mp success
      obtain ⟨rfl, _, value, decoded, rfl⟩ := read_field_eq_ok.mp first
      cases rest with
      | nil =>
        cases others
        cases complete
        exact .inr ⟨member.2, congrArg ([·]) (Prod.ext named rfl), decoded⟩
      | cons other rest =>
        obtain ⟨_, _, _, second, _⟩ := readMembers_cons_eq_ok.mp others
        cases (read_field_eq_ok.mp second).2.1
  · rintro (⟨rfl, rfl | rfl⟩ | ⟨content, rfl, decoded⟩)
    · exact ⟨none, rfl, rfl⟩
    · exact ⟨none, rfl, rfl⟩
    · refine ⟨some item, readMembers_cons_eq_ok.mpr ⟨name, rfl, some item, ?_, rfl⟩, rfl⟩
      exact read_field_eq_ok.mpr ⟨rfl, rfl, item, decoded, rfl⟩

theorem isByName_field (name : String) (absence : Absence α) (decode : Decoder α) :
    (field name absence decode).IsByName where
  reads medium member content slots := by
    show (if member = name then _ else none) = none ↔ member ∉ [name]
    by_cases same : member = name <;> simp [same]
  unordered order accepted := by
    rw [accepts_field_iff] at accepted ⊢
    rcases accepted with ⟨rfl, absent⟩ | ⟨content, rfl, decoded⟩
    · exact .inl ⟨List.nil_perm.mp order, absent⟩
    · exact .inr ⟨content, (List.singleton_perm.mp order).symm, decoded⟩

end Field

section Map

variable {record : Record α} {f : α → β} {medium : Medium} {members : List (Draft × Draft)}
  {result : β}

theorem accepts_map_iff :
    (f <$> record).Accepts medium members result ↔
      ∃ item, record.Accepts medium members item ∧ f item = result := by
  have same {slots final : record.Slots} :
      (f <$> record).readMembers true medium members slots = .ok final ↔
        record.readMembers true medium members slots = .ok final := by
    induction members generalizing slots with
    | nil => exact Iff.rfl
    | cons member rest ih =>
      constructor
      · intro success
        obtain ⟨name, named, next, read, others⟩ := readMembers_cons_eq_ok.mp success
        exact readMembers_cons_eq_ok.mpr ⟨name, named, next, read, ih.mp others⟩
      · intro success
        obtain ⟨name, named, next, read, others⟩ := readMembers_cons_eq_ok.mp success
        exact readMembers_cons_eq_ok.mpr ⟨name, named, next, read, ih.mpr others⟩
  constructor
  · rintro ⟨slots, success, complete⟩
    obtain ⟨item, complete, made⟩ := map_eq_ok.mp complete
    exact ⟨item, ⟨slots, same.mp success, complete⟩, made⟩
  · rintro ⟨item, ⟨slots, success, complete⟩, made⟩
    exact ⟨slots, same.mpr success, map_eq_ok.mpr ⟨item, complete, made⟩⟩

theorem IsByName.map (byName : record.IsByName) (f : α → β) : (f <$> record).IsByName where
  reads := byName.reads
  unordered order accepted := by
    obtain ⟨item, accepted, made⟩ := accepts_map_iff.mp accepted
    exact accepts_map_iff.mpr ⟨item, byName.unordered order accepted, made⟩

end Map

section Join

variable {first : Record (α → β)} {second : Record α} {medium : Medium}
  {members : List (Draft × Draft)} {result : β}

theorem read_join_of_some {name : String} {content : Draft} {slots : first.Slots}
    {slots' : second.Slots} {read : Except Fault first.Slots}
    (mine : first.read medium name content slots = some read) :
    (first <*> second).read medium name content (slots, slots') = some (read.map (·, slots')) := by
  simp [Seq.seq, join, mine]

theorem read_join_of_none {name : String} {content : Draft} {slots : first.Slots}
    {slots' : second.Slots} (others : first.read medium name content slots = none) :
    (first <*> second).read medium name content (slots, slots') =
      (second.read medium name content slots').map (·.map (slots, ·)) := by
  simp [Seq.seq, join, others]

theorem read_join_eq_ok (front : first.IsByName) {name : String} {content : Draft}
    {slots next : first.Slots} {slots' next' : second.Slots} :
    (first <*> second).read medium name content (slots, slots') = some (.ok (next, next')) ↔
      name ∈ first.names ∧ first.read medium name content slots = some (.ok next) ∧ slots' = next' ∨
      name ∉ first.names ∧ second.read medium name content slots' = some (.ok next') ∧
        slots = next := by
  rw [← front.reads medium name content slots]
  cases mine : first.read medium name content slots with
  | some read =>
    have known : name ∈ first.names := by
      rw [← Decidable.not_not (p := name ∈ first.names), ← front.reads medium name content slots, mine]
      nofun
    rw [read_join_of_some mine]
    show (some (read.map (·, slots')) : Option (Except Fault (first.Slots × second.Slots))) =
      some (.ok (next, next')) ↔ _
    cases read <;> simp [known, Except.map]
  | none =>
    have unknown := (front.reads medium name content slots).mp mine
    rw [read_join_of_none mine]
    show ((second.read medium name content slots').map (·.map (slots, ·)) :
      Option (Except Fault (first.Slots × second.Slots))) = some (.ok (next, next')) ↔ _
    cases second.read medium name content slots' with
    | none => simp
    | some read => cases read <;> simp [unknown, Except.map, and_comm]

/-- Of two records side by side the first one reads the members with its names, and the second one all
the others. -/
theorem readMembers_join_eq_ok (front : first.IsByName) {slots final : first.Slots}
    {slots' final' : second.Slots} :
    (first <*> second).readMembers true medium members (slots, slots') = .ok (final, final') ↔
      first.readMembers true medium (members.filter (Draft.isNamed first.names)) slots = .ok final ∧
        second.readMembers true medium (members.filter (!Draft.isNamed first.names ·)) slots' =
          .ok final' := by
  induction members generalizing slots slots' with
  | nil =>
    show Except.ok (slots, slots') = .ok (final, final') ↔
      Except.ok slots = .ok final ∧ Except.ok slots' = .ok final'
    simp
  | cons member rest ih =>
    by_cases mine : Draft.isNamed first.names member = true
    · have known {name : String} (named : member.1 = .ofString name) : name ∈ first.names := by
        obtain ⟨other, known, named'⟩ := Draft.isNamed_iff.mp mine
        cases named.symm.trans named'
        exact known
      rw [List.filter_cons_of_pos mine, List.filter_cons_of_neg (by simp [mine])]
      constructor
      · intro success
        obtain ⟨name, named, ⟨next, next'⟩, step, others⟩ := readMembers_cons_eq_ok.mp success
        obtain ⟨_, read, rfl⟩ | ⟨unknown, _⟩ := (read_join_eq_ok front).mp step
        · obtain ⟨left, right⟩ := ih.mp others
          exact ⟨readMembers_cons_eq_ok.mpr ⟨name, named, next, read, left⟩, right⟩
        · exact absurd (known named) unknown
      · rintro ⟨success, right⟩
        obtain ⟨name, named, next, read, left⟩ := readMembers_cons_eq_ok.mp success
        refine readMembers_cons_eq_ok.mpr ⟨name, named, (next, slots'), ?_, ih.mpr ⟨left, right⟩⟩
        exact (read_join_eq_ok front).mpr (.inl ⟨known named, read, rfl⟩)
    · have unknown {name : String} (named : member.1 = .ofString name) : name ∉ first.names :=
        fun known => mine (Draft.isNamed_iff.mpr ⟨name, known, named⟩)
      rw [List.filter_cons_of_neg mine, List.filter_cons_of_pos (by simp [mine])]
      constructor
      · intro success
        obtain ⟨name, named, ⟨next, next'⟩, step, others⟩ := readMembers_cons_eq_ok.mp success
        obtain ⟨known, _⟩ | ⟨_, read, rfl⟩ := (read_join_eq_ok front).mp step
        · exact absurd known (unknown named)
        · obtain ⟨left, right⟩ := ih.mp others
          exact ⟨left, readMembers_cons_eq_ok.mpr ⟨name, named, next', read, right⟩⟩
      · rintro ⟨left, success⟩
        obtain ⟨name, named, next', read, right⟩ := readMembers_cons_eq_ok.mp success
        refine readMembers_cons_eq_ok.mpr ⟨name, named, (slots, next'), ?_, ih.mpr ⟨left, right⟩⟩
        exact (read_join_eq_ok front).mpr (.inr ⟨unknown named, read, rfl⟩)

private theorem accepts_join_iff_filter (front : first.IsByName) :
    (first <*> second).Accepts medium members result ↔ ∃ f item,
      first.Accepts medium (members.filter (Draft.isNamed first.names)) f ∧
      second.Accepts medium (members.filter (!Draft.isNamed first.names ·)) item ∧
      f item = result := by
  constructor
  · rintro ⟨⟨slots, slots'⟩, success, complete⟩
    obtain ⟨mine, others⟩ := (readMembers_join_eq_ok front).mp success
    obtain ⟨f, whole, complete⟩ := bind_eq_ok.mp complete
    obtain ⟨item, whole', complete⟩ := bind_eq_ok.mp complete
    exact ⟨f, item, ⟨slots, mine, whole⟩, ⟨slots', others, whole'⟩, Except.ok.inj complete⟩
  · rintro ⟨f, item, ⟨slots, mine, whole⟩, ⟨slots', others, whole'⟩, rfl⟩
    refine ⟨(slots, slots'), (readMembers_join_eq_ok front).mpr ⟨mine, others⟩, ?_⟩
    exact bind_eq_ok.mpr ⟨f, whole, bind_eq_ok.mpr ⟨item, whole', rfl⟩⟩

theorem IsByName.join (front : first.IsByName) (back : second.IsByName) :
    (first <*> second).IsByName where
  reads medium name content slots := by
    obtain ⟨slots, slots'⟩ := slots
    show _ ↔ name ∉ first.names ++ second.names
    rw [List.mem_append, not_or, ← front.reads medium name content slots,
      ← back.reads medium name content slots']
    cases mine : first.read medium name content slots with
    | some read => simp [read_join_of_some mine]
    | none =>
      rw [read_join_of_none mine, and_iff_right rfl]
      exact Option.map_eq_none_iff
  unordered order accepted := by
    obtain ⟨f, item, mine, others, made⟩ := (accepts_join_iff_filter front).mp accepted
    exact (accepts_join_iff_filter front).mpr ⟨f, item, front.unordered (order.filter _) mine,
      back.unordered (order.filter _) others, made⟩

/-- Two records side by side are read from the members of the one and the members of the other, in
any order. -/
theorem accepts_join_iff (front : first.IsByName) (back : second.IsByName)
    (apart : ∀ name ∈ second.names, name ∉ first.names) :
    (first <*> second).Accepts medium members result ↔ ∃ mine others f item,
      members.Perm (mine ++ others) ∧ first.Accepts medium mine f ∧
        second.Accepts medium others item ∧ f item = result := by
  rw [accepts_join_iff_filter front]
  constructor
  · rintro ⟨f, item, mine, others, made⟩
    exact ⟨_, _, f, item, (List.filter_append_perm _ members).symm, mine, others, made⟩
  · rintro ⟨mine, others, f, item, order, front', back', made⟩
    have named := front'.isNamed front
    have foreign : ∀ member ∈ others, Draft.isNamed first.names member = false := by
      intro member listed
      obtain ⟨name, known, named⟩ := Draft.isNamed_iff.mp (back'.isNamed back member listed)
      refine Bool.eq_false_iff.mpr fun here => ?_
      obtain ⟨other, mine, named'⟩ := Draft.isNamed_iff.mp here
      cases named.symm.trans named'
      exact apart name known mine
    have own : (mine ++ others).filter (Draft.isNamed first.names) = mine := by
      rw [List.filter_append, List.filter_eq_self.mpr named,
        List.filter_eq_nil_iff.mpr (by simpa using foreign), List.append_nil]
    have rest : (mine ++ others).filter (!Draft.isNamed first.names ·) = others := by
      rw [List.filter_append, List.filter_eq_nil_iff.mpr (by simpa using named),
        List.filter_eq_self.mpr (by simpa using foreign), List.nil_append]
    refine ⟨f, item, front.unordered ?_ front', back.unordered ?_ back', made⟩
    · rw [← own]
      exact (order.filter _).symm
    · rw [← rest]
      exact (order.filter _).symm

end Join

section Lists

variable {medium : Medium} {expected : String} {index : Nat} {items left : List Draft}

theorem take_field_eq_ok {name : String} {absence : Absence α} {decode : Decoder α} {item : α} :
    (field name absence decode).take medium expected index items = .ok (item, left) ↔
      (∃ content, items = content :: left ∧ decode medium content = .ok item) ∨
        items = [] ∧ left = [] ∧ absence = .anywhere item := by
  cases items with
  | nil =>
    cases absence with
    | anywhere default =>
      show Except.ok (default, []) = .ok (item, left) ↔ _
      simp [eq_comm, and_comm]
    | _ => exact iff_of_false nofun (by simp)
  | cons content rest =>
    show (decode medium content).map (·, rest) = .ok (item, left) ↔ _
    rw [map_eq_ok, or_iff_left (by simp)]
    constructor
    · rintro ⟨_, decoded, made⟩
      cases made
      exact ⟨content, rfl, decoded⟩
    · rintro ⟨_, same, decoded⟩
      cases same
      exact ⟨item, decoded, rfl⟩

theorem take_map_eq_ok {record : Record α} {f : α → β} {result : β} :
    (f <$> record).take medium expected index items = .ok (result, left) ↔
      ∃ item, record.take medium expected index items = .ok (item, left) ∧ f item = result := by
  show (record.take medium expected index items).map (fun taken => (f taken.1, taken.2)) =
    .ok (result, left) ↔ _
  rw [map_eq_ok]
  constructor
  · rintro ⟨⟨item, _⟩, taken, made⟩
    cases made
    exact ⟨item, taken, rfl⟩
  · rintro ⟨item, taken, rfl⟩
    exact ⟨_, taken, rfl⟩

theorem take_join_eq_ok {first : Record (α → β)} {second : Record α} {result : β} :
    (first <*> second).take medium expected index items = .ok (result, left) ↔
      ∃ f middle item, first.take medium expected index items = .ok (f, middle) ∧
        second.take medium expected (index + first.names.length) middle = .ok (item, left) ∧
        f item = result := by
  refine bind_eq_ok.trans ?_
  constructor
  · rintro ⟨⟨f, middle⟩, front, rest⟩
    obtain ⟨⟨item, _⟩, back, made⟩ := bind_eq_ok.mp rest
    cases made
    exact ⟨f, middle, item, front, back, rfl⟩
  · rintro ⟨f, middle, item, front, back, rfl⟩
    exact ⟨(f, middle), front, bind_eq_ok.mpr ⟨(item, left), back, rfl⟩⟩

end Lists

/-- A strict record is read from a whole object or a whole list and from nothing else. -/
theorem decoder_eq_ok_iff {record : Record α} {name : String} {medium : Medium} {draft : Draft}
    {item : α} :
    record.decoder name true medium draft = .ok item ↔
      (∃ members, draft = .object members true ∧ record.Accepts medium.inner members item) ∨
        ∃ items, draft = .list items true ∧
          record.take medium.inner (record.expected name) 0 items = .ok (item, []) := by
  cases draft with
  | object members closed =>
    refine bind_eq_ok.trans ?_
    cases closed with
    | true => simp [Accepts]
    | false =>
      refine iff_of_false ?_ (by simp)
      rintro ⟨_, _, thrown⟩
      cases thrown
  | list items closed =>
    have whole (left : List Draft) : (left.isEmpty && closed) = true ↔ closed = true ∧ left = [] := by
      rw [Bool.and_eq_true, List.isEmpty_iff, and_comm]
    refine bind_eq_ok.trans ?_
    constructor
    · rintro ⟨⟨value, left⟩, taken, made⟩
      dsimp only at made
      split at made
      next ended =>
        obtain ⟨rfl, rfl⟩ := (whole left).mp ended
        cases made
        exact .inr ⟨items, rfl, taken⟩
      next => cases medium <;> cases made
    · rintro (⟨_, other, _⟩ | ⟨_, same, taken⟩)
      · cases other
      · cases same
        exact ⟨(item, []), taken, rfl⟩
  | _ => exact iff_of_false Decoder.mismatch_ne_ok (by simp)

end Record

end HomeVoice.Json
