import HomeVoice.Command
import HomeVoice.Proofs.Json.Records

/-!
# Which texts are commands

A text is read as a written command if and only if it is a document that spells one. More than one
document does: the fields may stand in any order, a list of what is in them may stand for the object,
and null for a value that is left out. What is written is then looked at in a fixed order, the names
first, then the action and the value last, and the error tells the first thing that is wrong.
-/

namespace HomeVoice

open Json (Decoder Document Draft Medium Record)

namespace WireCommand

/-- The field of a value. One that is not there is left out or null. -/
inductive ValueField : Option String → List (String × Draft) → Prop where
  | absent : ValueField none []
  | null : ValueField none [("value", .null)]
  | present (text : String) : ValueField (some text) [("value", .ofString text)]

/-- The fields of a written command with what is in them. -/
inductive Fields (command : WireCommand) : List (String × Draft) → Prop where
  | intro {value : List (String × Draft)} (holds : ValueField command.value value) :
      Fields command ([("deviceType", .ofString command.deviceType),
        ("action", .ofString command.action), ("location", .ofString command.location)] ++ value)

/-- A written command is spelled by an object that has its fields and nothing else, each once and in
any order, or by a list of what is in its fields, in their order. -/
inductive SpelledBy (command : WireCommand) : Draft → Prop where
  | object {fields : List (String × Draft)} {members : List (Draft × Draft)}
      (holds : command.Fields fields)
      (order : members.Perm (fields.map fun field => (.ofString field.1, field.2))) :
      SpelledBy command (.object members true)
  | list {fields : List (String × Draft)} (holds : command.Fields fields) :
      SpelledBy command (.list (fields.map Prod.snd) true)

section Objects

variable {medium : Medium} {members : List (Draft × Draft)}

theorem accepts_required_iff {name text : String} :
    (Record.required name Decoder.string).Accepts medium members text ↔
      members = [(.ofString name, .ofString text)] := by
  unfold Record.required
  rw [Record.accepts_field_iff]
  simp [Decoder.string_eq_ok_iff]

theorem optional_string_eq_ok_iff {draft : Draft} {value : Option String} :
    Decoder.string.optional medium draft = .ok value ↔
      draft = .null ∧ value = none ∨ ∃ text, draft = .ofString text ∧ some text = value := by
  rw [Decoder.optional_eq_ok_iff fun _ => Decoder.mismatch_ne_ok]
  simp only [Decoder.string_eq_ok_iff]

theorem accepts_value_iff {value : Option String} :
    (Record.lenient "value" Decoder.string).Accepts medium members value ↔
      ∃ fields, ValueField value fields ∧
        members = fields.map fun field => (.ofString field.1, field.2) := by
  unfold Record.lenient
  rw [Record.accepts_field_iff]
  constructor
  · rintro (⟨rfl, absence | absence⟩ | ⟨content, rfl, decoded⟩)
    · cases absence
    · cases absence
      exact ⟨[], .absent, rfl⟩
    · obtain ⟨rfl, rfl⟩ | ⟨text, rfl, rfl⟩ := optional_string_eq_ok_iff.mp decoded
      · exact ⟨_, .null, rfl⟩
      · exact ⟨_, .present text, rfl⟩
  · rintro ⟨fields, holds, rfl⟩
    cases holds with
    | absent => exact .inl ⟨rfl, .inr rfl⟩
    | null => exact .inr ⟨_, rfl, optional_string_eq_ok_iff.mpr (.inl ⟨rfl, rfl⟩)⟩
    | present text => exact .inr ⟨_, rfl, optional_string_eq_ok_iff.mpr (.inr ⟨text, rfl, rfl⟩)⟩

theorem accepts_iff {command : WireCommand} :
    record.Accepts medium members command ↔ ∃ fields, command.Fields fields ∧
      members.Perm (fields.map fun field => (.ofString field.1, field.2)) := by
  have required (name : String) : (Record.required name Decoder.string).IsByName :=
    Record.isByName_field name .fault Decoder.string
  have value : (Record.lenient "value" Decoder.string).IsByName :=
    Record.isByName_field "value" (.anywhere none) Decoder.string.optional
  have one := (required "deviceType").map WireCommand.mk
  have two := one.join (required "action")
  have three := two.join (required "location")
  unfold record
  simp only [Record.accepts_join_iff three value (by decide),
    Record.accepts_join_iff two (required "location") (by decide),
    Record.accepts_join_iff one (required "action") (by decide), Record.accepts_map_iff,
    accepts_required_iff, accepts_value_iff]
  constructor
  · rintro ⟨_, _, _, _, order, ⟨_, _, _, location, order', ⟨_, _, _, action, order'',
      ⟨deviceType, rfl, rfl⟩, rfl, rfl⟩, rfl, rfl⟩, ⟨fields, holds, rfl⟩, rfl⟩
    refine ⟨_, .intro holds, order.trans ?_⟩
    rw [List.map_append]
    exact (order'.trans (order''.append_right _)).append_right _
  · rintro ⟨_, ⟨holds⟩, order⟩
    rw [List.map_append] at order
    exact ⟨_, _, _, _, order, ⟨_, [_], _, _, .refl _, ⟨[_], [_], _, _, .refl _, ⟨_, rfl, rfl⟩, rfl, rfl⟩,
      rfl, rfl⟩, ⟨_, holds, rfl⟩, rfl⟩

end Objects

section Lists

variable {medium : Medium} {expected : String} {index : Nat} {items left : List Draft}

theorem take_required_eq_ok {name text : String} :
    (Record.required name Decoder.string).take medium expected index items = .ok (text, left) ↔
      items = .ofString text :: left := by
  unfold Record.required
  rw [Record.take_field_eq_ok]
  simp [Decoder.string_eq_ok_iff]

theorem take_value_eq_ok {value : Option String} :
    (Record.lenient "value" Decoder.string).take medium expected index items = .ok (value, []) ↔
      ∃ fields, ValueField value fields ∧ items = fields.map Prod.snd := by
  unfold Record.lenient
  rw [Record.take_field_eq_ok]
  constructor
  · rintro (⟨content, rfl, decoded⟩ | ⟨rfl, -, absence⟩)
    · obtain ⟨rfl, rfl⟩ | ⟨text, rfl, rfl⟩ := optional_string_eq_ok_iff.mp decoded
      · exact ⟨_, .null, rfl⟩
      · exact ⟨_, .present text, rfl⟩
    · cases absence
      exact ⟨[], .absent, rfl⟩
  · rintro ⟨fields, holds, rfl⟩
    cases holds with
    | absent => exact .inr ⟨rfl, rfl, rfl⟩
    | null => exact .inl ⟨_, rfl, optional_string_eq_ok_iff.mpr (.inl ⟨rfl, rfl⟩)⟩
    | present text => exact .inl ⟨_, rfl, optional_string_eq_ok_iff.mpr (.inr ⟨text, rfl, rfl⟩)⟩

theorem take_eq_ok {command : WireCommand} :
    record.take medium expected index items = .ok (command, []) ↔
      ∃ fields, command.Fields fields ∧ items = fields.map Prod.snd := by
  unfold record
  simp only [Record.take_join_eq_ok, Record.take_map_eq_ok, take_required_eq_ok, take_value_eq_ok]
  constructor
  · rintro ⟨_, _, _, ⟨_, _, location, ⟨_, _, action, ⟨deviceType, rfl, rfl⟩, rfl, rfl⟩, rfl, rfl⟩,
      ⟨fields, holds, rfl⟩, rfl⟩
    exact ⟨_, .intro holds, rfl⟩
  · rintro ⟨_, ⟨holds⟩, rfl⟩
    exact ⟨_, _, _, ⟨_, _, _, ⟨_, _, _, ⟨_, rfl, rfl⟩, rfl, rfl⟩, rfl, rfl⟩, ⟨_, holds, rfl⟩, rfl⟩

end Lists

/-- Nothing else spells a written command. -/
theorem decode_eq_ok_iff {medium : Medium} {draft : Draft} {command : WireCommand} :
    decode medium draft = .ok command ↔ command.SpelledBy draft := by
  unfold decode
  rw [Record.decoder_eq_ok_iff]
  simp only [accepts_iff, take_eq_ok]
  constructor
  · rintro (⟨members, rfl, fields, holds, order⟩ | ⟨items, rfl, fields, holds, rfl⟩)
    · exact .object holds order
    · exact .list holds
  · rintro (⟨holds, order⟩ | ⟨holds⟩)
    · exact .inl ⟨_, rfl, _, holds, order⟩
    · exact .inr ⟨_, rfl, _, holds, rfl⟩

/-- The text is a document, with nothing but blanks around it, that spells the command. -/
def WrittenIn (command : WireCommand) (text : String) : Prop :=
  ∃ draft, Document.ofText text = ⟨draft, true⟩ ∧ command.SpelledBy draft

theorem ofText_eq_ok_iff {text : String} {command : WireCommand} :
    decode.ofText text = .ok command ↔ command.WrittenIn text := by
  unfold Decoder.ofText Decoder.ofDocument WrittenIn
  rw [bind_eq_ok]
  simp only [decode_eq_ok_iff]
  cases Document.ofText text with
  | mk draft clean =>
    cases clean with
    | true => simp [pure, Except.pure]
    | false => simp [throw, throwThe, MonadExceptOf.throw]

theorem WrittenIn.unique {text : String} {command other : WireCommand}
    (written : command.WrittenIn text) (written' : other.WrittenIn text) : command = other := by
  rw [← ofText_eq_ok_iff] at written written'
  exact Except.ok.inj (written.symm.trans written')

end WireCommand

/-- The normal form of the text is a name. -/
def IsName (text : String) : Prop :=
  normalizeName text ≠ "" ∧ (normalizeName text).toList.all isNameChar = true

/-- The text is the token of an action. -/
def IsToken (text : String) : Prop := text ∈ Action.all.map Action.token

/-- The text, without the blanks around it, writes this finite number. -/
def IsNumber (text : String) (number : Float) : Prop :=
  Decimal.readNumber (String.ofList (Text.trim text.toList)) = some number ∧
    Decimal.isFinite number = true

namespace WireCommand

/-- A written command with two names. -/
def IsNamed (wire : WireCommand) : Prop := IsName wire.deviceType ∧ IsName wire.location

/-- The command has the normalised names, the action and the number that are written. -/
structure Means (wire : WireCommand) (command : Command) : Prop where
  named : wire.IsNamed
  deviceType : command.deviceType.text = normalizeName wire.deviceType
  location : command.location.text = normalizeName wire.location
  action : command.action.token = wire.action
  value : Option.Rel IsNumber wire.value command.value

variable {wire : WireCommand} {command other : Command}

theorem Means.isToken (means : wire.Means command) : IsToken wire.action := by
  rw [← means.action]
  exact List.mem_map_of_mem (by cases command.action <;> decide)

theorem Means.exists_number (means : wire.Means command) {text : String}
    (present : wire.value = some text) : ∃ number, IsNumber text number := by
  have related := means.value
  rw [present] at related
  generalize command.value = value at related
  cases related with
  | some number => exact ⟨_, number⟩

/-- What is written means one command. -/
theorem Means.unique (means : wire.Means command) (means' : wire.Means other) : command = other := by
  have deviceType := Name.eq_of_text (means.deviceType.trans means'.deviceType.symm)
  have location := Name.eq_of_text (means.location.trans means'.location.symm)
  have action : command.action = other.action := by
    have same := Action.ofToken?_token command.action
    rw [means.action, ← means'.action, Action.ofToken?_token] at same
    exact (Option.some.inj same).symm
  have value : command.value = other.value := by
    have first := means.value
    have second := means'.value
    cases present : wire.value with
    | none =>
      rw [present] at first second
      generalize command.value = value at first
      generalize other.value = value' at second
      cases first
      cases second
      rfl
    | some text =>
      rw [present] at first second
      generalize command.value = value at first
      generalize other.value = value' at second
      cases first with
      | some number =>
        cases second with
        | some number' => exact number.1.symm.trans number'.1
  obtain ⟨_, _, _, _⟩ := command
  obtain ⟨_, _, _, _⟩ := other
  cases deviceType
  cases location
  cases action
  cases value
  rfl

end WireCommand

namespace Command

theorem readName_cases {kind : NameKind} (text : String) :
    (∃ name : Name kind, readName text = .ok name ∧ IsName text ∧
      name.text = normalizeName text) ∨
      ¬ IsName text ∧ ∃ fault, (readName text : Except Error (Name kind)) =
        .error (.integrity (.malformedCommand fault)) := by
  unfold readName Name.ofText Name.ofText? IsName
  split
  next read =>
    split at read
    · cases read
    next nonempty =>
      split at read
      next allowed =>
        cases read
        exact .inl ⟨_, rfl, ⟨nonempty, allowed⟩, rfl⟩
      · cases read
  next read =>
    refine .inr ⟨?_, _, rfl⟩
    rintro ⟨nonempty, allowed⟩
    rw [dif_neg nonempty, dif_pos allowed] at read
    cases read

theorem readValue_cases (text : String) :
    (∃ number, readValue text = .ok number ∧ IsNumber text number) ∨
      (∀ number, ¬ IsNumber text number) ∧
        readValue text = .error (.semantic (.invalidValue text)) := by
  unfold readValue IsNumber
  cases read : Decimal.readNumber (String.ofList (Text.trim text.toList)) with
  | none => exact .inr ⟨nofun, rfl⟩
  | some number =>
    cases finite : Decimal.isFinite number with
    | true => exact .inl ⟨number, if_pos finite, rfl, finite⟩
    | false =>
      refine .inr ⟨?_, if_neg (by simp [finite])⟩
      rintro _ ⟨same, finite'⟩
      cases same
      rw [finite] at finite'
      cases finite'

theorem ofToken?_cases (text : String) :
    (∃ action : Action, Action.ofToken? text = some action ∧ action.token = text) ∨
      ¬ IsToken text ∧ Action.ofToken? text = none := by
  cases found : Action.ofToken? text with
  | some action => exact .inl ⟨action, rfl, Action.token_of_ofToken? found⟩
  | none =>
    refine .inr ⟨?_, rfl⟩
    intro token
    obtain ⟨action, _, rfl⟩ := List.mem_map.mp token
    rw [Action.ofToken?_token] at found
    cases found

/-- What becomes of a written command: the names are looked at first, then the action, and the value
last. -/
inductive Outcome (wire : WireCommand) : Except Error Command → Prop where
  | malformed (unnamed : ¬ wire.IsNamed) (fault : CommandFault) :
      Outcome wire (.error (.integrity (.malformedCommand fault)))
  | illegal (named : wire.IsNamed) (unknown : ¬ IsToken wire.action) (deviceType : DeviceType)
      (normal : deviceType.text = normalizeName wire.deviceType) :
      Outcome wire (.error (.semantic (.illegalAction wire.action deviceType)))
  | invalid (named : wire.IsNamed) (known : IsToken wire.action) {value : String}
      (present : wire.value = some value) (noNumber : ∀ number, ¬ IsNumber value number) :
      Outcome wire (.error (.semantic (.invalidValue value)))
  | command {command : Command} (means : wire.Means command) : Outcome wire (.ok command)

theorem outcome_ofWire (wire : WireCommand) : Outcome wire (ofWire wire) := by
  unfold ofWire
  rcases readName_cases wire.deviceType with ⟨deviceType, read, isType, type⟩ | ⟨noType, fault, failed⟩
  case inr =>
    rw [failed]
    exact .malformed (fun named => noType named.1) fault
  rw [read, ok_bind]
  rcases readName_cases wire.location with ⟨location, read, isPlace, place⟩ | ⟨noPlace, fault, failed⟩
  case inr =>
    rw [failed]
    exact .malformed (fun named => noPlace named.2) fault
  rw [read, ok_bind]
  rcases ofToken?_cases wire.action with ⟨action, found, token⟩ | ⟨noToken, missing⟩
  case inr =>
    rw [missing]
    exact .illegal ⟨isType, isPlace⟩ noToken deviceType type
  rw [found]
  have known : IsToken wire.action := by
    rw [← token]
    exact List.mem_map_of_mem (by cases action <;> decide)
  cases value : wire.value with
  | none =>
    refine .command ⟨⟨isType, isPlace⟩, type, place, token, ?_⟩
    rw [value]
    exact .none
  | some text =>
    have one : (some text).mapM readValue = some <$> readValue text := rfl
    rw [one]
    rcases readValue_cases text with ⟨number, read, number'⟩ | ⟨noNumber, failed⟩
    · rw [read]
      refine .command ⟨⟨isType, isPlace⟩, type, place, token, ?_⟩
      rw [value]
      exact .some number'
    · rw [failed]
      exact .invalid ⟨isType, isPlace⟩ known value noNumber

section Outcome

variable {wire : WireCommand} {result : Except Error Command}

theorem Outcome.eq_ok_iff (outcome : Outcome wire result) {command : Command} :
    result = .ok command ↔ wire.Means command := by
  cases outcome with
  | malformed unnamed => exact iff_of_false nofun fun means => unnamed means.named
  | illegal _ unknown => exact iff_of_false nofun fun means => unknown means.isToken
  | invalid _ _ present noNumber =>
    refine iff_of_false nofun fun means => ?_
    obtain ⟨number, reads⟩ := means.exists_number present
    exact noNumber number reads
  | command means =>
    constructor
    · rintro same
      cases same
      exact means
    · intro means'
      rw [means.unique means']

theorem Outcome.malformed_iff (outcome : Outcome wire result) :
    (∃ fault, result = .error (.integrity (.malformedCommand fault))) ↔ ¬ wire.IsNamed := by
  cases outcome with
  | malformed unnamed fault => exact iff_of_true ⟨fault, rfl⟩ unnamed
  | illegal named => exact iff_of_false nofun (not_not_intro named)
  | invalid named => exact iff_of_false nofun (not_not_intro named)
  | command means => exact iff_of_false nofun (not_not_intro means.named)

theorem Outcome.illegal_iff (outcome : Outcome wire result) {token : String}
    {deviceType : DeviceType} :
    result = .error (.semantic (.illegalAction token deviceType)) ↔
      wire.IsNamed ∧ wire.action = token ∧ ¬ IsToken token ∧
        deviceType.text = normalizeName wire.deviceType := by
  cases outcome with
  | malformed unnamed => exact iff_of_false nofun fun given => unnamed given.1
  | illegal named unknown type normal =>
    constructor
    · intro same
      cases same
      exact ⟨named, rfl, unknown, normal⟩
    · rintro ⟨_, rfl, _, normal'⟩
      rw [Name.eq_of_text (normal.trans normal'.symm)]
  | invalid _ known =>
    refine iff_of_false nofun ?_
    rintro ⟨_, rfl, unknown, _⟩
    exact unknown known
  | command means =>
    refine iff_of_false nofun ?_
    rintro ⟨_, rfl, unknown, _⟩
    exact unknown means.isToken

theorem Outcome.invalid_iff (outcome : Outcome wire result) {value : String} :
    result = .error (.semantic (.invalidValue value)) ↔
      wire.IsNamed ∧ IsToken wire.action ∧ wire.value = some value ∧
        ∀ number, ¬ IsNumber value number := by
  cases outcome with
  | malformed unnamed => exact iff_of_false nofun fun given => unnamed given.1
  | illegal _ unknown => exact iff_of_false nofun fun given => unknown given.2.1
  | invalid named known present noNumber =>
    constructor
    · intro same
      cases same
      exact ⟨named, known, present, noNumber⟩
    · rintro ⟨_, _, present', _⟩
      cases present.symm.trans present'
      rfl
  | command means =>
    refine iff_of_false nofun ?_
    rintro ⟨_, _, present, noNumber⟩
    obtain ⟨number, reads⟩ := means.exists_number present
    exact noNumber number reads

theorem Outcome.kinds (outcome : Outcome wire result) {error : Error}
    (failed : result = .error error) :
    (∃ fault, error = .integrity (.malformedCommand fault)) ∨
    (∃ token deviceType, error = .semantic (.illegalAction token deviceType)) ∨
    ∃ value, error = .semantic (.invalidValue value) := by
  cases outcome with
  | malformed =>
    cases failed
    exact .inl ⟨_, rfl⟩
  | illegal =>
    cases failed
    exact .inr (.inl ⟨_, _, rfl⟩)
  | invalid =>
    cases failed
    exact .inr (.inr ⟨_, rfl⟩)
  | command => cases failed

end Outcome

/-- A text that does not spell a written command is malformed, and one that does is what becomes of
that. -/
theorem parse_cases (text : String) :
    (∃ wire : WireCommand, wire.WrittenIn text ∧ Outcome wire (parse text)) ∨
      (∀ wire : WireCommand, ¬ wire.WrittenIn text) ∧
        ∃ fault, parse text = .error (.integrity (.malformedCommand fault)) := by
  unfold parse
  cases read : WireCommand.decode.ofText text with
  | ok wire => exact .inl ⟨wire, WireCommand.ofText_eq_ok_iff.mp read, outcome_ofWire wire⟩
  | error fault =>
    refine .inr ⟨?_, faultOf fault, rfl⟩
    intro wire written
    cases read.symm.trans (WireCommand.ofText_eq_ok_iff.mpr written)

/-- What reading a text as a command gives: the command that is written there, or the first thing that
is wrong with it. -/
structure Classifies (text : String) (result : Except Error Command) : Prop where
  command : ∀ command, result = .ok command ↔
    ∃ wire : WireCommand, wire.WrittenIn text ∧ wire.Means command
  malformed : (∃ fault, result = .error (.integrity (.malformedCommand fault))) ↔
    ¬ ∃ wire : WireCommand, wire.WrittenIn text ∧ wire.IsNamed
  illegal : ∀ token deviceType, result = .error (.semantic (.illegalAction token deviceType)) ↔
    ∃ wire : WireCommand, wire.WrittenIn text ∧ wire.IsNamed ∧ wire.action = token ∧
      ¬ IsToken token ∧ deviceType.text = normalizeName wire.deviceType
  invalid : ∀ value, result = .error (.semantic (.invalidValue value)) ↔
    ∃ wire : WireCommand, wire.WrittenIn text ∧ wire.IsNamed ∧ IsToken wire.action ∧
      wire.value = some value ∧ ∀ number, ¬ IsNumber value number
  nothingElse : ∀ error, result = .error error →
    (∃ fault, error = .integrity (.malformedCommand fault)) ∨
    (∃ token deviceType, error = .semantic (.illegalAction token deviceType)) ∨
    ∃ value, error = .semantic (.invalidValue value)

/-- A text is a command if and only if it is a document that spells one with two names, the token of an
action and a finite number, if any; an object may hold null for the value, and a list may stand for the
object. -/
theorem parse_classifies (text : String) : Classifies text (parse text) := by
  rcases parse_cases text with ⟨wire, written, outcome⟩ | ⟨unwritten, fault, malformed⟩
  · have only (holds : WireCommand → Prop) :
        (∃ wire : WireCommand, wire.WrittenIn text ∧ holds wire) ↔ holds wire := by
      constructor
      · rintro ⟨other, written', held⟩
        rwa [written.unique written']
      · exact fun held => ⟨wire, written, held⟩
    constructor
    case command =>
      intro command
      rw [only, outcome.eq_ok_iff]
    case malformed => rw [only, outcome.malformed_iff]
    case illegal =>
      intro token deviceType
      rw [only, outcome.illegal_iff]
    case invalid =>
      intro value
      rw [only, outcome.invalid_iff]
    case nothingElse => exact fun error failed => outcome.kinds failed
  · have none (holds : WireCommand → Prop) :
        ¬ ∃ wire : WireCommand, wire.WrittenIn text ∧ holds wire :=
      fun ⟨wire, written, _⟩ => unwritten wire written
    rw [malformed]
    constructor
    case command => exact fun command => iff_of_false nofun (none _)
    case malformed => exact iff_of_true ⟨fault, rfl⟩ (none _)
    case illegal => exact fun token deviceType => iff_of_false nofun (none _)
    case invalid => exact fun value => iff_of_false nofun (none _)
    case nothingElse =>
      intro error failed
      cases failed
      exact .inl ⟨fault, rfl⟩

/-- A list is read as a command though it is no object, and so is an object that holds null. -/
theorem parse_accepts_list_and_null :
    (parse "[\"lights\",\"on\",\"lounge\"]").toOption.map toWire =
        some ⟨"lights", "on", "lounge", none⟩ ∧
      (∀ members, (Document.ofText "[\"lights\",\"on\",\"lounge\"]").root ≠
        .object members true) ∧
      (parse ("\x7b\"deviceType\":\"lights\",\"action\":\"on\",\"location\":\"lounge\"," ++
        "\"value\":null\x7d")).toOption.map toWire = some ⟨"lights", "on", "lounge", none⟩ := by
  refine ⟨by decide +kernel, ?_, by decide +kernel⟩
  intro members same
  have found : (Document.ofText "[\"lights\",\"on\",\"lounge\"]").root.found.toOption =
      some .sequence := by
    decide +kernel
  rw [same] at found
  cases found

end Command

end HomeVoice
