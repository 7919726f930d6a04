import HomeVoice.Proofs.Json.Number

/-!
# Reading back what was written

The text of a document is read as the draft of this document. A number ends only at the character
behind it, so the reader comes out of a value in one of two places, and both go on alike.
-/

namespace HomeVoice.Json

/-- All numbers of the document are read back as they were. -/
inductive Value.ReadsBack : Value → Prop where
  | null : ReadsBack .null
  | boolean (value : Bool) : ReadsBack (.boolean value)
  | number {number : Number} (back : number.ReadsBack) : ReadsBack (.number number)
  | string (text : String) : ReadsBack (.string text)
  | list {items : List Value} (all : ∀ item ∈ items, ReadsBack item) : ReadsBack (.list items)
  | object {members : List (String × Value)} (all : ∀ member ∈ members, ReadsBack member.2) :
      ReadsBack (.object members)

namespace Value

theorem readsBack_ofNat {n : Nat} (small : n < UInt64.size) : (ofNat n).ReadsBack :=
  .number (Number.readsBack_integer small)

theorem readsBack_ofOption {α : Type} {encode : α → Value} {item : Option α}
    (present : ∀ some ∈ item, (encode some).ReadsBack) : (ofOption encode item).ReadsBack := by
  cases item with
  | none => exact .null
  | some item => exact present item rfl

theorem readsBack_ofList {α : Type} {encode : α → Value} {items : List α}
    (each : ∀ item ∈ items, (encode item).ReadsBack) : (ofList encode items).ReadsBack := by
  refine .list ?_
  intro value member
  obtain ⟨item, here, rfl⟩ := List.mem_map.mp member
  exact each item here

end Value

namespace OpenString

/-- A string whose characters so far are sound. -/
def holding (read : List Char) : OpenString := ⟨read, none, true, .plain⟩

theorem hexDigit_digitChar {digit : Nat} (small : digit < 16) :
    hexDigit (Nat.digitChar digit) = some digit := by
  decide +revert

/-- A character that is no half of a pair is its own code unit. -/
theorem addUnit_toNat {read : List Char} {c : Char} (small : c.toNat < 0x20) (stage : StringStage) :
    addUnit ⟨read, none, true, stage⟩ c.toNat = holding (c :: read) := by
  have low : ¬ (0xDC00 ≤ c.toNat ∧ c.toNat ≤ 0xDFFF) := by omega
  have high : ¬ (0xD800 ≤ c.toNat ∧ c.toNat ≤ 0xDBFF) := by omega
  unfold addUnit
  dsimp only
  rw [if_neg low, if_neg high, Char.ofNat_toNat]
  rfl

end OpenString

namespace Reading

/-- The reader behind several more characters. -/
def run (reading : Reading) (text : List Char) : Reading := text.foldl step reading

@[simp] theorem run_nil (reading : Reading) : reading.run [] = reading := rfl

theorem run_cons (reading : Reading) (c : Char) (rest : List Char) :
    reading.run (c :: rest) = (step reading c).run rest := rfl

theorem run_append (reading : Reading) (front back : List Char) :
    reading.run (front ++ back) = (reading.run front).run back := List.foldl_append ..

/-! ## Strings -/

open OpenString (holding hexDigit hexDigit_digitChar)

theorem step_digit {stack : List Frame} {read : List Char} {missing number digit : Nat} {c : Char}
    (value : hexDigit c = some digit) (more : 1 < missing) :
    step ⟨stack, .string ⟨read, none, true, .digits missing number⟩⟩ c =
      ⟨stack, .string ⟨read, none, true, .digits (missing - 1) (16 * number + digit)⟩⟩ := by
  simp [step, OpenString.next, value, Nat.not_le.mpr more]

theorem step_lastDigit {stack : List Frame} {text : OpenString} {number digit : Nat} {c : Char}
    (stage : text.stage = .digits 1 number) (value : hexDigit c = some digit) :
    step ⟨stack, .string text⟩ c = ⟨stack, .string (text.addUnit (16 * number + digit))⟩ := by
  simp [step, OpenString.next, stage, value]

/-- A control character is its code, and the code is in its digits. -/
theorem run_controlDigits (stack : List Frame) (read : List Char) {c : Char}
    (control : c.toNat < 0x20) :
    run ⟨stack, .string (holding read)⟩ ('\\' :: 'u' :: controlDigits c) =
      ⟨stack, .string (holding (c :: read))⟩ := by
  have first : run ⟨stack, .string (holding read)⟩ ['\\', 'u', '0', '0'] =
      ⟨stack, .string ⟨read, none, true, .digits 2 0⟩⟩ := rfl
  have code : 16 * (16 * 0 + c.toNat / 16) + c.toNat % 16 = c.toNat := by omega
  show run (run ⟨stack, .string (holding read)⟩ ['\\', 'u', '0', '0'])
    [Nat.digitChar (c.toNat / 16), Nat.digitChar (c.toNat % 16)] = _
  rw [first, run_cons, step_digit (hexDigit_digitChar (by omega)) (by decide), run_cons,
    step_lastDigit rfl (hexDigit_digitChar (by omega)), code, OpenString.addUnit_toNat control]
  rfl

/-- A character is read back from what stands for it inside a string. -/
theorem run_escapeChar (stack : List Frame) (read : List Char) (c : Char) :
    run ⟨stack, .string (holding read)⟩ (escapeChar c) = ⟨stack, .string (holding (c :: read))⟩ := by
  unfold escapeChar
  split
  next same => rw [same]; rfl
  split
  next same => rw [same]; rfl
  split
  next same => rw [same]; rfl
  split
  next same => rw [same]; rfl
  split
  next same => rw [same]; rfl
  split
  next same => rw [same]; rfl
  split
  next same => rw [same]; rfl
  split
  next control => exact run_controlDigits stack read control
  next noQuote noBackslash _ _ _ _ _ noControl =>
    rw [run_cons, run_nil]
    simp [step, noQuote, OpenString.next, holding, noBackslash, noControl, OpenString.addChar]

theorem run_flatMap_escapeChar (stack : List Frame) (read text : List Char) :
    run ⟨stack, .string (holding read)⟩ (text.flatMap escapeChar) =
      ⟨stack, .string (holding (text.reverse ++ read))⟩ := by
  induction text generalizing read with
  | nil => rfl
  | cons c rest ih =>
    rw [List.flatMap_cons, run_append, run_escapeChar, ih, List.reverse_cons, List.append_assoc]
    rfl

theorem run_stringText (stack : List Frame) (text : String) :
    run ⟨stack, .value⟩ (stringText text) = accept (.string (some text)) stack := by
  unfold stringText
  rw [List.cons_append, run_cons, run_append]
  have opened : step ⟨stack, .value⟩ '"' = ⟨stack, .string (holding [])⟩ := rfl
  rw [opened, run_flatMap_escapeChar, run_cons, List.append_nil]
  show accept (.string (holding text.toList.reverse).close) stack = _
  have closed : (holding text.toList.reverse).close = some text := by
    simp [OpenString.close, holding]
  rw [closed]

/-! ## Numbers -/

theorem run_number {stack : List Frame} {read text : List Char} {stage final : NumberStage}
    (stages : stage.run text = some final) :
    run ⟨stack, .number read stage⟩ text = ⟨stack, .number (text.reverse ++ read) final⟩ := by
  induction text generalizing read stage with
  | nil =>
    cases stages
    rfl
  | cons c rest ih =>
    rw [NumberStage.run_cons] at stages
    obtain ⟨further, next, stages⟩ := Option.bind_eq_some_iff.mp stages
    have stepped : step ⟨stack, .number read stage⟩ c = ⟨stack, .number (c :: read) further⟩ := by
      simp [step, next]
    rw [run_cons, stepped, ih stages, List.reverse_cons, List.append_assoc]
    rfl

/-- The first character of a number without a sign. -/
theorem step_firstDigit {stack : List Frame} {c : Char} {stage : NumberStage}
    (first : NumberStage.sign.next c = some stage) :
    step ⟨stack, .value⟩ c = ⟨stack, .number [c] stage⟩ := by
  simp only [NumberStage.next] at first
  split at first
  next zero =>
    cases first
    rw [zero]
    rfl
  next nonzero =>
    split at first
    next digit =>
      cases first
      simp [step, isSpace, beginValue, nonzero, digit, ne_of_isDigit digit]
    · cases first

theorem run_unsigned {stack : List Frame} {text : List Char} (unsigned : IsUnsigned text) :
    ∃ final : NumberStage, final.isFinal = true ∧
      run ⟨stack, .value⟩ text = ⟨stack, .number text.reverse final⟩ := by
  obtain ⟨final, stages, ends⟩ := unsigned
  refine ⟨final, ends, ?_⟩
  cases text with
  | nil =>
    cases stages
    cases ends
  | cons c rest =>
    rw [NumberStage.run_cons] at stages
    obtain ⟨stage, first, stages⟩ := Option.bind_eq_some_iff.mp stages
    rw [run_cons, step_firstDigit first, run_number stages, List.reverse_cons]

theorem run_numberText {stack : List Frame} {text : List Char} (number : IsNumberText text) :
    ∃ final : NumberStage, final.isFinal = true ∧
      run ⟨stack, .value⟩ text = ⟨stack, .number text.reverse final⟩ := by
  obtain ⟨unsigned, ⟨final, stages, ends⟩, rfl | rfl⟩ := number
  · exact run_unsigned ⟨final, stages, ends⟩
  · refine ⟨final, ends, ?_⟩
    show run ⟨stack, .number ['-'] .sign⟩ unsigned = _
    rw [run_number stages, List.reverse_cons]

/-! ## Values -/

/-- The reader is behind a value: it went on, or it waits for the character that ends a number. -/
inductive Behind (value : Draft) (stack : List Frame) : Reading → Prop where
  | accepted : Behind value stack (accept value stack)
  | number {number : Number} {read : List Char} {stage : NumberStage}
      (ends : stage.isFinal = true) (ofText : Number.ofText read.reverse = some number)
      (same : value = .number (some number)) : Behind value stack ⟨stack, .number read stage⟩

/-- The characters that stand behind values. -/
def IsDelimiter (c : Char) : Prop := c = ',' ∨ c = ']' ∨ c = '\x7d'

theorem afterNumber_accept (c : Char) (number : Number) (stack : List Frame) :
    afterNumber c (accept (.number (some number)) stack) =
      step (accept (.number (some number)) stack) c := by
  rcases stack with _ | ⟨_ | _ | _, outer⟩ <;> rfl

theorem NumberStage.endsBefore_delimiter {stage : NumberStage} {c : Char}
    (ends : stage.isFinal = true) (delimiter : IsDelimiter c) :
    stage.next c = none ∧ stage.endsBefore c = true := by
  rcases delimiter with rfl | rfl | rfl <;> cases stage <;> first | exact ⟨rfl, rfl⟩ | cases ends

theorem Behind.step {value : Draft} {stack : List Frame} {reading : Reading}
    (behind : Behind value stack reading) {c : Char} (delimiter : IsDelimiter c) :
    step reading c = step (accept value stack) c := by
  cases behind with
  | accepted => rfl
  | number ends ofText same =>
    obtain ⟨next, complete⟩ := NumberStage.endsBefore_delimiter ends delimiter
    rw [same, ← afterNumber_accept]
    simp [Reading.step, next, complete, ofText]

theorem Behind.run {value : Draft} {stack : List Frame} {reading : Reading}
    (behind : Behind value stack reading) {c : Char} (delimiter : IsDelimiter c)
    (rest : List Char) : reading.run (c :: rest) = (accept value stack).run (c :: rest) := by
  rw [run_cons, run_cons, behind.step delimiter]

theorem Behind.finish {value : Draft} {reading : Reading} (behind : Behind value [] reading) :
    reading.finish = ⟨value, true⟩ := by
  cases behind with
  | accepted => rfl
  | number ends ofText same =>
    rw [same]
    simp [Reading.finish, ends, ofText, accept]

end Reading

namespace Value

open Reading (Behind IsDelimiter accept isSpace run run_cons run_append run_stringText)

variable {stack : List Frame}

/-- No value begins with a blank or with the end of a list or an object. -/
theorem ReadsBack.chars_eq_cons {value : Value} (back : value.ReadsBack) :
    ∃ c rest, value.chars = c :: rest ∧ isSpace c = false ∧ c ≠ ']' ∧ c ≠ '\x7d' := by
  cases back with
  | null => exact ⟨'n', _, rfl, by decide⟩
  | boolean value => cases value <;> exact ⟨_, _, rfl, by decide⟩
  | number back =>
    obtain ⟨c, rest, text, begins⟩ := back.isText.eq_cons
    refine ⟨c, rest, text, ?_⟩
    rcases begins with rfl | digit
    · decide
    · simp [isSpace, ne_of_isDigit digit]
  | string text => exact ⟨'"', _, rfl, by decide⟩
  | list all => exact ⟨'[', _, by rw [chars]; rfl, by decide⟩
  | object all => exact ⟨'\x7b', _, by rw [chars]; rfl, by decide⟩

private theorem itemChars_eq_cons {item : Value} {rest : List Value} (back : item.ReadsBack) :
    ∃ c more, itemChars (item :: rest) ++ [']'] = c :: more ∧ isSpace c = false ∧ c ≠ ']' := by
  obtain ⟨c, more, first, solid, opening, _⟩ := back.chars_eq_cons
  cases rest with
  | nil => exact ⟨c, _, by rw [itemChars, first]; rfl, solid, opening⟩
  | cons next rest => exact ⟨c, _, by rw [itemChars, first]; rfl, solid, opening⟩

private theorem memberChars_eq_cons (member : String × Value) (rest : List (String × Value)) :
    ∃ more, memberChars (member :: rest) ++ ['\x7d'] = '"' :: more := by
  cases rest with
  | nil => exact ⟨_, by rw [memberChars]; rfl⟩
  | cons next rest => exact ⟨_, by rw [memberChars]; rfl⟩

/-- The first item of a list is read like any other. -/
private theorem run_firstItem {text : List Char}
    (begins : ∃ c more, text = c :: more ∧ isSpace c = false ∧ c ≠ ']') :
    run ⟨stack, .firstItem⟩ text = run ⟨stack, .value⟩ text := by
  obtain ⟨c, more, rfl, solid, opening⟩ := begins
  rw [run_cons, run_cons]
  simp [Reading.step, solid, opening]

private theorem run_firstName {text : List Char} (begins : ∃ more, text = '"' :: more) :
    run ⟨stack, .firstName⟩ text = run ⟨stack, .value⟩ text := by
  obtain ⟨more, rfl⟩ := begins
  rfl

private theorem run_items {item : Value} {rest : List Value}
    (reads : ∀ value ∈ item :: rest, ∀ stack,
      Behind (.ofValue value) stack (run ⟨stack, .value⟩ value.chars)) (before : List Draft) :
    run ⟨.items before :: stack, .value⟩ (itemChars (item :: rest) ++ [']']) =
      accept (.list (before.reverse ++ Draft.ofItems (item :: rest)) true) stack := by
  have ⟨first, others⟩ := List.forall_mem_cons.mp reads
  induction rest generalizing item before with
  | nil =>
    rw [itemChars, run_append, (first _).run (.inr (.inl rfl))]
    show accept (.list (Draft.ofValue item :: before).reverse true) stack = _
    rw [List.reverse_cons]
    rfl
  | cons next rest ih =>
    have comma : Reading.step (accept (.ofValue item) (.items before :: stack)) ',' =
      ⟨.items (.ofValue item :: before) :: stack, .value⟩ := rfl
    have ⟨second, more⟩ := List.forall_mem_cons.mp others
    rw [itemChars, List.append_assoc, run_append, List.cons_append, (first _).run (.inl rfl),
      run_cons, comma, ih others (.ofValue item :: before) second more, List.reverse_cons,
      List.append_assoc]
    rfl

private theorem run_members {member : String × Value} {rest : List (String × Value)}
    (reads : ∀ entry ∈ member :: rest, ∀ stack,
      Behind (.ofValue entry.2) stack (run ⟨stack, .value⟩ entry.2.chars))
    (before : List (Draft × Draft)) :
    run ⟨.naming before :: stack, .value⟩ (memberChars (member :: rest) ++ ['\x7d']) =
      accept (.object (before.reverse ++ Draft.ofMembers (member :: rest)) true) stack := by
  have ⟨first, others⟩ := List.forall_mem_cons.mp reads
  obtain ⟨name, value⟩ := member
  have colon : Reading.step (accept (.string (some name)) (.naming before :: stack)) ':' =
    ⟨.valuing before (.string (some name)) :: stack, .value⟩ := rfl
  induction rest generalizing name value before with
  | nil =>
    rw [memberChars, List.append_assoc, run_append, run_stringText, List.cons_append, run_cons, colon,
      run_append, (first _).run (.inr (.inr rfl))]
    show accept (.object ((.string (some name), .ofValue value) :: before).reverse true) stack = _
    rw [List.reverse_cons]
    rfl
  | cons next rest ih =>
    have comma : Reading.step
        (accept (.ofValue value) (.valuing before (.string (some name)) :: stack)) ',' =
      ⟨.naming ((.string (some name), .ofValue value) :: before) :: stack, .value⟩ := rfl
    obtain ⟨second, more⟩ := List.forall_mem_cons.mp others
    rw [memberChars, List.append_assoc, List.append_assoc, run_append, run_stringText,
      List.cons_append, run_cons, colon, List.cons_append, run_append, (first _).run (.inl rfl),
      run_cons, comma, ih ((.string (some name), .ofValue value) :: before) more next.1 next.2 others
        second rfl, List.reverse_cons, List.append_assoc]
    rfl

theorem ReadsBack.behind {value : Value} (back : value.ReadsBack) (stack : List Frame) :
    Behind (.ofValue value) stack (run ⟨stack, .value⟩ value.chars) := by
  induction back generalizing stack with
  | null => exact .accepted
  | boolean value => cases value <;> exact .accepted
  | number back =>
    obtain ⟨final, ends, read⟩ := Reading.run_numberText back.isText
    rw [chars, read]
    exact .number ends (by rw [List.reverse_reverse]; exact back.ofText) rfl
  | string text =>
    rw [chars, run_stringText]
    exact .accepted
  | @list items all ih =>
    rw [chars, List.cons_append, run_cons]
    have opened : Reading.step ⟨stack, .value⟩ '[' = ⟨.items [] :: stack, .firstItem⟩ := rfl
    rw [opened]
    cases items with
    | nil => exact .accepted
    | cons item rest =>
      rw [run_firstItem (itemChars_eq_cons (all item List.mem_cons_self)), run_items ih]
      exact .accepted
  | @object members all ih =>
    rw [chars, List.cons_append, run_cons]
    have opened : Reading.step ⟨stack, .value⟩ '\x7b' = ⟨.naming [] :: stack, .firstName⟩ := rfl
    rw [opened]
    cases members with
    | nil => exact .accepted
    | cons member rest =>
      rw [run_firstName (memberChars_eq_cons member rest), run_members ih]
      exact .accepted

/-- A document is read back from its text, with nothing behind it. -/
theorem ReadsBack.ofText {value : Value} (back : value.ReadsBack) :
    Document.ofText value.text = ⟨.ofValue value, true⟩ := by
  unfold Document.ofText text
  rw [String.toList_ofList]
  exact (back.behind []).finish

end Value

end HomeVoice.Json
