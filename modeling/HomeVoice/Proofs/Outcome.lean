/-!
# Computations that may fail

How a computation that succeeded came about: of two steps in a row both succeeded, and of steps
along a list every one.
-/

namespace HomeVoice

variable {ε α β σ : Type}

theorem bind_eq_ok {step : Except ε α} {next : α → Except ε β} {result : β} :
    step >>= next = .ok result ↔ ∃ value, step = .ok value ∧ next value = .ok result := by
  cases step with
  | error error =>
    constructor
    · intro impossible
      cases impossible
    · rintro ⟨_, impossible, _⟩
      cases impossible
  | ok value =>
    constructor
    · intro success
      exact ⟨value, rfl, success⟩
    · rintro ⟨_, here, success⟩
      cases here
      exact success

theorem ok_bind (value : α) (next : α → Except ε β) : (Except.ok value >>= next) = next value := rfl

/-- A check in front of further steps was passed. -/
theorem require_eq_ok {condition : Prop} [Decidable condition] {error : ε} {further : Except ε β}
    {next : α → Except ε β} {result : β} :
    (if condition then further else throw error >>= next) = .ok result ↔
      condition ∧ further = .ok result := by
  by_cases holds : condition
  · simp [holds]
  · simp [holds, throw, throwThe, MonadExceptOf.throw, bind, Except.bind]

theorem exists_of_isOk {step : Except ε α} (success : step.isOk = true) :
    ∃ value, step = .ok value := by
  cases step with
  | error _ => cases success
  | ok value => exact ⟨value, rfl⟩

theorem toOption_eq_some {step : Except ε α} {value : α} :
    step.toOption = some value ↔ step = .ok value := by
  cases step <;> simp [Except.toOption]

/-- A computation of which something is known has succeeded. -/
theorem exists_of_toOption_map {f : α → β} {step : Except ε α} {result : β}
    (known : step.toOption.map f = some result) : ∃ value, step = .ok value ∧ f value = result := by
  cases step with
  | error _ => cases known
  | ok value => exact ⟨value, rfl, Option.some.inj known⟩

theorem map_eq_ok {f : α → β} {step : Except ε α} {result : β} :
    step.map f = .ok result ↔ ∃ value, step = .ok value ∧ f value = result := by
  cases step <;> simp [Except.map]

theorem mapError_ok {δ : Type} {f : ε → δ} {value : α} :
    (Except.ok value).mapError f = .ok value := rfl

theorem mapError_error {δ : Type} {f : ε → δ} {error : ε} :
    (Except.error error : Except ε α).mapError f = .error (f error) := rfl

theorem mapError_eq_ok {δ : Type} {f : ε → δ} {step : Except ε α} {result : α} :
    step.mapError f = .ok result ↔ step = .ok result := by
  cases step <;> simp [mapError_ok, mapError_error]

/-- Steps along a list whose errors are passed on in another form. -/
theorem foldlM_mapError {δ : Type} {f : ε → δ} {step : σ → α → Except ε σ} {items : List α}
    {state : σ} :
    items.foldlM (fun state item => (step state item).mapError f) state =
      (items.foldlM step state).mapError f := by
  induction items generalizing state with
  | nil => rfl
  | cons head rest ih =>
    rw [List.foldlM_cons, List.foldlM_cons]
    cases step state head with
    | error error => rfl
    | ok next => exact ih

theorem mapM_cons_eq_ok {f : α → Except ε β} {item : α} {items : List α} {results : List β} :
    (item :: items).mapM f = .ok results ↔
      ∃ first others, f item = .ok first ∧ items.mapM f = .ok others ∧ results = first :: others := by
  rw [List.mapM_cons, bind_eq_ok]
  constructor
  · rintro ⟨first, head, rest⟩
    obtain ⟨others, tail, done⟩ := bind_eq_ok.mp rest
    cases done
    exact ⟨first, others, head, tail, rfl⟩
  · rintro ⟨first, others, head, tail, rfl⟩
    exact ⟨first, head, bind_eq_ok.mpr ⟨others, tail, rfl⟩⟩

/-- Steps that do the same on the members of a list do the same along it. -/
theorem mapM_congr {f g : α → Except ε β} {items : List α}
    (same : ∀ item ∈ items, f item = g item) : items.mapM f = items.mapM g := by
  induction items with
  | nil => rfl
  | cons head rest ih =>
    rw [List.mapM_cons, List.mapM_cons, same head List.mem_cons_self,
      ih fun item member => same item (List.mem_cons_of_mem _ member)]

/-- Every result of steps along a list comes from a member of the list. -/
theorem mem_of_mapM_eq_ok {f : α → Except ε β} {items : List α} {results : List β}
    (success : items.mapM f = .ok results) {result : β} (member : result ∈ results) :
    ∃ item ∈ items, f item = .ok result := by
  induction items generalizing results with
  | nil =>
    cases success
    cases member
  | cons head rest ih =>
    obtain ⟨first, others, here, later, rfl⟩ := mapM_cons_eq_ok.mp success
    rcases List.mem_cons.mp member with same | other
    · exact ⟨head, List.mem_cons_self, same ▸ here⟩
    · obtain ⟨item, known, made⟩ := ih later other
      exact ⟨item, List.mem_cons_of_mem _ known, made⟩

/-- Every member of a list has a result in the steps along it. -/
theorem exists_of_mem_of_mapM {f : α → Except ε β} {items : List α} {results : List β}
    (success : items.mapM f = .ok results) {item : α} (member : item ∈ items) :
    ∃ result ∈ results, f item = .ok result := by
  induction items generalizing results with
  | nil => cases member
  | cons head rest ih =>
    obtain ⟨first, others, here, later, rfl⟩ := mapM_cons_eq_ok.mp success
    rcases List.mem_cons.mp member with rfl | other
    · exact ⟨first, List.mem_cons_self, here⟩
    · obtain ⟨result, known, made⟩ := ih later other
      exact ⟨result, List.mem_cons_of_mem _ known, made⟩

/-- Steps along a list succeed if each of them does. -/
theorem exists_mapM_eq_ok {f : α → Except ε β} {items : List α}
    (each : ∀ item ∈ items, ∃ result, f item = .ok result) : ∃ results, items.mapM f = .ok results := by
  induction items with
  | nil => exact ⟨[], rfl⟩
  | cons head rest ih =>
    obtain ⟨first, here⟩ := each head List.mem_cons_self
    obtain ⟨others, later⟩ := ih fun item member => each item (List.mem_cons_of_mem _ member)
    exact ⟨first :: others, mapM_cons_eq_ok.mpr ⟨first, others, here, later, rfl⟩⟩

/-- Steps along a list that undo a function give back the list. -/
theorem mapM_map_eq_ok {f : α → Except ε β} {g : β → α} {items : List β}
    (undone : ∀ item ∈ items, f (g item) = .ok item) : (items.map g).mapM f = .ok items := by
  induction items with
  | nil => rfl
  | cons head rest ih =>
    rw [List.map_cons, mapM_cons_eq_ok]
    refine ⟨head, rest, undone head List.mem_cons_self, ?_, rfl⟩
    exact ih fun item member => undone item (List.mem_cons_of_mem _ member)

/-- What the start has and every step keeps, the end of a list of steps has. -/
theorem foldlM_invariant {f : σ → α → Except ε σ} {Holds : σ → Prop} {items : List α}
    {start result : σ} (initially : Holds start)
    (kept : ∀ state item after, item ∈ items → Holds state → f state item = .ok after → Holds after)
    (success : items.foldlM f start = .ok result) : Holds result := by
  induction items generalizing start with
  | nil =>
    cases success
    exact initially
  | cons head rest ih =>
    rw [List.foldlM_cons] at success
    obtain ⟨after, first, others⟩ := bind_eq_ok.mp success
    refine ih (kept start head after List.mem_cons_self initially first) ?_ others
    intro state item next member
    exact kept state item next (List.mem_cons_of_mem _ member)

end HomeVoice
