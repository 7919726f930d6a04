import HomeVoice.Proofs.Registry.Versions
import HomeVoice.Proofs.Service.Steps
import HomeVoice.Store.Memory

/-!
# Edits that are under way together come one after the other

However the steps of any number of edits fall between each other, the edits have the same results
and leave the same registries behind as if each had been made alone, in the order in which they took
the lock. What is published was committed before, and its version only goes up.
-/

namespace HomeVoice

open Hub (RegistryEdit applyEdit)

section Alone

variable {σ α : Type} [Storage σ] {store after : σ} {current next : Registry} {edit : Hub.Edit α}
  {answer : α}

/-- An edit that changes nothing needs no store. -/
theorem Hub.applyEdit_of_same (done : edit current = .ok (answer, next))
    (same : next.version = current.version) :
    applyEdit store current edit = .ok (answer, current, store) := by
  unfold applyEdit
  rw [done]
  simp [bind, Except.bind, same, pure, Except.pure]

theorem Hub.applyEdit_of_commit (done : edit current = .ok (answer, next))
    (changed : next.version ≠ current.version)
    (success : Storage.commit store (.between current next) = .ok after) :
    applyEdit store current edit = .ok (answer, next, after) := by
  unfold applyEdit
  rw [done]
  simp [bind, Except.bind, changed, success, mapError_ok, pure, Except.pure]

end Alone

namespace Service

variable {σ : Type}

/-- An edit that had its turn: the registry that it found published, its result and the registry
that it left published. -/
structure Turn where
  caller : Nat
  edit : RegistryEdit
  found : Registry
  result : Except Error edit.Answer
  left : Registry

namespace Turn

/-- The registry that was published in the turn. -/
def published? (turn : Turn) : Option Registry :=
  if turn.left.version = turn.found.version then none else some turn.left

/-- The changes that were applied in the turn. -/
def applied? (turn : Turn) : Option (Nat × Changeset) :=
  if turn.left.version = turn.found.version then none
  else some (turn.caller, .between turn.found turn.left)

end Turn

/-- Edits one after the other, each with nobody else around: what they make of a store and of a
registry. -/
inductive Serial [Storage σ] (store : σ) (registry : Registry) :
    List Turn → σ → Registry → Prop where
  | nil : Serial store registry [] store registry
  | edit {turns : List Turn} {before after : σ} {found left : Registry} {edit : RegistryEdit}
      {answer : edit.Answer} (earlier : Serial store registry turns before found) (n : Nat)
      (applied : applyEdit before found edit.run = .ok (answer, left, after)) :
      Serial store registry (turns ++ [⟨n, edit, found, .ok answer, left⟩]) after left
  /-- The edit itself fails. -/
  | reject {turns : List Turn} {before : σ} {found : Registry} {edit : RegistryEdit} {error : Error}
      (earlier : Serial store registry turns before found) (n : Nat)
      (failed : edit.run found = .error error) :
      Serial store registry (turns ++ [⟨n, edit, found, .error error, found⟩]) before found
  /-- The store refuses the changes. -/
  | refuse {turns : List Turn} {before : σ} {found next : Registry} {edit : RegistryEdit}
      {answer : edit.Answer} (earlier : Serial store registry turns before found) (n : Nat)
      (done : edit.run found = .ok (answer, next)) (changed : next.version ≠ found.version)
      (error : StorageError) :
      Serial store registry (turns ++ [⟨n, edit, found, .error (.storage error), found⟩]) before found

/-- The version of the registry has room for all changes that the edit may make. -/
def Turn.HasRoom (turn : Turn) : Prop :=
  turn.found.version.toNat + turn.edit.size < 0x10000000000000000

/-- The versions of what was published after the first registry ascend up to the latest one. -/
structure Ascends (registry latest : Registry) (turns : List Turn) : Prop where
  sound : latest.Sound
  below : ∀ snapshot ∈ registry :: turns.filterMap Turn.published?,
    snapshot.version ≤ latest.version
  ascending : (registry :: turns.filterMap Turn.published?).Pairwise fun earlier later =>
    earlier.version < later.version

section Ascends

variable {registry latest : Registry} {turns : List Turn} {turn : Turn}

theorem ascends_nil (sound : registry.Sound) : Ascends registry registry [] where
  sound
  below := by simp
  ascending := List.pairwise_singleton _ _

theorem Ascends.quiet (ascends : Ascends registry latest turns)
    (same : turn.left.version = turn.found.version) : Ascends registry latest (turns ++ [turn]) := by
  have silent : (turns ++ [turn]).filterMap Turn.published? = turns.filterMap Turn.published? := by
    simp [Turn.published?, same]
  refine ⟨ascends.sound, ?_, ?_⟩
  · rw [silent]
    exact ascends.below
  · rw [silent]
    exact ascends.ascending

theorem Ascends.publish (ascends : Ascends registry turn.found turns) {count : Nat}
    (few : count ≤ turn.edit.size)
    (changes : Registry.Changes (fun _ => True) count turn.found turn.left)
    (changed : turn.left.version ≠ turn.found.version) (room : turn.HasRoom) :
    Ascends registry turn.left (turns ++ [turn]) := by
  have above : turn.found.version < turn.left.version := by
    have apart : turn.left.version.toNat ≠ turn.found.version.toNat := mt UInt64.toNat_inj.mp changed
    have version : turn.left.version.toNat = turn.found.version.toNat + count := by
      have room : turn.found.version.toNat + turn.edit.size < 0x10000000000000000 := room
      rw [changes.version, UInt64.toNat_add, UInt64.toNat_ofNat']
      omega
    exact UInt64.lt_iff_toNat_lt.mpr (by omega)
  have published : registry :: (turns ++ [turn]).filterMap Turn.published? =
      (registry :: turns.filterMap Turn.published?) ++ [turn.left] := by
    simp [Turn.published?, changed]
  refine ⟨changes.sound ascends.sound, ?_, ?_⟩
  · rw [published]
    intro snapshot known
    rcases List.mem_append.mp known with before | last
    · exact UInt64.le_of_lt (UInt64.lt_of_le_of_lt (ascends.below snapshot before) above)
    · rw [List.mem_singleton.mp last]
      exact UInt64.le_refl _
  · rw [published]
    refine List.pairwise_append.mpr ⟨ascends.ascending, List.pairwise_singleton _ _, ?_⟩
    intro snapshot before last here
    rw [List.mem_singleton.mp here]
    exact UInt64.lt_of_le_of_lt (ascends.below snapshot before) above

/-- Published versions ascend as long as they have room for all changes. -/
theorem Serial.ascends [Storage σ] {store settled : σ}
    (serial : Serial store registry turns settled latest) (sound : registry.Sound)
    (room : ∀ turn ∈ turns, turn.HasRoom) : Ascends registry latest turns := by
  induction serial with
  | nil => exact ascends_nil sound
  | @edit _ _ _ found _ _ _ earlier n applied ih =>
    have ⟨before, here⟩ := List.forall_mem_append.mp room
    obtain ⟨next, done, ⟨_, rfl, _⟩ | ⟨changed, rfl⟩⟩ := Registry.applyEdit_of_version applied
    · exact (ih before).quiet rfl
    · obtain ⟨count, few, changes⟩ := Hub.RegistryEdit.changes_of_run (ih before).sound
        found.rangesIn_true (Hub.RegistryEdit.rangesIn_true _) done
      exact (ih before).publish few changes changed (List.forall_mem_singleton.mp here)
  | reject earlier n failed ih => exact (ih (List.forall_mem_append.mp room).1).quiet rfl
  | refuse earlier n done changed error ih =>
    exact (ih (List.forall_mem_append.mp room).1).quiet rfl

end Ascends

/-- The changes of this caller that are applied and not published. -/
def Stage.owedBy {edit : RegistryEdit} (stage : Stage edit) (n : Nat) : Option (Nat × Changeset) :=
  stage.owed?.map fun changes => (n, changes)

/-- The caller that has the lock and no result yet. -/
def underWay (service : Service σ) : Option Nat :=
  service.ofHolder fun n caller => if caller.stage.isOpen then some n else none

/-- The changes that are applied and not published. -/
def owed (service : Service σ) : Option (Nat × Changeset) :=
  service.ofHolder fun n caller => caller.stage.owedBy n

section Turns

variable {n : Nat} {edit : RegistryEdit} {stage : Stage edit} {service : Service σ}

theorem AtTurn.underWay_eq (turn : service.AtTurn n stage)
    (here : service.callers[n]? = some ⟨edit, stage⟩) :
    service.underWay = if stage.isOpen then some n else none := by
  refine turn.ofHolder_eq here fun outside => ?_
  cases stage <;> first | rfl | cases outside

theorem AtTurn.owed_eq (turn : service.AtTurn n stage)
    (here : service.callers[n]? = some ⟨edit, stage⟩) : service.owed = stage.owedBy n := by
  refine turn.ofHolder_eq here fun outside => ?_
  cases stage <;> first | rfl | cases outside

end Turns

/-- Store, publications and applied changes are those of these turns, except for what the store has
applied already for the caller whose turn it is. -/
structure Ledger [Storage σ] (store : σ) (registry : Registry) (board : Board σ)
    (owed : Option (Nat × Changeset)) (turns : List Turn) (settled : σ) : Prop where
  serial : Serial store registry turns settled board.latest
  published : board.published.reverse = registry :: turns.filterMap Turn.published?
  applied : board.applied.reverse = turns.filterMap Turn.applied? ++ owed.toList
  unowed : owed = none → board.store = settled
  ahead : ∀ caller changes, owed = some (caller, changes) →
    Storage.commit settled changes = .ok board.store

section Ledger

variable [Storage σ] {store settled : σ} {registry : Registry} {board after : Board σ}
  {turns : List Turn} {n : Nat} {edit : RegistryEdit} {stage next : Stage edit} {deed : Deed}

theorem ledger_first (store : σ) (registry : Registry) :
    Ledger store registry (first store registry).toBoard none [] store where
  serial := .nil
  published := rfl
  applied := rfl
  unowed _ := rfl
  ahead := nofun

/-- A turn that leaves store and published registry as they were. -/
theorem Ledger.quiet {current : Registry} {result : Except Error edit.Answer}
    (ledger : Ledger store registry board none turns settled)
    (serial : Serial store registry (turns ++ [⟨n, edit, current, result, board.latest⟩]) settled
      board.latest) (same : current = board.latest) :
    Ledger store registry board none (turns ++ [⟨n, edit, current, result, board.latest⟩]) settled where
  serial
  published := by rw [ledger.published]; simp [Turn.published?, same]
  applied := by rw [ledger.applied]; simp [Turn.applied?, same]
  unowed := ledger.unowed
  ahead := nofun

/-- What a caller does that is not dropped: it begins its turn, goes on with it, or comes to its
result, and then the turn is done. -/
theorem Ledger.advance (ledger : Ledger store registry board (stage.owedBy n) turns settled)
    (advance : Advance n board stage deed after next) (kept : deed ≠ .drop)
    (fits : stage.Fits board.latest) :
    (deed = .acquire ∧ stage.isWaiting = true ∧ next.isOpen = true ∧ stage.result? = next.result? ∧
      Ledger store registry after (next.owedBy n) turns settled) ∨
    (deed ≠ .acquire ∧ next.isOpen = stage.isOpen ∧ stage.result? = next.result? ∧
      Ledger store registry after (next.owedBy n) turns settled) ∨
    (deed ≠ .acquire ∧ stage.isOpen = true ∧ ∃ result found settled,
      next = .concluded result ∧ Ledger store registry after none
        (turns ++ [⟨n, edit, found, result, after.latest⟩]) settled) := by
  cases advance with
  | withdraw | abandon | orphan => exact absurd rfl kept
  | acquire free =>
    exact .inl ⟨rfl, rfl, rfl, rfl, ⟨ledger.serial, ledger.published, ledger.applied,
      ledger.unowed, ledger.ahead⟩⟩
  | copy => exact .inr (.inl ⟨nofun, rfl, rfl, ledger⟩)
  | apply done changed => exact .inr (.inl ⟨nofun, rfl, rfl, ledger⟩)
  | release =>
    exact .inr (.inl ⟨nofun, rfl, rfl, ⟨ledger.serial, ledger.published, ledger.applied,
      ledger.unowed, ledger.ahead⟩⟩)
  | commit success =>
    refine .inr (.inl ⟨nofun, rfl, rfl, ?_⟩)
    exact
      { serial := ledger.serial
        published := ledger.published
        applied := by
          rw [List.reverse_cons, ledger.applied]
          simp [Stage.owedBy, Stage.owed?]
        unowed := nofun
        ahead := by
          rintro _ _ ⟨⟩
          rw [← ledger.unowed rfl]
          exact success }
  | reject failed =>
    refine .inr (.inr ⟨nofun, rfl, _, _, settled, rfl, ledger.quiet ?_ fits⟩)
    cases fits
    exact ledger.serial.reject n failed
  | keep done same =>
    refine .inr (.inr ⟨nofun, rfl, _, _, settled, rfl, ledger.quiet ?_ fits⟩)
    cases fits
    exact ledger.serial.edit n (Hub.applyEdit_of_same done same)
  | refuse current next answer error =>
    obtain ⟨rfl, done, changed⟩ := fits
    refine .inr (.inr ⟨nofun, rfl, _, _, settled, rfl, ledger.quiet ?_ rfl⟩)
    exact ledger.serial.refuse n done changed error
  | publish current next answer =>
    obtain ⟨rfl, done, changed⟩ := fits
    have applied := ledger.applied
    refine .inr (.inr ⟨nofun, rfl, _, board.latest, board.store, rfl, ?_⟩)
    exact
      { serial := ledger.serial.edit n (Hub.applyEdit_of_commit done changed (ledger.ahead _ _ rfl))
        published := by
          rw [List.reverse_cons, ledger.published]
          simp [Turn.published?, changed]
        applied := by
          rw [applied]
          simp [Turn.applied?, changed, Stage.owedBy, Stage.owed?]
        unowed := fun _ => rfl
        ahead := nofun }

end Ledger

/-- Those who took the lock are past waiting, nobody was dropped, and the results of the callers are
those of the turns. -/
structure Told (order : List Nat) (turns : List Turn) (callers : List Caller) : Prop where
  begun : ∀ n ∈ order, ∃ caller, callers[n]? = some caller ∧ caller.stage.isWaiting = false
  heard : ∀ (n : Nat) (edit : RegistryEdit) (stage : Stage edit), callers[n]? = some ⟨edit, stage⟩ →
    ∀ result, stage.result? = some result → ∃ found left, ⟨n, edit, found, result, left⟩ ∈ turns
  told : ∀ turn ∈ turns, ∃ stage, callers[turn.caller]? = some ⟨turn.edit, stage⟩ ∧
    stage.result? = some turn.result
  present : ∀ (n : Nat) (caller : Caller), callers[n]? = some caller → caller.stage ≠ .dropped

section Told

variable {order : List Nat} {turns : List Turn} {callers : List Caller} {n : Nat}
  {edit : RegistryEdit} {stage next : Stage edit}

theorem told_nil : Told [] [] [] := by
  constructor <;> simp

theorem Told.call (told : Told order turns callers) (edit : RegistryEdit) :
    Told order turns (callers ++ [⟨edit, .waiting⟩]) where
  begun n taken := by
    obtain ⟨caller, here, past⟩ := told.begun n taken
    exact ⟨caller, getElem?_append_of_here here _, past⟩
  heard n other stage here result known := by
    rcases getElem?_append_cases here with before | ⟨_, same⟩
    · exact told.heard n other stage before result known
    · cases same
      cases known
  told turn taken := by
    obtain ⟨stage, here, known⟩ := told.told turn taken
    exact ⟨stage, getElem?_append_of_here here _, known⟩
  present n caller here := by
    rcases getElem?_append_cases here with before | ⟨_, rfl⟩
    · exact told.present n caller before
    · nofun

/-- A caller goes on and gets no result by that. -/
theorem Told.goOn (told : Told order turns callers) (here : callers[n]? = some ⟨edit, stage⟩)
    (past : next.isWaiting = false) (same : stage.result? = next.result?) (kept : next ≠ .dropped) :
    Told order turns (callers.set n ⟨edit, next⟩) where
  begun m taken := by
    rw [getElem?_set_of_here here]
    by_cases self : n = m
    · exact ⟨⟨edit, next⟩, if_pos self, past⟩
    · rw [if_neg self]
      exact told.begun m taken
  heard m other there found result known := by
    rcases getElem?_set_cases here found with ⟨rfl, moved⟩ | ⟨_, before⟩
    · cases moved
      exact told.heard n edit stage here result (same.trans known)
    · exact told.heard m other there before result known
  told turn taken := by
    obtain ⟨there, before, known⟩ := told.told turn taken
    rw [getElem?_set_of_here here]
    by_cases self : n = turn.caller
    · rw [← self, here] at before
      rw [if_pos self]
      cases before
      exact ⟨next, rfl, same.symm.trans known⟩
    · rw [if_neg self]
      exact ⟨there, before, known⟩
  present m caller found := by
    rcases getElem?_set_cases here found with ⟨_, rfl⟩ | ⟨_, before⟩
    · exact kept
    · exact told.present m caller before

theorem Told.acquire (told : Told order turns callers) (here : callers[n]? = some ⟨edit, stage⟩)
    (past : stage.isWaiting = false) : Told (order ++ [n]) turns callers where
  begun m taken := by
    rcases List.mem_append.mp taken with before | last
    · exact told.begun m before
    · cases List.mem_singleton.mp last
      exact ⟨_, here, past⟩
  heard := told.heard
  told := told.told
  present := told.present

/-- A caller comes to its result. -/
theorem Told.conclude (told : Told order turns callers) (here : callers[n]? = some ⟨edit, stage⟩)
    (inside : stage.isOpen = true) (found left : Registry) (result : Except Error edit.Answer) :
    Told order (turns ++ [⟨n, edit, found, result, left⟩])
      (callers.set n ⟨edit, .concluded result⟩) where
  begun m taken := by
    rw [getElem?_set_of_here here]
    by_cases self : n = m
    · exact ⟨⟨edit, .concluded result⟩, if_pos self, rfl⟩
    · rw [if_neg self]
      exact told.begun m taken
  heard m other there found' result' known := by
    rcases getElem?_set_cases here found' with ⟨rfl, moved⟩ | ⟨_, before⟩
    · cases moved
      cases known
      exact ⟨found, left, List.mem_append_right _ List.mem_cons_self⟩
    · obtain ⟨found', left', taken⟩ := told.heard m other there before result' known
      exact ⟨found', left', List.mem_append_left _ taken⟩
  told turn taken := by
    rcases List.mem_append.mp taken with before | last
    · obtain ⟨there, asked, known⟩ := told.told turn before
      rw [getElem?_set_of_here here, if_neg]
      · exact ⟨there, asked, known⟩
      · intro self
        rw [← self, here] at asked
        cases asked
        cases there with
        | concluded | returned => cases inside
        | _ => cases known
    · cases List.mem_singleton.mp last
      exact ⟨_, getElem?_set_here here _, rfl⟩
  present m caller found' := by
    rcases getElem?_set_cases here found' with ⟨_, rfl⟩ | ⟨_, before⟩
    · nofun
    · exact told.present m caller before

end Told

/-- What is published last is among what is published, and so is all that readers saw. -/
structure Shown (service : Service σ) : Prop where
  latest : service.latest ∈ service.published
  seen : ∀ snapshot ∈ service.seen, snapshot ∈ service.published

/-- What holds of a service, of these turns and of a store after every event of a run in which nobody
is dropped. -/
structure Accounts [Storage σ] (store : σ) (registry : Registry) (events : List Event)
    (service : Service σ) (turns : List Turn) (settled : σ) : Prop where
  exclusive : service.Exclusive
  ledger : Ledger store registry service.toBoard service.owed turns settled
  order : acquisitions events = turns.map Turn.caller ++ service.underWay.toList
  distinct : (acquisitions events).Nodup
  told : Told (acquisitions events) turns service.callers
  shown : service.Shown

section Accounts

variable [Storage σ] {store settled : σ} {registry : Registry} {events : List Event} {event : Event}
  {service after : Service σ} {turns : List Turn} {n : Nat} {edit : RegistryEdit}
  {stage next : Stage edit} {deed : Deed} {board there : Board σ}

theorem accounts_first (store : σ) (registry : Registry) :
    Accounts store registry [] (first store registry) [] store where
  exclusive := exclusive_first store registry
  ledger := ledger_first store registry
  order := rfl
  distinct := .nil
  told := told_nil
  shown := ⟨List.mem_cons_self, List.forall_mem_nil _⟩

theorem acquisitions_append (events : List Event) (event : Event) :
    acquisitions (events ++ [event]) = acquisitions events ++ acquisitions [event] :=
  List.filterMap_append

theorem acquisitions_of_ne (other : deed ≠ .acquire) : acquisitions [.act n deed] = [] := by
  cases deed <;> first | rfl | exact absurd rfl other

/-- What is published stays published. -/
theorem Advance.published (advance : Advance n board stage deed there next) :
    (∀ snapshot ∈ board.published, snapshot ∈ there.published) ∧
      (there.latest = board.latest ∨ there.latest ∈ there.published) := by
  cases advance with
  | publish => exact ⟨fun _ known => List.mem_cons_of_mem _ known, .inr List.mem_cons_self⟩
  | _ => exact ⟨fun _ known => known, .inl rfl⟩

theorem Advance.past (advance : Advance n board stage deed there next) (kept : deed ≠ .drop) :
    next.isWaiting = false ∧ next ≠ .dropped := by
  cases advance with
  | withdraw | abandon | orphan => exact absurd rfl kept
  | _ => exact ⟨rfl, nofun⟩

theorem Shown.step (shown : service.Shown) (step : Step service event after) : after.Shown := by
  cases step with
  | read => exact ⟨shown.latest, List.forall_mem_cons.mpr ⟨shown.latest, shown.seen⟩⟩
  | call => exact ⟨shown.latest, shown.seen⟩
  | act here advance =>
    obtain ⟨stays, last⟩ := advance.published
    refine ⟨?_, fun snapshot known => stays snapshot (shown.seen snapshot known)⟩
    rcases last with same | new
    · show _ ∈ Board.published _
      rw [same]
      exact stays _ shown.latest
    · exact new

/-- Nobody takes the lock, and no turn is done. -/
theorem Accounts.goOn (accounts : Accounts store registry events service turns settled)
    (step : Step service event after) (silent : acquisitions [event] = [])
    (underWay : after.underWay = service.underWay)
    (ledger : Ledger store registry after.toBoard after.owed turns settled)
    (told : Told (acquisitions events) turns after.callers) :
    Accounts store registry (events ++ [event]) after turns settled := by
  have taken : acquisitions (events ++ [event]) = acquisitions events := by
    rw [acquisitions_append, silent, List.append_nil]
  exact
    { exclusive := accounts.exclusive.step step
      ledger
      order := by
        rw [taken, underWay]
        exact accounts.order
      distinct := taken ▸ accounts.distinct
      told := taken ▸ told
      shown := accounts.shown.step step }

/-- A caller that was waiting takes the lock. -/
theorem Accounts.acquire (accounts : Accounts store registry events service turns settled)
    (here : service.callers[n]? = some ⟨edit, stage⟩) (waiting : stage.isWaiting = true)
    (step : Step service (.act n .acquire) after)
    (free : service.underWay = none) (underWay : after.underWay = some n)
    (ledger : Ledger store registry after.toBoard after.owed turns settled)
    (told : Told (acquisitions events ++ [n]) turns after.callers) :
    Accounts store registry (events ++ [.act n .acquire]) after turns settled := by
  have taken : acquisitions (events ++ [.act n .acquire]) = acquisitions events ++ [n] :=
    acquisitions_append ..
  have new : n ∉ acquisitions events := by
    intro before
    obtain ⟨caller, found, begun⟩ := accounts.told.begun n before
    cases here.symm.trans found
    rw [waiting] at begun
    cases begun
  exact
    { exclusive := accounts.exclusive.step step
      ledger
      order := by
        rw [taken, underWay, accounts.order, free]
        simp
      distinct := by
        rw [taken]
        refine List.nodup_append.mpr ⟨accounts.distinct, List.pairwise_singleton _ n, ?_⟩
        rintro m known _ last rfl
        exact new (List.mem_singleton.mp last ▸ known)
      told := taken ▸ told
      shown := accounts.shown.step step }

/-- The caller whose turn it is comes to its result. -/
theorem Accounts.conclude {turn : Turn} {settled' : σ}
    (accounts : Accounts store registry events service turns settled)
    (step : Step service event after) (silent : acquisitions [event] = [])
    (underWay : service.underWay = some turn.caller) (free : after.underWay = none)
    (ledger : Ledger store registry after.toBoard after.owed (turns ++ [turn]) settled')
    (told : Told (acquisitions events) (turns ++ [turn]) after.callers) :
    Accounts store registry (events ++ [event]) after (turns ++ [turn]) settled' := by
  have taken : acquisitions (events ++ [event]) = acquisitions events := by
    rw [acquisitions_append, silent, List.append_nil]
  exact
    { exclusive := accounts.exclusive.step step
      ledger
      order := by
        rw [taken, accounts.order, underWay, free]
        simp
      distinct := taken ▸ accounts.distinct
      told := taken ▸ told
      shown := accounts.shown.step step }

theorem Accounts.act (accounts : Accounts store registry events service turns settled)
    (here : service.callers[n]? = some ⟨edit, stage⟩)
    (advance : Advance n service.toBoard stage deed board next) (kept : deed ≠ .drop) :
    ∃ turns settled, Accounts store registry (events ++ [.act n deed])
      { service with toBoard := board, callers := service.callers.set n ⟨edit, next⟩ }
      turns settled := by
  have step := Step.act here advance
  obtain ⟨before, turn⟩ := (advance.turn_cases (accounts.exclusive.own here)).resolve_right
    fun gone => kept gone.1
  obtain ⟨past, present⟩ := advance.past kept
  have moved := getElem?_set_here here ⟨edit, next⟩
  have underWay := before.underWay_eq here
  have underWay' := turn.underWay_eq moved
  have owed := turn.owed_eq moved
  have ledger := accounts.ledger
  rw [before.owed_eq here] at ledger
  rcases ledger.advance advance kept (accounts.exclusive.fits n _ here) with
    ⟨rfl, waiting, inside, same, ledger⟩ | ⟨other, inside, same, ledger⟩ |
    ⟨other, inside, result, found, settled', rfl, ledger⟩
  · have outside : stage.isOpen = false := by
      cases stage <;> first | rfl | cases waiting
    refine ⟨turns, settled, accounts.acquire here waiting step ?_ ?_ (owed ▸ ledger)
      ((accounts.told.goOn here past same present).acquire moved past)⟩
    · rw [underWay, outside]
      rfl
    · rw [underWay', inside]
      rfl
  · refine ⟨turns, settled, accounts.goOn step (acquisitions_of_ne other) ?_ (owed ▸ ledger)
      (accounts.told.goOn here past same present)⟩
    rw [underWay, underWay', inside]
  · refine ⟨_, settled', accounts.conclude step (acquisitions_of_ne other) ?_ underWay' ?_
      (accounts.told.conclude here inside found board.latest result)⟩
    · rw [underWay, inside]
      rfl
    · rw [owed]
      exact ledger

theorem Accounts.step (accounts : Accounts store registry events service turns settled)
    (step : Step service event after) (kept : ∀ n, event ≠ .act n .drop) :
    ∃ turns settled, Accounts store registry (events ++ [event]) after turns settled := by
  cases step with
  | read =>
    exact ⟨turns, settled, accounts.goOn (.read service) rfl rfl accounts.ledger accounts.told⟩
  | call edit =>
    have same {α : Type} (view : Nat → Caller → Option α) :=
      accounts.exclusive.ofHolder_call ⟨edit, .waiting⟩ view
    refine ⟨turns, settled, accounts.goOn (.call service edit) rfl (same _) ?_
      (accounts.told.call edit)⟩
    rw [owed, same]
    exact accounts.ledger
  | @act n _ _ _ deed _ here advance =>
    exact accounts.act here advance fun same => kept n (same ▸ rfl)

theorem Run.accounts (run : (first store registry).Run events service)
    (kept : ∀ n, .act n .drop ∉ events) :
    ∃ turns settled, Accounts store registry events service turns settled := by
  induction run with
  | nil => exact ⟨[], store, accounts_first store registry⟩
  | step _ step ih =>
    obtain ⟨turns, settled, accounts⟩ := ih fun n happens => kept n (List.mem_append_left _ happens)
    refine accounts.step step fun n same => kept n ?_
    exact List.mem_append_right _ (same ▸ List.mem_cons_self)

end Accounts

/-- A run of a service is one of edits made one after the other. -/
structure Serialised [Storage σ] (store : σ) (registry : Registry) (events : List Event)
    (service : Service σ) (turns : List Turn) (settled : σ) : Prop where
  /-- Each edit is made alone on what the ones before it left. -/
  serial : Serial store registry turns settled service.latest
  /-- The turns come in the order in which the lock was taken. Only who has it now may lack its
  turn. -/
  order : ∃ underWay : Option Nat, acquisitions events = turns.map Turn.caller ++ underWay.toList
  distinct : (turns.map Turn.caller).Nodup
  heard : ∀ (n : Nat) (edit : RegistryEdit) (result : Except Error edit.Answer),
    service.callers[n]? = some ⟨edit, .returned result⟩ →
      ∃ found left, ⟨n, edit, found, result, left⟩ ∈ turns
  told : ∀ turn ∈ turns, service.callers[turn.caller]? = some ⟨turn.edit, .concluded turn.result⟩ ∨
    service.callers[turn.caller]? = some ⟨turn.edit, .returned turn.result⟩
  published : service.published.reverse = registry :: turns.filterMap Turn.published?
  /-- The store has what was published, and at most the changes that are published next. -/
  applied : ∃ owed : Option (Nat × Changeset),
    service.applied.reverse = turns.filterMap Turn.applied? ++ owed.toList ∧
      (owed = none → service.store = settled) ∧
      ∀ caller changes, owed = some (caller, changes) →
        Storage.commit settled changes = .ok service.store
  seen : ∀ snapshot ∈ service.seen, snapshot ∈ service.published
  /-- What is published was there at the start or was committed. -/
  backed : ∀ snapshot ∈ service.published, snapshot = registry ∨ ∃ turn ∈ turns,
    turn.left = snapshot ∧ (turn.caller, .between turn.found turn.left) ∈ service.applied
  /-- Versions only go up, unless they run over. -/
  ascending : (∀ turn ∈ turns, turn.HasRoom) →
    service.published.Pairwise fun later earlier => earlier.version < later.version

section Serialised

variable [Storage σ] {store settled : σ} {registry : Registry} {events : List Event}
  {service : Service σ} {turns : List Turn}

theorem Turn.published?_eq_some {turn : Turn} {snapshot : Registry}
    (published : turn.published? = some snapshot) :
    turn.left = snapshot ∧ turn.applied? = some (turn.caller, .between turn.found turn.left) := by
  unfold Turn.published? at published
  unfold Turn.applied?
  split at published
  · cases published
  next changed => exact ⟨Option.some.inj published, if_neg changed⟩

theorem Accounts.serialised (accounts : Accounts store registry events service turns settled)
    (sound : registry.Sound) : Serialised store registry events service turns settled where
  serial := accounts.ledger.serial
  order := ⟨_, accounts.order⟩
  distinct := by
    have distinct := accounts.distinct
    rw [accounts.order] at distinct
    exact (List.nodup_append.mp distinct).1
  heard n edit result here := accounts.told.heard n edit _ here result rfl
  told turn taken := by
    obtain ⟨stage, here, known⟩ := accounts.told.told turn taken
    cases stage with
    | concluded =>
      cases known
      exact .inl here
    | returned =>
      cases known
      exact .inr here
    | _ => cases known
  published := accounts.ledger.published
  applied := ⟨_, accounts.ledger.applied, accounts.ledger.unowed, accounts.ledger.ahead⟩
  seen := accounts.shown.seen
  backed snapshot known := by
    rw [← List.mem_reverse, accounts.ledger.published] at known
    refine (List.mem_cons.mp known).imp_right fun later => ?_
    obtain ⟨turn, taken, published⟩ := List.mem_filterMap.mp later
    obtain ⟨left, applied⟩ := Turn.published?_eq_some published
    refine ⟨turn, taken, left, ?_⟩
    rw [← List.mem_reverse, accounts.ledger.applied]
    exact List.mem_append_left _ (List.mem_filterMap.mpr ⟨turn, taken, applied⟩)
  ascending room := by
    rw [← List.pairwise_reverse, accounts.ledger.published]
    exact (accounts.ledger.serial.ascends sound room).ascending

/-- However the steps of edits fall between each other: the run is one of edits made one after the
other, in the order in which they took the lock, and from wherever it is every edit can come to its
result by the steps of the callers alone. -/
theorem run_serialises (begun : Registry.Origin registry)
    (run : (first store registry).Run events service) (kept : ∀ n, .act n .drop ∉ events) :
    (∃ turns settled, Serialised store registry events service turns settled) ∧
    ∃ more final, service.Run more final ∧
      (∀ event ∈ more, ∃ n deed, event = .act n deed ∧ deed ≠ .drop) ∧
      ∀ caller ∈ final.callers, ∃ result, caller.stage = .returned result := by
  obtain ⟨turns, settled, accounts⟩ := run.accounts kept
  refine ⟨⟨turns, settled, accounts.serialised begun.sound⟩, ?_⟩
  obtain ⟨more, final, finish, deeds, finished⟩ := accounts.exclusive.exists_finish
  have patient : ∀ n, .act n .drop ∉ events ++ more := by
    intro n happens
    rcases List.mem_append.mp happens with before | later
    · exact kept n before
    · obtain ⟨_, _, same, other⟩ := deeds _ later
      cases same
      exact other rfl
  obtain ⟨_, _, last⟩ := (run.trans finish).accounts patient
  refine ⟨more, final, finish, deeds, fun caller asked => ?_⟩
  obtain ⟨n, here⟩ := List.mem_iff_getElem?.mp asked
  have present := last.told.present n caller here
  have ended := finished caller asked
  obtain ⟨edit, stage⟩ := caller
  cases stage with
  | returned result => exact ⟨result, rfl⟩
  | dropped => exact absurd rfl present
  | _ => cases ended

end Serialised

section Garden

open Registry (garden sprinkler)

/-- Two callers come, the second one is the first to have the lock, and a reader looks in between.
The changes of the other one are refused. -/
def gardeners : List Event :=
  [.call (.addLocation garden), .call (.addDeviceType sprinkler [.open, .close]), .act 1 .acquire,
    .act 1 .copy, .act 1 .apply, .act 1 .commit, .read, .act 1 .publish, .act 1 .release,
    .act 0 .acquire, .act 0 .copy, .read, .act 0 .apply, .act 0 (.refuse .database),
    .act 0 .release]

theorem run_serialises_gardeners :
    ∃ service : Service Store.Memory, (first {} .empty).Run gardeners service ∧
      service.published.length = 2 ∧ service.seen.length = 2 ∧
      ∃ turns settled, Serialised {} .empty gardeners service turns settled := by
  have run : ∃ service : Service Store.Memory, (first {} .empty).Run gardeners service ∧
      service.published.length = 2 ∧ service.seen.length = 2 := by
    refine ⟨_, .cons (.call _ _) <| .cons (.call _ _) <| .cons (.act rfl (.acquire rfl)) <|
      .cons (.act rfl (.copy _)) <| .cons (.act rfl (.apply rfl (by decide +kernel))) <|
      .cons (.act rfl (.commit rfl)) <| .cons (.read _) <|
      .cons (.act rfl (.publish _ _ _ _)) <| .cons (.act rfl (.release _ _)) <|
      .cons (.act rfl (.acquire rfl)) <| .cons (.act rfl (.copy _)) <| .cons (.read _) <|
      .cons (.act rfl (.apply rfl (by decide +kernel))) <|
      .cons (.act rfl (.refuse _ _ _ _ _)) <| .cons (.act rfl (.release _ _)) .nil, rfl, rfl⟩
  obtain ⟨service, run, published, seen⟩ := run
  exact ⟨service, run, published, seen, (run_serialises .new run (by simp [gardeners])).1⟩

end Garden

end Service

end HomeVoice
