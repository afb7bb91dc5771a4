import NfsRs.Lib.Machine
import NfsRs.Nfs41.Session

/-!
# NfsRs — the slot table between its steps

`SlotTable` of the session module acquires and drops a slot in one step. The code does not:
`acquire` takes a permit of the semaphore, loads the server's target, searches the pool under
its mutex and sets a bit of the bitmap, and another task may run between any two of these. The
drop of a slot and an update of the target are as fine-grained.

This file has the table as the tasks share it, with the semaphore's permits and the `Notify`
that an `acquire` without a grantable slot waits for, and one step for each access to shared
memory. Each call of `acquire` is followed from its start to the end of the drop of its slot.
Sequence ids play no role here: `advances` is left alone.

The state also records what no task stores: the fenced slots by name, and for each grant the
target that was in force when the slot left the pool.

## Main results

- `acquire_uninterrupted`, `release_uninterrupted`, `fence_uninterrupted` : without
  interference the steps of one operation do what the one-step `SlotTable` does.
- `tableMove_of_step` : what a step can do, in the terms of the table's accounts.
-/

namespace NfsRs.Nfs41

/-! ## State -/

/-- Where a call of `acquire` is, up to the end of the drop of the slot it returned. `since`
counts the `notify_waiters` calls before the call's `notified` future was made. -/
inductive AcquirePhase where
  /-- Waiting for a permit of the semaphore. -/
  | semaphore (since : Nat)
  | permitted (since : Nat)
  /-- The target is loaded; `version` counts the updates stored before the load. -/
  | loaded (since target version : Nat)
  /-- No free slot within the target: the permit is about to be returned. -/
  | missed (since : Nat)
  /-- The permit is returned and `notified` is about to be polled. -/
  | resting (since : Nat)
  /-- Registered with the `Notify`. -/
  | sleeping
  /-- Woken, by `notify_one` or by `notify_waiters`. -/
  | signalled (one : Bool)
  /-- The slot is out of the pool and the permit forgotten. -/
  | taken (slot : Nat)
  /-- The caller has the `AcquiredSlot`. -/
  | held (slot : Nat) (disposition : SlotDisposition)
  /-- `release`: the bit is cleared. -/
  | cleared (slot : Nat)
  /-- `release`: the slot is in the pool. -/
  | pushed
  /-- `release`: the permit is added. -/
  | added
  /-- Drop of a fenced slot: `fenced` slots are counted, this one included. -/
  | counted (fenced : Nat)
  | ended
  /-- `acquire` returned an error. -/
  | failed
  deriving DecidableEq, Repr

/-- A slot leaving the pool. -/
structure SlotGrant where
  slot : Nat
  /-- Target that the call had loaded. -/
  read : Nat
  /-- Target in force. -/
  target : Nat
  /-- An update was stored between the load and the grant. -/
  raced : Bool
  deriving DecidableEq, Repr

/-- The slot table with its synchronisation and the calls on it. -/
structure SharedSlotTable where
  table : SlotTable
  /-- Permits of the semaphore that nobody holds. -/
  permits : Nat
  calls : List AcquirePhase
  /-- Calls registered with the `Notify`, in order. -/
  waiters : List Nat
  /-- `notify_one` found no waiter. -/
  stored : Bool
  /-- Calls of `notify_waiters` made so far. -/
  broadcasts : Nat
  /-- Updates of the target stored whose `notify_waiters` is still to come. -/
  updates : Nat
  fenced : List Nat
  grants : List SlotGrant

/-- The slot that the call has out of the pool and not fenced. -/
def AcquirePhase.slot? : AcquirePhase → Option Nat
  | .taken slot | .held slot _ | .cleared slot => some slot
  | _ => none

/-- The call owns this slot. -/
def AcquirePhase.owns (slot : Nat) (p : AcquirePhase) : Bool := p.slot? == some slot

/-- The call has a permit that it has neither returned nor forgotten. -/
def AcquirePhase.hasPermit : AcquirePhase → Bool
  | .permitted _ | .loaded _ _ _ | .missed _ => true
  | _ => false

/-- The call waits for another task. -/
def AcquirePhase.waits : AcquirePhase → Bool
  | .semaphore _ | .sleeping => true
  | _ => false

/-- The call's task is inside `acquire` past the pool, has the slot, or is dropping it. -/
def AcquirePhase.holdsSlot : AcquirePhase → Bool
  | .taken _ | .held _ _ | .cleared _ | .counted _ => true
  | _ => false

/-- A waiter is woken; other calls are left alone. -/
def AcquirePhase.wake (one : Bool) : AcquirePhase → AcquirePhase
  | .sleeping => .signalled one
  | p => p

namespace SharedSlotTable

def initial (numSlots : Nat) : SharedSlotTable :=
  { table := .new numSlots
    permits := numSlots
    calls := []
    waiters := []
    stored := false
    broadcasts := 0
    updates := 0
    fenced := []
    grants := [] }

/-- Updates of the target stored so far. -/
def versions (s : SharedSlotTable) : Nat := s.broadcasts + s.updates

def setCall (s : SharedSlotTable) (i : Nat) (p : AcquirePhase) : SharedSlotTable :=
  { s with calls := s.calls.set i p }

/-- `Notify::notify_one`: the first waiter, or a stored wake-up. -/
def notifyOne (s : SharedSlotTable) : SharedSlotTable :=
  match s.waiters with
  | [] => { s with stored := true }
  | i :: rest => { s with waiters := rest, calls := s.calls.modify i (AcquirePhase.wake true) }

/-- `Notify::notify_waiters`. -/
def notifyWaiters (s : SharedSlotTable) : SharedSlotTable :=
  { s with
    waiters := []
    calls := s.calls.map (AcquirePhase.wake false)
    broadcasts := s.broadcasts + 1 }

/-- The loop of `acquire` starts over with a new `notified` future. -/
def restart (s : SharedSlotTable) (i : Nat) : SharedSlotTable :=
  s.setCall i (.semaphore s.broadcasts)

/-- The slot leaves the pool for call `i`. -/
def grant (s : SharedSlotTable) (i slot read version : Nat) : SharedSlotTable :=
  { s with
    table := { s.table with freePool := s.table.freePool.erase slot }
    grants :=
      { slot := slot, read := read, target := s.table.targetHighestSlotId
        raced := decide (version ≠ s.versions) } :: s.grants }.setCall i (.taken slot)

/-! ## Steps -/

/-- The next access to shared memory of a call in phase `p`. -/
def nextStep (s : SharedSlotTable) (i : Nat) : AcquirePhase → Option SharedSlotTable
  | .semaphore since =>
    if s.table.closed then some (s.setCall i .failed)  -- "session slot table closed"
    else if s.permits = 0 then none
    else some ({ s with permits := s.permits - 1 }.setCall i (.permitted since))
  | .permitted since =>
    some (s.setCall i (.loaded since s.table.targetHighestSlotId s.versions))
  | .loaded since target version =>
    match s.table.freePool.find? (· ≤ target) with
    | some slot => some (s.grant i slot target version)
    | none => some (s.setCall i (.missed since))
  | .missed since => some ({ s with permits := s.permits + 1 }.setCall i (.resting since))
  | .resting since =>
    if since < s.broadcasts then some (s.restart i)
    else if s.stored then some ({ s with stored := false }.restart i)
    else some ({ s with waiters := s.waiters ++ [i] }.setCall i .sleeping)
  | .signalled _ => some (s.restart i)
  | .taken slot =>
    if slot < 64 then
      some ({ s with table := { s.table with active := slot :: s.table.active } }.setCall i
        (.held slot .release))
    else some (s.setCall i .failed)  -- "slot ID {slot_id} exceeds bitmap bound"
  | .cleared slot =>
    some ({ s with table := { s.table with freePool := s.table.freePool ++ [slot] } }.setCall i
      .pushed)
  | .pushed => some ({ s with permits := s.permits + 1 }.setCall i .added)
  | .added => some (s.setCall i .ended).notifyOne
  | .counted fenced =>
    some ({ s with
      table := { s.table with closed := s.table.closed || decide (fenced ≥ s.table.size) } }.setCall
        i .ended)
  | .sleeping | .held _ _ | .ended | .failed => none

/-- The future of a waiting call is dropped. A permit goes back, and so does a wake-up by
`notify_one` that the call has not seen. -/
def cancelStep (s : SharedSlotTable) (i : Nat) : AcquirePhase → Option SharedSlotTable
  | .semaphore _ => some (s.setCall i .ended)
  | .permitted _ => some ({ s with permits := s.permits + 1 }.setCall i .ended)
  | .sleeping => some ({ s with waiters := s.waiters.erase i }.setCall i .ended)
  | .signalled one =>
    some (if one then (s.setCall i .ended).notifyOne else s.setCall i .ended)
  | _ => none

/-- `Drop for AcquiredSlot` up to its first access. -/
def dropStep (s : SharedSlotTable) (i : Nat) : AcquirePhase → Option SharedSlotTable
  | .held slot .release =>
    some ({ s with
      table := { s.table with active := s.table.active.filter (· ≠ slot) } }.setCall i
        (.cleared slot))
  | .held slot .fence =>
    some ({ s with
      table := { s.table with fencedSlots := s.table.fencedSlots + 1 }
      fenced := slot :: s.fenced }.setCall i (.counted (s.table.fencedSlots + 1)))
  | _ => none

/-- `fence_on_drop` and `resolve`. -/
def disposeStep (s : SharedSlotTable) (i : Nat) (disposition : SlotDisposition) :
    AcquirePhase → Option SharedSlotTable
  | .held slot _ => some (s.setCall i (.held slot disposition))
  | _ => none

end SharedSlotTable

inductive SlotTableEvent where
  /-- A task calls `acquire`. -/
  | call
  /-- Call `i` takes its next step. -/
  | next (i : Nat)
  | cancel (i : Nat)
  | dispose (i : Nat) (disposition : SlotDisposition)
  | drop (i : Nat)
  /-- `update_target_highest_slot_id` stores a target that passed its check. -/
  | updateTarget (target : Nat)
  /-- It calls `notify_waiters`. -/
  | notifyWaiters
  deriving DecidableEq, Repr

open SharedSlotTable in
def slotTableStep (s : SharedSlotTable) : SlotTableEvent → Option SharedSlotTable
  | .call => some { s with calls := s.calls ++ [.semaphore s.broadcasts] }
  | .next i => (s.calls[i]?).bind (s.nextStep i)
  | .cancel i => (s.calls[i]?).bind (s.cancelStep i)
  | .dispose i disposition => (s.calls[i]?).bind (s.disposeStep i disposition)
  | .drop i => (s.calls[i]?).bind (s.dropStep i)
  | .updateTarget target =>
    if target < s.table.size then
      some { s with table := s.table.setTarget target, updates := s.updates + 1 }
    else none
  | .notifyWaiters =>
    if s.updates = 0 then none
    else some { s.notifyWaiters with updates := s.updates - 1 }

/-- The machine of a table of `numSlots` slots. -/
def slotTableMachine (numSlots : Nat) : Lib.Machine SharedSlotTable SlotTableEvent where
  init := .initial numSlots
  step := slotTableStep

/-! ## Operations without interference -/

section

open SharedSlotTable

variable {numSlots : Nat} {s : SharedSlotTable} {i slot : Nat}

attribute [local simp] Lib.Machine.runFrom slotTableMachine slotTableStep nextStep dropStep setCall

/-- The steps of an undisturbed `acquire`, from its call, are the acquire of the one-step
table. -/
theorem acquire_uninterrupted {t : SlotTable} (hPermit : 0 < s.permits) (hBound : slot < 64)
    (hAcquire : s.table.acquire = some (slot, t)) :
    ((slotTableMachine numSlots).runFrom s
        (.call :: List.replicate 4 (.next s.calls.length))).map
      (fun s' => (s'.table, s'.calls)) = some (t, s.calls ++ [.held slot .release]) := by
  unfold SlotTable.acquire at hAcquire
  split at hAcquire
  next => cases hAcquire
  next hOpen =>
    split at hAcquire
    next => cases hAcquire
    next hFind =>
      cases hAcquire
      have hSome : s.permits ≠ 0 := by omega
      simp [List.replicate, grant, hOpen, hSome, hFind, hBound]

/-- The steps of an undisturbed release are the drop of the one-step table. -/
theorem release_uninterrupted (hCall : s.calls[i]? = some (.held slot .release)) :
    ((slotTableMachine numSlots).runFrom s
        (.drop i :: List.replicate 2 (.next i))).map
      (fun s' => (s'.table, s'.permits)) =
        some (s.table.dropSlot slot .release, s.permits + 1) := by
  obtain ⟨hLt, hGet⟩ := List.getElem?_eq_some_iff.mp hCall
  simp [List.replicate, hGet, hLt, SlotTable.dropSlot]

/-- The steps of an undisturbed drop of a fenced slot are the drop of the one-step table. -/
theorem fence_uninterrupted (hCall : s.calls[i]? = some (.held slot .fence)) :
    ((slotTableMachine numSlots).runFrom s [.drop i, .next i]).map
      (fun s' => (s'.table, s'.permits)) = some (s.table.dropSlot slot .fence, s.permits) := by
  obtain ⟨hLt, hGet⟩ := List.getElem?_eq_some_iff.mp hCall
  simp [hGet, hLt, SlotTable.dropSlot]

end

/-! ## What a step can do -/

/-- The same calls, some waiters among them woken. -/
inductive Woken : List AcquirePhase → List AcquirePhase → Prop where
  | nil : Woken [] []
  | keep {p : AcquirePhase} {l l' : List AcquirePhase} : Woken l l' → Woken (p :: l) (p :: l')
  | wake {one : Bool} {l l' : List AcquirePhase} :
      Woken l l' → Woken (.sleeping :: l) (.signalled one :: l')

namespace Woken

variable {l l' : List AcquirePhase} {one : Bool}

theorem refl : ∀ l, Woken l l
  | [] => .nil
  | _ :: rest => .keep (refl rest)

theorem cons_wake (p : AcquirePhase) (h : Woken l l') : Woken (p :: l) (p.wake one :: l') := by
  cases p with
  | sleeping => exact .wake h
  | _ => exact .keep h

theorem modify : ∀ (l : List AcquirePhase) (i : Nat), Woken l (l.modify i (AcquirePhase.wake one))
  | [], i => by simpa using Woken.nil
  | p :: rest, 0 => by simpa using cons_wake p (refl rest)
  | p :: rest, i + 1 => by simpa using Woken.keep (modify rest i)

theorem map (l : List AcquirePhase) : Woken l (l.map (AcquirePhase.wake one)) := by
  induction l with
  | nil => exact .nil
  | cons p rest ih => exact cons_wake p ih

/-- A count over neither waiters nor woken calls. -/
theorem countP_eq (h : Woken l l') {f : AcquirePhase → Bool} (hSleeping : f .sleeping = false)
    (hSignalled : ∀ one, f (.signalled one) = false) : l'.countP f = l.countP f := by
  induction h with
  | nil => rfl
  | keep _ ih => simp only [List.countP_cons, ih]
  | wake _ ih => simp [ih, hSleeping, hSignalled]

theorem mem (h : Woken l l') {q : AcquirePhase} (hq : q ∈ l') :
    q ∈ l ∨ ∃ one, q = .signalled one := by
  induction h with
  | nil => cases hq
  | keep _ ih =>
    rcases List.mem_cons.mp hq with rfl | hq
    · exact .inl List.mem_cons_self
    · exact (ih hq).imp_left (List.mem_cons_of_mem _)
  | wake _ ih =>
    rcases List.mem_cons.mp hq with rfl | hq
    · exact .inr ⟨_, rfl⟩
    · exact (ih hq).imp_left (List.mem_cons_of_mem _)

end Woken

theorem SharedSlotTable.woken_notifyOne (s : SharedSlotTable) :
    Woken s.calls s.notifyOne.calls := by
  unfold SharedSlotTable.notifyOne
  split
  · exact .refl _
  · exact .modify _ _

/-- The call has nothing of the table. -/
def AcquirePhase.idle : AcquirePhase → Bool
  | .semaphore _ | .resting _ | .sleeping | .signalled _ | .added | .ended | .failed => true
  | _ => false

/-- The phases that such a call goes on to. -/
def AcquirePhase.restsAt (broadcasts : Nat) : AcquirePhase → Prop
  | .semaphore since => since = broadcasts
  | .sleeping | .ended | .failed => True
  | _ => False

theorem AcquirePhase.idle_of_restsAt {broadcasts : Nat} {p : AcquirePhase}
    (h : p.restsAt broadcasts) :
    p.idle = true := by
  cases p with
  | semaphore _ | sleeping | ended | failed => rfl
  | _ => exact h.elim

/-- The call found no slot, and no `notify_waiters` has been called since its `notified` future
was made. -/
def AcquirePhase.unwoken (broadcasts : Nat) : AcquirePhase → Bool
  | .missed since | .resting since => decide (broadcasts ≤ since)
  | .sleeping => true
  | _ => false

open SharedSlotTable in
/-- What a step does to the table. Steps of calls that have nothing of it are one case. -/
inductive TableMove (s : SharedSlotTable) : SharedSlotTable → Prop where
  | call : TableMove s { s with calls := s.calls ++ [.semaphore s.broadcasts] }
  | idle {i : Nat} {p q : AcquirePhase} {calls : List AcquirePhase} {waiters : List Nat}
      {stored : Bool} (hCall : s.calls[i]? = some p) (hp : p.idle = true)
      (hq : q.restsAt s.broadcasts)
      (hUnwoken : q.unwoken s.broadcasts = true → p.unwoken s.broadcasts = true)
      (hWoken : Woken (s.calls.set i q) calls) :
      TableMove s { s with calls := calls, waiters := waiters, stored := stored }
  | permit {i since : Nat} (hCall : s.calls[i]? = some (.semaphore since))
      (hPermit : s.permits ≠ 0) :
      TableMove s ({ s with permits := s.permits - 1 }.setCall i (.permitted since))
  | load {i since : Nat} (hCall : s.calls[i]? = some (.permitted since)) :
      TableMove s (s.setCall i (.loaded since s.table.targetHighestSlotId s.versions))
  | grant {i since target version slot : Nat}
      (hCall : s.calls[i]? = some (.loaded since target version))
      (hFree : slot ∈ s.table.freePool) (hTarget : slot ≤ target) :
      TableMove s (s.grant i slot target version)
  | miss {i since target version : Nat}
      (hCall : s.calls[i]? = some (.loaded since target version))
      (hNone : ∀ slot ∈ s.table.freePool, target < slot) :
      TableMove s (s.setCall i (.missed since))
  | returnPermit {i since : Nat} (hCall : s.calls[i]? = some (.missed since)) :
      TableMove s ({ s with permits := s.permits + 1 }.setCall i (.resting since))
  | cancelPermit {i since : Nat} (hCall : s.calls[i]? = some (.permitted since)) :
      TableMove s ({ s with permits := s.permits + 1 }.setCall i .ended)
  | mark {i slot : Nat} (hCall : s.calls[i]? = some (.taken slot)) :
      TableMove s ({ s with
        table := { s.table with active := slot :: s.table.active } }.setCall i
          (.held slot .release))
  | overflow {i slot : Nat} (hCall : s.calls[i]? = some (.taken slot)) (hBound : ¬ slot < 64) :
      TableMove s (s.setCall i .failed)
  | dispose {i slot : Nat} {before after : SlotDisposition}
      (hCall : s.calls[i]? = some (.held slot before)) :
      TableMove s (s.setCall i (.held slot after))
  | clear {i slot : Nat} (hCall : s.calls[i]? = some (.held slot .release)) :
      TableMove s ({ s with
        table := { s.table with active := s.table.active.filter (· ≠ slot) } }.setCall i
          (.cleared slot))
  | push {i slot : Nat} (hCall : s.calls[i]? = some (.cleared slot)) :
      TableMove s ({ s with
        table := { s.table with freePool := s.table.freePool ++ [slot] } }.setCall i .pushed)
  | addPermit {i : Nat} (hCall : s.calls[i]? = some .pushed) :
      TableMove s ({ s with permits := s.permits + 1 }.setCall i .added)
  | count {i slot : Nat} (hCall : s.calls[i]? = some (.held slot .fence)) :
      TableMove s ({ s with
        table := { s.table with fencedSlots := s.table.fencedSlots + 1 }
        fenced := slot :: s.fenced }.setCall i (.counted (s.table.fencedSlots + 1)))
  | close {i fenced : Nat} (hCall : s.calls[i]? = some (.counted fenced)) :
      TableMove s ({ s with
        table := { s.table with
          closed := s.table.closed || decide (fenced ≥ s.table.size) } }.setCall i .ended)
  | updateTarget {target : Nat} (hBound : target < s.table.size) :
      TableMove s { s with table := s.table.setTarget target, updates := s.updates + 1 }
  | notifyWaiters (hUpdates : s.updates ≠ 0) :
      TableMove s { s.notifyWaiters with updates := s.updates - 1 }

namespace SharedSlotTable

variable {s s' : SharedSlotTable} {i : Nat} {p : AcquirePhase}

/-- The end of a call that wakes the next waiter. -/
theorem move_notifyOne (hCall : s.calls[i]? = some p) (hp : p.idle = true) :
    TableMove s (s.setCall i .ended).notifyOne := by
  have hWoken := (s.setCall i .ended).woken_notifyOne
  unfold notifyOne at hWoken ⊢
  split
  next hNil =>
    rw [hNil] at hWoken
    exact .idle hCall hp (by trivial) (by nofun) hWoken
  next hCons =>
    rw [hCons] at hWoken
    exact .idle hCall hp (by trivial) (by nofun) hWoken

/-- The steps of a call, each a single access to the shared state. -/
theorem move_of_nextStep (hCall : s.calls[i]? = some p) (h : s.nextStep i p = some s') :
    TableMove s s' := by
  cases p with
  | semaphore since =>
    simp only [nextStep] at h
    split at h
    next =>
      cases h
      exact .idle hCall rfl (by trivial) (by nofun) (.refl _)
    next =>
      split at h
      next => cases h
      next hPermit =>
        cases h
        exact .permit hCall hPermit
  | permitted since =>
    cases h
    exact .load hCall
  | loaded since target version =>
    simp only [nextStep] at h
    split at h
    next slot hFind =>
      cases h
      exact .grant hCall (List.mem_of_find?_eq_some hFind) (by simpa using List.find?_some hFind)
    next hFind =>
      cases h
      exact .miss hCall (by simpa using hFind)
  | missed since =>
    cases h
    exact .returnPermit hCall
  -- a broadcast or a stored permit since the miss has the call look again before it sleeps
  | resting since =>
    simp only [nextStep] at h
    split at h
    next =>
      cases h
      exact .idle hCall rfl (by trivial) (by nofun) (.refl _)
    next hLate =>
      split at h
      next =>
        cases h
        exact .idle hCall rfl (by trivial) (by nofun) (.refl _)
      next =>
        cases h
        exact .idle hCall rfl (by trivial) (fun _ => by simpa [AcquirePhase.unwoken] using hLate)
          (.refl _)
  | signalled one =>
    cases h
    exact .idle hCall rfl (by trivial) (by nofun) (.refl _)
  -- a slot off the bitmap has left the pool already, and is lost
  | taken slot =>
    simp only [nextStep] at h
    split at h
    next =>
      cases h
      exact .mark hCall
    next hBound =>
      cases h
      exact .overflow hCall hBound
  | cleared slot =>
    cases h
    exact .push hCall
  | pushed =>
    cases h
    exact .addPermit hCall
  | added =>
    cases h
    exact move_notifyOne hCall rfl
  | counted fenced =>
    cases h
    exact .close hCall
  | sleeping => cases h
  | held slot disposition => cases h
  | ended => cases h
  | failed => cases h

/-- **Inversion** of a cancelled call. -/
theorem move_of_cancelStep (hCall : s.calls[i]? = some p) (h : s.cancelStep i p = some s') :
    TableMove s s' := by
  unfold cancelStep at h
  split at h
  next =>
    cases h
    exact .idle hCall rfl (by trivial) (by nofun) (.refl _)
  next =>
    cases h
    exact .cancelPermit hCall
  next =>
    cases h
    exact .idle hCall rfl (by trivial) (by nofun) (.refl _)
  next one =>
    cases h
    split
    · exact move_notifyOne hCall rfl
    · exact .idle hCall rfl (by trivial) (by nofun) (.refl _)
  next => cases h

end SharedSlotTable

/-- Every step of the table is one of the moves. -/
theorem tableMove_of_step {s s' : SharedSlotTable} {e : SlotTableEvent}
    (h : slotTableStep s e = some s') : TableMove s s' := by
  cases e with
  | call =>
    cases h
    exact .call
  | next i =>
    obtain ⟨p, hCall, hNext⟩ := Option.bind_eq_some_iff.mp h
    exact SharedSlotTable.move_of_nextStep hCall hNext
  | cancel i =>
    obtain ⟨p, hCall, hCancel⟩ := Option.bind_eq_some_iff.mp h
    exact SharedSlotTable.move_of_cancelStep hCall hCancel
  | dispose i disposition =>
    obtain ⟨p, hCall, hDispose⟩ := Option.bind_eq_some_iff.mp h
    unfold SharedSlotTable.disposeStep at hDispose
    split at hDispose
    next =>
      cases hDispose
      exact .dispose hCall
    next => cases hDispose
  | drop i =>
    obtain ⟨p, hCall, hDrop⟩ := Option.bind_eq_some_iff.mp h
    unfold SharedSlotTable.dropStep at hDrop
    split at hDrop
    next =>
      cases hDrop
      exact .clear hCall
    next =>
      cases hDrop
      exact .count hCall
    next => cases hDrop
  | updateTarget target =>
    simp only [slotTableStep] at h
    split at h
    next hBound =>
      cases h
      exact .updateTarget hBound
    next => cases h
  | notifyWaiters =>
    simp only [slotTableStep] at h
    split at h
    next => cases h
    next hUpdates =>
      cases h
      exact .notifyWaiters hUpdates

end NfsRs.Nfs41
