import NfsRs.Lib.Table
import NfsRs.Nfs41.LayoutWire

/-!
# NfsRs — the callback state of an NFSv4.0 mount

`CallbackState` has the delegations of a mount by filehandle, the channel to the worker that
returns them, the number of OPENs under way and the replies to the latest recalls. It is shared
by the callback connections, the worker, the OPENs and the calls that change a file. Each
function here is one critical section: what one holder of the mutex of `delegations` does before it
lets go, with the atomics that it reads in between. `try_send` takes place under that mutex.

A poisoned mutex is left out, as are the counters and the two health flags, which no function of
this file reads.

## Main results

- `CallbackState.recall_cases` : what CB_RECALL does.
- `CallbackState.finishRecall_cases`, `CallbackState.lookup_registerDelegation` : what is recorded
  behind the two.
-/

namespace NfsRs.Nfs40

open Lib

/-! ## The state -/

inductive DelegationKind where
  | read | write
  deriving DecidableEq, Repr

structure DelegationGrant where
  kind : DelegationKind
  stateid : List UInt8
  recallFlag : Bool
  deriving DecidableEq, Repr

structure DelegationRecord where
  grant : DelegationGrant
  generation : Nat
  /-- `change` and `size`, unless unknown. -/
  attributes : Option (Nat × Nat)
  recalling : Bool
  deriving DecidableEq, Repr

structure RecallNotification where
  fh : List UInt8
  stateid : List UInt8
  generation : Nat
  flush : Bool
  deriving DecidableEq, Repr

structure ReplayEntry where
  xid : Nat
  call : List UInt8
  reply : List UInt8
  deriving DecidableEq, Repr

structure CallbackState where
  delegations : Table (List UInt8) DelegationRecord
  generation : Nat
  /-- The recall channel. -/
  waiting : List RecallNotification
  /-- Its receiver is gone. -/
  closed : Bool
  openPublications : Nat
  /-- The oldest reply first. -/
  replies : List ReplayEntry

/-- The capacity of the recall channel. -/
def recallCapacity : Nat := 64

namespace CallbackState

def new : CallbackState := ⟨∅, 0, [], false, 0, []⟩

variable (s : CallbackState)

/-! ## The delegations -/

/-- The record of the file is replaced. -/
def put (fh : List UInt8) (record : DelegationRecord) : CallbackState :=
  { s with delegations := s.delegations.insert fh record }

def trySend (n : RecallNotification) : Option CallbackState :=
  if s.closed || recallCapacity ≤ s.waiting.length then none
  else some { s with waiting := s.waiting ++ [n] }

/-- The result says whether the file has a write delegation. -/
def markAttributesUnknown (fh : List UInt8) : CallbackState × Bool :=
  match s.delegations.lookup fh with
  | some record =>
    if record.grant.kind = .write then (s.put fh { record with attributes := none }, true)
    else (s, false)
  | none => (s, false)

def publishAttributes (fh : List UInt8) (change size : Nat) : CallbackState :=
  match s.delegations.lookup fh with
  | some record =>
    if record.grant.kind = .write then s.put fh { record with attributes := some (change, size) }
    else s
  | none => s

/-- The notification that asks the worker to return a delegation. -/
def notification (fh : List UInt8) (record : DelegationRecord) (flush : Bool) :
    RecallNotification :=
  ⟨fh, record.grant.stateid, record.generation, flush⟩

/-- `return_all_delegations` up to its sends: the notifications to send. Records that are
recalled already stay as they are. -/
def returnAllDelegations : CallbackState × List RecallNotification :=
  ({ s with
      delegations := s.delegations.mapValues fun record => { record with recalling := true } },
    (s.delegations.entries.filter fun e => !e.2.recalling).map fun e =>
      notification e.1 e.2 (e.2.grant.kind == .write))

/-- `register_delegation` behind its store to `generation`. -/
def registerDelegation (fh : List UInt8) (grant : DelegationGrant) (generation : Nat)
    (attributes : Option (Nat × Nat)) : CallbackState :=
  let record : DelegationRecord := ⟨grant, generation, attributes, grant.recallFlag⟩
  let inserted := s.put fh record
  if grant.recallFlag then
    match inserted.trySend (notification fh record (grant.kind == .write)) with
    | some sent => sent
    | none => s.put fh { record with recalling := false }
  else inserted

/-- `invalidate_delegations` behind its store to `generation`. -/
def clearDelegations : CallbackState := { s with delegations := ∅ }

def finishRecall (n : RecallNotification) (returned : Bool) : CallbackState :=
  match s.delegations.lookup n.fh with
  | some record =>
    if record.generation = n.generation ∧ record.grant.stateid = n.stateid then
      if returned then { s with delegations := s.delegations.erase n.fh }
      else s.put n.fh { record with recalling := false }
    else s
  | none => s

/-! ## The callback operations -/

/-- CB_RECALL: the status, and what was sent to the worker. `active` is the generation that was
loaded before. -/
def «recall» (stateid : List UInt8) (truncate : Bool) (fh : List UInt8) (active : Nat) :
    CallbackState × Nat × Option RecallNotification :=
  match s.delegations.lookup fh with
  | none => if s.openPublications ≠ 0 then (s, 10008, none) else (s, 10001, none)
  | some record =>
    if record.generation ≠ active then (s, 10001, none)
    else if record.grant.stateid ≠ stateid then (s, 10025, none)
    else if record.recalling then (s, 0, none)
    else
      let n := notification fh record (record.grant.kind == .write && !truncate)
      match s.trySend n with
      | some sent => (sent.put fh { record with recalling := true }, 0, some n)
      | none => (s, 10008, none)

/-- CB_GETATTR: the attributes of a file, or the status of the failure. -/
def getattr (fh : List UInt8) : Except Nat (Nat × Nat) :=
  match s.delegations.lookup fh with
  | some record =>
    if record.grant.kind = .write then
      match record.attributes with
      | some attributes => if record.generation = s.generation then .ok attributes else .error 10001
      | none => .error 10008
    else .error 10001
  | none => .error 10001

/-! ## What the functions do -/

variable {s} {s' : CallbackState} {n : RecallNotification} {fh fh' : List UInt8}
  {record : DelegationRecord}

theorem lookup_put : (s.put fh record).delegations.lookup fh' =
    if fh' = fh then some record else s.delegations.lookup fh' :=
  Table.lookup_insert_eq

theorem trySend_eq_some (h : s.trySend n = some s') :
    s' = { s with waiting := s.waiting ++ [n] } := by
  simp only [trySend, Option.ite_none_left_eq_some, Option.some.injEq] at h
  exact h.2.symm

/-- The attributes of a write delegation are forgotten. -/
theorem of_markAttributesUnknown
    (h : (s.markAttributesUnknown fh).1.delegations.lookup fh' = some record) :
    ∃ before, s.delegations.lookup fh' = some before ∧
      (record = before ∧ (fh' = fh → before.grant.kind ≠ .write) ∨
        record = { before with attributes := none }) := by
  simp only [markAttributesUnknown] at h
  split at h
  next before hBefore =>
    split at h
    next =>
      rw [lookup_put] at h
      split at h
      next hEq =>
        cases h
        exact ⟨before, hEq ▸ hBefore, .inr rfl⟩
      next hNe => exact ⟨record, h, .inl ⟨rfl, fun hEq => absurd hEq hNe⟩⟩
    next hKind =>
      refine ⟨record, h, .inl ⟨rfl, fun hEq => ?_⟩⟩
      cases hBefore.symm.trans (hEq ▸ h)
      exact hKind
  next hNone =>
    refine ⟨record, h, .inl ⟨rfl, fun hEq => ?_⟩⟩
    cases hNone.symm.trans (hEq ▸ h)

/-- The attributes of a write delegation are known. -/
theorem of_publishAttributes {change size : Nat}
    (h : (s.publishAttributes fh change size).delegations.lookup fh' = some record) :
    ∃ before, s.delegations.lookup fh' = some before ∧ (record = before ∨
      fh' = fh ∧ before.grant.kind = .write ∧
        record = { before with attributes := some (change, size) }) := by
  simp only [publishAttributes] at h
  split at h
  next before hBefore =>
    split at h
    next hKind =>
      rw [lookup_put] at h
      split at h
      next hEq =>
        cases h
        exact ⟨before, hEq ▸ hBefore, .inr ⟨hEq, hKind, rfl⟩⟩
      next => exact ⟨record, h, .inl rfl⟩
    next => exact ⟨record, h, .inl rfl⟩
  next => exact ⟨record, h, .inl rfl⟩

/-- A delegation is registered with its recall sent, or not recalled. -/
theorem registerDelegation_cases (fh : List UInt8) (grant : DelegationGrant) (generation : Nat)
    (attributes : Option (Nat × Nat)) :
    (∃ flush, s.registerDelegation fh grant generation attributes =
      { s.put fh ⟨grant, generation, attributes, true⟩ with
        waiting := s.waiting ++ [⟨fh, grant.stateid, generation, flush⟩] }) ∨
    s.registerDelegation fh grant generation attributes =
      s.put fh ⟨grant, generation, attributes, false⟩ := by
  unfold registerDelegation
  by_cases hRecall : grant.recallFlag = true
  · rw [if_pos hRecall]
    split
    next sent hSent =>
      rw [hRecall] at hSent
      exact .inl ⟨_, trySend_eq_some hSent⟩
    next => exact .inr rfl
  · rw [if_neg hRecall, Bool.not_eq_true _ |>.mp hRecall]
    exact .inr rfl

/-- A record behind a registration is the new one or an old one. -/
theorem lookup_registerDelegation {grant : DelegationGrant} {generation : Nat}
    {attributes : Option (Nat × Nat)}
    (h : (s.registerDelegation fh grant generation attributes).delegations.lookup fh' =
      some record) :
    ∃ recalling, fh' = fh ∧ record = ⟨grant, generation, attributes, recalling⟩ ∨
      s.delegations.lookup fh' = some record := by
  obtain ⟨recalling, hPut⟩ : ∃ recalling, (s.put fh ⟨grant, generation, attributes,
      recalling⟩).delegations.lookup fh' = some record := by
    rcases s.registerDelegation_cases fh grant generation attributes with ⟨_, hEq⟩ | hEq
    · rw [hEq] at h
      exact ⟨true, h⟩
    · rw [hEq] at h
      exact ⟨false, h⟩
  rw [lookup_put] at hPut
  refine ⟨recalling, ?_⟩
  split at hPut
  next hFh =>
    cases hPut
    exact .inl ⟨hFh, rfl⟩
  next => exact .inr hPut

/-- A recall ends with the record of its delegation removed, or no longer recalled. -/
theorem finishRecall_cases (n : RecallNotification) (returned : Bool) :
    s.finishRecall n returned = s ∨
    ∃ record, s.delegations.lookup n.fh = some record ∧ record.generation = n.generation ∧
      record.grant.stateid = n.stateid ∧ s.finishRecall n returned =
        if returned then { s with delegations := s.delegations.erase n.fh }
        else s.put n.fh { record with recalling := false } := by
  cases hLookup : s.delegations.lookup n.fh with
  | none =>
    have hSame : s.finishRecall n returned = s := by simp only [finishRecall, hLookup]
    exact .inl hSame
  | some record =>
    simp only [finishRecall, hLookup]
    split
    next hSame => exact .inr ⟨record, rfl, hSame.1, hSame.2, rfl⟩
    next => exact .inl rfl

/-- CB_RECALL asks the worker for a delegation that is not recalled yet, or changes nothing. It
succeeds in the first case, and for a delegation that is recalled already. -/
theorem recall_cases (stateid : List UInt8) (truncate : Bool) (fh : List UInt8) (active : Nat) :
    (∃ record flush, s.delegations.lookup fh = some record ∧ record.grant.stateid = stateid ∧
      record.recalling = false ∧ s.recall stateid truncate fh active =
        ({ s.put fh { record with recalling := true } with
            waiting := s.waiting ++ [⟨fh, stateid, record.generation, flush⟩] }, 0,
          some ⟨fh, stateid, record.generation, flush⟩)) ∨
    ∃ status < 2 ^ 32, s.recall stateid truncate fh active = (s, status, none) := by
  unfold «recall»
  split
  next => split <;> exact .inr ⟨_, by decide, rfl⟩
  next record hLookup =>
    split
    next => exact .inr ⟨_, by decide, rfl⟩
    split
    next => exact .inr ⟨_, by decide, rfl⟩
    next hStateid =>
      have hStateid : record.grant.stateid = stateid := not_not.mp hStateid
      split
      next => exact .inr ⟨_, by decide, rfl⟩
      next hRecalling =>
        dsimp only
        split
        next sent hSent =>
          rw [trySend_eq_some hSent, notification, hStateid]
          exact .inl ⟨record, _, hLookup, hStateid, Bool.not_eq_true _ |>.mp hRecalling, rfl⟩
        next => exact .inr ⟨_, by decide, rfl⟩

/-- A record after CB_RECALL, the end of a recall or `return_all_delegations` is one from before, up
to `recalling`. -/
theorem of_recall (stateid : List UInt8) (truncate : Bool) (fh : List UInt8) (active : Nat)
    (h : (s.recall stateid truncate fh active).1.delegations.lookup fh' = some record) :
    ∃ before recalling, s.delegations.lookup fh' = some before ∧
      record = { before with recalling := recalling } := by
  rcases s.recall_cases stateid truncate fh active with
    ⟨before, flush, hLookup, -, -, hEq⟩ | ⟨status, -, hEq⟩
  · rw [hEq] at h
    have h := lookup_put.symm.trans h
    split at h
    next hFh =>
      cases h
      exact ⟨before, true, hFh ▸ hLookup, rfl⟩
    next => exact ⟨record, record.recalling, h, rfl⟩
  · rw [hEq] at h
    exact ⟨record, record.recalling, h, rfl⟩

theorem of_finishRecall (n : RecallNotification) (returned : Bool)
    (h : (s.finishRecall n returned).delegations.lookup fh = some record) :
    ∃ before recalling, s.delegations.lookup fh = some before ∧
      record = { before with recalling := recalling } := by
  rcases s.finishRecall_cases n returned with hSame | ⟨before, hLookup, -, -, hEq⟩
  · rw [hSame] at h
    exact ⟨record, record.recalling, h, rfl⟩
  · rw [hEq] at h
    split at h
    next =>
      rw [Table.lookup_erase_eq] at h
      split at h
      next => cases h
      next => exact ⟨record, record.recalling, h, rfl⟩
    next =>
      rw [lookup_put] at h
      split at h
      next hFh =>
        cases h
        exact ⟨before, false, hFh ▸ hLookup, rfl⟩
      next => exact ⟨record, record.recalling, h, rfl⟩

theorem of_returnAllDelegations
    (h : s.returnAllDelegations.1.delegations.lookup fh = some record) :
    ∃ before recalling, s.delegations.lookup fh = some before ∧
      record = { before with recalling := recalling } := by
  obtain ⟨before, hLookup, rfl⟩ := Option.map_eq_some_iff.mp (Table.lookup_mapValues.symm.trans h)
  exact ⟨before, true, hLookup, rfl⟩

end CallbackState

end NfsRs.Nfs40
