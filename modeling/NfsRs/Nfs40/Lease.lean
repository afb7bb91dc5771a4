import NfsRs.Error
import NfsRs.Lib.Tasks

/-!
# NfsRs — the lease of an NFSv4.0 mount

`LeaseState` is a handful of atomics: the lifecycle of the mount, the generation of its state,
and what the renewal reports. Nothing orders the accesses of different tasks, so every task is
followed from one access to the next: the operations with `begin_stateful` in front and
`finish_stateful` or `validate_stateful` behind their calls, the renewal task with its recovery,
`umount`, and the reconnect handler. The only lock is `publication`: LOCK and OPEN hold it shared
from their check to the end of their task, `mark_lost` holds it exclusively.

A `mark_…` function is the list of its stores, and a task that marks works such a list off.

The state also records what nobody stores: how many `mark_lost` have been completed (`losses`),
the checks that operations have passed (`passed`), the records they have published
(`published`), and how far `umount` has come (`closing`, `shut`).

## Main results

- `gateStateful_isOk` : the check passes exactly when the mount is ready.
- `leaseProgram` : any number of operations, the renewal, `umount` and the reconnect handler.
- `stateful_cases`, `renewal_cases`, `umount_cases` : what one step of each can do.
- `stateful_frame` : operations leave the lifecycle and the generation alone.
-/

namespace NfsRs.Nfs40

open Lib

/-! ## The check of the lifecycle -/

inductive MountLifecycleState where
  | ready | reconnecting | suspect | recovering | reclaiming | lostState | closing | closed
  deriving DecidableEq, Repr

def MountLifecycleState.debug : MountLifecycleState → String
  | .ready => "Ready"
  | .reconnecting => "Reconnecting"
  | .suspect => "Suspect"
  | .recovering => "Recovering"
  | .reclaiming => "Reclaiming"
  | .lostState => "LostState"
  | .closing => "Closing"
  | .closed => "Closed"

def gateStateful (operation : String) (lifecycle : MountLifecycleState) : Except NfsError Unit :=
  if lifecycle = .ready then .ok ()
  else
    let recovery : RecoveryAction :=
      if lifecycle = .lostState then .reopen else .verifyThenResume
    let ctx : RequestContext :=
      { operation := operation, protocol := .nfsV4p0, requestId := none }
    .error (.outcomeError .uncertain .replaySensitive recovery ctx
      (.rpc s!"NFSv4.0 state-dependent operation gated while mount is {lifecycle.debug}"))

theorem gateStateful_isOk {operation : String} {lifecycle : MountLifecycleState} :
    (gateStateful operation lifecycle).isOk = true ↔ lifecycle = .ready := by
  unfold gateStateful
  split
  next h => simp [h, Except.isOk, Except.toBool]
  next h => simp [h, Except.isOk, Except.toBool]

/-! ## The atomics -/

structure LeaseState where
  lifecycle : MountLifecycleState
  generation : Nat
  healthy : Bool
  leaseSeconds : Nat
  renewals : Nat
  deadline : Nat
  deriving DecidableEq, Repr

/-- One access that changes an atomic. -/
inductive LeaseStore where
  | deadline (now : Nat)
  | renewals
  | healthy (value : Bool)
  | lifecycle (value : MountLifecycleState)
  | generation
  deriving DecidableEq, Repr

namespace LeaseState

/-- `LeaseState::ready`. -/
def initial (generation leaseSeconds now : Nat) : LeaseState :=
  { lifecycle := .ready
    generation := generation
    healthy := true
    leaseSeconds := leaseSeconds
    renewals := 0
    deadline := now + leaseSeconds }

variable (l : LeaseState)

def store : LeaseStore → LeaseState
  | .deadline now => { l with deadline := now + l.leaseSeconds }
  | .renewals => { l with renewals := (l.renewals + 1) % 2 ^ 64 }
  | .healthy value => { l with healthy := value }
  | .lifecycle value => { l with lifecycle := value }
  | .generation => { l with generation := (l.generation + 1) % 2 ^ 64 }

end LeaseState

def recordActivity (now : Nat) : List LeaseStore := [.deadline now]

def markReady (now : Nat) : List LeaseStore :=
  recordActivity now ++ [.renewals, .healthy true, .lifecycle .ready]

def markSuspect : List LeaseStore := [.healthy false, .lifecycle .suspect]

def markReconnecting : List LeaseStore := [.healthy false, .lifecycle .reconnecting]

def markRecovering : List LeaseStore := [.healthy false, .lifecycle .recovering]

def markReclaiming : List LeaseStore := [.lifecycle .reclaiming]

def markClosing : List LeaseStore := [.lifecycle .closing]

def markClosed : List LeaseStore := [.healthy false, .lifecycle .closed]

/-- The stores of `mark_lost`, under the publication lock. -/
def markLost : List LeaseStore := [.healthy false, .lifecycle .lostState, .generation]

/-! ## Tasks -/

/-- What stands between `begin_stateful` and the last check. -/
inductive StatefulKind where
  /-- READ, WRITE, SETATTR, CLOSE and LOCKU end with `finish_stateful`. -/
  | plain (operation : String)
  /-- COMMIT ends with `validate_stateful`. -/
  | commit
  | lock
  /-- OPEN, with a delegation to keep or without. -/
  | openFile (delegation : Bool)
  deriving DecidableEq, Repr

namespace StatefulKind

def operation : StatefulKind → String
  | .plain operation => operation
  | .commit => "commit"
  | .lock => "lock"
  | .openFile _ => "open"

/-- The task takes the publication guard. -/
def publishes : StatefulKind → Bool
  | .lock | .openFile _ => true
  | _ => false

end StatefulKind

/-- The next access of an operation. -/
inductive StatefulPhase where
  | start
  /-- `begin_stateful`: the first load of the generation, the lifecycle, the second load. -/
  | beginLoad
  | beginGate (before : Nat)
  | beginCheck (before : Nat)
  /-- Admitted; the call is made. -/
  | calling
  /-- OPEN registers its lane, and goes on with its delegation. -/
  | openRegister
  | registered
  /-- The publication guard. -/
  | publish
  /-- `finish_stateful`: the generation and the lifecycle of `validate_stateful`, the gate in it,
  and the gate behind it. -/
  | finishGeneration
  | finishLifecycle
  | finishGate
  | finishFallback
  | activity
  /-- LOCK registers its lane, OPEN its delegation. -/
  | register
  /-- `validate_stateful`. -/
  | validGeneration
  | validLifecycle
  | validGate
  /-- What was registered is removed again. -/
  | removing (error : NfsError)
  | done (result : Except NfsError Unit)

namespace StatefulPhase

/-- The publication guard is held, by the operations that take it. -/
def guarded : StatefulPhase → Bool
  | .finishGeneration | .finishLifecycle | .finishGate | .finishFallback | .activity | .register
  | .validGeneration | .validLifecycle | .validGate | .removing _ => true
  | _ => false

/-- `finish_stateful` has passed. -/
def finished : StatefulPhase → Bool
  | .activity | .register => true
  | _ => false

def isDone : StatefulPhase → Bool
  | .done _ => true
  | _ => false

/-- Inside `begin_stateful`. -/
def begins : StatefulPhase → Bool
  | .beginLoad | .beginGate _ | .beginCheck _ => true
  | _ => false

/-- Between the admission and the end. -/
def underway : StatefulPhase → Bool
  | .start | .done _ => false
  | phase => !phase.begins

end StatefulPhase

structure Stateful where
  kind : StatefulKind
  phase : StatefulPhase
  /-- The generation that `begin_stateful` has returned. -/
  expected : Nat
  /-- The losses before its admission. -/
  admitted : Option Nat
  /-- `begin_stateful` was called behind `mark_closing`, and behind the end of `umount`. -/
  afterClosing : Bool
  afterShut : Bool

inductive RenewalNext where
  | loop | recover | settle | stop
  deriving DecidableEq, Repr

inductive RenewalPhase where
  | sleeping
  | calling
  /-- A `mark_…` function, and what follows it; `lost` says that it is `mark_lost`. -/
  | marking (stores : List LeaseStore) (lost : Bool) (next : RenewalNext)
  /-- `mark_lost` waits for the publication lock. -/
  | lostWait (next : RenewalNext)
  /-- Behind the deadline; the RENEW that was sent is awaited. -/
  | settling
  | recovering
  | ended
  deriving DecidableEq, Repr

/-- The renewal is between two awaits otherwise. -/
def RenewalPhase.awaits : RenewalPhase → Bool
  | .sleeping | .calling | .lostWait _ | .settling | .recovering => true
  | _ => false

inductive UmountPhase where
  | closing
  | stop
  | take
  | wait
  | teardown
  | marking (stores : List LeaseStore)
  | done
  deriving DecidableEq, Repr

def UmountPhase.stores : UmountPhase → List LeaseStore
  | .marking stores => stores
  | _ => []

inductive LeaseTask where
  | operation (op : Stateful)
  /-- `recovery` says whether there is a recovery handler. -/
  | renewal (phase : RenewalPhase) (recovery : Bool)
  | umount (phase : UmountPhase)
  | reconnect (stores : List LeaseStore)

/-- A check or a publication: the losses before the admission, and by now. -/
structure Fenced where
  kind : StatefulKind
  admitted : Option Nat
  losses : Nat
  deriving DecidableEq, Repr

structure LeaseShared where
  lease : LeaseState
  publication : RwLock
  stopping : Bool
  /-- The join handle of the renewal has not been taken. -/
  handle : Bool
  aborted : Bool
  renewalEnded : Bool
  losses : Nat
  passed : List Fenced
  published : List Fenced
  /-- `mark_closing` has been called. -/
  closing : Bool
  /-- `mark_closed` has been called behind the end of the renewal. -/
  shut : Bool

inductive RenewReply where
  | ok
  /-- NFS4ERR_EXPIRED or NFS4ERR_STALE_CLIENTID. -/
  | expired
  | failed
  deriving DecidableEq, Repr

inductive LeaseEvent where
  | go (now : Nat)
  /-- The call of an operation fails, or its future is dropped. -/
  | fail (error : NfsError)
  | renewed (reply : RenewReply) (now : Nat)
  /-- The deadline passes while RENEW is out. -/
  | expire (now : Nat)
  /-- Recovery has its client id. -/
  | identity
  | recovered (now : Nat)
  | recoveryFailed
  | stopSeen
  /-- `umount` aborts the renewal; the renewal is cancelled where it awaits. -/
  | abort
  | cancelled

namespace LeaseShared

variable (s : LeaseShared)

def effect (x : LeaseStore) : LeaseShared :=
  { s with
    lease := s.lease.store x
    losses := if x = .generation then s.losses + 1 else s.losses }

def pass (op : Stateful) : LeaseShared :=
  { s with passed := ⟨op.kind, op.admitted, s.losses⟩ :: s.passed }

def publish (op : Stateful) : LeaseShared :=
  { s with published := ⟨op.kind, op.admitted, s.losses⟩ :: s.published }

def release (i : Nat) : LeaseShared := { s with publication := s.publication.release i }

def endRenewal : LeaseShared := { s with renewalEnded := true }

end LeaseShared

namespace Stateful

variable (i : Nat) (s : LeaseShared) (op : Stateful)

def goto (phase : StatefulPhase) : Stateful := { op with phase := phase }

/-- OPEN is admitted and has not registered its lane. -/
def opening : Bool :=
  match op.phase with
  | .calling => match op.kind with
    | .openFile _ => true
    | _ => false
  | .openRegister => true
  | _ => false

/-- The check in `finish_stateful` has passed; it is the last one of an operation that publishes
nothing. -/
def checked : LeaseShared := if op.kind.publishes then s else s.pass op

/-- Behind `finish_stateful`. -/
def afterFinish : StatefulPhase := if op.kind.publishes then .register else .done (.ok ())

/-- `validate_stateful` has returned `Ok`. -/
def validPassed : LeaseShared × Stateful :=
  ((s.pass op).release i, op.goto (.done (.ok ())))

def step : LeaseEvent → Option (LeaseShared × Stateful)
  | .go now =>
    match op.phase with
    | .start =>
      some (s, { op with
        phase := .beginLoad, afterClosing := s.closing, afterShut := s.shut })
    | .beginLoad => some (s, op.goto (.beginGate s.lease.generation))
    | .beginGate before =>
      match gateStateful op.kind.operation s.lease.lifecycle with
      | .ok () => some (s, op.goto (.beginCheck before))
      | .error error => some (s, op.goto (.done (.error error)))
    | .beginCheck before =>
      if before = s.lease.generation then
        some (s, { op with
          phase := .calling, expected := s.lease.generation, admitted := some s.losses })
      else some (s, op.goto .beginLoad)
    | .calling =>
      match op.kind with
      | .plain _ => some (s, op.goto .finishGeneration)
      | .commit => some (s, op.goto .validGeneration)
      | .lock => some (s, op.goto .publish)
      | .openFile _ => some (s, op.goto .openRegister)
    -- the lane is registered without a check, so that a failed DELEGRETURN leaves it closeable
    | .openRegister => some (s.publish op, op.goto .registered)
    | .registered => some (s, op.goto .publish)
    | .publish =>
      (s.publication.read i).map fun lock =>
        ({ s with publication := lock }, op.goto .finishGeneration)
    | .finishGeneration =>
      some (s, op.goto
        (if s.lease.generation = op.expected then .finishLifecycle else .finishGate))
    | .finishLifecycle =>
      if s.lease.lifecycle = .ready then some (op.checked s, op.goto .activity)
      else some (s, op.goto .finishGate)
    | .finishGate =>
      match gateStateful op.kind.operation s.lease.lifecycle with
      | .ok () => some (op.checked s, op.goto .activity)
      | .error _ => some (s, op.goto .finishFallback)
    | .finishFallback =>
      match gateStateful op.kind.operation s.lease.lifecycle with
      | .ok () => some (op.checked s, op.goto op.afterFinish)
      | .error error => some (s.release i, op.goto (.done (.error error)))
    | .activity => some (s.effect (.deadline now), op.goto op.afterFinish)
    | .register =>
      match op.kind with
      | .openFile false => some (s, op.goto .validGeneration)
      | _ => some (s.publish op, op.goto .validGeneration)
    | .validGeneration =>
      some (s, op.goto
        (if s.lease.generation = op.expected then .validLifecycle else .validGate))
    | .validLifecycle =>
      if s.lease.lifecycle = .ready then some (op.validPassed i s)
      else some (s, op.goto .validGate)
    | .validGate =>
      match gateStateful op.kind.operation s.lease.lifecycle with
      | .ok () => some (op.validPassed i s)
      | .error error => some (s, op.goto (.removing error))
    | .removing error => some (s.release i, op.goto (.done (.error error)))
    | .done _ => none
  | .fail error =>
    match op.phase with
    | .calling | .registered => some (s, op.goto (.done (.error error)))
    | _ => none
  | _ => none

end Stateful

namespace RenewalPhase

variable (i : Nat) (s : LeaseShared)

/-- Behind a `mark_…` function. -/
def behind : RenewalNext → RenewalPhase
  | .loop => if s.stopping then .ended else .sleeping
  | .recover => .recovering
  | .settle => .settling
  | .stop => .ended

def step (recovery : Bool) (phase : RenewalPhase) :
    LeaseEvent → Option (LeaseShared × RenewalPhase)
  | .go _ =>
    match phase with
    | .sleeping => some (s, .calling)
    | .marking (x :: rest) lost next => some (s.effect x, .marking rest lost next)
    | .marking [] lost next => some (if lost then s.release i else s, behind s next)
    | .lostWait next =>
      (s.publication.write i).map fun lock =>
        ({ s with publication := lock }, .marking markLost true next)
    | .settling => some (s, .ended)
    | _ => none
  | .stopSeen => if phase = .sleeping ∧ s.stopping then some (s, .ended) else none
  | .renewed reply now =>
    if phase = .calling then
      match reply with
      | .ok => some (s, .marking (markReady now) false .loop)
      | .expired =>
        if recovery then some (s, .marking markRecovering false .recover)
        else some (s, .lostWait .loop)
      | .failed =>
        if s.lease.deadline ≤ now then some (s, .lostWait .stop)
        else some (s, .marking markSuspect false .loop)
    else none
  | .expire now =>
    if phase = .calling ∧ s.lease.deadline ≤ now then some (s, .lostWait .settle) else none
  | .identity =>
    if phase = .recovering then some (s, .marking markReclaiming false .recover) else none
  | .recovered now =>
    if phase = .recovering then some (s, .marking (markReady now) false .loop) else none
  -- `recover_or_lose`; the tables are emptied behind `mark_lost`
  | .recoveryFailed => if phase = .recovering then some (s, .lostWait .loop) else none
  | .cancelled => if s.aborted ∧ phase.awaits then some (s, .ended) else none
  | _ => none

/-- The end of the task is noted. -/
def note (next : LeaseShared × RenewalPhase) : LeaseShared × RenewalPhase :=
  (if next.2 = .ended then next.1.endRenewal else next.1, next.2)

end RenewalPhase

def UmountPhase.step (s : LeaseShared) (phase : UmountPhase) :
    LeaseEvent → Option (LeaseShared × UmountPhase)
  | .go _ =>
    match phase with
    | .closing => some ({ markClosing.foldl .effect s with closing := true }, .stop)
    | .stop => some ({ s with stopping := true }, .take)
    -- a second `umount` does not wait for the renewal
    | .take => some (if s.handle then ({ s with handle := false }, .wait) else (s, .teardown))
    | .wait => if s.renewalEnded then some (s, .teardown) else none
    | .teardown => some (s, .marking markClosed)
    | .marking (x :: rest) =>
      some ({ s.effect x with
        shut := s.shut || (x == .lifecycle .closed && s.renewalEnded) }, .marking rest)
    | .marking [] => some (s, .done)
    | .done => none
  | .abort => if phase = .wait then some ({ s with aborted := true }, .wait) else none
  | .fail _ => if phase = .wait ∨ phase = .teardown then some (s, .done) else none
  | _ => none

namespace LeaseTask

def step (i : Nat) (s : LeaseShared) : LeaseTask → LeaseEvent → Option (LeaseShared × LeaseTask)
  | .operation op, e => (op.step i s e).map fun next => (next.1, .operation next.2)
  | .renewal phase recovery, e =>
    (phase.step i s recovery e).map fun next =>
      ((RenewalPhase.note next).1, .renewal next.2 recovery)
  | .umount phase, e => (phase.step s e).map fun next => (next.1, .umount next.2)
  | .reconnect (x :: rest), .go _ => some (s.effect x, .reconnect rest)
  | .reconnect _, _ => none

/-- Operations, `umount` and the reconnect handler come at any time. -/
def entry : LeaseTask → Bool
  | .operation ⟨_, .start, _, none, _, _⟩ => true
  | .umount .closing => true
  | .reconnect stores => stores == markReconnecting
  | _ => false

/-- An OPEN between its admission and its registration. -/
def opening : LeaseTask → Bool
  | .operation op => op.opening
  | _ => false

/-- An operation underway that was admitted before the last loss. -/
def outdated (losses : Nat) : LeaseTask → Bool
  | .operation op => op.admitted.any (· ≠ losses) && !op.phase.isDone
  | _ => false

end LeaseTask

/-- A mount of generation 1 with its renewal task. -/
def leaseProgram (leaseSeconds now : Nat) (recovery : Bool) :
    Program LeaseShared LeaseTask LeaseEvent where
  init :=
    { shared :=
        { lease := .initial 1 leaseSeconds now
          publication := .free
          stopping := false, handle := true, aborted := false, renewalEnded := false
          losses := 0, passed := [], published := [], closing := false, shut := false }
      tasks := [.renewal .sleeping recovery] }
  entry := LeaseTask.entry
  step := LeaseTask.step

/-! ## What a step leaves alone -/

section frames

variable {i : Nat} {s s' : LeaseShared} {op op' : Stateful} {e : LeaseEvent}

theorem gateStateful_ok {lifecycle : MountLifecycleState} {operation : String}
    (h : gateStateful operation lifecycle = .ok ()) : lifecycle = .ready :=
  gateStateful_isOk.mp (by rw [h]; rfl)

/-- What a step of an operation does. -/
inductive StatefulStep (i : Nat) (s : LeaseShared) (op : Stateful) :
    LeaseShared → Stateful → Prop
  | start : op.phase = .start → StatefulStep i s op s
      { op with phase := .beginLoad, afterClosing := s.closing, afterShut := s.shut }
  /-- Inside `begin_stateful`; the last load follows a lifecycle that was ready. -/
  | begin (phase : StatefulPhase) : op.phase.begins = true →
      phase.begins = true ∨ phase.isDone = true →
      (∀ before, phase = .beginCheck before → s.lease.lifecycle = .ready) →
        StatefulStep i s op s (op.goto phase)
  | admitted (before : Nat) : op.phase = .beginCheck before → StatefulStep i s op s
      { op with phase := .calling, expected := s.lease.generation, admitted := some s.losses }
  /-- On to the next access. -/
  | move (phase : StatefulPhase) : op.phase.underway = true →
      phase.underway = true ∨ phase.isDone = true →
      (op.kind.publishes = true → phase.guarded = true → op.phase.guarded = true) →
      ((op.goto phase).opening = true → op.opening = true) →
      phase.finished = false → StatefulStep i s op s (op.goto phase)
  | openRegister : op.phase = .openRegister → StatefulStep i s op (s.publish op)
      (op.goto .registered)
  | guard (lock : RwLock) : op.phase = .publish → s.publication.read i = some lock →
      StatefulStep i s op { s with publication := lock } (op.goto .finishGeneration)
  /-- A check in `finish_stateful` passes. -/
  | check (phase : StatefulPhase) : op.phase.underway = true → op.phase.guarded = true →
      s.lease.lifecycle = .ready → phase = .activity ∨ phase = op.afterFinish →
        StatefulStep i s op (op.checked s) (op.goto phase)
  | activity (now : Nat) : op.phase = .activity →
      StatefulStep i s op (s.effect (.deadline now)) (op.goto op.afterFinish)
  | register : op.phase = .register → StatefulStep i s op (s.publish op)
      (op.goto .validGeneration)
  /-- The last check of COMMIT, LOCK and OPEN passes. -/
  | pass : op.phase.underway = true → s.lease.lifecycle = .ready →
      StatefulStep i s op ((s.pass op).release i) (op.goto (.done (.ok ())))
  /-- The operation ends with an error. -/
  | giveUp (error : NfsError) : op.phase.underway = true →
      StatefulStep i s op (s.release i) (op.goto (.done (.error error)))

/-- **The operations, step by step.** -/
theorem stateful_cases (h : op.step i s e = some (s', op')) : StatefulStep i s op s' op' := by
  obtain ⟨kind, phase, expected, admitted, afterClosing, afterShut⟩ := op
  cases e with
  | go now =>
    cases phase with
    | start => cases h; exact .start rfl
    | beginLoad => cases h; exact .begin _ rfl (.inl rfl) nofun
    | beginGate before =>
      simp only [Stateful.step] at h
      split at h
      next hGate => cases h; exact .begin _ rfl (.inl rfl) fun _ _ => gateStateful_ok hGate
      next => cases h; exact .begin _ rfl (.inr rfl) nofun
    -- admitted only when the generation read before the gate is still the generation behind it
    | beginCheck before =>
      simp only [Stateful.step] at h
      split at h
      next => cases h; exact .admitted before rfl
      next => cases h; exact .begin _ rfl (.inl rfl) nofun
    | calling =>
      cases kind with
      | openFile _ => cases h; exact .move _ rfl (.inl rfl) nofun (fun _ => rfl) rfl
      | plain _ | commit | lock => cases h; exact .move _ rfl (.inl rfl) nofun nofun rfl
    | openRegister => cases h; exact .openRegister rfl
    | registered => cases h; exact .move _ rfl (.inl rfl) nofun nofun rfl
    | publish =>
      obtain ⟨lock, hRead, hEq⟩ := Option.map_eq_some_iff.mp h
      cases hEq
      exact .guard lock rfl hRead
    -- each atomic is a load of its own: a change in between is seen by the gate or not at all
    | finishGeneration =>
      simp only [Stateful.step, Option.some.injEq, Prod.mk.injEq] at h
      obtain ⟨rfl, rfl⟩ := h
      split <;> exact .move _ rfl (.inl rfl) (fun _ _ => rfl) nofun rfl
    | finishLifecycle =>
      simp only [Stateful.step] at h
      split at h
      next hReady => cases h; exact .check _ rfl rfl hReady (.inl rfl)
      next => cases h; exact .move _ rfl (.inl rfl) (fun _ _ => rfl) nofun rfl
    | finishGate =>
      simp only [Stateful.step] at h
      split at h
      next hGate => cases h; exact .check _ rfl rfl (gateStateful_ok hGate) (.inl rfl)
      next => cases h; exact .move _ rfl (.inl rfl) (fun _ _ => rfl) nofun rfl
    | finishFallback =>
      simp only [Stateful.step] at h
      split at h
      next hGate => cases h; exact .check _ rfl rfl (gateStateful_ok hGate) (.inr rfl)
      next error _ => cases h; exact .giveUp error rfl
    | activity => cases h; exact .activity now rfl
    | register =>
      simp only [Stateful.step] at h
      split at h
      next => cases h; exact .move _ rfl (.inl rfl) (fun _ _ => rfl) nofun rfl
      next => cases h; exact .register rfl
    | validGeneration =>
      simp only [Stateful.step, Option.some.injEq, Prod.mk.injEq] at h
      obtain ⟨rfl, rfl⟩ := h
      split <;> exact .move _ rfl (.inl rfl) (fun _ _ => rfl) nofun rfl
    | validLifecycle =>
      simp only [Stateful.step] at h
      split at h
      next hReady => cases h; exact .pass rfl hReady
      next => cases h; exact .move _ rfl (.inl rfl) (fun _ _ => rfl) nofun rfl
    | validGate =>
      simp only [Stateful.step] at h
      split at h
      next hGate => cases h; exact .pass rfl (gateStateful_ok hGate)
      next => cases h; exact .move _ rfl (.inl rfl) (fun _ _ => rfl) nofun rfl
    | removing error => cases h; exact .giveUp error rfl
    | done result => cases h
  | fail error =>
    cases phase with
    | calling | registered => cases h; exact .move _ rfl (.inr rfl) nofun nofun rfl
    | _ => cases h
  | _ => cases h

/-- Operations change no atomic but the deadline. -/
structure StatefulFrame (i : Nat) (s s' : LeaseShared) : Prop where
  lifecycle : s'.lease.lifecycle = s.lease.lifecycle
  generation : s'.lease.generation = s.lease.generation
  losses : s'.losses = s.losses
  closing : s'.closing = s.closing
  shut : s'.shut = s.shut
  renewalEnded : s'.renewalEnded = s.renewalEnded
  locks : RwLock.Kept i s.publication s'.publication

theorem StatefulFrame.refl : StatefulFrame i s s :=
  ⟨rfl, rfl, rfl, rfl, rfl, rfl, .refl⟩

theorem StatefulFrame.checked : StatefulFrame i s (op.checked s) := by
  unfold Stateful.checked
  split
  · exact .refl
  · exact ⟨rfl, rfl, rfl, rfl, rfl, rfl, .refl⟩

theorem stateful_frame (h : op.step i s e = some (s', op')) : StatefulFrame i s s' := by
  cases stateful_cases h with
  | start _ | begin _ _ _ _ | admitted _ _ | move _ _ _ _ _ _ => exact .refl
  | openRegister _ | register _ => exact ⟨rfl, rfl, rfl, rfl, rfl, rfl, .refl⟩
  | guard lock _ hRead => exact ⟨rfl, rfl, rfl, rfl, rfl, rfl, .read hRead⟩
  | check _ _ _ _ => exact .checked
  | activity now _ => exact ⟨rfl, rfl, rfl, rfl, rfl, rfl, .refl⟩
  | pass _ _ | giveUp _ _ => exact ⟨rfl, rfl, rfl, rfl, rfl, rfl, .release⟩

/-- What a step of the renewal does. -/
inductive RenewalStep (i : Nat) (s : LeaseShared) (e : LeaseEvent) :
    RenewalPhase → LeaseShared → RenewalPhase → Prop
  | store (x : LeaseStore) (rest : List LeaseStore) (lost : Bool) (next : RenewalNext) :
      RenewalStep i s e (.marking (x :: rest) lost next) (s.effect x) (.marking rest lost next)
  | behind (lost : Bool) (next : RenewalNext) :
      RenewalStep i s e (.marking [] lost next) (if lost then s.release i else s)
        (RenewalPhase.behind s next)
  | lock (lock : RwLock) (next : RenewalNext) : s.publication.write i = some lock →
      RenewalStep i s e (.lostWait next) { s with publication := lock }
        (.marking markLost true next)
  /-- A function other than `mark_lost`; `mark_ready` follows a success. -/
  | mark (phase : RenewalPhase) (stores : List LeaseStore) (next : RenewalNext) :
      phase.awaits = true → .generation ∉ stores →
      (.lifecycle .ready ∈ stores → ∃ now, e = .renewed .ok now ∨ e = .recovered now) →
        RenewalStep i s e phase s (.marking stores false next)
  | goto (phase phase' : RenewalPhase) : phase.awaits = true →
      phase'.awaits = true ∨ phase' = .ended → RenewalStep i s e phase s phase'

/-- Behind a `mark_…` function the renewal awaits something, or is over. -/
theorem RenewalPhase.behind_awaits (s : LeaseShared) (next : RenewalNext) :
    (behind s next).awaits = true ∨ behind s next = .ended := by
  cases next with
  | loop =>
    rw [behind]
    split
    · exact .inr rfl
    · exact .inl rfl
  | recover | settle => exact .inl rfl
  | stop => exact .inr rfl

theorem generation_notMem_markReady {now : Nat} : LeaseStore.generation ∉ markReady now := by
  simp [markReady, recordActivity]

/-- **The renewal, step by step.** -/
theorem renewal_cases {recovery : Bool} {phase phase' : RenewalPhase}
    (h : phase.step i s recovery e = some (s', phase')) : RenewalStep i s e phase s' phase' := by
  cases e with
  | go now =>
    cases phase with
    | sleeping | settling => cases h; exact .goto _ _ rfl (by decide)
    | marking stores lost next =>
      cases stores with
      | nil => cases h; exact .behind lost next
      | cons x rest => cases h; exact .store x rest lost next
    | lostWait next =>
      obtain ⟨lock, hWrite, hEq⟩ := Option.map_eq_some_iff.mp h
      cases hEq
      exact .lock lock next hWrite
    | calling | recovering | ended => cases h
  | renewed reply now =>
    simp only [RenewalPhase.step] at h
    split at h
    next hPhase =>
      subst hPhase
      cases reply with
      | ok => cases h; exact .mark _ _ _ rfl generation_notMem_markReady fun _ => ⟨now, .inl rfl⟩
      -- without a recovery the lease is lost, and the loop renews on
      | expired =>
        simp only at h
        split at h
        next => cases h; exact .mark _ _ _ rfl (by decide) fun h => absurd h (by decide)
        next => cases h; exact .goto _ _ rfl (.inl rfl)
      | failed =>
        simp only at h
        split at h
        next => cases h; exact .goto _ _ rfl (.inl rfl)
        next => cases h; exact .mark _ _ _ rfl (by decide) fun h => absurd h (by decide)
    next => cases h
  | expire now =>
    obtain ⟨⟨rfl, -⟩, hEq⟩ := Option.ite_none_right_eq_some.mp h
    cases hEq
    exact .goto _ _ rfl (.inl rfl)
  | identity =>
    obtain ⟨rfl, hEq⟩ := Option.ite_none_right_eq_some.mp h
    cases hEq
    exact .mark _ _ _ rfl (by decide) fun h => absurd h (by decide)
  | recovered now =>
    obtain ⟨rfl, hEq⟩ := Option.ite_none_right_eq_some.mp h
    cases hEq
    exact .mark _ _ _ rfl generation_notMem_markReady fun _ => ⟨now, .inr rfl⟩
  | recoveryFailed =>
    obtain ⟨rfl, hEq⟩ := Option.ite_none_right_eq_some.mp h
    cases hEq
    exact .goto _ _ rfl (.inl rfl)
  | stopSeen =>
    obtain ⟨⟨rfl, -⟩, hEq⟩ := Option.ite_none_right_eq_some.mp h
    cases hEq
    exact .goto _ _ rfl (.inr rfl)
  | cancelled =>
    obtain ⟨⟨-, hAwaits⟩, hEq⟩ := Option.ite_none_right_eq_some.mp h
    cases hEq
    exact .goto _ _ hAwaits (.inr rfl)
  | fail _ | abort => cases h

/-- What a step of `umount` does. -/
inductive UmountStep (s : LeaseShared) : UmountPhase → LeaseShared → UmountPhase → Prop
  | close : UmountStep s .closing { s.effect (.lifecycle .closing) with closing := true } .stop
  | flag (stopping handle aborted : Bool) (phase phase' : UmountPhase) : phase'.stores = [] →
      UmountStep s phase
        { s with stopping := stopping, handle := handle, aborted := aborted } phase'
  | mark : UmountStep s .teardown s (.marking markClosed)
  | store (x : LeaseStore) (rest : List LeaseStore) : UmountStep s (.marking (x :: rest))
      { s.effect x with shut := s.shut || (x == .lifecycle .closed && s.renewalEnded) }
      (.marking rest)

/-- **`umount`, step by step.** -/
theorem umount_cases {phase phase' : UmountPhase} (h : phase.step s e = some (s', phase')) :
    UmountStep s phase s' phase' := by
  cases e with
  | go now =>
    cases phase with
    | closing => cases h; exact .close
    | stop => cases h; exact .flag true s.handle s.aborted _ _ rfl
    | take =>
      simp only [UmountPhase.step, Option.some.injEq] at h
      split at h
      next => cases h; exact .flag s.stopping false s.aborted _ _ rfl
      next => cases h; exact .flag s.stopping s.handle s.aborted _ _ rfl
    | wait =>
      obtain ⟨-, hEq⟩ := Option.ite_none_right_eq_some.mp h
      cases hEq
      exact .flag s.stopping s.handle s.aborted _ _ rfl
    | teardown => cases h; exact .mark
    | marking stores =>
      cases stores with
      | nil => cases h; exact .flag s.stopping s.handle s.aborted _ _ rfl
      | cons x rest => cases h; exact .store x rest
    | done => cases h
  | abort =>
    obtain ⟨-, hEq⟩ := Option.ite_none_right_eq_some.mp h
    cases hEq
    exact .flag s.stopping s.handle true _ _ rfl
  | fail error =>
    obtain ⟨-, hEq⟩ := Option.ite_none_right_eq_some.mp h
    cases hEq
    exact .flag s.stopping s.handle s.aborted _ _ rfl
  | _ => cases h

/-- What a step of a task does. -/
inductive LeaseStep (i : Nat) (s : LeaseShared) (e : LeaseEvent) :
    LeaseTask → LeaseShared → LeaseTask → Prop
  | operation {op op' : Stateful} {s' : LeaseShared} (h : op.step i s e = some (s', op')) :
      LeaseStep i s e (.operation op) s' (.operation op')
  | renewal {phase phase' : RenewalPhase} {recovery : Bool} {s' : LeaseShared}
      (h : phase.step i s recovery e = some (s', phase')) :
      LeaseStep i s e (.renewal phase recovery) (RenewalPhase.note (s', phase')).1
        (.renewal phase' recovery)
  | umount {phase phase' : UmountPhase} {s' : LeaseShared}
      (h : phase.step s e = some (s', phase')) :
      LeaseStep i s e (.umount phase) s' (.umount phase')
  | reconnect (x : LeaseStore) (rest : List LeaseStore) :
      LeaseStep i s e (.reconnect (x :: rest)) (s.effect x) (.reconnect rest)

/-- **Any task, step by step.** -/
theorem lease_cases {t t' : LeaseTask} (h : t.step i s e = some (s', t')) :
    LeaseStep i s e t s' t' := by
  cases t with
  | operation op =>
    obtain ⟨next, hNext, hEq⟩ := Option.map_eq_some_iff.mp h
    cases hEq
    exact .operation hNext
  | renewal phase recovery =>
    obtain ⟨next, hNext, hEq⟩ := Option.map_eq_some_iff.mp h
    cases hEq
    exact .renewal hNext
  | umount phase =>
    obtain ⟨next, hNext, hEq⟩ := Option.map_eq_some_iff.mp h
    cases hEq
    exact .umount hNext
  | reconnect stores =>
    cases stores with
    | nil => cases e <;> cases h
    | cons x rest =>
      cases e with
      | go now =>
        cases h
        exact .reconnect x rest
      | _ => cases h

end frames

end NfsRs.Nfs40
