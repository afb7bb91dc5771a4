import Mathlib.Logic.Function.Basic
import NfsRs.Error
import NfsRs.Lib.Machine

/-!
# NfsRs — the client core

`ClientCore` admits the operations of a mounted client, owns the tasks they spawn and the
resources they publish, and runs the terminal cleanup. Admission is a check, an increment of
a drain counter and a second check; the closer stores the closing lifecycle, waits for both
counters to read zero, takes the resource registry, closes what is in it and unmounts.

The model interleaves these as atomic steps: every access to the lifecycle, to a counter or
to `close_state` is a step of its own, and so is every part of a critical section of the
registry lock between which another task can run. A caller of `begin_operation` or
`spawn_owned` is an *entry*; both go through the same steps over a counter of their own.

The poison flags of the two locks are left out: no critical section of theirs can panic.
-/

namespace NfsRs.Client

inductive Lifecycle where
  | ready | closing | closed
  deriving DecidableEq, Repr

abbrev ResourceKey := Nat

structure ClientCloseReport where
  errors : List NfsError

/-- The two drain counters. -/
inductive Counter where
  /-- Operations, counted by `begin_operation`. -/
  | inFlight
  /-- Tasks, counted by `spawn_owned`. -/
  | ownedTasks
  deriving DecidableEq, Repr

/-- Where a call of `begin_operation` or `spawn_owned` stands. -/
inductive EntryPhase where
  /-- The first `ensure_ready` has passed. -/
  | checked
  /-- The counter is incremented. -/
  | counted
  /-- The second `ensure_ready` has passed: the guard is held, the task runs. -/
  | admitted
  /-- The second `ensure_ready` has failed. -/
  | refused
  /-- The counter is decremented. -/
  | ended
  deriving DecidableEq, Repr

/-- The phases in which an entry is part of its counter. -/
def EntryPhase.holds : EntryPhase → Bool
  | .counted | .admitted | .refused => true
  | .checked | .ended => false

structure Entry where
  counter : Counter
  phase : EntryPhase
  deriving DecidableEq, Repr

def Entry.holds (k : Counter) (e : Entry) : Bool := decide (e.counter = k) && e.phase.holds

def Entry.admitted (k : Counter) (e : Entry) : Bool :=
  decide (e.counter = k) && decide (e.phase = .admitted)

/-- A `publish_resource` inside the registry lock. -/
structure Publisher where
  key : ResourceKey
  /-- `ensure_ready` has passed. -/
  passed : Bool
  deriving DecidableEq, Repr

/-- Where a call of `close` stands. -/
inductive CloserPhase where
  /-- It has set `started`. -/
  | starting
  /-- It has stored the closing lifecycle. -/
  | stored
  | waiting
  | received (report : ClientCloseReport)

/-- The closer that has set `started` and not yet spawned the cleanup. -/
def CloserPhase.starts : CloserPhase → Bool
  | .starting | .stored => true
  | .waiting | .received _ => false

/-- Where `run_close` stands; `errors` is what it has collected. -/
inductive Cleanup where
  | idle
  | waitOperations
  | waitOwned
  | takeResources
  | closing (keys : List ResourceKey) (errors : List NfsError)
  | umounted (errors : List NfsError)
  | closed (errors : List NfsError)
  | done

/-- The order of the phases of `run_close`. -/
def Cleanup.stage : Cleanup → Nat
  | .idle => 0
  | .waitOperations => 1
  | .waitOwned => 2
  | .takeResources => 3
  | .closing _ _ => 4
  | .umounted _ => 5
  | .closed _ => 6
  | .done => 7

/-- The resources that `run_close` has taken and not yet closed. -/
def Cleanup.taken : Cleanup → List ResourceKey
  | .closing keys _ => keys
  | _ => []

/-- What has been let in. -/
inductive Admission where
  | entry (counter : Counter)
  | resource (key : ResourceKey)
  deriving DecidableEq, Repr

/-- A `ClientCore` with the calls on it. The last five fields are records of the run:
admissions, publications, successful `unregister_resource` calls, calls of the driver's
`close_resource` and of its `umount`. -/
structure ClientCore where
  lifecycle : Lifecycle
  nextResourceKey : Nat
  counts : Counter → Nat
  resources : List ResourceKey
  /-- The `publish_resource` that holds the registry lock. -/
  publisher : Option Publisher
  started : Bool
  report : Option ClientCloseReport
  entries : List Entry
  closers : List CloserPhase
  cleanup : Cleanup
  admissions : List Admission
  published : List ResourceKey
  unregistered : List ResourceKey
  closedResources : List ResourceKey
  umounts : Nat

namespace ClientCore

/-- `ClientCore::new`. -/
def new : ClientCore where
  lifecycle := .ready
  nextResourceKey := 1
  counts := fun _ => 0
  resources := []
  publisher := none
  started := false
  report := none
  entries := []
  closers := []
  cleanup := .idle
  admissions := []
  published := []
  unregistered := []
  closedResources := []
  umounts := 0

def ensureReady (s : ClientCore) : Bool := decide (s.lifecycle = .ready)

def setEntry (s : ClientCore) (i : Nat) (k : Counter) (phase : EntryPhase) : ClientCore :=
  { s with entries := s.entries.set i { counter := k, phase := phase } }

/-- `DrainCounter::increment`. -/
def increment (s : ClientCore) (k : Counter) : ClientCore :=
  { s with counts := Function.update s.counts k (s.counts k + 1) }

/-- `DrainCounter::decrement`. -/
def decrement (s : ClientCore) (k : Counter) : ClientCore :=
  { s with counts := Function.update s.counts k (s.counts k - 1) }

/-- `unregister_resource`, inside the lock: the first entry of the key is removed. -/
def unregisterResource (s : ClientCore) (key : ResourceKey) : ClientCore :=
  if key ∈ s.resources then
    { s with resources := s.resources.erase key, unregistered := s.unregistered ++ [key] }
  else s

/-- The entry of `close`. -/
def close (s : ClientCore) : ClientCore :=
  if s.started then { s with closers := s.closers ++ [.waiting] }
  else { s with started := true, closers := s.closers ++ [.starting] }

def setCloser (s : ClientCore) (i : Nat) (phase : CloserPhase) : ClientCore :=
  { s with closers := s.closers.set i phase }

end ClientCore

/-- An error is collected and the cleanup goes on. -/
def collect (errors : List NfsError) : Except NfsError Unit → List NfsError
  | .ok () => errors
  | .error e => errors ++ [e]

inductive CoreEvent where
  /-- `begin_operation` or `spawn_owned`: the first `ensure_ready`. -/
  | enter (counter : Counter)
  | increment (i : Nat)
  /-- The second `ensure_ready`. -/
  | recheck (i : Nat)
  /-- `finish_operation` or `finish_owned_task` behind a failed second check. -/
  | giveBack (i : Nat)
  /-- The guard of an operation or of a task is dropped. -/
  | finish (i : Nat)
  | allocateResourceKey
  /-- `publish_resource` obtains the registry lock. -/
  | lockPublish (key : ResourceKey)
  /-- `ensure_ready` under the registry lock. -/
  | publishCheck
  /-- The key is pushed and the lock released. -/
  | publishPush
  | unregisterResource (key : ResourceKey)
  /-- A caller of `close` reads and sets `started`. -/
  | close
  | storeClosing (i : Nat)
  | spawnCleanup (i : Nat)
  | receiveReport (i : Nat)
  /-- `in_flight` reads zero. -/
  | operationsDrained
  /-- `owned_tasks` reads zero. -/
  | tasksDrained
  | takeResources
  | closeResource (result : Except NfsError Unit)
  | umount (result : Except NfsError Unit)
  | storeClosed
  | publishReport

namespace ClientCore

/-- A step of an entry past its first check. -/
def entryStep (s : ClientCore) : CoreEvent → Option ClientCore
  | .increment i =>
    match s.entries[i]? with
    | some ⟨k, .checked⟩ => some ((s.increment k).setEntry i k .counted)
    | _ => none
  | .recheck i =>
    match s.entries[i]? with
    | some ⟨k, .counted⟩ =>
      if s.ensureReady then
        some { s.setEntry i k .admitted with admissions := s.admissions ++ [.entry k] }
      else some (s.setEntry i k .refused)
    | _ => none
  | .giveBack i =>
    match s.entries[i]? with
    | some ⟨k, .refused⟩ => some ((s.decrement k).setEntry i k .ended)
    | _ => none
  | .finish i =>
    match s.entries[i]? with
    | some ⟨k, .admitted⟩ => some ((s.decrement k).setEntry i k .ended)
    | _ => none
  | _ => none

/-- A step on the resource registry. A key exists once it has been allocated. -/
def registryStep (s : ClientCore) : CoreEvent → Option ClientCore
  | .allocateResourceKey =>
    if s.ensureReady then some { s with nextResourceKey := s.nextResourceKey + 1 } else some s
  | .lockPublish key =>
    if s.publisher = none ∧ key < s.nextResourceKey then
      some { s with publisher := some { key := key, passed := false } }
    else none
  | .publishCheck =>
    match s.publisher with
    | some ⟨key, false⟩ =>
      if s.ensureReady then
        some { s with
          publisher := some { key := key, passed := true }
          admissions := s.admissions ++ [.resource key] }
      else some { s with publisher := none }
    | _ => none
  | .publishPush =>
    match s.publisher with
    | some ⟨key, true⟩ =>
      some { s with
        resources := s.resources ++ [key]
        published := s.published ++ [key]
        publisher := none }
    | _ => none
  | .unregisterResource key =>
    if s.publisher = none then some (s.unregisterResource key) else none
  | _ => none

/-- A step of a caller of `close`. -/
def closerStep (s : ClientCore) : CoreEvent → Option ClientCore
  | .close => some s.close
  | .storeClosing i =>
    match s.closers[i]? with
    | some .starting => some { s.setCloser i .stored with lifecycle := .closing }
    | _ => none
  | .spawnCleanup i =>
    match s.closers[i]? with
    | some .stored => some { s.setCloser i .waiting with cleanup := .waitOperations }
    | _ => none
  | .receiveReport i =>
    match s.closers[i]?, s.report with
    | some .waiting, some report => some (s.setCloser i (.received report))
    | _, _ => none
  | _ => none

/-- A step of `run_close`. -/
def cleanupStep (s : ClientCore) : CoreEvent → Option ClientCore
  | .operationsDrained =>
    match s.cleanup with
    | .waitOperations =>
      if s.counts .inFlight = 0 then some { s with cleanup := .waitOwned } else none
    | _ => none
  | .tasksDrained =>
    match s.cleanup with
    | .waitOwned =>
      if s.counts .ownedTasks = 0 then some { s with cleanup := .takeResources } else none
    | _ => none
  | .takeResources =>
    match s.cleanup with
    | .takeResources =>
      if s.publisher = none then
        some { s with cleanup := .closing s.resources [], resources := [] }
      else none
    | _ => none
  | .closeResource result =>
    match s.cleanup with
    | .closing (key :: keys) errors =>
      some { s with
        cleanup := .closing keys (collect errors result)
        closedResources := s.closedResources ++ [key] }
    | _ => none
  | .umount result =>
    match s.cleanup with
    | .closing [] errors =>
      some { s with cleanup := .umounted (collect errors result), umounts := s.umounts + 1 }
    | _ => none
  | .storeClosed =>
    match s.cleanup with
    | .umounted errors => some { s with cleanup := .closed errors, lifecycle := .closed }
    | _ => none
  | .publishReport =>
    match s.cleanup with
    | .closed errors => some { s with cleanup := .done, report := some { errors := errors } }
    | _ => none
  | _ => none

/-- One step of the core. -/
def step (s : ClientCore) : CoreEvent → Option ClientCore
  | .enter k =>
    if s.ensureReady then
      some { s with entries := s.entries ++ [{ counter := k, phase := .checked }] }
    else some s
  | ev =>
    (s.entryStep ev).or <| (s.registryStep ev).or <| (s.closerStep ev).or (s.cleanupStep ev)

end ClientCore

/-- The core with its callers and closers. -/
def coreMachine : Lib.Machine ClientCore CoreEvent where
  init := .new
  step := ClientCore.step

end NfsRs.Client
