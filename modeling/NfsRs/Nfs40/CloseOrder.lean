import NfsRs.Nfs40.OpenLookup

/-!
# NfsRs — CLOSE and the locks of an NFSv4.0 file

CLOSE first looks for registered locks of the file, then marks its lane closing, waits for the
READs and WRITEs that are out, and takes the mutex of the lane for the call. LOCK holds that mutex
from before its call until its lock is registered, but it does not look at `closing`; and a lock
may be registered between the look of CLOSE and its mark.

The program below is one file with any number of opens, locks and tasks. Every transmission is
recorded with what held at its time.

## Main results

- `close_after_locks` : no READ or WRITE follows the CLOSE of its open, and no CLOSE overtakes a
  LOCK that is in flight. No CLOSE is sent with a lock registered, and no LOCK behind a CLOSE, as
  long as LOCK is not granted a closing lane and no lock comes between the look and the mark.
- `lock_crosses_close` : otherwise both happen.
-/

namespace NfsRs.Nfs40

open Lib

/-! ## The program -/

/-- An open of the file. -/
structure FileLane where
  /-- It was registered, and it still is. -/
  made : Bool
  registered : Bool
  closing : Bool
  mutex : Option Nat
  fence : RwLock
  /-- A LOCK with its stateid is in flight. -/
  flying : Bool
  closeSent : Bool

def FileLane.fresh : FileLane := ⟨false, false, false, none, .free, false, false⟩

/-- A registered lock, with the open that it was acquired through. -/
structure FileLock where
  id : Nat
  lane : Nat
  deriving DecidableEq, Repr

inductive SentKind where
  | lock | io | close
  deriving DecidableEq, Repr

/-- A transmission with the stateid of a lane: whether CLOSE had been sent, whether a lock of the
lane was registered, and whether a LOCK was in flight. -/
structure FileSent where
  kind : SentKind
  lane : Nat
  afterClose : Bool
  locked : Bool
  flying : Bool
  deriving DecidableEq, Repr

structure FileShared where
  lanes : Nat → FileLane
  locks : List FileLock
  sent : List FileSent

namespace FileShared

variable (s : FileShared) (l : Nat)

def setLane (x : FileLane) : FileShared := { s with lanes := Function.update s.lanes l x }

/-- A lock acquired through the lane is registered. -/
def locked : Bool := s.locks.any (·.lane = l)

def send (kind : SentKind) : FileShared :=
  { s with
    sent := ⟨kind, l, (s.lanes l).closeSent, s.locked l, (s.lanes l).flying⟩ :: s.sent }

def removeLock (id : Nat) : FileShared := { s with locks := s.locks.filter (·.id ≠ id) }

/-- The mutex of the lane. -/
def acquire (i : Nat) : Option FileShared :=
  if (s.lanes l).mutex = none then some (s.setLane l { s.lanes l with mutex := some i }) else none

def unlock : FileShared := s.setLane l { s.lanes l with mutex := none }

def unfence (i : Nat) : FileShared :=
  s.setLane l { s.lanes l with fence := (s.lanes l).fence.release i }

end FileShared

def outstandingLocks : NfsError :=
  .invalidInput "NFSv4.0 CLOSE requires outstanding locks to be released"

def alreadyClosing : NfsError :=
  .invalidInput "NFSv4.0 open state is already closing or closed"

inductive LockPhase where
  /-- `for_fh` or `by_owner`. -/
  | find
  | want
  /-- The mutex of the lane is held from here on. -/
  | held
  | inFlight
  | granted
  | registered
  | removing (error : NfsError)
  | done (error : Option NfsError)

inductive ClosePhase where
  /-- `has_fh`. -/
  | check
  | find
  | mark
  | fence
  | relock
  | held
  | sent
  | removing
  | done (error : Option NfsError)

inductive IoPhase where
  | find
  | want
  | fenceWait
  | sending
  | done (error : Option NfsError)

inductive LockuPhase where
  | find
  | inFlight (id : Nat)
  | done
  deriving DecidableEq, Repr

inductive FileTask where
  /-- OPEN registers its lane. -/
  | opened (lane : Nat)
  | lock (phase : LockPhase) (lane : Nat)
  | locku (phase : LockuPhase)
  | close (phase : ClosePhase) (lane : Nat)
  /-- READ or WRITE. -/
  | io (phase : IoPhase) (lane : Nat)

inductive FileEvent where
  | go
  /-- A lookup ends with this lane, or this lock. -/
  | found (n : Nat)
  /-- The call, or a check around it, fails. -/
  | fail (error : NfsError)
  /-- READ or WRITE has its reply. -/
  | finish

section steps

variable (i : Nat) (s : FileShared) (l : Nat)

/-- `acquire_lock`; the lock is named by its task. -/
def LockPhase.step : LockPhase → FileEvent → Option (FileShared × LockPhase)
  | .find, .fail error => some (s, .done (some error))
  | .want, .go => (s.acquire l i).map (·, .held)
  | .held, .go => some ((s.send l .lock).setLane l { s.lanes l with flying := true }, .inFlight)
  | .inFlight, .go => some (s.setLane l { s.lanes l with flying := false }, .granted)
  | .inFlight, .fail error =>
    some (s.setLane l { s.lanes l with flying := false, mutex := none }, .done (some error))
  | .granted, .go => some ({ s with locks := ⟨i, l⟩ :: s.locks }, .registered)
  | .granted, .fail error => some (s.unlock l, .done (some error))
  | .registered, .go => some (s.unlock l, .done none)
  | .registered, .fail error => some (s, .removing error)
  | .removing error, .go => some ((s.removeLock i).unlock l, .done (some error))
  | _, _ => none

/-- `close` and `close_stateful` behind their lookup. -/
def ClosePhase.step : ClosePhase → FileEvent → Option (FileShared × ClosePhase)
  | .check, .go => some (s, if s.locks = [] then .find else .done (some outstandingLocks))
  | .find, .fail error => some (s, .done (some error))
  | .mark, .go =>
    if (s.lanes l).mutex = none then
      if (s.lanes l).closing then some (s, .done (some alreadyClosing))
      else some (s.setLane l { s.lanes l with closing := true }, .fence)
    else none
  | .fence, .go =>
    ((s.lanes l).fence.write i).map fun lock =>
      (s.setLane l { s.lanes l with fence := lock }, .relock)
  | .relock, .go => (s.acquire l i).map (·, .held)
  | .held, .go => some ((s.send l .close).setLane l { s.lanes l with closeSent := true }, .sent)
  | .sent, .go => some (s.unlock l, .removing)
  | .sent, .fail error =>
    some (s.setLane l { s.lanes l with mutex := none, fence := (s.lanes l).fence.release i },
      .done (some error))
  | .removing, .go =>
    some (s.setLane l { s.lanes l with registered := false, fence := (s.lanes l).fence.release i },
      .done none)
  | _, _ => none

/-- READ and WRITE; a busy server has them sent again. -/
def IoPhase.step : IoPhase → FileEvent → Option (FileShared × IoPhase)
  | .find, .fail error => some (s, .done (some error))
  | .want, .go =>
    if (s.lanes l).mutex = none then
      if (s.lanes l).closing then some (s, .done (some openStateClosing))
      else some (s.setLane l { s.lanes l with mutex := some i }, .fenceWait)
    else none
  | .fenceWait, .go =>
    ((s.lanes l).fence.read i).map fun lock =>
      (s.setLane l { s.lanes l with fence := lock, mutex := none }, .sending)
  | .sending, .go => some (s.send l .io, .sending)
  | .sending, .finish => some (s.unfence l i, .done none)
  | .sending, .fail error => some (s.unfence l i, .done (some error))
  | _, _ => none

def LockuPhase.step : LockuPhase → FileEvent → Option (FileShared × LockuPhase)
  | .find, .found id => if s.locks.any (·.id = id) then some (s, .inFlight id) else none
  | .inFlight id, .go => some (s.removeLock id, .done)
  | .inFlight _, .fail _ => some (s, .done)
  | _, _ => none

/-- A lookup ends with a lane that is registered at the time. -/
def FileTask.step : FileTask → FileEvent → Option (FileShared × FileTask)
  | .opened l, .go =>
    if (s.lanes l).made then none
    else some (s.setLane l { s.lanes l with made := true, registered := true }, .opened l)
  | .lock .find _, .found l => if (s.lanes l).registered then some (s, .lock .want l) else none
  | .close .find _, .found l => if (s.lanes l).registered then some (s, .close .mark l) else none
  | .io .find _, .found l => if (s.lanes l).registered then some (s, .io .want l) else none
  | .lock phase l, e => (phase.step i s l e).map fun next => (next.1, .lock next.2 l)
  | .close phase l, e => (phase.step i s l e).map fun next => (next.1, .close next.2 l)
  | .io phase l, e => (phase.step i s l e).map fun next => (next.1, .io next.2 l)
  | .locku phase, e => (phase.step s e).map fun next => (next.1, .locku next.2)
  | .opened _, _ => none

end steps

def FileTask.entry : FileTask → Bool
  | .opened _ | .lock .find _ | .close .check _ | .io .find _ | .locku .find => true
  | _ => false

def fileProgram : Program FileShared FileTask FileEvent where
  init := ⟨⟨fun _ => .fresh, [], []⟩, []⟩
  entry := FileTask.entry
  step i s t e := t.step i s e

/-! ## The condition -/

/-- The task keeps locks and CLOSE apart: LOCK is not granted the mutex of a closing lane, and
CLOSE does not mark a lane through which a lock is registered. -/
def FileTask.apart (s : FileShared) : FileTask → Bool
  | .lock .want l => !(s.lanes l).closing
  | .close .mark l => !s.locked l
  | _ => true

def LocksApart (P : TaskPool FileShared FileTask) : TaskEvent FileTask FileEvent → Prop
  | .spawn _ => True
  | .step i _ => (P.tasks[i]?).all (·.apart P.shared) = true

instance (P : TaskPool FileShared FileTask) : ∀ a, Decidable (LocksApart P a)
  | .spawn _ => .isTrue trivial
  | .step _ _ => inferInstanceAs (Decidable (_ = true))

/-! ## The outline -/

/-- What is recorded of a transmission; `strict` says that the condition holds. -/
def FileSent.Clean (strict : Prop) (r : FileSent) : Prop :=
  match r.kind with
  | .io => r.afterClose = false
  | .close => r.flying = false ∧ (strict → r.locked = false)
  | .lock => strict → r.afterClose = false

structure FileInv (strict : Prop) (s : FileShared) : Prop where
  closing : ∀ l, (s.lanes l).closeSent = true → (s.lanes l).closing = true
  flying : ∀ l, (s.lanes l).flying = true → (s.lanes l).mutex.isSome = true
  sent : ∀ r ∈ s.sent, r.Clean strict

def LockPhase.holds : LockPhase → Bool
  | .held | .inFlight | .granted | .registered | .removing _ => true
  | _ => false

def LockPhase.flies : LockPhase → Bool
  | .inFlight => true
  | _ => false

/-- LOCK holds the mutex of a lane that is not closing. -/
structure LockTaskInv (strict : Prop) (s : FileShared) (i : Nat) (phase : LockPhase) (l : Nat) :
    Prop where
  mutex : phase.holds = true → (s.lanes l).mutex = some i
  flying : phase.holds = true → (s.lanes l).flying = phase.flies
  notClosing : strict → phase.holds = true → (s.lanes l).closing = false

def ClosePhase.marked : ClosePhase → Bool
  | .fence | .relock | .held | .sent | .removing => true
  | _ => false

def ClosePhase.fenced : ClosePhase → Bool
  | .relock | .held | .sent | .removing => true
  | _ => false

def ClosePhase.holds : ClosePhase → Bool
  | .held | .sent => true
  | _ => false

/-- CLOSE has marked its lane, which has no locks; it holds the fence, and the mutex. -/
structure CloseInv (strict : Prop) (s : FileShared) (i : Nat) (phase : ClosePhase) (l : Nat) :
    Prop where
  closing : phase.marked = true → (s.lanes l).closing = true
  unlocked : strict → phase.marked = true → s.locked l = false
  fence : phase.fenced = true → (s.lanes l).fence.writer = some i
  mutex : phase.holds = true → (s.lanes l).mutex = some i
  flying : phase.holds = true → (s.lanes l).flying = false

/-- READ or WRITE holds the mutex of a lane that is not closing, and then the fence of one that is
not closed. -/
def IoInv (s : FileShared) (i : Nat) (l : Nat) : IoPhase → Prop
  | .fenceWait => (s.lanes l).mutex = some i ∧ (s.lanes l).flying = false ∧
      (s.lanes l).closing = false
  | .sending => i ∈ (s.lanes l).fence.readers ∧ (s.lanes l).closeSent = false
  | _ => True

def FileTaskInv (strict : Prop) (s : FileShared) (i : Nat) : FileTask → Prop
  | .lock phase l => LockTaskInv strict s i phase l
  | .close phase l => CloseInv strict s i phase l
  | .io phase l => IoInv s i l phase
  | _ => True

/-! ## What a step leaves alone -/

section frames

variable {strict : Prop} {i j l : Nat} {s s' : FileShared} {t : FileTask} {x y : FileLane}

/-- The step of a task and a lane: whoever else holds the mutex or the fence still does, and finds
the lane as it was. -/
structure LaneChange (i : Nat) (x y : FileLane) : Prop where
  owned : ∀ j, j ≠ i → x.mutex = some j →
    y.mutex = some j ∧ y.flying = x.flying ∧ y.closing = x.closing
  closing : x.closing = true → y.closing = true
  fence : RwLock.Kept i x.fence y.fence

theorem LaneChange.refl : LaneChange i x x :=
  ⟨fun _ _ h => ⟨h, rfl, rfl⟩, id, .refl⟩

/-- Nobody else holds the mutex. -/
theorem LaneChange.of_mutex (hMutex : x.mutex = none ∨ x.mutex = some i)
    (hClosing : x.closing = true → y.closing = true) (hFence : RwLock.Kept i x.fence y.fence) :
    LaneChange i x y := by
  refine ⟨fun j hj hOwner => ?_, hClosing, hFence⟩
  rcases hMutex with hNone | hSome
  · rw [hNone] at hOwner
    cases hOwner
  · rw [hSome] at hOwner
    cases hOwner
    exact absurd rfl hj

theorem LaneChange.of_fence {fence : RwLock} (h : RwLock.Kept i x.fence fence) :
    LaneChange i x { x with fence := fence } :=
  ⟨fun _ _ h => ⟨h, rfl, rfl⟩, id, h⟩

structure FileFrame (i : Nat) (t : FileTask) (s s' : FileShared) : Prop where
  lanes : ∀ l, LaneChange i (s.lanes l) (s'.lanes l)
  closeSent : ∀ l, (s'.lanes l).closeSent = true →
    (s.lanes l).closeSent = true ∨ t = .close .held l
  locked : ∀ l, s'.locked l = true → s.locked l = true ∨ t = .lock .granted l

theorem FileFrame.of_lanes (hLanes : s'.lanes = s.lanes)
    (hLocked : ∀ l, s'.locked l = true → s.locked l = true ∨ t = .lock .granted l) :
    FileFrame i t s s' :=
  ⟨fun l => by rw [hLanes]; exact .refl, fun l h => .inl (by rwa [hLanes] at h), hLocked⟩

theorem FileFrame.refl : FileFrame i t s s := .of_lanes rfl fun _ => .inl

@[simp]
theorem FileShared.lanes_setLane : (s.setLane l x).lanes l = x := Function.update_self ..

@[simp]
theorem FileShared.lanes_send {kind : SentKind} : (s.send l kind).lanes = s.lanes := rfl

theorem FileShared.lanes_setLane_ne {l' : Nat} (h : l' ≠ l) :
    (s.setLane l x).lanes l' = s.lanes l' :=
  Function.update_of_ne h ..

/-- **Another task's assertion.** -/
theorem FileTaskInv.other (h : FileTaskInv strict s j t) {u : FileTask}
    (hu : FileTaskInv strict s i u) (hj : j ≠ i) (hFrame : FileFrame i u s s') :
    FileTaskInv strict s' j t := by
  cases t with
  | opened _ | locku _ => trivial
  | lock phase l =>
    have hOwned := fun hHolds => (hFrame.lanes l).owned j hj (LockTaskInv.mutex h hHolds)
    refine ⟨fun hHolds => (hOwned hHolds).1, fun hHolds => ?_, fun hStrict hHolds => ?_⟩
    · exact (hOwned hHolds).2.1.trans (LockTaskInv.flying h hHolds)
    · exact (hOwned hHolds).2.2.trans (LockTaskInv.notClosing h hStrict hHolds)
  | close phase l =>
    have hOwned := fun hHolds => (hFrame.lanes l).owned j hj (CloseInv.mutex h hHolds)
    refine ⟨fun hMarked => (hFrame.lanes l).closing (CloseInv.closing h hMarked),
      fun hStrict hMarked => ?_,
      fun hFenced => (hFrame.lanes l).fence.writer j hj (CloseInv.fence h hFenced),
      fun hHolds => (hOwned hHolds).1, fun hHolds => ?_⟩
    · -- a lock is registered through a lane that is not closing
      by_contra hLocked
      rcases hFrame.locked l (by simpa using hLocked) with hOld | rfl
      · exact absurd ((CloseInv.unlocked h hStrict hMarked).symm.trans hOld) (by decide)
      · have hClosing := CloseInv.closing h hMarked
        rw [LockTaskInv.notClosing hu hStrict rfl] at hClosing
        cases hClosing
    · exact (hOwned hHolds).2.1.trans (CloseInv.flying h hHolds)
  | io phase l =>
    cases phase with
    | fenceWait =>
      obtain ⟨hMutex, hFlying, hClosing⟩ := h
      obtain ⟨hOwner, hFlying', hClosing'⟩ := (hFrame.lanes l).owned j hj hMutex
      exact ⟨hOwner, hFlying'.trans hFlying, hClosing'.trans hClosing⟩
    | sending =>
      obtain ⟨hReader, hSent⟩ := h
      refine ⟨(hFrame.lanes l).fence.reader j hj hReader, ?_⟩
      -- CLOSE is sent under the fence
      by_contra hClose
      rcases hFrame.closeSent l (by simpa using hClose) with hOld | rfl
      · exact absurd (hSent.symm.trans hOld) (by decide)
      · exact RwLock.not_mem_readers (CloseInv.fence hu rfl) j hReader
    | _ => trivial

end frames

/-! ## The steps -/

section keeps

variable {strict : Prop} {i l : Nat} {s s' : FileShared} {t t' : FileTask} {x : FileLane}
  {e : FileEvent}

/-- What every step has to keep. -/
structure FileKeeps (strict : Prop) (i : Nat) (t : FileTask) (s s' : FileShared) (t' : FileTask) :
    Prop where
  frame : FileFrame i t s s'
  inv : FileInv strict s'
  task : FileTaskInv strict s' i t'

/-- A step that changes nothing shared. -/
theorem FileKeeps.stay (hInv : FileInv strict s) (hTask : FileTaskInv strict s i t') :
    FileKeeps strict i t s s t' :=
  ⟨.refl, hInv, hTask⟩

/-- A step that changes one lane. -/
theorem FileKeeps.lane (hInv : FileInv strict s) (hChange : LaneChange i (s.lanes l) x)
    (hSent : x.closeSent = true → (s.lanes l).closeSent = true ∨ t = .close .held l)
    (hClosing : x.closeSent = true → x.closing = true)
    (hFlying : x.flying = true → x.mutex.isSome = true)
    (hTask : FileTaskInv strict (s.setLane l x) i t') :
    FileKeeps strict i t s (s.setLane l x) t' := by
  refine ⟨⟨fun l' => ?_, fun l' h => ?_, fun _ => .inl⟩,
    ⟨fun l' h => ?_, fun l' h => ?_, hInv.sent⟩, hTask⟩ <;> by_cases hl : l' = l
  · subst hl
    rw [FileShared.lanes_setLane]
    exact hChange
  · rw [FileShared.lanes_setLane_ne hl]
    exact .refl
  · subst hl
    rw [FileShared.lanes_setLane] at h
    exact hSent h
  · rw [FileShared.lanes_setLane_ne hl] at h
    exact .inl h
  · subst hl
    rw [FileShared.lanes_setLane] at h ⊢
    exact hClosing h
  · rw [FileShared.lanes_setLane_ne hl] at h ⊢
    exact hInv.closing l' h
  · subst hl
    rw [FileShared.lanes_setLane] at h ⊢
    exact hFlying h
  · rw [FileShared.lanes_setLane_ne hl] at h ⊢
    exact hInv.flying l' h

/-- The record of a transmission. -/
theorem FileInv.send (hInv : FileInv strict s) {kind : SentKind}
    (hClean : FileSent.Clean strict
      ⟨kind, l, (s.lanes l).closeSent, s.locked l, (s.lanes l).flying⟩) :
    FileInv strict (s.send l kind) := by
  refine ⟨hInv.closing, hInv.flying, fun r hr => ?_⟩
  rcases List.mem_cons.mp hr with rfl | hOld
  · exact hClean
  · exact hInv.sent r hOld

theorem FileKeeps.send {kind : SentKind} (h : FileKeeps strict i t (s.send l kind) s' t') :
    FileKeeps strict i t s s' t' :=
  ⟨⟨h.frame.lanes, h.frame.closeSent, h.frame.locked⟩, h.inv, h.task⟩

theorem locked_removeLock {id : Nat} (h : (s.removeLock id).locked l = true) :
    s.locked l = true := by
  obtain ⟨lock, hMem, hLane⟩ := List.any_eq_true.mp h
  exact List.any_eq_true.mpr ⟨lock, List.mem_of_mem_filter hMem, hLane⟩

theorem FileKeeps.removeLock {id : Nat} (h : FileKeeps strict i t (s.removeLock id) s' t') :
    FileKeeps strict i t s s' t' :=
  ⟨⟨h.frame.lanes, h.frame.closeSent,
    fun l hl => (h.frame.locked l hl).imp_left locked_removeLock⟩, h.inv, h.task⟩

theorem FileShared.acquire_eq_some (h : s.acquire l i = some s') :
    (s.lanes l).mutex = none ∧ s' = s.setLane l { s.lanes l with mutex := some i } := by
  simp only [acquire, Option.ite_none_right_eq_some, Option.some.injEq] at h
  exact ⟨h.1, h.2.symm⟩

/-- A lane whose mutex is free has no LOCK in flight. -/
theorem FileInv.not_flying (hInv : FileInv strict s) (hMutex : (s.lanes l).mutex = none) :
    (s.lanes l).flying = false := by
  by_contra hFlying
  have hSome := hInv.flying l (by simpa using hFlying)
  rw [hMutex] at hSome
  cases hSome

/-- A step of the task that holds the mutex, which keeps `closing`, `closeSent` and the fence. -/
theorem FileKeeps.holder (hInv : FileInv strict s)
    (hMutex : (s.lanes l).mutex = none ∨ (s.lanes l).mutex = some i) {mutex : Option Nat}
    {flying : Bool} (hFlying : flying = true → mutex.isSome = true)
    (hTask : FileTaskInv strict
      (s.setLane l { s.lanes l with mutex := mutex, flying := flying }) i t') :
    FileKeeps strict i t s (s.setLane l { s.lanes l with mutex := mutex, flying := flying }) t' :=
  .lane hInv (.of_mutex hMutex id .refl) .inl (hInv.closing l) hFlying hTask

theorem LockTaskInv.idle {phase : LockPhase} (h : phase.holds = false) :
    LockTaskInv strict s i phase l :=
  ⟨fun hHolds => absurd (h.symm.trans hHolds) (by decide),
    fun hHolds => absurd (h.symm.trans hHolds) (by decide),
    fun _ hHolds => absurd (h.symm.trans hHolds) (by decide)⟩

/-- **LOCK.** -/
theorem lock_keeps {phase phase' : LockPhase} (hInv : FileInv strict s)
    (h : LockTaskInv strict s i phase l) (hok : strict → (FileTask.lock phase l).apart s = true)
    (hStep : phase.step i s l e = some (s', phase')) :
    FileKeeps strict i (.lock phase l) s s' (.lock phase' l) := by
  cases phase with
  | find =>
    cases e with
    | fail error => cases hStep; exact .stay hInv (LockTaskInv.idle rfl)
    | _ => cases hStep
  | want =>
    cases e with
    | go =>
      obtain ⟨next, hNext, hEq⟩ := Option.map_eq_some_iff.mp hStep
      cases hEq
      obtain ⟨hMutex, rfl⟩ := FileShared.acquire_eq_some hNext
      have hFlying := hInv.not_flying hMutex
      refine .lane hInv (.of_mutex (.inl hMutex) id .refl) .inl (hInv.closing l) (fun _ => rfl) ?_
      refine ⟨fun _ => by simp, fun _ => by simpa [LockPhase.flies] using hFlying,
        fun hStrict _ => ?_⟩
      simpa [FileTask.apart] using hok hStrict
    | _ => cases hStep
  -- LOCK goes out: CLOSE is sent on a closing lane only, and under `strict` this one is not
  | held =>
    have hMutex := h.mutex rfl
    cases e with
    | go =>
      cases hStep
      have hClean : FileSent.Clean strict
          ⟨.lock, l, (s.lanes l).closeSent, s.locked l, (s.lanes l).flying⟩ := by
        intro hStrict
        by_contra hSent
        have hClosing := hInv.closing l (by simpa using hSent)
        rw [h.notClosing hStrict rfl] at hClosing
        cases hClosing
      refine FileKeeps.send (FileKeeps.holder (l := l) (hInv.send hClean) (.inr hMutex)
        (fun _ => by rw [hMutex]; rfl) ⟨fun _ => ?_, fun _ => ?_, fun hStrict _ => ?_⟩)
      · simpa using hMutex
      · simp [LockPhase.flies]
      · simpa using h.notClosing hStrict rfl
    | _ => cases hStep
  | inFlight =>
    have hMutex := h.mutex rfl
    cases e with
    | go =>
      cases hStep
      refine .holder hInv (.inr hMutex) nofun ⟨fun _ => ?_, fun _ => ?_, fun hStrict _ => ?_⟩
      · simpa using hMutex
      · simp [LockPhase.flies]
      · simpa using h.notClosing hStrict rfl
    | fail error => cases hStep; exact .holder hInv (.inr hMutex) nofun (LockTaskInv.idle rfl)
    | _ => cases hStep
  -- the record of the lock makes no other lane a locked one
  | granted =>
    have hMutex := h.mutex rfl
    have hFlying : (s.lanes l).flying = false := h.flying rfl
    cases e with
    | go =>
      cases hStep
      refine ⟨.of_lanes rfl fun l' hl' => ?_, ⟨hInv.closing, hInv.flying, hInv.sent⟩,
        ⟨fun _ => hMutex, fun _ => hFlying, fun hStrict _ => h.notClosing hStrict rfl⟩⟩
      obtain ⟨lock, hMem, hLane⟩ := List.any_eq_true.mp hl'
      rcases List.mem_cons.mp hMem with rfl | hOld
      · exact .inr (congrArg _ (of_decide_eq_true hLane))
      · exact .inl (List.any_eq_true.mpr ⟨lock, hOld, hLane⟩)
    | fail error =>
      cases hStep
      exact .holder hInv (.inr hMutex) (by simp [hFlying]) (LockTaskInv.idle rfl)
    | _ => cases hStep
  | registered =>
    have hMutex := h.mutex rfl
    have hFlying : (s.lanes l).flying = false := h.flying rfl
    cases e with
    | go =>
      cases hStep
      exact .holder hInv (.inr hMutex) (by simp [hFlying]) (LockTaskInv.idle rfl)
    | fail error => cases hStep; exact .stay hInv ⟨h.mutex, h.flying, h.notClosing⟩
    | _ => cases hStep
  | removing error =>
    have hMutex := h.mutex rfl
    have hFlying : (s.lanes l).flying = false := h.flying rfl
    cases e with
    | go =>
      cases hStep
      have hKept : FileInv strict (s.removeLock i) := ⟨hInv.closing, hInv.flying, hInv.sent⟩
      exact FileKeeps.removeLock (.holder hKept (.inr hMutex)
        (fun hTrue => absurd (hFlying.symm.trans hTrue) (by decide)) (LockTaskInv.idle rfl))
    | _ => cases hStep
  | done error => cases e <;> cases hStep

theorem CloseInv.idle {phase : ClosePhase} (h : phase.marked = false) :
    CloseInv strict s i phase l := by
  cases phase with
  | check | find | mark | done _ => exact ⟨nofun, nofun, nofun, nofun, nofun⟩
  | _ => cases h

/-- **CLOSE.** -/
theorem close_keeps {phase phase' : ClosePhase} (hInv : FileInv strict s)
    (h : CloseInv strict s i phase l) (hok : strict → (FileTask.close phase l).apart s = true)
    (hStep : phase.step i s l e = some (s', phase')) :
    FileKeeps strict i (.close phase l) s s' (.close phase' l) := by
  cases phase with
  | check =>
    cases e with
    | go =>
      cases hStep
      refine .stay hInv (CloseInv.idle ?_)
      split <;> rfl
    | _ => cases hStep
  | find =>
    cases e with
    | fail error => cases hStep; exact .stay hInv (CloseInv.idle rfl)
    | _ => cases hStep
  -- `closing` is set under the mutex, which is then let go to wait for the fence
  | mark =>
    cases e with
    | go =>
      simp only [ClosePhase.step, Option.ite_none_right_eq_some] at hStep
      obtain ⟨hMutex, hStep⟩ := hStep
      split at hStep
      next => cases hStep; exact .stay hInv (CloseInv.idle rfl)
      next =>
        cases hStep
        refine .lane hInv (.of_mutex (.inl hMutex) (fun _ => rfl) .refl) .inl (fun _ => rfl)
          (hInv.flying l) ⟨fun _ => by simp, fun hStrict _ => ?_, nofun, nofun, nofun⟩
        have hFree : s.locked l = false := by simpa [FileTask.apart] using hok hStrict
        exact hFree
    | _ => cases hStep
  -- the writer of the fence waits until every READ and WRITE under way has let go of it
  | fence =>
    cases e with
    | go =>
      obtain ⟨lock, hWrite, hEq⟩ := Option.map_eq_some_iff.mp hStep
      cases hEq
      refine .lane hInv (.of_fence (.write hWrite)) .inl (hInv.closing l) (hInv.flying l)
        ⟨fun _ => ?_, fun hStrict _ => h.unlocked hStrict rfl, fun _ => ?_, nofun, nofun⟩
      · simpa using h.closing rfl
      · simpa using (RwLock.write_eq_some hWrite).2.2
    | _ => cases hStep
  -- a free mutex: no LOCK of this lane is in flight, so CLOSE will find none
  | relock =>
    cases e with
    | go =>
      obtain ⟨next, hNext, hEq⟩ := Option.map_eq_some_iff.mp hStep
      cases hEq
      obtain ⟨hMutex, rfl⟩ := FileShared.acquire_eq_some hNext
      have hFlying := hInv.not_flying hMutex
      refine .lane hInv (.of_mutex (.inl hMutex) id .refl) .inl (hInv.closing l) (fun _ => rfl)
        ⟨fun _ => ?_, fun hStrict _ => h.unlocked hStrict rfl, fun _ => ?_, fun _ => ?_,
          fun _ => ?_⟩
      · simpa using h.closing rfl
      · simpa using h.fence rfl
      · simp
      · simpa using hFlying
    | _ => cases hStep
  | held =>
    have hMutex := h.mutex rfl
    have hFlying := h.flying rfl
    cases e with
    | go =>
      cases hStep
      have hClean : FileSent.Clean strict
          ⟨.close, l, (s.lanes l).closeSent, s.locked l, (s.lanes l).flying⟩ :=
        ⟨hFlying, fun hStrict => h.unlocked hStrict rfl⟩
      refine FileKeeps.send (.lane (hInv.send hClean) (.of_mutex (.inr hMutex) id .refl)
        (fun _ => .inr rfl) (fun _ => h.closing rfl) (hInv.flying l)
        ⟨fun _ => ?_, fun hStrict _ => h.unlocked hStrict rfl, fun _ => ?_, fun _ => ?_,
          fun _ => ?_⟩)
      · simpa using h.closing rfl
      · simpa using h.fence rfl
      · simpa using hMutex
      · simpa using hFlying
    | _ => cases hStep
  -- `closing` stays set after a failure as well; only the mutex and the fence are let go
  | sent =>
    have hMutex := h.mutex rfl
    have hFlying := h.flying rfl
    have hNot : (s.lanes l).flying = true → (none : Option Nat).isSome = true := by simp [hFlying]
    cases e with
    | go =>
      cases hStep
      refine .lane hInv (.of_mutex (.inr hMutex) id .refl) .inl (hInv.closing l) hNot
        ⟨fun _ => ?_, fun hStrict _ => h.unlocked hStrict rfl, fun _ => ?_, nofun, nofun⟩
      · simpa using h.closing rfl
      · simpa using h.fence rfl
    | fail error =>
      cases hStep
      exact .lane hInv (.of_mutex (.inr hMutex) id .release) .inl (hInv.closing l) hNot
        (CloseInv.idle rfl)
    | _ => cases hStep
  | removing =>
    cases e with
    | go =>
      cases hStep
      refine .lane hInv ⟨fun _ _ h => ⟨h, rfl, rfl⟩, id, .release⟩ .inl (hInv.closing l)
        (hInv.flying l) (CloseInv.idle rfl)
    | _ => cases hStep
  | done error => cases e <;> cases hStep

/-- **READ and WRITE.** -/
theorem io_keeps {phase phase' : IoPhase} (hInv : FileInv strict s) (h : IoInv s i l phase)
    (hStep : phase.step i s l e = some (s', phase')) :
    FileKeeps strict i (.io phase l) s s' (.io phase' l) := by
  cases phase with
  | find =>
    cases e with
    | fail error => cases hStep; exact .stay hInv trivial
    | _ => cases hStep
  -- `closing` is read under the mutex, before the fence is asked for
  | want =>
    cases e with
    | go =>
      simp only [IoPhase.step, Option.ite_none_right_eq_some] at hStep
      obtain ⟨hMutex, hStep⟩ := hStep
      split at hStep
      next => cases hStep; exact .stay hInv trivial
      next hClosing =>
        cases hStep
        have hFlying := hInv.not_flying hMutex
        refine .lane hInv (.of_mutex (.inl hMutex) id .refl) .inl (hInv.closing l) (fun _ => rfl)
          ⟨?_, ?_, ?_⟩
        · simp
        · simpa using hFlying
        · simpa using hClosing
    | _ => cases hStep
  | fenceWait =>
    obtain ⟨hMutex, hFlying, hClosing⟩ := h
    cases e with
    | go =>
      obtain ⟨lock, hRead, hEq⟩ := Option.map_eq_some_iff.mp hStep
      cases hEq
      refine .lane hInv (.of_mutex (.inr hMutex) id (.read hRead)) .inl (hInv.closing l)
        (by simp [hFlying]) ⟨?_, ?_⟩
      · simp [(RwLock.read_eq_some hRead).2]
      · -- a lane that is not closing is not closed
        by_contra hSent
        have hTrue := hInv.closing l (by simpa using hSent)
        exact absurd (hClosing.symm.trans hTrue) (by decide)
    | _ => cases hStep
  | sending =>
    cases e with
    | go =>
      cases hStep
      exact ⟨.of_lanes rfl fun _ => .inl, hInv.send h.2, h⟩
    | finish | fail error =>
      cases hStep
      exact .lane hInv (.of_fence .release) .inl (hInv.closing l) (hInv.flying l) trivial
    | _ => cases hStep
  | done error => cases e <;> cases hStep

theorem locku_keeps {phase phase' : LockuPhase} (hInv : FileInv strict s)
    (hStep : phase.step s e = some (s', phase')) :
    FileKeeps strict i (.locku phase) s s' (.locku phase') := by
  cases phase with
  | find =>
    cases e with
    | found id =>
      obtain ⟨-, hEq⟩ := Option.ite_none_right_eq_some.mp hStep
      cases hEq
      exact .stay hInv trivial
    | _ => cases hStep
  | inFlight id =>
    cases e with
    | go =>
      cases hStep
      exact FileKeeps.removeLock ⟨.refl, ⟨hInv.closing, hInv.flying, hInv.sent⟩, trivial⟩
    | fail error => cases hStep; exact .stay hInv trivial
    | _ => cases hStep
  | done => cases e <;> cases hStep

/-- **Every step.** -/
theorem file_keeps (hInv : FileInv strict s) (hTask : FileTaskInv strict s i t)
    (hok : strict → t.apart s = true) (hStep : t.step i s e = some (s', t')) :
    FileKeeps strict i t s s' t' := by
  unfold FileTask.step at hStep
  split at hStep
  next l =>
    obtain ⟨-, hEq⟩ := Option.ite_none_left_eq_some.mp hStep
    cases hEq
    exact .lane hInv ⟨fun _ _ h => ⟨h, rfl, rfl⟩, id, .refl⟩ .inl (hInv.closing l) (hInv.flying l)
      trivial
  -- the tasks that have not begun wait for their lane
  next l _ =>
    obtain ⟨-, hEq⟩ := Option.ite_none_right_eq_some.mp hStep
    cases hEq
    exact .stay hInv (LockTaskInv.idle rfl)
  next l _ =>
    obtain ⟨-, hEq⟩ := Option.ite_none_right_eq_some.mp hStep
    cases hEq
    exact .stay hInv (CloseInv.idle rfl)
  next l _ =>
    obtain ⟨-, hEq⟩ := Option.ite_none_right_eq_some.mp hStep
    cases hEq
    exact .stay hInv trivial
  next phase l _ _ _ =>
    obtain ⟨next, hNext, hEq⟩ := Option.map_eq_some_iff.mp hStep
    cases hEq
    exact lock_keeps hInv hTask hok hNext
  next phase l _ _ _ =>
    obtain ⟨next, hNext, hEq⟩ := Option.map_eq_some_iff.mp hStep
    cases hEq
    exact close_keeps hInv hTask hok hNext
  next phase l _ _ _ =>
    obtain ⟨next, hNext, hEq⟩ := Option.map_eq_some_iff.mp hStep
    cases hEq
    exact io_keeps hInv hTask hNext
  next phase _ _ =>
    obtain ⟨next, hNext, hEq⟩ := Option.map_eq_some_iff.mp hStep
    cases hEq
    exact locku_keeps hInv hNext
  next => cases hStep

end keeps

/-! ## The theorem -/

section outline

variable {P : TaskPool FileShared FileTask}

theorem file_outline (strict : Prop) :
    Outline fileProgram (fun P a => strict → LocksApart P a) (FileInv strict)
      (FileTaskInv strict) where
  init := ⟨⟨nofun, nofun, nofun⟩, nofun⟩
  entry := by
    intro s i t _ hEntry
    cases t with
    | opened _ | locku _ => trivial
    | lock phase l =>
      cases phase with
      | find => exact LockTaskInv.idle rfl
      | _ => cases hEntry
    | close phase l =>
      cases phase with
      | check => exact CloseInv.idle rfl
      | _ => cases hEntry
    | io phase l =>
      cases phase with
      | find => trivial
      | _ => cases hEntry
  own P i t e s' t' hHolds hok ht hStep := by
    have hKeeps := file_keeps hHolds.shared (hHolds.task i t ht)
      (fun hStrict => by simpa [LocksApart, ht] using hok hStrict) hStep
    exact ⟨hKeeps.inv, hKeeps.task⟩
  other P i t e s' t' j u hHolds hok ht hStep hj hu := by
    have hTask := hHolds.task i t ht
    have hKeeps := file_keeps hHolds.shared hTask
      (fun hStrict => by simpa [LocksApart, ht] using hok hStrict) hStep
    exact (hHolds.task j u hu).other hTask hj hKeeps.frame

/-- **CLOSE and the locks.** In every run, no READ or WRITE is sent with the stateid of an open
behind its CLOSE, and no CLOSE while a LOCK with its stateid is in flight. In every run in which
LOCK is not granted a closing lane, and CLOSE does not mark a lane through which a lock is
registered, no CLOSE is sent while such a lock is registered, and no LOCK behind a CLOSE. -/
theorem close_after_locks :
    (fileProgram.machine.Reachable P → ∀ r ∈ P.shared.sent,
        (r.kind = .io → r.afterClose = false) ∧ (r.kind = .close → r.flying = false)) ∧
      (fileProgram.machine.ReachableIf LocksApart P → ∀ r ∈ P.shared.sent,
        (r.kind = .close → r.locked = false) ∧ (r.kind = .lock → r.afterClose = false)) := by
  refine ⟨fun h r hr => ?_, fun h r hr => ?_⟩
  · have hReach : fileProgram.machine.ReachableIf (fun P a => False → LocksApart P a) P :=
      h.mono fun _ _ _ => nofun
    have hClean := ((file_outline False).holds hReach).shared.sent r hr
    exact ⟨fun hKind => by rwa [FileSent.Clean, hKind] at hClean,
      fun hKind => by rw [FileSent.Clean, hKind] at hClean; exact hClean.1⟩
  · have hReach : fileProgram.machine.ReachableIf (fun P a => True → LocksApart P a) P :=
      h.mono fun _ _ hok _ => hok
    have hClean := ((file_outline True).holds hReach).shared.sent r hr
    exact ⟨fun hKind => by rw [FileSent.Clean, hKind] at hClean; exact hClean.2 trivial,
      fun hKind => by rw [FileSent.Clean, hKind] at hClean; exact hClean trivial⟩

end outline

/-! ## Runs -/

/-- Task `i` takes `n` steps. -/
def fileSteps (i n : Nat) : List (TaskEvent FileTask FileEvent) := List.replicate n (.step i .go)

/-- An open, and a LOCK through it up to its mutex. -/
def openAndLock : List (TaskEvent FileTask FileEvent) :=
  [.spawn (.opened 0), .step 0 .go, .spawn (.lock .find 0), .step 1 (.found 0)]

/-- LOCK, WRITE, LOCKU and CLOSE one after the other. -/
def lockThenClose : List (TaskEvent FileTask FileEvent) :=
  openAndLock ++ fileSteps 1 5 ++ [.spawn (.io .find 0), .step 2 (.found 0)] ++ fileSteps 2 3 ++
    [.step 2 .finish, .spawn (.locku .find), .step 3 (.found 1), .step 3 .go,
      .spawn (.close .check 0), .step 4 .go, .step 4 (.found 0)] ++ fileSteps 4 6

theorem close_after_locks_lockThenClose :
    ∃ P, fileProgram.machine.ReachableIf LocksApart P ∧ P.shared.sent.length = 3 ∧
      (∀ r ∈ P.shared.sent,
        (r.kind = .io → r.afterClose = false) ∧ (r.kind = .close → r.flying = false)) ∧
      ∀ r ∈ P.shared.sent,
        (r.kind = .close → r.locked = false) ∧ (r.kind = .lock → r.afterClose = false) :=
  have hInit : fileProgram.machine.ReachableIf LocksApart _ := .init
  have hReach := Machine.reachableIf_of_runChecked lockThenClose hInit rfl
  ⟨_, hReach, rfl, close_after_locks.1 (hReach.mono fun _ _ _ => trivial),
    close_after_locks.2 hReach⟩

/-- CLOSE finds no lock; the LOCK is granted and registered; CLOSE goes on. -/
def lockBehindLook : List (TaskEvent FileTask FileEvent) :=
  openAndLock ++ [.spawn (.close .check 0), .step 2 .go] ++ fileSteps 1 5 ++ [.step 2 (.found 0)] ++
    fileSteps 2 4

/-- LOCK has its lane, and gets the mutex when CLOSE is over. -/
def lockBehindClose : List (TaskEvent FileTask FileEvent) :=
  openAndLock ++ [.spawn (.close .check 0), .step 2 .go, .step 2 (.found 0)] ++ fileSteps 2 6 ++
    fileSteps 1 2

/-- **CLOSE and LOCK cross.** CLOSE is sent while a lock acquired through its open is registered;
and LOCK is sent with the stateid of an open that has been closed. -/
theorem lock_crosses_close :
    (∃ P, fileProgram.machine.Reachable P ∧
      ∃ r ∈ P.shared.sent, r.kind = .close ∧ r.locked = true) ∧
    ∃ P, fileProgram.machine.Reachable P ∧
      ∃ r ∈ P.shared.sent, r.kind = .lock ∧ r.afterClose = true :=
  ⟨⟨_, Machine.reachable_of_runFrom lockBehindLook rfl, _, List.mem_cons_self, rfl, rfl⟩,
    ⟨_, Machine.reachable_of_runFrom lockBehindClose rfl, _, List.mem_cons_self, rfl, rfl⟩⟩

end NfsRs.Nfs40
