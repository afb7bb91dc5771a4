import NfsRs.Error
import NfsRs.Lib.Tasks

/-!
# NfsRs — closing a file of the Python adapter

A `FileResource` has a lifecycle flag, a gate that operations read and the close writes, and a
close state with the file and the result. `begin_operation` looks at the flag before and after it
has the gate. `close` sets the flag; the first closer takes the file and starts the close task,
which waits for the gate, flushes, calls `close_stateful` and publishes one result, and every
closer waits for that result. The shutdown of the client closes its files the same way.

A caller of `close` in Python gets there through `spawn_owned`, which turns it away once the
client is closing. Such a caller has an error of its own and not the result of the close.
-/

namespace NfsRs.Client.FileClose

open NfsRs.Lib

/-- The failures of a close; it succeeded when there are none. -/
abbrev CloseResult := List (String × NfsError)

/-- Where the close task is: the task that runs it is `held`. -/
inductive CloseStage where
  | notStarted
  | pending
  | held (task : Nat)
  | published
  deriving DecidableEq, Repr

structure Shared where
  /-- The client takes new operations and owned tasks. -/
  ready : Bool
  /-- `lifecycle` is not zero. -/
  closed : Bool
  stateLost : Bool
  gate : RwLock
  stage : CloseStage
  result : Option CloseResult
  /-- How often `close_stateful` was called. -/
  closeCalls : Nat
  /-- How many operations were admitted after a close began. -/
  lateAdmissions : Nat

inductive OpPhase where
  | start
  | wantGate
  | gated
  | running
  | ended
  deriving DecidableEq, Repr

inductive CloserPhase where
  /-- Before `spawn_owned`. -/
  | called
  | refused
  /-- In `FileResource::close`; the shutdown of the client starts here. -/
  | entered
  | marked
  | waiting
  | returned (result : CloseResult)

inductive CloseTaskPhase where
  | start
  | wantGate
  | flushing
  | closing (failures : CloseResult)
  | called (failures : CloseResult)
  | ended

inductive Task where
  | op (phase : OpPhase)
  | closer (phase : CloserPhase)
  | closeTask (phase : CloseTaskPhase)
  /-- The client begins to close. -/
  | shutdown

inductive Event where
  | go
  /-- The future of an operation is dropped, or its open state is found lost. -/
  | cancel
  | loseState
  | answer (failure : Option NfsError)

def failureOf (operation : String) : Option NfsError → CloseResult
  | none => []
  | some e => [(operation, e)]

/-- `begin_operation`, the operation, and the end of its guard. -/
def OpPhase.step (i : Nat) (s : Shared) : OpPhase → Event → Option (Shared × OpPhase)
  | .start, .go => some (s, if s.closed then .ended else .wantGate)
  | .wantGate, .go => (s.gate.read i).map fun gate => ({ s with gate := gate }, .gated)
  | .gated, .loseState =>
      some ({ s with stateLost := true, gate := s.gate.release i }, .ended)
  | .gated, .go =>
      if s.stateLost || s.closed then some ({ s with gate := s.gate.release i }, .ended)
      else some ({ s with
        lateAdmissions := s.lateAdmissions +
          if s.closed = true ∨ s.stage ≠ .notStarted then 1 else 0 }, .running)
  | .running, .go => some ({ s with gate := s.gate.release i }, .ended)
  | .ended, _ => none
  | _, .cancel => some ({ s with gate := s.gate.release i }, .ended)
  | _, _ => none

/-- `cancellation_safe_close_file` and `FileResource::close`. -/
def CloserPhase.step (s : Shared) : CloserPhase → Event → Option (Shared × CloserPhase)
  | .called, .go => some (s, if s.ready then .entered else .refused)
  | .entered, .go => some ({ s with closed := true }, .marked)
  | .marked, .go =>
      some (if s.stage = .notStarted then { s with stage := .pending } else s, .waiting)
  | .waiting, .go => s.result.map fun result => (s, .returned result)
  | _, _ => none

/-- The task that the first closer starts. -/
def CloseTaskPhase.step (i : Nat) (s : Shared) :
    CloseTaskPhase → Event → Option (Shared × CloseTaskPhase)
  | .start, .go =>
      if s.stage = .pending then some ({ s with stage := .held i }, .wantGate) else none
  | .wantGate, .go => (s.gate.write i).map fun gate => ({ s with gate := gate }, .flushing)
  | .flushing, .answer failure => some (s, .closing (failureOf "commit" failure))
  | .closing failures, .go =>
      some ({ s with closeCalls := s.closeCalls + 1 }, .called failures)
  | .called failures, .answer failure =>
      some ({ s with
        result := some (failures ++ failureOf "close" failure)
        stage := .published
        gate := s.gate.release i }, .ended)
  | _, _ => none

def Task.step (i : Nat) (s : Shared) (t : Task) (e : Event) : Option (Shared × Task) :=
  match t with
  | .op phase => (phase.step i s e).map fun r => (r.1, .op r.2)
  | .closer phase => (phase.step s e).map fun r => (r.1, .closer r.2)
  | .closeTask phase => (phase.step i s e).map fun r => (r.1, .closeTask r.2)
  | .shutdown => if s.ready then some ({ s with ready := false }, .shutdown) else none

/-- Operations and closers begin at any time. -/
def Task.entry : Task → Bool
  | .op .start | .closer .called | .closer .entered | .closeTask .start | .shutdown => true
  | _ => false

def fileProgram : Program Shared Task Event where
  init := ⟨⟨true, false, false, .free, .notStarted, none, 0, 0⟩, []⟩
  entry := Task.entry
  step := Task.step

/-- A closer reaches `spawn_owned` while the client is ready. -/
def ClosersAdmitted (P : TaskPool Shared Task) : TaskEvent Task Event → Prop
  | .spawn _ => True
  | .step i _ => match P.tasks[i]? with
    | some (.closer .called) => P.shared.ready = true
    | _ => True

instance (P : TaskPool Shared Task) (a : TaskEvent Task Event) :
    Decidable (ClosersAdmitted P a) := by
  unfold ClosersAdmitted
  split
  · infer_instance
  · split <;> infer_instance

/-! ## The invariant -/

structure FileInv (s : Shared) : Prop where
  began : s.stage ≠ .notStarted → s.closed = true
  result : s.stage ≠ .published → s.result = none
  calls : s.closeCalls ≤ 1
  early : s.stage = .notStarted ∨ s.stage = .pending → s.closeCalls = 0
  late : s.lateAdmissions = 0

/-- What a task knows at its phase. -/
def Task.Knows (s : Shared) (i : Nat) : Task → Prop
  | .op .gated => i ∈ s.gate.readers
  | .op .running => i ∈ s.gate.readers ∧ s.closeCalls = 0
  | .closer .refused => False
  | .closer .marked => s.closed = true
  | .closer (.returned result) => s.result = some result
  | .closeTask .wantGate => s.stage = .held i ∧ s.closeCalls = 0
  | .closeTask .flushing | .closeTask (.closing _) =>
      s.stage = .held i ∧ s.closeCalls = 0 ∧ s.gate.writer = some i
  | .closeTask (.called _) => s.stage = .held i ∧ s.gate.writer = some i
  | _ => True

/-- What the step of one task leaves to the others. -/
structure Leaves (i : Nat) (s s' : Shared) : Prop where
  gate : RwLock.Kept i s.gate s'.gate
  closed : s.closed = true → s'.closed = true
  held : ∀ j, j ≠ i → s.stage = .held j → s'.stage = .held j
  /-- The call of `close_stateful` is made by the holder of the gate. -/
  calls : s'.closeCalls = s.closeCalls ∨ s.gate.writer = some i ∧ s.stage = .held i
  result : s.result = none ∨ s'.result = s.result

variable {i : Nat} {s s' : Shared} {e : Event} {t : Task}

theorem Leaves.knows {j : Nat} (h : Leaves i s s') (hNe : j ≠ i) (hKnows : t.Knows s j) :
    t.Knows s' j := by
  -- a reader excludes the writer that calls, and so does another close task
  have hReader : j ∈ s.gate.readers → s'.closeCalls = s.closeCalls := fun hMem =>
    h.calls.resolve_right fun hWriter => RwLock.not_mem_readers hWriter.1 j hMem
  have hHeld : s.stage = .held j → s'.closeCalls = s.closeCalls := fun hStage =>
    h.calls.resolve_right fun hWriter => hNe (by
      have hEq := hStage.symm.trans hWriter.2
      cases hEq
      rfl)
  cases t with
  | op phase =>
      cases phase with
      | gated => exact h.gate.reader j hNe hKnows
      | running =>
          obtain ⟨hMem, hCalls⟩ := hKnows
          exact ⟨h.gate.reader j hNe hMem, (hReader hMem).trans hCalls⟩
      | _ => trivial
  | closer phase =>
      cases phase with
      | refused => exact hKnows
      | marked => exact h.closed hKnows
      | returned result =>
          rcases h.result with hNone | hSame
          · exact absurd (hNone.symm.trans hKnows) nofun
          · exact hSame.trans hKnows
      | _ => trivial
  | closeTask phase =>
      cases phase with
      | wantGate =>
          obtain ⟨hStage, hCalls⟩ := hKnows
          exact ⟨h.held j hNe hStage, (hHeld hStage).trans hCalls⟩
      | flushing | closing _ =>
          obtain ⟨hStage, hCalls, hWriter⟩ := hKnows
          exact ⟨h.held j hNe hStage, (hHeld hStage).trans hCalls, h.gate.writer j hNe hWriter⟩
      | called _ =>
          obtain ⟨hStage, hWriter⟩ := hKnows
          exact ⟨h.held j hNe hStage, h.gate.writer j hNe hWriter⟩
      | _ => trivial
  | shutdown => trivial

/-- What one step has to show. -/
def StepOk (i : Nat) (s s' : Shared) (t' : Task) : Prop :=
  FileInv s' ∧ Leaves i s s' ∧ t'.Knows s' i

theorem Leaves.refl : Leaves i s s :=
  ⟨.refl, id, fun _ _ => id, .inl rfl, .inr rfl⟩

/-- A step that changes nothing but the gate and whether state is lost. -/
theorem StepOk.ofGate {t' : Task} (h : FileInv s) (lost : Bool) {gate : RwLock}
    (hGate : RwLock.Kept i s.gate gate)
    (hKnows : t'.Knows { s with gate := gate, stateLost := lost } i) :
    StepOk i s { s with gate := gate, stateLost := lost } t' :=
  ⟨⟨h.began, h.result, h.calls, h.early, h.late⟩,
    ⟨hGate, id, fun _ _ => id, .inl rfl, .inr rfl⟩, hKnows⟩

theorem OpPhase.stepOk {phase next : OpPhase} (h : FileInv s) (hOwn : Task.Knows s i (.op phase))
    (hStep : phase.step i s e = some (s', next)) : StepOk i s s' (.op next) := by
  unfold OpPhase.step at hStep
  split at hStep
  next =>
    cases hStep
    exact ⟨h, .refl, by split <;> trivial⟩
  next =>
    obtain ⟨gate, hRead, hEq⟩ := Option.map_eq_some_iff.mp hStep
    cases hEq
    have hMem : i ∈ gate.readers := by
      rw [(RwLock.read_eq_some hRead).2]
      exact List.mem_cons_self
    exact .ofGate h s.stateLost (.read hRead) hMem
  next =>
    cases hStep
    exact .ofGate h true .release trivial
  next =>
    split at hStep
    next =>
      cases hStep
      exact .ofGate h s.stateLost .release trivial
    next hOpen =>
      cases hStep
      have hClosed : s.closed = false := by
        cases hFlag : s.closed with
        | false => rfl
        | true => exact absurd (by rw [hFlag, Bool.or_true]) hOpen
      -- the flag is set before the close starts, so none has started
      have hStage : s.stage = .notStarted := by
        by_contra hStarted
        exact absurd (hClosed.symm.trans (h.began hStarted)) nofun
      have hLate : s.lateAdmissions +
          (if s.closed = true ∨ s.stage ≠ .notStarted then 1 else 0) = 0 := by
        rw [h.late, hClosed, hStage]
        rfl
      exact ⟨⟨h.began, h.result, h.calls, h.early, hLate⟩,
        ⟨.refl, id, fun _ _ => id, .inl rfl, .inr rfl⟩, hOwn, h.early (.inl hStage)⟩
  next =>
    cases hStep
    exact .ofGate h s.stateLost .release trivial
  next => cases hStep
  next =>
    cases hStep
    exact .ofGate h s.stateLost .release trivial
  next => cases hStep

theorem CloserPhase.stepOk {phase next : CloserPhase} (h : FileInv s)
    (hOwn : Task.Knows s i (.closer phase)) (hReady : phase = .called → s.ready = true)
    (hStep : phase.step s e = some (s', next)) : StepOk i s s' (.closer next) := by
  unfold CloserPhase.step at hStep
  split at hStep
  next =>
    cases hStep
    exact ⟨h, .refl, by rw [hReady rfl]; trivial⟩
  next =>
    cases hStep
    exact ⟨⟨fun _ => rfl, h.result, h.calls, h.early, h.late⟩,
      ⟨.refl, fun _ => rfl, fun _ _ => id, .inl rfl, .inr rfl⟩, rfl⟩
  next =>
    cases hStep
    split
    next hFirst =>
      -- the first closer starts the close; no result is out yet
      refine ⟨⟨fun _ => hOwn, fun _ => h.result (by rw [hFirst]; nofun), h.calls,
        fun _ => h.early (.inl hFirst), h.late⟩, ⟨.refl, id, fun j _ hHeld => ?_, .inl rfl,
        .inr rfl⟩, trivial⟩
      exact absurd (hFirst.symm.trans hHeld) nofun
    next => exact ⟨h, .refl, trivial⟩
  next =>
    obtain ⟨result, hResult, hEq⟩ := Option.map_eq_some_iff.mp hStep
    cases hEq
    exact ⟨h, .refl, hResult⟩
  next => cases hStep

/-- The close task: it takes the stage, waits for the gate, makes the one call and reports. -/
theorem CloseTaskPhase.stepOk {phase next : CloseTaskPhase} (h : FileInv s)
    (hOwn : Task.Knows s i (.closeTask phase)) (hStep : phase.step i s e = some (s', next)) :
    StepOk i s s' (.closeTask next) := by
  unfold CloseTaskPhase.step at hStep
  split at hStep
  next =>
    split at hStep
    next hPending =>
      cases hStep
      have hCalls := h.early (.inr hPending)
      refine ⟨⟨fun _ => h.began (by rw [hPending]; nofun),
        fun _ => h.result (by rw [hPending]; nofun), h.calls, fun _ => hCalls, h.late⟩,
        ⟨.refl, id, fun j _ hHeld => ?_, .inl rfl, .inr rfl⟩, rfl, hCalls⟩
      exact absurd (hPending.symm.trans hHeld) nofun
    next => cases hStep
  next =>
    obtain ⟨gate, hWrite, hEq⟩ := Option.map_eq_some_iff.mp hStep
    cases hEq
    obtain ⟨hStage, hCalls⟩ := hOwn
    exact .ofGate h s.stateLost (.write hWrite)
      ⟨hStage, hCalls, (RwLock.write_eq_some hWrite).2.2⟩
  next =>
    cases hStep
    exact ⟨h, .refl, hOwn⟩
  next =>
    cases hStep
    -- CLOSE goes out with the gate held, and only from the stage of this task
    obtain ⟨hStage, hCalls, hWriter⟩ := hOwn
    refine ⟨⟨h.began, h.result, ?_, fun hEarly => ?_, h.late⟩,
      ⟨.refl, id, fun _ _ => id, .inr ⟨hWriter, hStage⟩, .inr rfl⟩, hStage, hWriter⟩
    · exact Nat.le_of_eq (by rw [hCalls])
    · rcases hEarly with hNot | hPending
      · exact absurd (hStage.symm.trans hNot) nofun
      · exact absurd (hStage.symm.trans hPending) nofun
  next =>
    cases hStep
    obtain ⟨hStage, hWriter⟩ := hOwn
    have hNone := h.result (by rw [hStage]; nofun)
    refine ⟨⟨fun _ => h.began (by rw [hStage]; nofun), fun hNot => absurd rfl hNot, h.calls,
      nofun, h.late⟩, ⟨.release, id, fun j hNe hHeld => ?_, .inl rfl, .inl hNone⟩, trivial⟩
    have hEq := hStage.symm.trans hHeld
    cases hEq
    exact absurd rfl hNe
  next => cases hStep

/-- **Every step of a task.** -/
theorem Task.stepOk {t' : Task} (h : FileInv s) (hOwn : t.Knows s i)
    (hReady : t = .closer .called → s.ready = true) (hStep : t.step i s e = some (s', t')) :
    StepOk i s s' t' := by
  cases t with
  | op phase =>
      obtain ⟨r, hPhase, hEq⟩ := Option.map_eq_some_iff.mp hStep
      cases hEq
      exact OpPhase.stepOk h hOwn hPhase
  | closer phase =>
      obtain ⟨r, hPhase, hEq⟩ := Option.map_eq_some_iff.mp hStep
      cases hEq
      exact CloserPhase.stepOk h hOwn (fun hCalled => hReady (by rw [hCalled])) hPhase
  | closeTask phase =>
      obtain ⟨r, hPhase, hEq⟩ := Option.map_eq_some_iff.mp hStep
      cases hEq
      exact CloseTaskPhase.stepOk h hOwn hPhase
  | shutdown =>
      obtain ⟨-, hEq⟩ := Option.ite_none_right_eq_some.mp hStep
      cases hEq
      exact ⟨⟨h.began, h.result, h.calls, h.early, h.late⟩,
        ⟨.refl, id, fun _ _ => id, .inl rfl, .inr rfl⟩, trivial⟩

/-- **Every run** of the tasks of a file. -/
theorem fileOutline :
    Outline fileProgram ClosersAdmitted FileInv fun s i t => t.Knows s i where
  init := ⟨⟨fun h => absurd rfl h, fun _ => rfl, Nat.zero_le _, fun _ => rfl, rfl⟩, nofun⟩
  entry s i t _ hEntry := by
    cases t with
    | op phase => cases phase <;> trivial
    | closer phase => cases phase <;> trivial
    | closeTask phase => cases phase <;> trivial
    | shutdown => trivial
  own P i t e s' t' hHolds hOk hTask hStep := by
    have hReady : t = .closer .called → P.shared.ready = true := by
      rintro rfl
      simpa only [ClosersAdmitted, hTask] using hOk
    obtain ⟨hInv, -, hKnows⟩ := Task.stepOk hHolds.shared (hHolds.task i t hTask) hReady hStep
    exact ⟨hInv, hKnows⟩
  other P i t e s' t' j u hHolds hOk hTask hStep hNe hOther := by
    have hReady : t = .closer .called → P.shared.ready = true := by
      rintro rfl
      simpa only [ClosersAdmitted, hTask] using hOk
    obtain ⟨-, hLeaves, -⟩ := Task.stepOk hHolds.shared (hHolds.task i t hTask) hReady hStep
    exact hLeaves.knows hNe (hHolds.task j u hOther)

/-! ## The property -/

/-- What a caller of `close` has been told; a closer that was refused has no result. -/
def Task.told : Task → Option (Option CloseResult)
  | .closer (.returned result) => some (some result)
  | .closer .refused => some none
  | _ => none

structure ClosedOnce (P : TaskPool Shared Task) : Prop where
  once : P.shared.closeCalls ≤ 1
  /-- After the call of `close_stateful` no admitted operation is under way. -/
  drained : P.shared.closeCalls ≠ 0 → ∀ i : Nat, P.tasks[i]? ≠ some (Task.op .running)
  noLate : P.shared.lateAdmissions = 0
  agree : ∀ (i j : Nat) (t u : Task) (told told' : Option CloseResult), P.tasks[i]? = some t →
    P.tasks[j]? = some u → t.told = some told → u.told = some told' → told = told'

theorem told_of_knows {told : Option CloseResult} (h : t.Knows s i) (hTold : t.told = some told) :
    told = s.result := by
  cases t with
  | closer phase =>
      cases phase with
      | refused => cases h
      | returned result =>
          cases hTold
          exact h.symm
      | _ => cases hTold
  | _ => cases hTold

/-- **Closing a file.** Where every closer reaches `spawn_owned` before the client closes,
`close_stateful` is called at most once, with no admitted operation under way, no operation is
admitted after the close began, and the closers that have returned were told the same. -/
theorem file_closedOnce {P : TaskPool Shared Task}
    (h : fileProgram.machine.ReachableIf ClosersAdmitted P) : ClosedOnce P := by
  have hHolds := fileOutline.holds h
  refine ⟨hHolds.shared.calls, fun hCalled i hRunning => ?_, hHolds.shared.late, ?_⟩
  · exact hCalled (hHolds.task i _ hRunning).2
  · intro i j t u told told' ht hu hTold hTold'
    rw [told_of_knows (hHolds.task i t ht) hTold, told_of_knows (hHolds.task j u hu) hTold']

/-- An operation runs, a closer waits for it, and the file is closed. -/
def closeRun : List (TaskEvent Task Event) :=
  [.spawn (.op .start), .step 0 .go, .step 0 .go, .step 0 .go, .spawn (.closer .called),
    .step 1 .go, .step 1 .go, .step 1 .go, .spawn (.closeTask .start), .step 2 .go, .step 0 .go,
    .step 2 .go, .step 2 (.answer none), .step 2 .go, .step 2 (.answer none), .step 1 .go]

set_option maxRecDepth 8192 in
theorem file_closedOnce_closeRun :
    ∃ P, fileProgram.machine.ReachableIf ClosersAdmitted P ∧ P.shared.closeCalls = 1 ∧
      (P.tasks[1]?.bind Task.told) = some (some []) ∧ ClosedOnce P :=
  have hInit : fileProgram.machine.ReachableIf ClosersAdmitted _ := .init
  have hReach := Machine.reachableIf_of_runChecked closeRun hInit rfl
  ⟨_, hReach, rfl, rfl, file_closedOnce hReach⟩

/-- The client begins to close, and another closer calls. -/
def lateCloserRun : List (TaskEvent Task Event) :=
  closeRun ++ [.spawn .shutdown, .step 3 .go, .spawn (.closer .called), .step 4 .go]

set_option maxRecDepth 8192 in
/-- One closer is told that the close succeeded, the other that the client is closing. -/
theorem closers_disagree :
    ∃ P, fileProgram.machine.Reachable P ∧
      (P.tasks[1]?.bind Task.told) = some (some []) ∧ (P.tasks[4]?.bind Task.told) = some none ∧
      ¬ ClosedOnce P := by
  refine ⟨_, Machine.reachable_of_runFrom lateCloserRun rfl, rfl, rfl, fun h => ?_⟩
  exact absurd (h.agree 1 4 _ _ _ _ rfl rfl rfl rfl) nofun

end NfsRs.Client.FileClose
