import NfsRs.Error
import NfsRs.Lib.Machine

/-!
# NfsRs — failures of operations whose caller has left

The Python adapter runs an operation in a task of its own, and the caller waits for the result.
A caller that is cancelled or runs into its deadline leaves, the operation goes on, and a failure
that matters for recovery becomes a recovery event.

There are two ways to hand the result over. Opens, file operations and closes send it through a
oneshot channel, and the task records the failure when the send fails. Other owned operations
keep it in a slot until the caller acknowledges it, and the task records what was not claimed. A
oneshot send succeeds as long as the receiver exists, so a caller that leaves after the send and
before it has taken the result drops the failure with the channel.
-/

namespace NfsRs.Client.AbandonedOperations

/-! ## Recovery events -/

structure RecoveryEvent where
  operation : String
  safePath : Option String
  protocol : NFSVersion
  outcome : OperationOutcome
  recovery : RecoveryAction
  completedBytes : Option Nat
  message : String
  deriving DecidableEq, Repr

mutual

/-- The events of `record_abandoned_error`. -/
def abandonedEvents (safePath : Option String) : NfsError → List RecoveryEvent
  | .fileClose failures => abandonedEventsAll safePath failures
  | .operationOutcome outcome _ _ recovery completedBytes context _ =>
      if outcome = .uncertain ∨ outcome = .safeToRetry then
        [{ operation := context.operation
           safePath := safePath
           protocol := context.protocol
           outcome := outcome
           recovery := recovery
           completedBytes := completedBytes
           message := "abandoned operation completed with a recovery-relevant failure" }]
      else []
  | .lostOpenState _ =>
      [{ operation := "open state"
         safePath := safePath
         protocol := .unknown
         outcome := .uncertain
         recovery := .reopen
         completedBytes := none
         message := "abandoned operation lost open state" }]
  | _ => []

def abandonedEventsAll (safePath : Option String) :
    List (String × NfsError) → List RecoveryEvent
  | [] => []
  | failure :: rest => abandonedEvents safePath failure.2 ++ abandonedEventsAll safePath rest

end

variable {T : Type}

/-- The events of a result that nobody takes. -/
def eventsOf (safePath : Option String) : Except NfsError T → List RecoveryEvent
  | .ok _ => []
  | .error e => abandonedEvents safePath e

/-! ## One operation and its caller -/

/-- How the result reaches the caller. -/
inductive Handoff where
  | oneshot
  | acknowledged
  deriving DecidableEq, Repr

inductive TaskPhase where
  | running
  /-- The result is in the slot, the caller is notified. -/
  | awaitingAck
  | settled
  deriving DecidableEq, Repr

inductive Waiter (T : Type) where
  | waiting
  | returned (result : Except NfsError T)
  | gone

structure OwnedOperation (T : Type) where
  handoff : Handoff
  safePath : Option String
  task : TaskPhase
  waiter : Waiter T
  /-- The oneshot channel, or the slot of an acknowledged operation. -/
  slot : Option (Except NfsError T)
  /-- What the operation ended with. -/
  result : Option (Except NfsError T)
  recorded : List RecoveryEvent

inductive Event (T : Type) where
  | complete (result : Except NfsError T)
  /-- The caller takes the result; an acknowledgement is sent in the same poll. -/
  | receive
  /-- The caller is cancelled or runs into its deadline. -/
  | leave
  /-- The task finds that no acknowledgement will come. -/
  | ackClosed

namespace OwnedOperation

def step (s : OwnedOperation T) : Event T → Option (OwnedOperation T)
  | .complete result =>
      match s.task, s.handoff with
      | .running, .oneshot =>
          match s.waiter with
          | .waiting =>
              some { s with task := .settled, slot := some result, result := some result }
          | _ =>
              some { s with
                task := .settled
                result := some result
                recorded := s.recorded ++ eventsOf s.safePath result }
      | .running, .acknowledged =>
          some { s with task := .awaitingAck, slot := some result, result := some result }
      | _, _ => none
  | .receive =>
      match s.waiter, s.slot with
      | .waiting, some result =>
          some { s with task := .settled, waiter := .returned result, slot := none }
      | _, _ => none
  | .leave =>
      match s.waiter, s.handoff with
      -- the channel goes with its receiver
      | .waiting, .oneshot => some { s with waiter := .gone, slot := none }
      | .waiting, .acknowledged => some { s with waiter := .gone }
      | _, _ => none
  | .ackClosed =>
      match s.task, s.waiter, s.slot with
      | .awaitingAck, .gone, some result =>
          some { s with
            task := .settled
            slot := none
            recorded := s.recorded ++ eventsOf s.safePath result }
      | _, _, _ => none

end OwnedOperation

open OwnedOperation

def operationMachine (T : Type) (handoff : Handoff) (safePath : Option String) :
    Lib.Machine (OwnedOperation T) (Event T) where
  init := ⟨handoff, safePath, .running, .waiting, none, none, []⟩
  step := OwnedOperation.step

/-- The task is done and the caller no longer waits. -/
def OwnedOperation.Ended (s : OwnedOperation T) : Prop :=
  s.task = .settled ∧ match s.waiter with
    | .waiting => False
    | _ => True

/-- A failure is returned or recorded, and not both. -/
def OwnedOperation.Reported (s : OwnedOperation T) : Prop :=
  ∀ e, s.result = some (.error e) → abandonedEvents s.safePath e ≠ [] →
    (s.waiter = .returned (.error e) ∧ s.recorded = []) ∨
      (s.waiter = .gone ∧ s.recorded = abandonedEvents s.safePath e)

/-- A caller does not leave a oneshot channel that holds a result. -/
def Prompt (s : OwnedOperation T) : Event T → Prop
  | .leave => s.handoff = .oneshot → s.slot = none
  | _ => True

/-! ## The invariant -/

/-- Where the result is, for each phase of the task and the caller. -/
def OwnedOperation.Placed (s : OwnedOperation T) : Prop :=
  match s.task, s.waiter with
  | .running, .returned _ => False
  | .running, _ => s.slot = none ∧ s.result = none ∧ s.recorded = []
  | .awaitingAck, .returned _ => False
  | .awaitingAck, _ =>
      s.handoff = .acknowledged ∧ (∃ r, s.slot = some r ∧ s.result = some r) ∧ s.recorded = []
  | .settled, .waiting => (∃ r, s.slot = some r ∧ s.result = some r) ∧ s.recorded = [] ∧
      s.handoff = .oneshot
  | .settled, .returned r => s.result = some r ∧ s.recorded = []
  | .settled, .gone => ∃ r, s.result = some r ∧ s.recorded = eventsOf s.safePath r

variable {s : OwnedOperation T}

theorem placed_step {s' : OwnedOperation T} {a : Event T} (h : s.Placed) (hPrompt : Prompt s a)
    (hStep : s.step a = some s') : s'.Placed := by
  obtain ⟨handoff, safePath, task, waiter, slot, result, recorded⟩ := s
  cases a with
  | complete r =>
      -- only a running task completes; the handoff decides where the result goes
      cases task <;> cases handoff <;> cases waiter <;> simp [step] at hStep <;>
        subst hStep <;> simp_all [Placed]
  | receive =>
      cases waiter <;> cases slot <;> simp [step] at hStep
      subst hStep
      cases task <;> simp_all [Placed]
  | leave =>
      cases waiter <;> cases handoff <;> simp [step] at hStep <;> subst hStep <;>
        cases task <;> simp_all [Placed, Prompt]
  | ackClosed =>
      cases task <;> cases waiter <;> cases slot <;> simp [step] at hStep
      subst hStep
      simp_all [Placed]

theorem placed_of_reachable {handoff : Handoff} {safePath : Option String}
    (h : (operationMachine T handoff safePath).ReachableIf Prompt s) : s.Placed := by
  refine h.invariant ⟨rfl, rfl, rfl⟩ fun s s' a _ hPrompt hStep hPlaced => ?_
  exact placed_step hPlaced hPrompt hStep

theorem reported_of_placed (h : s.Placed) (hEnded : s.Ended) : s.Reported := by
  obtain ⟨handoff, safePath, task, waiter, slot, result, recorded⟩ := s
  obtain ⟨rfl, hWaiter⟩ := hEnded
  intro e hResult hRelevant
  cases waiter with
  | waiting => cases hWaiter
  | returned r =>
      obtain ⟨hReturned, hRecorded⟩ := h
      obtain rfl := Option.some.inj (hReturned.symm.trans hResult)
      exact .inl ⟨rfl, hRecorded⟩
  | gone =>
      obtain ⟨r, hGone, hRecorded⟩ := h
      obtain rfl := Option.some.inj (hGone.symm.trans hResult)
      exact .inr ⟨rfl, hRecorded⟩

/-- An operation that has not ended can go on. -/
theorem enabled_of_placed [Inhabited T] (h : s.Placed) (hEnded : ¬ s.Ended) :
    ∃ a s', s.step a = some s' := by
  obtain ⟨handoff, safePath, task, waiter, slot, result, recorded⟩ := s
  cases task with
  | running =>
      refine ⟨.complete (.ok default), ?_⟩
      cases handoff <;> cases waiter <;> exact ⟨_, rfl⟩
  | awaitingAck =>
      cases waiter with
      | waiting =>
          obtain ⟨-, ⟨r, hSlot, -⟩, -⟩ := h
          cases hSlot
          exact ⟨.receive, _, rfl⟩
      | returned r => cases h
      | gone =>
          obtain ⟨-, ⟨r, hSlot, -⟩, -⟩ := h
          cases hSlot
          exact ⟨.ackClosed, _, rfl⟩
  | settled =>
      cases waiter with
      | waiting =>
          obtain ⟨⟨r, hSlot, -⟩, -⟩ := h
          cases hSlot
          exact ⟨.receive, _, rfl⟩
      | returned r => exact absurd ⟨rfl, trivial⟩ hEnded
      | gone => exact absurd ⟨rfl, trivial⟩ hEnded

/-- **No lost failure.** Where no caller leaves a oneshot channel that holds its result, an
operation that has ended has its failure returned or recorded, one of the two; and one that has
not ended can go on. -/
theorem failure_reported [Inhabited T] {handoff : Handoff} {safePath : Option String}
    {s : OwnedOperation T} (h : (operationMachine T handoff safePath).ReachableIf Prompt s) :
    (s.Ended → s.Reported) ∧ (¬ s.Ended → ∃ a s', s.step a = some s') :=
  ⟨reported_of_placed (placed_of_reachable h), enabled_of_placed (placed_of_reachable h)⟩

/-- The owned operations that wait for an acknowledgement meet the condition by themselves. -/
theorem prompt_of_acknowledged {safePath : Option String}
    (h : (operationMachine T .acknowledged safePath).Reachable s) :
    (operationMachine T .acknowledged safePath).ReachableIf Prompt s ∧
      s.handoff = .acknowledged := by
  induction h with
  | init => exact ⟨.init, rfl⟩
  | @step s s' a _ _ hStep ih =>
      obtain ⟨hReach, hHandoff⟩ := ih
      refine ⟨hReach.step ?_ hStep, ?_⟩
      · cases a with
        | leave => exact fun hOneshot => absurd (hHandoff.symm.trans hOneshot) nofun
        | _ => trivial
      · have hKept : s'.handoff = s.handoff := by
          change s.step a = some s' at hStep
          unfold step at hStep
          grind
        rw [hKept, hHandoff]

/-- **Acknowledged operations.** No caller can lose the failure of such an operation, whenever it
leaves. -/
theorem acknowledged_failure_reported [Inhabited T] {safePath : Option String}
    {s : OwnedOperation T} (h : (operationMachine T .acknowledged safePath).Reachable s) :
    (s.Ended → s.Reported) ∧ (¬ s.Ended → ∃ a s', s.step a = some s') := by
  have hPlaced := placed_of_reachable (prompt_of_acknowledged h).1
  exact ⟨reported_of_placed hPlaced, enabled_of_placed hPlaced⟩

def lost : Except NfsError Unit := .error (.lostOpenState "lost")

/-- The caller leaves, then the operation fails. -/
def leftFirst : OwnedOperation Unit :=
  ⟨.oneshot, none, .settled, .gone, none, some lost, eventsOf none lost⟩

theorem failure_reported_leftFirst :
    (leftFirst.Ended → leftFirst.Reported) ∧
      (¬ leftFirst.Ended → ∃ a s', leftFirst.step a = some s') :=
  @failure_reported Unit _ .oneshot none _
    ((Lib.Machine.ReachableIf.init.step (a := .leave) (fun _ => rfl) rfl).step
      (a := .complete lost) trivial rfl)

/-- The operation fails; the caller is notified and leaves before it takes the result. -/
def leftLate : OwnedOperation Unit :=
  ⟨.acknowledged, none, .settled, .gone, none, some lost, eventsOf none lost⟩

theorem acknowledged_failure_reported_leftLate :
    leftLate.Ended ∧ leftLate.Reported := by
  have hReach : (operationMachine Unit .acknowledged none).Reachable leftLate :=
    Lib.Machine.reachable_of_runFrom [.complete lost, .leave, .ackClosed] rfl
  exact ⟨⟨rfl, trivial⟩, (acknowledged_failure_reported hReach).1 ⟨rfl, trivial⟩⟩

/-- The operation fails and sends its failure; the caller leaves before it takes it. The
operation has ended, and the failure is neither returned nor recorded. -/
theorem failure_lost :
    ∃ s, (operationMachine Unit .oneshot none).Reachable s ∧ s.Ended ∧ ¬ s.Reported ∧
      s.recorded = [] ∧ s.waiter = .gone := by
  refine ⟨⟨.oneshot, none, .settled, .gone, none, some lost, []⟩, ?_, ⟨rfl, trivial⟩, ?_, rfl,
    rfl⟩
  · exact (Lib.Machine.ReachableIf.init.step (a := .complete lost) trivial rfl).step
      (a := .leave) trivial rfl
  · intro h
    rcases h _ rfl (by simp [abandonedEvents]) with ⟨hReturned, -⟩ | ⟨-, hRecorded⟩
    · cases hReturned
    · simp [abandonedEvents] at hRecorded

end NfsRs.Client.AbandonedOperations
