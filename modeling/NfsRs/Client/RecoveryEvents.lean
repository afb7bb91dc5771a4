import Mathlib.Data.List.DropRight
import NfsRs.Client.AbandonedOperations

/-!
# NfsRs — the queue of recovery events

Operations of a client record recovery events, and the application reads or drains them. The
queue is bounded: when it is full, the oldest event gives way and is counted. Each call holds the
lock of the queue from its first access to its last, so the calls of all tasks take effect in one
order, and a run is a list of calls.

What the queue is for is said by a log that keeps every event since the last drain and counts
with unbounded numbers. The application cannot tell the queue from the log that shows its last
events: `serveAll_refines`. A queue without capacity could not be used that way, since the length
is compared for equality and would pass the capacity; `with_recovery_event_capacity` refuses it.

## Main results

- `serveAll_refines` : the queue answers every list of calls as the log does.
- `events_accounted` : what was recorded is drained, still in the queue or counted as dropped, in
  the order in which it was recorded.
-/

namespace NfsRs.Client.RecoveryEvents

open AbandonedOperations (RecoveryEvent)

/-! ## The queue -/

structure RecoveryEventQueue where
  capacity : Nat
  dropped : Nat
  events : List RecoveryEvent

/-- The counter is a `u64`. -/
def maxDropped : Nat := 2 ^ 64 - 1

namespace RecoveryEventQueue

/-- `build`, for the queue. -/
def build (capacity : Nat) : RecoveryEventQueue := ⟨capacity, 0, []⟩

/-- `new`. -/
def new : RecoveryEventQueue := build 256

def withRecoveryEventCapacity (capacity : Nat) : Except NfsError RecoveryEventQueue :=
  if capacity = 0 then .error (.invalidInput "recovery-event capacity must be positive")
  else .ok (build capacity)

def recordRecoveryEvent (q : RecoveryEventQueue) (event : RecoveryEvent) : RecoveryEventQueue :=
  let q := if q.events.length = q.capacity then
      { q with events := q.events.tail, dropped := min (q.dropped + 1) maxDropped }
    else q
  { q with events := q.events ++ [event] }

def drainRecoveryEvents (q : RecoveryEventQueue) : List RecoveryEvent × RecoveryEventQueue :=
  (q.events, { q with events := [] })

end RecoveryEventQueue

inductive Call where
  | record (event : RecoveryEvent)
  | recoveryEvents
  | drain
  | droppedCount

inductive Answer where
  | recorded
  | events (events : List RecoveryEvent)
  | count (dropped : Nat)
  deriving DecidableEq

namespace RecoveryEventQueue

def serve (q : RecoveryEventQueue) : Call → Answer × RecoveryEventQueue
  | .record event => (.recorded, q.recordRecoveryEvent event)
  | .recoveryEvents => (.events q.events, q)
  | .drain => (.events q.drainRecoveryEvents.1, q.drainRecoveryEvents.2)
  | .droppedCount => (.count q.dropped, q)

def serveAll (q : RecoveryEventQueue) : List Call → List Answer × RecoveryEventQueue
  | [] => ([], q)
  | call :: calls =>
    ((q.serve call).1 :: ((q.serve call).2.serveAll calls).1, ((q.serve call).2.serveAll calls).2)

end RecoveryEventQueue

/-! ## The log -/

/-- Every event since the last drain, and how many earlier ones no drain has shown. -/
structure Log where
  lost : Nat
  current : List RecoveryEvent

namespace Log

/-- How many events have been lost, those of the current ones included that are no longer shown. -/
def missed (capacity : Nat) (log : Log) : Nat := log.lost + (log.current.length - capacity)

def serve (capacity : Nat) (log : Log) : Call → Answer × Log
  | .record event => (.recorded, { log with current := log.current ++ [event] })
  | .recoveryEvents => (.events (log.current.rtake capacity), log)
  | .drain => (.events (log.current.rtake capacity), ⟨log.missed capacity, []⟩)
  | .droppedCount => (.count (min (log.missed capacity) maxDropped), log)

def serveAll (capacity : Nat) (log : Log) : List Call → List Answer × Log
  | [] => ([], log)
  | call :: calls =>
    let (answer, next) := log.serve capacity call
    let (answers, last) := next.serveAll capacity calls
    (answer :: answers, last)

end Log

/-! ## The queue shows the log -/

/-- What the queue is for a log. -/
def shown (capacity : Nat) (log : Log) : RecoveryEventQueue :=
  ⟨capacity, min (log.missed capacity) maxDropped, log.current.rtake capacity⟩

section

variable {capacity : Nat}

/-- A full queue drops its oldest event and counts it. -/
theorem record_of_full {log : Log} (event : RecoveryEvent) (hPos : 0 < capacity)
    (hFull : capacity ≤ log.current.length) : (shown capacity log).recordRecoveryEvent event =
      shown capacity { log with current := log.current ++ [event] } := by
  obtain ⟨k, rfl⟩ : ∃ k, capacity = k + 1 := ⟨capacity - 1, by omega⟩
  have hLength : (log.current.rtake (k + 1)).length = k + 1 := by
    rw [List.rtake, List.length_drop]
    omega
  have hTail : (log.current.rtake (k + 1)).tail = log.current.rtake k := by
    rw [List.rtake, List.rtake, List.tail_drop]
    congr 1
    omega
  -- the counter saturates, before and after it counts the dropped event
  have hMissed : min (min (log.lost + (log.current.length - (k + 1))) maxDropped + 1) maxDropped =
      min (log.lost + (log.current.length + 1 - (k + 1))) maxDropped := by
    omega
  simp only [shown, RecoveryEventQueue.recordRecoveryEvent, hLength, if_true, hTail, hMissed,
    Log.missed, List.length_append, List.length_singleton, List.rtake_concat_succ]

theorem record_of_room {log : Log} (event : RecoveryEvent) (hRoom : log.current.length < capacity) :
    (shown capacity log).recordRecoveryEvent event =
      shown capacity { log with current := log.current ++ [event] } := by
  have hAll (l : List RecoveryEvent) (h : l.length ≤ capacity) : l.rtake capacity = l := by
    rw [List.rtake, Nat.sub_eq_zero_of_le h, List.drop_zero]
  have hNext : (log.current ++ [event]).length ≤ capacity := by
    rw [List.length_append]
    exact hRoom
  have hMissed : log.current.length - capacity = (log.current ++ [event]).length - capacity := by
    rw [Nat.sub_eq_zero_of_le hRoom.le, Nat.sub_eq_zero_of_le hNext]
  simp only [shown, RecoveryEventQueue.recordRecoveryEvent, hAll _ hRoom.le, hAll _ hNext,
    Nat.ne_of_lt hRoom, if_false, Log.missed, hMissed]

/-- **One call.** The queue answers as the log does, and shows the log afterwards. -/
theorem serve_shown (hPos : 0 < capacity) (log : Log) (call : Call) :
    (shown capacity log).serve call =
      ((log.serve capacity call).1, shown capacity (log.serve capacity call).2) := by
  cases call with
  | record event =>
    refine congrArg (Answer.recorded, ·) ?_
    by_cases hRoom : log.current.length < capacity
    · exact record_of_room event hRoom
    · exact record_of_full event hPos (Nat.le_of_not_lt hRoom)
  | recoveryEvents => rfl
  | drain =>
    refine congrArg (Answer.events (log.current.rtake capacity), ·) ?_
    -- nothing of an empty log is lost
    have hMissed : (⟨log.missed capacity, []⟩ : Log).missed capacity = log.missed capacity := by
      rw [Log.missed, List.length_nil, Nat.zero_sub, Nat.add_zero]
    show (⟨capacity, min (log.missed capacity) maxDropped, []⟩ : RecoveryEventQueue) =
      ⟨capacity, min ((⟨log.missed capacity, []⟩ : Log).missed capacity) maxDropped,
        [].rtake capacity⟩
    rw [hMissed, List.rtake_nil]
  | droppedCount => rfl

theorem serveAll_shown (hPos : 0 < capacity) (calls : List Call) (log : Log) :
    (shown capacity log).serveAll calls =
      ((log.serveAll capacity calls).1, shown capacity (log.serveAll capacity calls).2) := by
  induction calls generalizing log with
  | nil => rfl
  | cons call calls ih =>
    rw [RecoveryEventQueue.serveAll, serve_shown hPos, ih]
    rfl

end

/-- The queue of a client. -/
def Built (q : RecoveryEventQueue) : Prop :=
  q = .new ∨ ∃ capacity, RecoveryEventQueue.withRecoveryEventCapacity capacity = .ok q

/-- The queue of a client shows an empty log. -/
theorem Built.shown_empty {q : RecoveryEventQueue} (h : Built q) :
    0 < q.capacity ∧ q = shown q.capacity ⟨0, []⟩ := by
  have hBuild (capacity : Nat) : RecoveryEventQueue.build capacity = shown capacity ⟨0, []⟩ := by
    rw [shown, Log.missed, List.rtake_nil, List.length_nil, Nat.zero_sub, Nat.zero_add,
      Nat.zero_min]
    rfl
  obtain rfl | ⟨capacity, hBuilt⟩ := h
  · exact ⟨by decide, hBuild 256⟩
  · rw [RecoveryEventQueue.withRecoveryEventCapacity] at hBuilt
    split at hBuilt
    · cases hBuilt
    · next hPos =>
      cases hBuilt
      exact ⟨Nat.pos_of_ne_zero hPos, hBuild capacity⟩

/-- **Refinement.** No call tells the queue of a client from the log. -/
theorem serveAll_refines {q : RecoveryEventQueue} (h : Built q) (calls : List Call) :
    (q.serveAll calls).1 = ((⟨0, []⟩ : Log).serveAll q.capacity calls).1 := by
  obtain ⟨hPos, hShown⟩ := h.shown_empty
  rw [hShown, serveAll_shown hPos]
  rfl

def sampleEvent (operation : String) : RecoveryEvent :=
  ⟨operation, none, .nfsV3, .uncertain, .reopen, none, ""⟩

/-- A queue of two, three events and a drain. -/
def threeEvents : List Call :=
  [.record (sampleEvent "one"), .record (sampleEvent "two"), .record (sampleEvent "three"),
    .droppedCount, .drain]

def queueOfTwo : RecoveryEventQueue := .build 2

theorem threeEvents_refined : (queueOfTwo.serveAll threeEvents).1 =
    ((⟨0, []⟩ : Log).serveAll 2 threeEvents).1 :=
  serveAll_refines (.inr ⟨2, rfl⟩) threeEvents

/-! ## No event without an account -/

/-- The events that the calls record. -/
def recorded : List Call → List RecoveryEvent
  | [] => []
  | .record event :: calls => event :: recorded calls
  | _ :: calls => recorded calls

/-- The events that the drains among the calls return. -/
def drained : List Call → List Answer → List RecoveryEvent
  | .drain :: calls, .events events :: answers => events ++ drained calls answers
  | _ :: calls, _ :: answers => drained calls answers
  | _, _ => []

section

variable (capacity : Nat)

theorem rtake_sublist (l : List RecoveryEvent) : (l.rtake capacity).Sublist l :=
  List.drop_sublist _ _

theorem length_rtake (l : List RecoveryEvent) :
    (l.rtake capacity).length + (l.length - capacity) = l.length := by
  rw [List.rtake, List.length_drop]
  omega

/-- **A run of the log.** The drained events and the shown ones come from the recorded ones, and
the rest is missed. -/
theorem log_accounted (calls : List Call) (log : Log) :
    (drained calls (log.serveAll capacity calls).1 ++
        (log.serveAll capacity calls).2.current.rtake capacity).Sublist
      (log.current ++ recorded calls) ∧
    log.lost + (log.current ++ recorded calls).length =
      (drained calls (log.serveAll capacity calls).1 ++
        (log.serveAll capacity calls).2.current.rtake capacity).length +
        (log.serveAll capacity calls).2.missed capacity := by
  induction calls generalizing log with
  | nil =>
    have hLength := length_rtake capacity log.current
    simp only [drained, recorded, Log.serveAll, List.nil_append, List.append_nil, Log.missed]
    exact ⟨rtake_sublist capacity _, by omega⟩
  | cons call calls ih =>
    cases call with
    | record event =>
      have ih := ih { log with current := log.current ++ [event] }
      rwa [List.append_assoc] at ih
    | recoveryEvents => exact ih log
    | droppedCount => exact ih log
    -- the current events are returned or missed, and the log behind the drain has none
    | drain =>
      obtain ⟨hSub, hLength⟩ := ih ⟨log.missed capacity, []⟩
      have hShown := length_rtake capacity log.current
      simp only [Log.serveAll, Log.serve, drained, recorded, List.append_assoc]
      refine ⟨(rtake_sublist capacity _).append hSub, ?_⟩
      simp only [List.length_append, List.nil_append, Log.missed] at hLength ⊢
      omega

end

/-- **Accounting.** What was drained, followed by what is still in the queue, are recorded events
in the order in which they were recorded, none of them twice; the queue holds no more than its
capacity; and below the limit of its counter the rest is counted as dropped. -/
theorem events_accounted {q : RecoveryEventQueue} (h : Built q) (calls : List Call) :
    (drained calls (q.serveAll calls).1 ++ (q.serveAll calls).2.events).Sublist (recorded calls) ∧
    (q.serveAll calls).2.events.length ≤ q.capacity ∧
    ((q.serveAll calls).2.dropped < maxDropped →
      (recorded calls).length = (drained calls (q.serveAll calls).1).length +
        (q.serveAll calls).2.events.length + (q.serveAll calls).2.dropped) := by
  obtain ⟨hPos, hShown⟩ := h.shown_empty
  obtain ⟨hSub, hLength⟩ := log_accounted q.capacity calls ⟨0, []⟩
  have hRun : q.serveAll calls = _ := (congrArg (·.serveAll calls) hShown).trans
    (serveAll_shown hPos calls ⟨0, []⟩)
  rw [hRun]
  simp only [List.nil_append, List.length_append, Nat.zero_add] at hSub hLength
  refine ⟨hSub, ?_, fun hDropped => ?_⟩
  · show (List.rtake _ _).length ≤ _
    rw [List.rtake, List.length_drop]
    omega
  -- below its limit the counter has the exact number
  · have hCount := (min_lt_iff.mp hDropped).resolve_right (lt_irrefl _)
    show _ = _ + (List.rtake _ _).length + min _ _
    rw [min_eq_left hCount.le]
    exact hLength

theorem threeEvents_accounted : (recorded threeEvents).length = 3 ∧
    (recorded threeEvents).length =
      (drained threeEvents (queueOfTwo.serveAll threeEvents).1).length +
        (queueOfTwo.serveAll threeEvents).2.events.length +
        (queueOfTwo.serveAll threeEvents).2.dropped :=
  ⟨rfl, (events_accounted (.inr ⟨2, rfl⟩) threeEvents).2.2 (by decide +kernel)⟩

end NfsRs.Client.RecoveryEvents
