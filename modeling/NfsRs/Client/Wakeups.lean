import NfsRs.Client.FileClose
import NfsRs.Client.Shutdown
import NfsRs.Lib.Notify
import NfsRs.Rpc.Mux

/-!
# NfsRs — no lost wake-up

Five places of the client wait for a condition with a `Notify`: the drain counters, the lifecycle
of a client, the report of its close, the result of a file's close, and the readiness of a
connection. The models of the core, of files and of connections let such a wait end as soon as
the condition holds. In the source the condition is made true first and the notification is sent
in another step, and a waiter that has looked in between must not sleep through both.

Each wait is a `Site` over the machine of its model: what is waited for, and which of the steps
are followed by `notify_waiters`. The drain counter notifies only if it was at one, and the
publication guard of a connection notifies whether it succeeds or fails.

## Main results

- `drainSite`, `lifecycleSite`, `reportSite`, `fileCloseSite`, `readinessSite` : no step
  makes a condition true without a notification behind it.
- `client_waiter_returns` : whoever waits returns once its condition holds.
-/

namespace NfsRs.Client

open Lib

/-! ## The client core -/

namespace ClientCore

variable {s s' : ClientCore} {a : CoreEvent}

/-- What a step leaves as it is. -/
structure Keeps (s s' : ClientCore) : Prop where
  counts : s'.counts = s.counts
  lifecycle : s'.lifecycle = s.lifecycle
  report : s'.report = s.report

theorem registryStep_keeps (h : s.registryStep a = some s') : Keeps s s' := by
  unfold registryStep at h
  split at h
  case h_5 key =>
    split at h <;> cases h
    rw [unregisterResource]
    split <;> exact ⟨rfl, rfl, rfl⟩
  all_goals
    (try split at h) <;> (try split at h) <;> cases h <;> exact ⟨rfl, rfl, rfl⟩

/-- The guard of a counter is dropped, or given back. -/
def finishes (s : ClientCore) (k : Counter) : CoreEvent → Bool
  | .giveBack i | .finish i => (s.entries[i]?).any (·.counter = k)
  | _ => false

theorem decrement_counts (s : ClientCore) (i : Nat) (k j : Counter) (phase : EntryPhase) :
    ((s.decrement j).setEntry i j phase).counts k =
      if k = j then s.counts k - 1 else s.counts k := by
  show Function.update s.counts j (s.counts j - 1) k = _
  by_cases hk : k = j
  · rw [hk, Function.update_self, if_pos rfl]
  · rw [Function.update_of_ne hk, if_neg hk]

/-- A counter goes down with a guard of its own only. -/
theorem entryStep_counts (h : s.entryStep a = some s') (k : Counter) :
    s.counts k ≤ s'.counts k ∨ (s'.counts k = s.counts k - 1 ∧ s.finishes k a = true) := by
  -- both ends of an entry decrement its own counter, and only that one
  have hDown {i : Nat} {j : Counter} {phase : EntryPhase} (hAt : s.entries[i]? = some ⟨j, phase⟩) :
      s.counts k ≤ ((s.decrement j).setEntry i j .ended).counts k ∨
        (((s.decrement j).setEntry i j .ended).counts k = s.counts k - 1 ∧
          (s.entries[i]?).any (·.counter = k) = true) := by
    rw [decrement_counts, hAt]
    by_cases hk : k = j
    · rw [if_pos hk]
      exact .inr ⟨rfl, decide_eq_true hk.symm⟩
    · rw [if_neg hk]
      exact .inl (Nat.le_refl _)
  cases a with
  | increment i =>
    simp only [entryStep] at h
    split at h
    next j hAt =>
      cases h
      left
      show s.counts k ≤ Function.update s.counts j (s.counts j + 1) k
      by_cases hk : k = j
      · rw [hk, Function.update_self]
        exact Nat.le_succ _
      · rw [Function.update_of_ne hk]
    next => cases h
  | recheck i =>
    simp only [entryStep] at h
    split at h
    next j hAt =>
      split at h <;> cases h <;> exact .inl (Nat.le_refl _)
    next => cases h
  | giveBack i =>
    simp only [entryStep] at h
    split at h
    next j hAt =>
      cases h
      exact hDown hAt
    next => cases h
  | finish i =>
    simp only [entryStep] at h
    split at h
    next j hAt =>
      cases h
      exact hDown hAt
    next => cases h
  | _ => cases h

theorem entryStep_keeps (h : s.entryStep a = some s') :
    s'.lifecycle = s.lifecycle ∧ s'.report = s.report := by
  unfold entryStep at h
  split at h <;> (try split at h) <;> (try split at h) <;> cases h <;> exact ⟨rfl, rfl⟩

/-- The lifecycle is stored by the first closer and at the end of the cleanup. -/
def stores : CoreEvent → Bool
  | .storeClosing _ | .storeClosed => true
  | _ => false

def publishes : CoreEvent → Bool
  | .publishReport => true
  | _ => false

theorem closerStep_keeps (h : s.closerStep a = some s') : s'.counts = s.counts ∧
    (s'.lifecycle = s.lifecycle ∨ stores a = true) ∧ s'.report = s.report := by
  unfold closerStep at h
  split at h
  case h_1 =>
    cases h
    rw [close]
    split <;> exact ⟨rfl, .inl rfl, rfl⟩
  case h_2 =>
    split at h <;> cases h
    exact ⟨rfl, .inr rfl, rfl⟩
  all_goals
    (try split at h) <;> cases h <;> exact ⟨rfl, .inl rfl, rfl⟩

theorem cleanupStep_keeps (h : s.cleanupStep a = some s') : s'.counts = s.counts ∧
    (s'.lifecycle = s.lifecycle ∨ stores a = true) ∧
      (s'.report = s.report ∨ publishes a = true) := by
  unfold cleanupStep at h
  split at h
  case h_6 =>
    split at h <;> cases h
    exact ⟨rfl, .inr rfl, .inl rfl⟩
  case h_7 =>
    split at h <;> cases h
    exact ⟨rfl, .inl rfl, .inr rfl⟩
  all_goals
    (try split at h) <;> (try split at h) <;> cases h <;> exact ⟨rfl, .inl rfl, .inl rfl⟩

/-- **A step of the core**, on what is waited for. -/
theorem step_watched (h : s.step a = some s') :
    (∀ k, s.counts k ≤ s'.counts k ∨ (s'.counts k = s.counts k - 1 ∧ s.finishes k a = true)) ∧
    (s'.lifecycle = s.lifecycle ∨ stores a = true) ∧
    (s'.report = s.report ∨ publishes a = true) := by
  have hSame {s' : ClientCore} (hCounts : s'.counts = s.counts) (k : Counter) :
      s.counts k ≤ s'.counts k ∨ (s'.counts k = s.counts k - 1 ∧ s.finishes k a = true) := by
    rw [hCounts]
    exact .inl (Nat.le_refl _)
  have hParts (h : ((s.entryStep a).or <| (s.registryStep a).or <|
      (s.closerStep a).or (s.cleanupStep a)) = some s') : (∀ k, s.counts k ≤ s'.counts k ∨
        (s'.counts k = s.counts k - 1 ∧ s.finishes k a = true)) ∧
      (s'.lifecycle = s.lifecycle ∨ stores a = true) ∧
      (s'.report = s.report ∨ publishes a = true) := by
    -- the event is one of an entry, of the registry, of a closer or of the cleanup
    rcases Option.or_eq_some_iff.mp h with h | ⟨-, h⟩
    · have hKeeps := entryStep_keeps h
      exact ⟨entryStep_counts h, .inl hKeeps.1, .inl hKeeps.2⟩
    rcases Option.or_eq_some_iff.mp h with h | ⟨-, h⟩
    · have hKeeps := registryStep_keeps h
      exact ⟨hSame hKeeps.counts, .inl hKeeps.lifecycle, .inl hKeeps.report⟩
    rcases Option.or_eq_some_iff.mp h with h | ⟨-, h⟩
    · have hKeeps := closerStep_keeps h
      exact ⟨hSame hKeeps.1, hKeeps.2.1, .inl hKeeps.2.2⟩
    · have hKeeps := cleanupStep_keeps h
      exact ⟨hSame hKeeps.1, hKeeps.2.1, hKeeps.2.2⟩
  cases a with
  | enter k =>
    simp only [step] at h
    split at h <;> cases h <;> exact ⟨hSame rfl, .inl rfl, .inl rfl⟩
  | _ => exact hParts h

end ClientCore

/-- `DrainCounter::wait_for_zero`. A decrement notifies if the counter was at one. -/
def drainSite (k : Counter) : Notify.Site ClientCore CoreEvent where
  machine := coreMachine
  done s := s.counts k == 0
  owes s a := s.counts k == 1 && s.finishes k a
  early := true
  notifies := by
    intro s s' a hStep hBefore hAfter
    rw [beq_eq_false_iff_ne] at hBefore
    rw [beq_iff_eq] at hAfter
    rcases (ClientCore.step_watched hStep).1 k with hUp | ⟨hDown, hFinishes⟩
    · omega
    · have hOne : s.counts k = 1 := by omega
      rw [hFinishes, hOne]
      rfl

/-- `wait_for_lifecycle`. -/
def lifecycleSite (expected : Lifecycle) : Notify.Site ClientCore CoreEvent where
  machine := coreMachine
  done s := decide (s.lifecycle = expected)
  owes _ a := ClientCore.stores a
  early := true
  notifies := by
    intro s s' a hStep hBefore hAfter
    rcases (ClientCore.step_watched hStep).2.1 with hSame | hStores
    · rw [hSame, hBefore] at hAfter
      cases hAfter
    · exact hStores

/-- The loop of `close`. -/
def reportSite : Notify.Site ClientCore CoreEvent where
  machine := coreMachine
  done s := s.report.isSome
  owes _ a := ClientCore.publishes a
  early := false
  notifies := by
    intro s s' a hStep hBefore hAfter
    rcases (ClientCore.step_watched hStep).2.2 with hSame | hPublishes
    · rw [hSame, hBefore] at hAfter
      cases hAfter
    · exact hPublishes

/-! ## Files -/

namespace FileClose

/-- The close task publishes the result. -/
def settles (P : TaskPool Shared Task) : TaskEvent Task Event → Bool
  | .step i (.answer _) =>
      match P.tasks[i]? with
      | some (.closeTask (.called _)) => true
      | _ => false
  | _ => false

theorem op_keeps_result {i : Nat} {s s' : Shared} {phase phase' : OpPhase} {e : Event}
    (h : phase.step i s e = some (s', phase')) : s'.result = s.result := by
  unfold OpPhase.step at h
  split at h
  case h_2 =>
    obtain ⟨gate, -, hGate⟩ := Option.map_eq_some_iff.mp h
    cases hGate
    rfl
  all_goals
    (try split at h) <;> cases h <;> rfl

theorem closer_keeps_result {s s' : Shared} {phase phase' : CloserPhase} {e : Event}
    (h : phase.step s e = some (s', phase')) : s'.result = s.result := by
  unfold CloserPhase.step at h
  split at h
  case h_3 =>
    cases h
    split <;> rfl
  case h_4 =>
    obtain ⟨result, -, hResult⟩ := Option.map_eq_some_iff.mp h
    cases hResult
    rfl
  all_goals
    cases h <;> rfl

theorem closeTask_keeps_result {i : Nat} {s s' : Shared} {phase phase' : CloseTaskPhase}
    {e : Event} (h : phase.step i s e = some (s', phase')) :
    s'.result = s.result ∨ ∃ failures failure, phase = .called failures ∧ e = .answer failure := by
  unfold CloseTaskPhase.step at h
  split at h
  case h_2 =>
    obtain ⟨gate, -, hGate⟩ := Option.map_eq_some_iff.mp h
    cases hGate
    exact .inl rfl
  case h_5 failures failure => exact .inr ⟨failures, failure, rfl, rfl⟩
  all_goals
    (try split at h) <;> cases h <;> exact .inl rfl

/-- The result changes with the last answer of the close task only. -/
theorem step_result {P P' : TaskPool Shared Task} {a : TaskEvent Task Event}
    (h : fileProgram.machine.step P a = some P') :
    P'.shared.result = P.shared.result ∨ settles P a = true := by
  rcases Program.step_cases h with ⟨t, rfl, -, rfl⟩ | ⟨i, e, t, s', t', rfl, hAt, hStep, rfl⟩
  · exact .inl rfl
  cases t with
  | op phase =>
    obtain ⟨next, hNext, hEq⟩ := Option.map_eq_some_iff.mp hStep
    cases hEq
    exact .inl (op_keeps_result hNext)
  | closer phase =>
    obtain ⟨next, hNext, hEq⟩ := Option.map_eq_some_iff.mp hStep
    cases hEq
    exact .inl (closer_keeps_result hNext)
  | closeTask phase =>
    obtain ⟨next, hNext, hEq⟩ := Option.map_eq_some_iff.mp hStep
    cases hEq
    refine (closeTask_keeps_result hNext).imp id ?_
    rintro ⟨failures, failure, rfl, rfl⟩
    rw [settles, hAt]
  | shutdown =>
    obtain ⟨-, hEq⟩ := Option.ite_none_right_eq_some.mp hStep
    cases hEq
    exact .inl rfl

end FileClose

/-- The loop of `FileResource::close`. -/
def fileCloseSite : Notify.Site (TaskPool FileClose.Shared FileClose.Task)
    (TaskEvent FileClose.Task FileClose.Event) where
  machine := FileClose.fileProgram.machine
  done P := P.shared.result.isSome
  owes := FileClose.settles
  early := false
  notifies := by
    intro P P' a hStep hBefore hAfter
    rcases FileClose.step_result hStep with hSame | hSettles
    · rw [hSame, hBefore] at hAfter
      cases hAfter
    · exact hSettles

/-! ## Connections -/

/-- `RebindPublicationGuard`: published, or dropped. -/
def publication : Rpc.MuxEvent → Bool
  | .publish | .handlerErr => true
  | _ => false

/-- Nothing else ends a rebind. -/
theorem mux_readiness {s s' : Rpc.Mux} {a : Rpc.MuxEvent} (h : s.step a = some s') :
    s'.readiness = s.readiness ∨ s'.readiness = .rebinding ∨ publication a = true := by
  have hAbort (s : Rpc.Mux) : s.abortReader.readiness = s.readiness := by
    rw [Rpc.Mux.abortReader]
    split <;> rfl
  cases a with
  | publish => exact .inr (.inr rfl)
  | handlerErr => exact .inr (.inr rfl)
  | shutdown =>
    cases h
    exact .inl (hAbort s)
  -- a reconnect that comes too late ends, the others announce their rebind
  | swap =>
    simp only [Rpc.Mux.step] at h
    split at h
    · split at h <;> cases h
      · exact .inl rfl
      · exact .inr (.inl rfl)
    · cases h
  | _ =>
    simp only [Rpc.Mux.step] at h
    (try split at h) <;> (try split at h) <;> cases h <;> exact .inl rfl

/-- `wait_until_ready`. -/
def readinessSite : Notify.Site Rpc.Mux Rpc.MuxEvent where
  machine := Rpc.muxMachine
  done s := decide (s.readiness ≠ .rebinding)
  owes _ a := publication a
  early := true
  notifies := by
    intro s s' a hStep hBefore hAfter
    rcases mux_readiness hStep with hSame | hRebinding | hPublication
    · rw [hSame, hBefore] at hAfter
      cases hAfter
    · rw [hRebinding] at hAfter
      cases hAfter
    · exact hPublication

/-! ## The waits of the client -/

/-- A wait of the client, with what it watches. -/
inductive Wait where
  | drained (counter : Counter)
  | lifecycle (expected : Lifecycle)
  | report
  | fileClosed
  | connection

def Wait.Watched : Wait → Type
  | drained _ | lifecycle _ | report => ClientCore
  | fileClosed => TaskPool FileClose.Shared FileClose.Task
  | connection => Rpc.Mux

def Wait.Label : Wait → Type
  | drained _ | lifecycle _ | report => CoreEvent
  | fileClosed => TaskEvent FileClose.Task FileClose.Event
  | connection => Rpc.MuxEvent

def Wait.site : (w : Wait) → Notify.Site w.Watched w.Label
  | drained k => drainSite k
  | lifecycle expected => lifecycleSite expected
  | report => reportSite
  | fileClosed => fileCloseSite
  | connection => readinessSite

/-- **No lost wake-up.** In every order of the steps of the client, of its notifications and of any
number of waiters: if the condition of a wait holds, the notifications that are still to come and
steps of the waiter alone bring it back. -/
theorem client_waiter_returns (w : Wait) {s : Notify.State w.Watched} {i : Nat}
    (h : w.site.watched.Reachable s) (hBegun : s.phase i ≠ .away)
    (hDone : w.site.done s.shared = true) : ∃ n s',
      w.site.watched.runFrom s (List.replicate s.owed .notify ++ List.replicate n (.waiter i)) =
        some s' ∧ s'.phase i = .returned ∧ s'.shared = s.shared :=
  Notify.Site.waiter_returns h hBegun hDone

/-- A waiter for the operations falls asleep, and the last guard is dropped without a notification
as yet. -/
def sleepyDrain : List (Notify.Event CoreEvent) :=
  [.shared (.enter .inFlight), .shared (.increment 0), .shared (.recheck 0), .enter 0, .waiter 0,
    .waiter 0, .waiter 0, .shared (.finish 0)]

theorem sleepyDrain_returns : ∃ s : Notify.State ClientCore,
    (drainSite .inFlight).watched.Reachable s ∧ s.phase 0 = .asleep 0 ∧ s.owed = 1 ∧
      ∃ n s', (drainSite .inFlight).watched.runFrom s
        (List.replicate s.owed .notify ++ List.replicate n (.waiter 0)) = some s' ∧
          s'.phase 0 = .returned ∧ s'.shared = s.shared := by
  have hRun : ((drainSite .inFlight).watched.runFrom (drainSite .inFlight).watched.init
      sleepyDrain).any (fun s => decide (s.phase 0 = .asleep 0 ∧ s.owed = 1 ∧
        (drainSite .inFlight).done s.shared = true)) = true := by decide +kernel
  obtain ⟨s, hReach, hTest⟩ := Machine.exists_reachable_of_run sleepyDrain hRun
  obtain ⟨hAsleep, hOwed, hDone⟩ := of_decide_eq_true hTest
  have hBegun : s.phase 0 ≠ .away := by
    rw [hAsleep]
    nofun
  exact ⟨s, hReach, hAsleep, hOwed, client_waiter_returns (.drained .inFlight) hReach hBegun hDone⟩

/-- **The close is not held up.** Once no call is part of a counter, whoever waits for the counter
gets past it. Part of it are admitted operations (tasks, for the other counter) and calls that have
incremented it and not yet passed their second check, or not yet given it back behind one. -/
theorem drained_waiter_returns {k : Counter} {s : Notify.State ClientCore} {i : Nat}
    (h : (drainSite k).watched.Reachable s) (hBegun : s.phase i ≠ .away)
    (hEnded : ∀ e ∈ s.shared.entries, e.holds k = false) : ∃ n s',
      (drainSite k).watched.runFrom s
        (List.replicate s.owed .notify ++ List.replicate n (.waiter i)) = some s' ∧
          s'.phase i = .returned ∧ s'.shared = s.shared := by
  have hInv := coreInv_reachable (Notify.Site.shared_reachable h)
  have hZero : s.shared.counts k = 0 := by
    rw [hInv.counted k, List.countP_eq_zero]
    intro e he
    rw [hEnded e he]
    exact Bool.false_ne_true
  have hDone : (drainSite k).done s.shared = true := beq_iff_eq.mpr hZero
  exact Notify.Site.waiter_returns h hBegun hDone

theorem sleepyDrain_drained : ∃ s : Notify.State ClientCore,
    (drainSite .inFlight).watched.Reachable s ∧ s.phase 0 = .asleep 0 ∧
      ∃ n s', (drainSite .inFlight).watched.runFrom s
        (List.replicate s.owed .notify ++ List.replicate n (.waiter 0)) = some s' ∧
          s'.phase 0 = .returned ∧ s'.shared = s.shared := by
  have hRun : ((drainSite .inFlight).watched.runFrom (drainSite .inFlight).watched.init
      sleepyDrain).any (fun s => decide (s.phase 0 = .asleep 0 ∧
        ∀ e ∈ s.shared.entries, e.holds .inFlight = false)) = true := by decide +kernel
  obtain ⟨s, hReach, hTest⟩ := Machine.exists_reachable_of_run sleepyDrain hRun
  obtain ⟨hAsleep, hEnded⟩ := of_decide_eq_true hTest
  have hBegun : s.phase 0 ≠ .away := by
    rw [hAsleep]
    nofun
  exact ⟨s, hReach, hAsleep, drained_waiter_returns hReach hBegun hEnded⟩

end NfsRs.Client
