import NfsRs.Lib.List
import NfsRs.Lib.Machine

/-!
# NfsRs — the shared budget of busy retries

A request that the server rejects as busy (DELAY, GRACE or JUKEBOX) is sent again behind a wait.
`Budget::backoff` counts these retries and bounds their time. The budget is a task-local value:
`scope` keeps the one that is there and makes one otherwise, `cleanup` makes one in any case, and
`inherit` takes it along into a detached task. The loops of `call_with_busy_retry`,
`compound_budgeted` and `compound_ds_budgeted` draw on the budget of the innermost scope, which
each of them opens.

The model has the threads of one operation: stripes and settlement tasks are threads that inherit
the budget. A thread opens and leaves scopes as it likes, meets busy answers in a loop, waits, ends
its wait without a retry when its reader gives up, and is dropped at any time.

READ and WRITE of NFSv4.1 (`read`, `write_inner`), the establishment of a session and every single
request run within one scope. An operation of several requests without a scope around them has a
budget for each.

## Main results

- `step_cases` : what a step can do.
- `inv_step` : every step keeps what was drawn within the budgets.
- `spent_step` : behind its exhaustion a budget admits no retry.
- `busy_budget` : at most `MAX_RETRIES` retries for each budget, and for each operation within one
  scope; behind an exhaustion only those that were waited with.
- `retries_of_two_requests` : two requests without a common scope have a budget each, and a retry
  that was admitted is sent behind the exhaustion.
-/

namespace NfsRs.Client.BusyBudget

open Lib

/-! ## Budgets -/

def maxRetries : Nat := 16

/-- Milliseconds. -/
def maxElapsed : Nat := 60000

def baseMs : Nat := 200

def capMs : Nat := 5000

/-- `exhausted` is a record: the budget has reported its exhaustion. -/
structure Budget where
  deadline : Nat
  /-- The budget of `cleanup`, for which the caller's deadline does not count. -/
  cleanup : Bool
  retries : Nat
  exhausted : Bool

/-- The wait behind the retries so far, with a random part. -/
def wait (attempt jitter : Nat) : Nat :=
  let maximum := min (baseMs * 2 ^ attempt) capMs
  maximum / 2 + jitter % (maximum - maximum / 2)

/-! ## Threads -/

/-- A scope, which may be that of a loop over one request. -/
structure Frame where
  budget : Nat
  loop : Bool

inductive Phase where
  | running
  /-- It waits with an admitted retry. -/
  | sleeping (budget wake : Nat)
  | gone

structure Thread where
  /-- The budget of `inherit`, or of the scope around the operation. -/
  inherited : Option Nat
  /-- Its open scopes, the innermost first. -/
  frames : List Frame
  phase : Phase

namespace Thread

variable (t : Thread)

/-- The task-local `BUDGET`. -/
def current : Option Nat := (t.frames.head?.map (·.budget)).or t.inherited

/-- The thread runs. -/
def runs : Bool :=
  match t.phase with
  | .running => true
  | _ => false

def sleepsOn (b : Nat) : Bool :=
  match t.phase with
  | .sleeping b' _ => b' == b
  | _ => false

end Thread

/-! ## The operation -/

/-- A request that was sent again, by its budget and its thread. -/
structure Retry where
  budget : Nat
  thread : Nat

/-- `resent` is a record of the requests that were sent again, in order. -/
structure System where
  now : Nat
  /-- `CALLER_DEADLINE`. -/
  caller : Option Nat
  budgets : List Budget
  threads : List Thread
  resent : List Retry

namespace System

variable (s : System)

/-- `cap_deadline`, where no budget is there or it is that of the scope. -/
def capDeadline (deadline : Nat) : Nat := (s.caller.map (min deadline)).getD deadline

/-- `Budget::new`. -/
def newBudget : Budget where
  deadline := s.capDeadline (s.now + maxElapsed)
  cleanup := false
  retries := 0
  exhausted := false

/-- The budget of `cleanup`. -/
def cleanupBudget : Budget where
  deadline := s.now + maxElapsed
  cleanup := true
  retries := 0
  exhausted := false

/-- The deadline within the scope of a budget. -/
def deadlineOf (budget : Budget) : Nat :=
  if budget.cleanup then budget.deadline else s.capDeadline budget.deadline

def exhausted (b : Nat) : Bool := s.budgets[b]?.any (·.exhausted)

/-- The retries on a budget. -/
def sentOn (b : Nat) : Nat := s.resent.countP (·.budget == b)

/-- Thread `i` waits with a retry of the budget. -/
def Asleep (b i : Nat) : Prop := ∃ t, s.threads[i]? = some t ∧ t.sleepsOn b = true

def setThread (i : Nat) (t : Thread) : System := { s with threads := s.threads.set i t }

/-- Report the exhaustion of a budget. -/
def exhaust (b : Nat) (budget : Budget) : System :=
  { s with budgets := s.budgets.set b { budget with exhausted := true } }

/-- A scope with a budget of its own. -/
def openBudget (i : Nat) (t : Thread) (loop : Bool) (budget : Budget) : System :=
  { s with budgets := s.budgets ++ [budget] }.setThread i
    { t with frames := ⟨s.budgets.length, loop⟩ :: t.frames }

/-- `scope`: the budget that is there, or a new one. -/
def scope (i : Nat) (t : Thread) (loop : Bool) : System :=
  match t.current with
  | some b => s.setThread i { t with frames := ⟨b, loop⟩ :: t.frames }
  | none => s.openBudget i t loop s.newBudget

/-- `backoff` up to its wait. -/
def backoff (i : Nat) (t : Thread) (b : Nat) (budget : Budget) (jitter : Nat) : System :=
  let deadline := s.deadlineOf budget
  if deadline ≤ s.now then s.exhaust b budget
  else if budget.retries < maxRetries then
    { s with budgets := s.budgets.set b { budget with retries := budget.retries + 1 } }.setThread i
      -- `sleep_until` at the deadline of the budget at the latest
      { t with phase := .sleeping b (min (s.now + wait budget.retries jitter) deadline) }
  else s.exhaust b budget

/-- `backoff` behind its wait: the request is sent again, unless the time is over. -/
def wakeUp (i : Nat) (t : Thread) (b : Nat) (budget : Budget) : System :=
  let t := { t with phase := Phase.running }
  -- the retry was counted when it was admitted, and is not given back
  if s.deadlineOf budget ≤ s.now then (s.exhaust b budget).setThread i t
  else { s with resent := s.resent ++ [Retry.mk b i] }.setThread i t

end System

inductive Event where
  | tick (elapsed : Nat)
  /-- A scope is entered, or a loop begins with its scope. -/
  | enter (i : Nat) (loop : Bool)
  /-- The innermost scope is left. -/
  | exit (i : Nat)
  /-- A thread with the budget that is there: a stripe, or a detached task with `inherit`. -/
  | inherit (i : Nat)
  /-- The request of the innermost loop is answered as busy. -/
  | busy (i jitter : Nat)
  | wake (i : Nat)
  /-- The reader that the thread waits for has gone: `READ_CANCEL`. -/
  | cancel (i : Nat)
  /-- A scope of `cleanup`. -/
  | cleanup (i : Nat)
  /-- The future is dropped. -/
  | drop (i : Nat)

/-- One step of a thread. -/
def threadStep (s : System) (i : Nat) (t : Thread) : Event → Option System
  | .enter _ loop => if t.runs then some (s.scope i t loop) else none
  | .exit _ =>
    match t.frames with
    | _ :: frames => if t.runs then some (s.setThread i { t with frames := frames }) else none
    | [] => none
  | .inherit _ =>
    if t.runs then
      some { s with threads := s.threads ++ [
        { inherited := t.current, frames := [], phase := .running }] }
    else none
  | .busy _ jitter =>
    match t.frames with
    | ⟨b, true⟩ :: _ =>
      if t.runs then s.budgets[b]?.map fun budget => s.backoff i t b budget jitter else none
    | _ => none
  | .wake _ =>
    match t.phase with
    | .sleeping b wake =>
      if wake ≤ s.now then s.budgets[b]?.map fun budget => s.wakeUp i t b budget else none
    | _ => none
  -- the retry stays counted, and nothing is sent
  | .cancel _ =>
    match t.phase with
    | .sleeping _ _ => some (s.setThread i { t with phase := .running })
    | _ => none
  | .cleanup _ => if t.runs then some (s.openBudget i t false s.cleanupBudget) else none
  | .drop _ => some (s.setThread i { t with phase := .gone })
  | .tick _ => none

def step (s : System) : Event → Option System
  | .tick elapsed => some { s with now := s.now + elapsed }
  | .enter i loop => s.threads[i]?.bind fun t => threadStep s i t (.enter i loop)
  | .exit i => s.threads[i]?.bind fun t => threadStep s i t (.exit i)
  | .inherit i => s.threads[i]?.bind fun t => threadStep s i t (.inherit i)
  | .busy i jitter => s.threads[i]?.bind fun t => threadStep s i t (.busy i jitter)
  | .wake i => s.threads[i]?.bind fun t => threadStep s i t (.wake i)
  | .cancel i => s.threads[i]?.bind fun t => threadStep s i t (.cancel i)
  | .cleanup i => s.threads[i]?.bind fun t => threadStep s i t (.cleanup i)
  | .drop i => s.threads[i]?.bind fun t => threadStep s i t (.drop i)

/-- An operation without a scope around its requests. -/
def System.bare (now : Nat) (caller : Option Nat) : System where
  now := now
  caller := caller
  budgets := []
  threads := [{ inherited := none, frames := [], phase := .running }]
  resent := []

/-- An operation within one scope. -/
def System.scoped (now : Nat) (caller : Option Nat) : System where
  now := now
  caller := caller
  budgets := [(System.bare now caller).newBudget]
  threads := [{ inherited := some 0, frames := [], phase := .running }]
  resent := []

def machine (init : System) : Machine System Event where
  init := init
  step := step

/-! ## What a step can do -/

/-- The moves of a thread. -/
inductive Move (s : System) (i : Nat) (t : Thread) (e : Event) : System → Prop
  | enter (loop : Bool) : Move s i t e (s.scope i t loop)
  | exit {frame : Frame} {frames : List Frame} (hFrames : t.frames = frame :: frames) :
      Move s i t e (s.setThread i { t with frames := frames })
  | inherit : Move s i t e
      { s with threads := s.threads ++ [
        { inherited := t.current, frames := [], phase := .running }] }
  | busy {b : Nat} {budget : Budget} (jitter : Nat) (hRuns : t.runs = true)
      (hb : s.budgets[b]? = some budget) : Move s i t e (s.backoff i t b budget jitter)
  | wake {b wake : Nat} {budget : Budget} (hPhase : t.phase = .sleeping b wake)
      (hb : s.budgets[b]? = some budget) : Move s i t e (s.wakeUp i t b budget)
  | cancel : Move s i t e (s.setThread i { t with phase := .running })
  | cleanup (j : Nat) (hEvent : e = .cleanup j) :
      Move s i t e (s.openBudget i t false s.cleanupBudget)
  | drop : Move s i t e (s.setThread i { t with phase := .gone })

variable {s s' : System} {t : Thread} {e : Event} {i : Nat}

/-- The steps of a thread: only `busy` and `wake` touch a budget that exists. -/
theorem move_of_threadStep (h : threadStep s i t e = some s') : Move s i t e s' := by
  cases e with
  | tick elapsed => cases h
  | enter j loop =>
    simp only [threadStep] at h
    split at h
    · cases h
      exact .enter loop
    · cases h
  | exit j =>
    simp only [threadStep] at h
    split at h
    · rename_i frame frames hFrames
      split at h
      · cases h
        exact .exit hFrames
      · cases h
    · cases h
  | inherit j =>
    simp only [threadStep] at h
    split at h
    · cases h
      exact .inherit
    · cases h
  -- the innermost scope decides which budget pays
  | busy j jitter =>
    simp only [threadStep] at h
    split at h
    · split at h
      · rename_i hRuns
        obtain ⟨budget, hb, rfl⟩ := Option.map_eq_some_iff.mp h
        exact .busy jitter hRuns hb
      · cases h
    · cases h
  | wake j =>
    simp only [threadStep] at h
    split at h
    · rename_i hPhase
      split at h
      · obtain ⟨budget, hb, rfl⟩ := Option.map_eq_some_iff.mp h
        exact .wake hPhase hb
      · cases h
    · cases h
  | cancel j =>
    simp only [threadStep] at h
    split at h
    · cases h
      exact .cancel
    · cases h
  | cleanup j =>
    simp only [threadStep] at h
    split at h
    · cases h
      exact .cleanup j rfl
    · cases h
  | drop j =>
    cases h
    exact .drop

/-- **Inversion.** Time passes, or a thread moves. -/
theorem step_cases (h : step s e = some s') :
    (∃ elapsed, s' = { s with now := s.now + elapsed }) ∨
      ∃ i t, s.threads[i]? = some t ∧ Move s i t e s' := by
  cases e with
  | tick elapsed =>
    cases h
    exact .inl ⟨elapsed, rfl⟩
  | enter i loop | exit i | inherit i | busy i jitter | wake i | cancel i | cleanup i | drop i =>
    obtain ⟨t, ht, hStep⟩ := Option.bind_eq_some_iff.mp h
    exact .inr ⟨i, t, ht, move_of_threadStep hStep⟩

/-! ## The invariant -/

/-- Every budget that the thread refers to is there. -/
structure Thread.Knows (t : Thread) (count : Nat) : Prop where
  inherited : ∀ b ∈ t.inherited, b < count
  frames : ∀ frame ∈ t.frames, frame.budget < count
  sleeping : ∀ b, t.sleepsOn b = true → b < count

/-- What was drawn on a budget, and what its exhaustion says. -/
structure System.Drawn (s : System) (b : Nat) (budget : Budget) : Prop where
  /-- A retry that was sent, or is waited with, was counted. -/
  counted : s.sentOn b + s.threads.countP (·.sleepsOn b) ≤ budget.retries
  le_max : budget.retries ≤ maxRetries
  spent : budget.exhausted = true →
    s.deadlineOf budget ≤ s.now ∨ budget.retries = maxRetries

structure Inv (s : System) : Prop where
  drawn : ∀ b budget, s.budgets[b]? = some budget → s.Drawn b budget
  resent : ∀ r ∈ s.resent, r.budget < s.budgets.length
  threads : ∀ t ∈ s.threads, t.Knows s.budgets.length

namespace Thread.Knows

variable {t : Thread} {count : Nat}

theorem mono {count' : Nat} (h : t.Knows count) (hLe : count ≤ count') : t.Knows count' where
  inherited b hb := Nat.lt_of_lt_of_le (h.inherited b hb) hLe
  frames frame hFrame := Nat.lt_of_lt_of_le (h.frames frame hFrame) hLe
  sleeping b hb := Nat.lt_of_lt_of_le (h.sleeping b hb) hLe

theorem current (h : t.Knows count) : ∀ b ∈ t.current, b < count := by
  intro b hb
  unfold Thread.current at hb
  rcases Option.or_eq_some_iff.mp hb with hHead | ⟨-, hInherited⟩
  · obtain ⟨frame, hFrame, rfl⟩ := Option.map_eq_some_iff.mp hHead
    exact h.frames frame (List.mem_of_head? hFrame)
  · exact h.inherited b hInherited

/-- A thread that does not come to wait. -/
theorem awake (h : t.Knows count) {phase : Phase}
    (hPhase : ∀ b, { t with phase := phase }.sleepsOn b = false) :
    { t with phase := phase }.Knows count where
  inherited := h.inherited
  frames := h.frames
  sleeping b hb := by
    rw [hPhase b] at hb
    cases hb

end Thread.Knows

theorem not_sleepsOn_of_runs (h : t.runs = true) (b : Nat) : t.sleepsOn b = false := by
  unfold Thread.runs at h
  unfold Thread.sleepsOn
  split at h
  · rename_i hPhase
    rw [hPhase]
  · cases h

section Step

variable {s s' : System} {i : Nat} {t : Thread}

/-- A step of a thread that waits for nothing new, and draws nothing. -/
theorem Inv.setThread (h : Inv s) (ht : s.threads[i]? = some t) {t' : Thread}
    (hKnows : t'.Knows s.budgets.length)
    (hSleeps : ∀ b, t'.sleepsOn b = true → t.sleepsOn b = true) : Inv (s.setThread i t') where
  drawn b budget hb := by
    have hDrawn := h.drawn b budget hb
    refine ⟨?_, hDrawn.le_max, hDrawn.spent⟩
    have hCount : (s.threads.set i t').countP (·.sleepsOn b) ≤ s.threads.countP (·.sleepsOn b) :=
      countP_set_le (·.sleepsOn b) ht (hSleeps b)
    exact Nat.le_trans (Nat.add_le_add_left hCount _) hDrawn.counted
  resent := h.resent
  threads := forall_mem_set h.threads hKnows

variable {b : Nat} {budget : Budget}

theorem inv_exhaust (h : Inv s) (hb : s.budgets[b]? = some budget)
    (hWhy : s.deadlineOf budget ≤ s.now ∨ budget.retries = maxRetries) :
    Inv (s.exhaust b budget) where
  drawn b' budget' hb' := by
    rcases of_getElem?_set hb' with ⟨rfl, rfl⟩ | ⟨-, hOld⟩
    · have hDrawn := h.drawn b' budget hb
      exact ⟨hDrawn.counted, hDrawn.le_max, fun _ => hWhy⟩
    · have hDrawn := h.drawn b' budget' hOld
      exact ⟨hDrawn.counted, hDrawn.le_max, hDrawn.spent⟩
  resent b' hb' := by
    rw [System.exhaust, List.length_set]
    exact h.resent b' hb'
  threads t ht := by
    rw [System.exhaust, List.length_set]
    exact h.threads t ht

/-- A budget that is new has not been drawn on. -/
theorem inv_newBudget {new : Budget} (h : Inv s) (hRetries : new.retries = 0)
    (hExhausted : new.exhausted = false) : Inv { s with budgets := s.budgets ++ [new] } where
  drawn b budget hb := by
    rcases of_getElem?_concat hb with hOld | ⟨rfl, rfl⟩
    · have hDrawn := h.drawn b budget hOld
      exact ⟨hDrawn.counted, hDrawn.le_max, hDrawn.spent⟩
    · refine ⟨?_, hRetries ▸ Nat.zero_le _, fun hTrue => absurd (hExhausted.symm.trans hTrue) nofun⟩
      have hResent : s.sentOn s.budgets.length = 0 :=
        List.countP_eq_zero.mpr fun r hr hTrue =>
          Nat.lt_irrefl _ (eq_of_beq hTrue ▸ h.resent r hr)
      have hSleeps : s.threads.countP (·.sleepsOn s.budgets.length) = 0 :=
        List.countP_eq_zero.mpr fun t ht hTrue =>
          Nat.lt_irrefl _ ((h.threads t ht).sleeping _ hTrue)
      show s.sentOn s.budgets.length + s.threads.countP (·.sleepsOn s.budgets.length) ≤ _
      rw [hResent, hSleeps]
      exact Nat.zero_le _
  resent b hb := by
    rw [List.length_append]
    exact Nat.lt_of_lt_of_le (h.resent b hb) (Nat.le_add_right _ _)
  threads t ht := by
    rw [List.length_append]
    exact (h.threads t ht).mono (Nat.le_add_right _ _)

theorem Thread.Knows.push {count : Nat} {loop : Bool} (h : t.Knows count) (hb : b < count) :
    { t with frames := ⟨b, loop⟩ :: t.frames }.Knows count where
  inherited := h.inherited
  frames frame hFrame := by
    rcases List.mem_cons.mp hFrame with rfl | hOld
    · exact hb
    · exact h.frames frame hOld
  sleeping := h.sleeping

theorem inv_openBudget {new : Budget} (h : Inv s) (ht : s.threads[i]? = some t) (loop : Bool)
    (hRetries : new.retries = 0) (hExhausted : new.exhausted = false) :
    Inv (s.openBudget i t loop new) := by
  refine (inv_newBudget h hRetries hExhausted).setThread ht ?_ fun _ hTrue => hTrue
  rw [List.length_append]
  exact ((h.threads t (List.mem_of_getElem? ht)).mono (Nat.le_add_right _ _)).push
    (Nat.lt_succ_self _)

theorem inv_scope (h : Inv s) (ht : s.threads[i]? = some t) (loop : Bool) :
    Inv (s.scope i t loop) := by
  have hKnows := h.threads t (List.mem_of_getElem? ht)
  unfold System.scope
  split
  · rename_i b hCurrent
    exact h.setThread ht (hKnows.push (hKnows.current b hCurrent)) fun _ hTrue => hTrue
  · exact inv_openBudget h ht loop rfl rfl

/-- An admitted retry is counted. -/
theorem inv_admitted {wake : Nat} (h : Inv s) (ht : s.threads[i]? = some t) (hRuns : t.runs = true)
    (hb : s.budgets[b]? = some budget) (hTime : ¬ s.deadlineOf budget ≤ s.now)
    (hLess : budget.retries < maxRetries) :
    Inv ({ s with
      budgets := s.budgets.set b { budget with retries := budget.retries + 1 } }.setThread i
        { t with phase := .sleeping b wake }) := by
  have hKnows := h.threads t (List.mem_of_getElem? ht)
  -- one more retry on the budget, and one more thread asleep on it
  obtain ⟨hLt, -⟩ := List.getElem?_eq_some_iff.mp hb
  refine ⟨fun b' budget' hb' => ?_, fun b' hb' => ?_, ?_⟩
  · rcases of_getElem?_set hb' with ⟨rfl, rfl⟩ | ⟨hNe, hOld⟩
    · have hDrawn := h.drawn b' budget hb
      refine ⟨?_, hLess, fun hExhausted => ?_⟩
      · have hStart : (s.threads.set i { t with phase := .sleeping b' wake }).countP
            (·.sleepsOn b') = s.threads.countP (·.sleepsOn b') + 1 :=
          countP_set_start (·.sleepsOn b') ht (not_sleepsOn_of_runs hRuns b')
            (beq_self_eq_true b')
        show s.sentOn b' + (s.threads.set i _).countP (·.sleepsOn b') ≤ budget.retries + 1
        rw [hStart]
        have hCounted := hDrawn.counted
        omega
      · -- an exhausted budget admits nothing
        rcases hDrawn.spent hExhausted with hOver | hMax
        · exact absurd hOver hTime
        · exact absurd hMax (Nat.ne_of_lt hLess)
    · have hDrawn := h.drawn b' budget' hOld
      refine ⟨?_, hDrawn.le_max, hDrawn.spent⟩
      have hSame : (s.threads.set i { t with phase := .sleeping b wake }).countP
          (·.sleepsOn b') ≤ s.threads.countP (·.sleepsOn b') := by
        refine countP_set_le (·.sleepsOn b') ht fun hTrue => ?_
        exact absurd (eq_of_beq hTrue).symm hNe
      exact Nat.le_trans (Nat.add_le_add_left hSame _) hDrawn.counted
  · show b'.budget < (s.budgets.set b _).length
    rw [List.length_set]
    exact h.resent b' hb'
  · show ∀ u ∈ s.threads.set i _, u.Knows (s.budgets.set b _).length
    rw [List.length_set]
    refine forall_mem_set h.threads ⟨hKnows.inherited, hKnows.frames, fun b' hb' => ?_⟩
    exact eq_of_beq hb' ▸ hLt

theorem inv_backoff {jitter : Nat} (h : Inv s) (ht : s.threads[i]? = some t) (hRuns : t.runs = true)
    (hb : s.budgets[b]? = some budget) : Inv (s.backoff i t b budget jitter) := by
  unfold System.backoff
  dsimp only
  split
  · rename_i hOver
    exact inv_exhaust h hb (.inl hOver)
  split
  · rename_i hTime hLess
    exact inv_admitted h ht hRuns hb hTime hLess
  · rename_i hMax
    exact inv_exhaust h hb
      (.inr (Nat.le_antisymm (h.drawn b budget hb).le_max (Nat.not_lt.mp hMax)))

theorem inv_wakeUp {wake : Nat} (h : Inv s) (ht : s.threads[i]? = some t)
    (hPhase : t.phase = .sleeping b wake) (hb : s.budgets[b]? = some budget) :
    Inv (s.wakeUp i t b budget) := by
  have hKnows := h.threads t (List.mem_of_getElem? ht)
  have hAwake : { t with phase := Phase.running }.Knows s.budgets.length :=
    hKnows.awake fun _ => rfl
  unfold System.wakeUp
  dsimp only
  split
  · rename_i hOver
    refine (inv_exhaust h hb (.inl hOver)).setThread ht ?_ fun _ hTrue => nomatch hTrue
    rw [System.exhaust, List.length_set]
    exact hAwake
  · obtain ⟨hLt, -⟩ := List.getElem?_eq_some_iff.mp hb
    refine ⟨fun b' budget' hb' => ?_, forall_mem_concat h.resent hLt,
      forall_mem_set h.threads hAwake⟩
    have hDrawn := h.drawn b' budget' hb'
    refine ⟨?_, hDrawn.le_max, hDrawn.spent⟩
    -- the retry was waited with, and is sent now
    have hMove := countP_set_add (b := { t with phase := Phase.running }) (·.sleepsOn b') ht
    have hNow : { t with phase := Phase.running }.sleepsOn b' = false := rfl
    have hThen : t.sleepsOn b' = (b == b') := by
      unfold Thread.sleepsOn
      rw [hPhase]
    rw [hNow, hThen, if_neg Bool.false_ne_true] at hMove
    have hCounted := hDrawn.counted
    rw [System.sentOn] at hCounted
    show (s.resent ++ [Retry.mk b i]).countP (·.budget == b') +
      (s.threads.set i _).countP (·.sleepsOn b') ≤ budget'.retries
    rw [List.countP_append, List.countP_singleton]
    dsimp only
    omega

theorem inv_move {e : Event} (h : Inv s) (ht : s.threads[i]? = some t)
    (hMove : Move s i t e s') : Inv s' := by
  have hKnows := h.threads t (List.mem_of_getElem? ht)
  cases hMove with
  | enter loop => exact inv_scope h ht loop
  | exit hFrames =>
    refine h.setThread ht ⟨hKnows.inherited, fun f hf => ?_, hKnows.sleeping⟩
      fun _ hTrue => hTrue
    exact hKnows.frames f (hFrames ▸ List.mem_cons_of_mem _ hf)
  | inherit =>
    -- the new thread runs, so that it waits with nothing
    refine ⟨fun b budget hb => ?_, h.resent, forall_mem_concat h.threads
      ⟨hKnows.current, nofun, nofun⟩⟩
    have hDrawn := h.drawn b budget hb
    refine ⟨?_, hDrawn.le_max, hDrawn.spent⟩
    show s.sentOn b + (s.threads ++ [_]).countP (Thread.sleepsOn · b) ≤ budget.retries
    rw [List.countP_append]
    exact hDrawn.counted
  | busy jitter hRuns hb => exact inv_backoff h ht hRuns hb
  | wake hPhase hb => exact inv_wakeUp h ht hPhase hb
  | cancel => exact h.setThread ht (hKnows.awake fun _ => rfl) fun _ hTrue => nomatch hTrue
  | cleanup j hEvent => exact inv_openBudget h ht false rfl rfl
  | drop => exact h.setThread ht (hKnows.awake fun _ => rfl) fun _ hTrue => nomatch hTrue

end Step

/-- **Step.** -/
theorem inv_step (h : Inv s) (hStep : step s e = some s') : Inv s' := by
  rcases step_cases hStep with ⟨elapsed, rfl⟩ | ⟨i, t, ht, hMove⟩
  · -- a deadline that is over stays over
    refine ⟨fun b budget hb => ?_, h.resent, h.threads⟩
    have hDrawn := h.drawn b budget hb
    refine ⟨hDrawn.counted, hDrawn.le_max, fun hExhausted => ?_⟩
    exact (hDrawn.spent hExhausted).imp_left fun hOver => Nat.le_add_right_of_le hOver
  · exact inv_move h ht hMove

theorem inv_bare (now : Nat) (caller : Option Nat) : Inv (.bare now caller) := by
  refine ⟨fun b budget hb => ?_, nofun, fun t ht => ?_⟩
  · cases hb
  · rw [List.mem_singleton.mp ht]
    exact ⟨nofun, nofun, nofun⟩

theorem inv_scoped (now : Nat) (caller : Option Nat) : Inv (.scoped now caller) := by
  refine ⟨fun b budget hb => ?_, nofun, fun t ht => ?_⟩
  · rcases of_getElem?_concat (l := []) hb with hNone | ⟨rfl, rfl⟩
    · cases hNone
    · exact ⟨Nat.le_refl 0, Nat.zero_le _, nofun⟩
  · rw [List.mem_singleton.mp ht]
    refine ⟨fun b hb => ?_, nofun, nofun⟩
    cases hb
    exact Nat.zero_lt_one

/-! ## Behind an exhaustion -/

/-- A step behind the exhaustion of a budget: nobody comes to wait on it, and what is sent again on
it was waited with. -/
structure SpentStep (b : Nat) (s s' : System) : Prop where
  exhausted : s'.exhausted b = true
  asleep : ∀ i, s'.Asleep b i → s.Asleep b i
  sent : s'.resent = s.resent ∨ ∃ r : Retry, s'.resent = s.resent ++ [r] ∧
    (r.budget = b → s.Asleep b r.thread ∧ ¬ s'.Asleep b r.thread)

section Spent

variable {s s' : System} {b i : Nat} {t : Thread}

/-- A thread that does not come to wait on the budget. -/
theorem asleep_set {t' : Thread} (ht : s.threads[i]? = some t)
    (hSleeps : t'.sleepsOn b = true → t.sleepsOn b = true) (j : Nat)
    (h : ∃ u, (s.threads.set i t')[j]? = some u ∧ u.sleepsOn b = true) : s.Asleep b j := by
  obtain ⟨u, hu, hTrue⟩ := h
  rcases of_getElem?_set hu with ⟨rfl, rfl⟩ | ⟨-, hOld⟩
  · exact ⟨t, ht, hSleeps hTrue⟩
  · exact ⟨u, hOld, hTrue⟩

theorem lt_of_exhausted (h : s.exhausted b = true) : b < s.budgets.length := by
  by_contra hOut
  rw [System.exhausted, List.getElem?_eq_none (Nat.not_lt.mp hOut)] at h
  cases h

variable {b' : Nat} {budget : Budget}

theorem exhausted_set (h : s.exhausted b = true) (hSame : b' = b → budget.exhausted = true) :
    (s.budgets.set b' budget)[b]?.any (·.exhausted) = true := by
  rw [List.getElem?_set]
  split
  next hEq =>
    subst hEq
    rw [if_pos (lt_of_exhausted h)]
    exact hSame rfl
  next => exact h

/-- A busy answer: nothing is admitted on the budget. -/
theorem SpentStep.backoff (h : s.exhausted b = true) (hInv : Inv s) (ht : s.threads[i]? = some t)
    {jitter : Nat} (hb : s.budgets[b']? = some budget) :
    SpentStep b s (s.backoff i t b' budget jitter) := by
  unfold System.backoff
  dsimp only
  split
  · exact ⟨exhausted_set h fun _ => rfl, fun _ hAsleep => hAsleep, .inl rfl⟩
  split
  · rename_i hTime hLess
    have hNe : b' ≠ b := by
      rintro rfl
      rw [System.exhausted, hb] at h
      rcases (hInv.drawn b' budget hb).spent h with hOver | hMax
      · exact hTime hOver
      · exact Nat.ne_of_lt hLess hMax
    refine ⟨exhausted_set h fun hEq => absurd hEq hNe, asleep_set ht fun hTrue => ?_, .inl rfl⟩
    exact absurd (eq_of_beq hTrue) hNe
  · exact ⟨exhausted_set h fun _ => rfl, fun _ hAsleep => hAsleep, .inl rfl⟩

/-- The end of a wait: a retry of the budget was waited with, and is not any more. -/
theorem SpentStep.wakeUp (h : s.exhausted b = true) (ht : s.threads[i]? = some t) {wake : Nat}
    (hPhase : t.phase = .sleeping b' wake) : SpentStep b s (s.wakeUp i t b' budget) := by
  obtain ⟨hLt, -⟩ := List.getElem?_eq_some_iff.mp ht
  unfold System.wakeUp
  dsimp only
  split
  · exact ⟨exhausted_set h fun _ => rfl, asleep_set ht nofun, .inl rfl⟩
  · refine ⟨h, asleep_set ht nofun, .inr ⟨⟨b', i⟩, rfl, ?_⟩⟩
    rintro rfl
    refine ⟨⟨t, ht, ?_⟩, ?_⟩
    · rw [Thread.sleepsOn, hPhase]
      exact beq_self_eq_true b'
    · rintro ⟨u, hu, hTrue⟩
      have hSet : (s.threads.set i { t with phase := .running })[i]? = some u := hu
      rw [List.getElem?_set_self hLt] at hSet
      cases hSet
      cases hTrue

theorem SpentStep.openBudget (h : s.exhausted b = true) (ht : s.threads[i]? = some t) (loop : Bool)
    (new : Budget) : SpentStep b s (s.openBudget i t loop new) := by
  refine ⟨?_, asleep_set ht id, .inl rfl⟩
  show (s.budgets ++ [new])[b]?.any (·.exhausted) = true
  rw [List.getElem?_append_left (lt_of_exhausted h)]
  exact h

/-- **Step.** Behind its exhaustion a budget admits no retry, and of its requests only those are
sent again that were waited with. -/
theorem spent_step {e : Event} (h : s.exhausted b = true) (hInv : Inv s)
    (hStep : step s e = some s') : SpentStep b s s' := by
  rcases step_cases hStep with ⟨elapsed, rfl⟩ | ⟨i, t, ht, hMove⟩
  · exact ⟨h, fun _ hAsleep => hAsleep, .inl rfl⟩
  cases hMove with
  | enter loop =>
    unfold System.scope
    split
    · exact ⟨h, asleep_set ht id, .inl rfl⟩
    · exact .openBudget h ht loop _
  | exit hFrames => exact ⟨h, asleep_set ht id, .inl rfl⟩
  | inherit =>
    refine ⟨h, ?_, .inl rfl⟩
    rintro j ⟨u, hu, hTrue⟩
    rcases of_getElem?_concat hu with hOld | ⟨-, rfl⟩
    · exact ⟨u, hOld, hTrue⟩
    · cases hTrue
  | busy jitter hRuns hb => exact .backoff h hInv ht hb
  | wake hPhase hb => exact .wakeUp h ht hPhase
  | cancel | drop => exact ⟨h, asleep_set ht nofun, .inl rfl⟩
  | cleanup j hEvent => exact .openBudget h ht false _

/-- Retries behind the exhaustion of a budget: those of threads that waited, one for each. -/
structure OnlyWaiting (b : Nat) (s : System) (later : List Retry) : Prop where
  waiting : ∀ r ∈ later, r.budget = b → s.Asleep b r.thread
  once : (later.filter (·.budget == b)).Nodup

/-- **Run.** -/
theorem spent_run {init : System} : ∀ (events : List Event) {s s' : System}, Inv s →
    s.exhausted b = true → (machine init).runFrom s events = some s' →
      ∃ later, s'.resent = s.resent ++ later ∧ OnlyWaiting b s later := by
  intro events
  induction events with
  | nil =>
    intro s s' _ _ hRun
    cases hRun
    exact ⟨[], (List.append_nil _).symm, nofun, .nil⟩
  | cons e rest ih =>
    intro s s' hInv h hRun
    obtain ⟨s₁, hStep, hRest⟩ := Option.bind_eq_some_iff.mp hRun
    have hSpent := spent_step h hInv hStep
    obtain ⟨later, hLater, hOnly⟩ := ih (inv_step hInv hStep) hSpent.exhausted hRest
    have hWaiting : ∀ r ∈ later, r.budget = b → s.Asleep b r.thread :=
      fun r hr hb => hSpent.asleep _ (hOnly.waiting r hr hb)
    rcases hSpent.sent with hSame | ⟨r, hSent, hWas⟩
    · exact ⟨later, by rw [hLater, hSame], hWaiting, hOnly.once⟩
    · refine ⟨r :: later, by rw [hLater, hSent, List.append_assoc]; rfl, fun r' hr' hb => ?_, ?_⟩
      · rcases List.mem_cons.mp hr' with rfl | hOld
        · exact (hWas hb).1
        · exact hWaiting r' hOld hb
      · -- the thread of `r` does not wait any more, so that it is not met again
        rw [List.filter_cons]
        split
        next hb =>
          refine List.nodup_cons.mpr ⟨fun hMem => ?_, hOnly.once⟩
          exact (hWas (eq_of_beq hb)).2
            (hOnly.waiting r (List.mem_filter.mp hMem).1 (eq_of_beq hb))
        next => exact hOnly.once

end Spent

/-! ## One scope -/

/-- There is one budget, and every thread has inherited one. -/
structure OneBudget (s : System) : Prop where
  length : s.budgets.length = 1
  inherited : ∀ t ∈ s.threads, t.inherited.isSome

theorem Thread.isSome_current (h : t.inherited.isSome) : t.current.isSome := by
  unfold Thread.current
  rw [Option.isSome_or, h, Bool.or_true]

theorem OneBudget.setThread (h : OneBudget s) (ht : t.inherited.isSome) :
    OneBudget (s.setThread i t) :=
  ⟨h.length, forall_mem_set h.inherited ht⟩

theorem OneBudget.exhaust {b : Nat} {budget : Budget} (h : OneBudget s) :
    OneBudget (s.exhaust b budget) := by
  refine ⟨?_, h.inherited⟩
  show (s.budgets.set b _).length = 1
  rw [List.length_set]
  exact h.length

theorem OneBudget.backoff {b jitter : Nat} {budget : Budget} (h : OneBudget s)
    (ht : t.inherited.isSome) : OneBudget (s.backoff i t b budget jitter) := by
  unfold System.backoff
  dsimp only
  split
  · exact h.exhaust
  split
  · refine ⟨?_, forall_mem_set h.inherited ht⟩
    show (s.budgets.set _ _).length = 1
    rw [List.length_set]
    exact h.length
  · exact h.exhaust

/-- Nothing is cleaned up on a budget of its own. -/
def NoCleanup (_ : System) (e : Event) : Prop := ∀ i, e ≠ .cleanup i

/-- **Step.** Within one scope no budget is made, but for a clean-up. -/
theorem oneBudget_step (h : OneBudget s) (hok : NoCleanup s e) (hStep : step s e = some s') :
    OneBudget s' := by
  rcases step_cases hStep with ⟨elapsed, rfl⟩ | ⟨i, t, ht, hMove⟩
  · exact ⟨h.length, h.inherited⟩
  have hSome := h.inherited t (List.mem_of_getElem? ht)
  cases hMove with
  | enter loop =>
    -- `scope` finds the budget that the thread has inherited
    obtain ⟨b, hCurrent⟩ := Option.isSome_iff_exists.mp (Thread.isSome_current hSome)
    rw [System.scope, hCurrent]
    exact h.setThread hSome
  | exit hFrames => exact h.setThread hSome
  | inherit => exact ⟨h.length, forall_mem_concat h.inherited (Thread.isSome_current hSome)⟩
  | busy jitter hRuns hb => exact h.backoff hSome
  | wake hPhase hb =>
    unfold System.wakeUp
    dsimp only
    split
    · exact h.exhaust.setThread hSome
    · exact ⟨h.length, forall_mem_set h.inherited hSome⟩
  | cancel | drop => exact h.setThread hSome
  | cleanup j hEvent => exact absurd hEvent (hok j)

theorem oneBudget_scoped (now : Nat) (caller : Option Nat) : OneBudget (.scoped now caller) := by
  refine ⟨rfl, fun t ht => ?_⟩
  rw [List.mem_singleton.mp ht]
  rfl

/-! ## Main result -/

theorem inv_reachable {init : System} {ok : System → Event → Prop} (hInit : Inv init)
    (h : (machine init).ReachableIf ok s) : Inv s :=
  h.invariant hInit fun _ _ _ _ _ hStep hInv => inv_step hInv hStep

/-- The retries on one budget. -/
theorem Inv.sentOn_le (h : Inv s) (b : Nat) : s.sentOn b ≤ maxRetries := by
  cases hb : s.budgets[b]? with
  | none =>
    have hZero : s.sentOn b = 0 := by
      refine List.countP_eq_zero.mpr fun r hr hTrue => ?_
      exact Nat.not_lt.mpr (List.getElem?_eq_none_iff.mp hb) (eq_of_beq hTrue ▸ h.resent r hr)
    rw [hZero]
    exact Nat.zero_le _
  | some budget =>
    have hDrawn := h.drawn b budget hb
    have hCounted := hDrawn.counted
    have hMax := hDrawn.le_max
    omega

theorem Inv.length_le (h : Inv s) (hOne : OneBudget s) : s.resent.length ≤ maxRetries := by
  have hAll : ∀ r ∈ s.resent, (r.budget == 0) = true := by
    intro r hMem
    have hLt := h.resent r hMem
    rw [hOne.length] at hLt
    exact beq_iff_eq.mpr (Nat.lt_one_iff.mp hLt)
  rw [← List.countP_eq_length.mpr hAll]
  exact h.sentOn_le 0

/-- **The shared budget.** An operation within one scope, with any nested scopes, threads that
inherit, waits that are cancelled, and drops, sends at most `MAX_RETRIES` requests again; every
operation, with its clean-ups, does so for each of its budgets. Once a budget has reported its
exhaustion, only the threads that wait there with a retry send it, each of them once. -/
theorem busy_budget (now : Nat) (caller : Option Nat) :
    (∀ s, (machine (.scoped now caller)).ReachableIf NoCleanup s → s.resent.length ≤ maxRetries) ∧
    ∀ init, init = System.scoped now caller ∨ init = System.bare now caller → ∀ s,
      (machine init).Reachable s → (∀ b, s.sentOn b ≤ maxRetries) ∧
        ∀ b, s.exhausted b = true → ∀ events s', (machine init).runFrom s events = some s' →
          ∃ later, s'.resent = s.resent ++ later ∧ OnlyWaiting b s later := by
  refine ⟨fun s h => ?_, fun init hInit s hReach => ?_⟩
  · have hOne : OneBudget s := h.invariant (oneBudget_scoped now caller)
      fun _ _ _ _ hok hStep hInv => oneBudget_step hInv hok hStep
    exact (inv_reachable (inv_scoped now caller) h).length_le hOne
  · have hInv : Inv init := by
      rcases hInit with rfl | rfl
      · exact inv_scoped now caller
      · exact inv_bare now caller
    have hInv := inv_reachable hInv hReach
    exact ⟨hInv.sentOn_le, fun b hExhausted events s' hRun => spent_run events hInv hExhausted hRun⟩

/-! ## Two requests, and two stripes -/

/-- A request that is answered as busy a number of times. -/
def busyTimes (i count : Nat) : List Event :=
  (List.replicate count [.busy i 0, .tick 2500, .wake i]).flatten

/-- `lookup_path` of NFSv3 with two names: each LOOKUP is a loop with a scope of its own. -/
def twoLookups : List Event :=
  [.enter 0 true] ++ busyTimes 0 16 ++ [.exit 0, .enter 0 true] ++ busyTimes 0 1

/-- Two stripes: the first waits with the last retry when the second finds the budget exhausted. -/
def twoStripes : List Event :=
  [.inherit 0, .enter 0 true, .enter 1 true] ++ busyTimes 0 15 ++ [.busy 0 0, .busy 1 0]

/-- Behind the exhaustion only the first stripe sends again, and once. -/
theorem busy_budget_twoStripes :
    ∃ s, (machine (.scoped 0 none)).Reachable s ∧
      (s.exhausted 0 && s.resent.length == 15) = true ∧ s.resent.length ≤ maxRetries ∧
      ∀ events s', (machine (.scoped 0 none)).runFrom s events = some s' →
        ∃ later, s'.resent = s.resent ++ later ∧ OnlyWaiting 0 s later := by
  have hRun : ((machine (.scoped 0 none)).runFrom (.scoped 0 none) twoStripes).any
      (fun s => s.exhausted 0 && s.resent.length == 15) = true := by decide +kernel
  obtain ⟨s, hReach, hIs⟩ := Lib.Machine.exists_reachable_of_run twoStripes hRun
  obtain ⟨hExhausted, hLength⟩ := (Bool.and_eq_true _ _).mp hIs
  have hBudget := (busy_budget 0 none).2 _ (.inl rfl) s hReach
  exact ⟨s, hReach, hIs, by rw [eq_of_beq hLength]; decide, hBudget.2 0 hExhausted⟩

/-- The path takes one retry too many, and the first stripe is sent again behind the exhaustion. -/
theorem retries_of_two_requests :
    (∃ s, (machine (.bare 0 none)).Reachable s ∧ decide (maxRetries < s.resent.length) = true) ∧
    ((machine (.scoped 0 none)).runFrom (.scoped 0 none) twoStripes).any
      (fun s => s.budgets.any (·.exhausted) && s.resent.length == 15) = true ∧
    ((machine (.scoped 0 none)).runFrom (.scoped 0 none)
      (twoStripes ++ [.tick 2500, .wake 0])).any (fun s => s.resent.length == 16) = true :=
  ⟨Lib.Machine.exists_reachable_of_run (m := machine (.bare 0 none)) twoLookups
    (by decide +kernel), by decide +kernel, by decide +kernel⟩

end NfsRs.Client.BusyBudget
