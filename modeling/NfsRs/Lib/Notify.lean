import Mathlib.Logic.Function.Basic
import NfsRs.Lib.Machine

/-!
# Waiting for a notification

Tasks of a machine make a condition true and then notify, which is a step of its own. A waiter
looks at the condition, makes a future that is woken by every later notification, looks again and
sleeps on the future. So a notification between the second look and the sleep is not lost: the
future was made before the look.

A notification wakes the futures that exist, and the future of a waiter remembers how many
notifications there were when it was made.

## Main results

- `Site.awake_step`, `Site.awake` : whoever sleeps and cannot wake has nothing to wake for, or a
  notification is still to come.
- `Site.shared_reachable` : the machine reaches nothing new.
- `Site.waiter_returns` : once the condition holds, the notifications that are still to come and a
  few steps of its own bring a waiter back.
-/

namespace NfsRs.Lib.Notify

variable {σ α : Type}

/-- What is waited for on a machine. The steps that `owes` marks are followed by a notification,
and every step that makes the condition true is among them. -/
structure Site (σ α : Type) where
  machine : Machine σ α
  done : σ → Bool
  owes : σ → α → Bool
  /-- The waiter looks at the condition before it makes the future, and after it wakes. -/
  early : Bool
  notifies : ∀ {s s' : σ} {a : α}, machine.step s a = some s' → done s = false →
    done s' = true → owes s a = true

inductive Phase where
  | away
  | check
  | create
  /-- With a future made after `seen` notifications. -/
  | recheck (seen : Nat)
  | asleep (seen : Nat)
  | returned
  deriving DecidableEq, Repr

structure State (σ : Type) where
  shared : σ
  /-- Notifications that are still to come. -/
  owed : Nat
  /-- Notifications so far. -/
  notified : Nat
  phase : Nat → Phase

inductive Event (α : Type) where
  | shared (a : α)
  | notify
  | enter (i : Nat)
  | waiter (i : Nat)
  /-- The future of the waiter is dropped. -/
  | leave (i : Nat)

namespace State

def setPhase (s : State σ) (i : Nat) (phase : Phase) : State σ :=
  { s with phase := Function.update s.phase i phase }

end State

namespace Site

/-- Where a waiter begins, and begins again. -/
def entry (site : Site σ α) : Phase := if site.early then .check else .create

/-- A waiter, by its phase; `none` if it sleeps. -/
def next (site : Site σ α) (s : State σ) : Phase → Option Phase
  | .check => some (if site.done s.shared then .returned else .create)
  | .create => some (.recheck s.notified)
  | .recheck seen =>
      some (if site.done s.shared then if site.early then .check else .returned
        else .asleep seen)
  | .asleep seen => if seen < s.notified then some site.entry else none
  | .away | .returned => none

def step (site : Site σ α) (s : State σ) : Event α → Option (State σ)
  | .shared a =>
      (site.machine.step s.shared a).map fun shared =>
        { s with shared := shared, owed := s.owed + (site.owes s.shared a).toNat }
  | .notify =>
      if 0 < s.owed then some { s with owed := s.owed - 1, notified := s.notified + 1 } else none
  | .enter i => if s.phase i = .away then some (s.setPhase i site.entry) else none
  | .waiter i => (site.next s (s.phase i)).map (s.setPhase i)
  | .leave i => some (s.setPhase i .away)

def watched (site : Site σ α) : Machine (State σ) (Event α) where
  init := ⟨site.machine.init, 0, 0, fun _ => .away⟩
  step := site.step

/-! ## No notification is lost -/

/-- What is known of a waiter in a phase. -/
def Fine (site : Site σ α) (s : State σ) : Phase → Prop
  | .recheck seen => seen ≤ s.notified
  | .asleep seen => seen ≤ s.notified ∧
      (seen < s.notified ∨ site.done s.shared = false ∨ 0 < s.owed)
  | _ => True

def Awake (site : Site σ α) (s : State σ) : Prop := ∀ i, site.Fine s (s.phase i)

variable {site : Site σ α} {s s' : State σ}

theorem fine_entry : site.Fine s site.entry := by
  rw [entry]
  split <;> trivial

/-- A waiter goes on. -/
theorem fine_next {phase phase' : Phase} (h : site.Fine s phase)
    (hNext : site.next s phase = some phase') : site.Fine s phase' := by
  cases phase with
  | away => cases hNext
  | check =>
    cases hNext
    split <;> trivial
  | create =>
    cases hNext
    exact Nat.le_refl _
  | recheck seen =>
    cases hNext
    by_cases hDone : site.done s.shared = true
    · rw [if_pos hDone]
      split <;> trivial
    · rw [if_neg hDone]
      exact ⟨h, .inr (.inl (Bool.eq_false_iff.mpr hDone))⟩
  | asleep seen =>
    obtain ⟨-, ⟨⟩⟩ := Option.ite_none_right_eq_some.mp hNext
    exact fine_entry
  | returned => cases hNext

theorem Awake.setPhase (h : site.Awake s) {i : Nat} {phase : Phase} (hFine : site.Fine s phase) :
    site.Awake (s.setPhase i phase) := by
  intro j
  show site.Fine s (Function.update s.phase i phase j)
  by_cases hj : j = i
  · rw [hj, Function.update_self]
    exact hFine
  · rw [Function.update_of_ne hj]
    exact h j

/-- A step of the machine; if it makes the condition true, it owes a notification. -/
theorem Fine.shared {a : α} {shared : σ} (hStep : site.machine.step s.shared a = some shared)
    {phase : Phase} (h : site.Fine s phase) :
    site.Fine { s with shared := shared, owed := s.owed + (site.owes s.shared a).toNat } phase := by
  cases phase with
  | asleep seen =>
    obtain ⟨hSeen, hWakes⟩ := h
    refine ⟨hSeen, ?_⟩
    rcases hWakes with hWakes | hBefore | hOwed
    · exact .inl hWakes
    -- only here can a wake-up get lost: the condition was false when the waiter went to sleep
    · by_cases hDone : site.done shared = true
      · right; right
        show 0 < s.owed + (site.owes s.shared a).toNat
        rw [site.notifies hStep hBefore hDone]
        exact Nat.succ_pos _
      · exact .inr (.inl (Bool.eq_false_iff.mpr hDone))
    · exact .inr (.inr (Nat.lt_of_lt_of_le hOwed (Nat.le_add_right _ _)))
  | recheck seen => exact h
  | _ => trivial

/-- A notification wakes everybody. -/
theorem Fine.notify {phase : Phase} (h : site.Fine s phase) :
    site.Fine { s with owed := s.owed - 1, notified := s.notified + 1 } phase := by
  cases phase with
  | asleep seen => exact ⟨Nat.le_succ_of_le h.1, .inl (Nat.lt_succ_of_le h.1)⟩
  | recheck seen => exact Nat.le_succ_of_le h
  | _ => trivial

theorem awake_step (h : site.Awake s) {a : Event α} (hStep : site.step s a = some s') :
    site.Awake s' := by
  cases a with
  | shared a =>
    obtain ⟨shared, hShared, rfl⟩ := Option.map_eq_some_iff.mp hStep
    exact fun i => (h i).shared hShared
  | notify =>
    obtain ⟨-, ⟨⟩⟩ := Option.ite_none_right_eq_some.mp hStep
    exact fun i => (h i).notify
  | enter i =>
    obtain ⟨-, ⟨⟩⟩ := Option.ite_none_right_eq_some.mp hStep
    exact h.setPhase fine_entry
  | waiter i =>
    obtain ⟨phase, hNext, rfl⟩ := Option.map_eq_some_iff.mp hStep
    exact h.setPhase (fine_next (h i) hNext)
  | leave i =>
    cases hStep
    exact h.setPhase trivial

theorem awake (h : site.watched.Reachable s) : site.Awake s :=
  h.invariant (fun _ => trivial) fun _ _ _ _ _ hStep hAwake => awake_step hAwake hStep

/-- The machine goes its own way. -/
theorem shared_reachable (h : site.watched.Reachable s) : site.machine.Reachable s.shared := by
  have hInit : site.machine.Reachable site.watched.init.shared := .init
  refine h.invariant (I := fun s => site.machine.Reachable s.shared) hInit ?_
  intro s s' a _ _ hStep hShared
  cases a with
  | shared a =>
    obtain ⟨shared, hNext, rfl⟩ := Option.map_eq_some_iff.mp hStep
    exact .step hShared trivial hNext
  | notify =>
    obtain ⟨-, ⟨⟩⟩ := Option.ite_none_right_eq_some.mp hStep
    exact hShared
  | enter i =>
    obtain ⟨-, ⟨⟩⟩ := Option.ite_none_right_eq_some.mp hStep
    exact hShared
  | waiter i =>
    obtain ⟨phase, -, rfl⟩ := Option.map_eq_some_iff.mp hStep
    exact hShared
  | leave i =>
    cases hStep
    exact hShared

/-! ## Waiters return -/

/-- The notifications that are still to come. -/
theorem run_notify : ∀ (n : Nat) {s : State σ}, s.owed = n →
    site.watched.runFrom s (List.replicate n .notify) =
      some { s with owed := 0, notified := s.notified + n }
  | 0, ⟨_, _, _, _⟩, h => by
    cases h
    rfl
  | n + 1, s, h => by
    have hStep : site.watched.step s .notify =
        some { s with owed := n, notified := s.notified + 1 } := by
      show (if 0 < s.owed then _ else _) = _
      rw [if_pos (by omega), h]
      rfl
    rw [List.replicate_succ, Machine.runFrom, hStep, Option.bind_some, run_notify n rfl]
    show some _ = some _
    rw [Nat.add_right_comm, Nat.add_assoc]

/-- Steps of its own bring the waiter back. -/
def Returns (site : Site σ α) (i : Nat) (s : State σ) : Prop :=
  ∃ n s', site.watched.runFrom s (List.replicate n (.waiter i)) = some s' ∧
    s'.phase i = .returned ∧ s'.shared = s.shared

theorem Returns.of_next {i : Nat} (phase : Phase) (hNext : site.next s (s.phase i) = some phase)
    (h : site.Returns i (s.setPhase i phase)) : site.Returns i s := by
  obtain ⟨n, s', hRun, hPhase, hShared⟩ := h
  have hStep : site.watched.step s (.waiter i) = some (s.setPhase i phase) := by
    show (site.next s (s.phase i)).map (s.setPhase i) = _
    rw [hNext]
    rfl
  refine ⟨n + 1, s', ?_, hPhase, hShared⟩
  rw [List.replicate_succ, Machine.runFrom, hStep]
  exact hRun

theorem State.setPhase_self (s : State σ) (i : Nat) (phase : Phase) :
    (s.setPhase i phase).phase i = phase := Function.update_self ..

section

variable {i : Nat} (hDone : site.done s.shared = true)

theorem returns_of_returned (h : s.phase i = .returned) : site.Returns i s := ⟨0, s, rfl, h, rfl⟩

include hDone

theorem returns_of_check (h : s.phase i = .check) : site.Returns i s := by
  refine .of_next .returned ?_ (returns_of_returned (State.setPhase_self s i _))
  rw [h, next, if_pos hDone]

theorem returns_of_recheck {seen : Nat} (h : s.phase i = .recheck seen) : site.Returns i s := by
  have hNext : site.next s (s.phase i) = some (if site.early then .check else .returned) := by
    rw [h, next, if_pos hDone]
  refine .of_next _ hNext ?_
  split
  · exact returns_of_check hDone (State.setPhase_self s i _)
  · exact returns_of_returned (State.setPhase_self s i _)

theorem returns_of_create (h : s.phase i = .create) : site.Returns i s := by
  refine .of_next (.recheck s.notified) ?_ (returns_of_recheck hDone (State.setPhase_self s i _))
  rw [h, next]

theorem returns_of_entry (h : s.phase i = site.entry) : site.Returns i s := by
  rw [entry] at h
  split at h
  · exact returns_of_check hDone h
  · exact returns_of_create hDone h

theorem returns_of_asleep {seen : Nat} (h : s.phase i = .asleep seen) (hWakes : seen < s.notified) :
    site.Returns i s := by
  refine .of_next site.entry ?_ (returns_of_entry hDone (State.setPhase_self s i _))
  rw [h, next, if_pos hWakes]

/-- With nothing owed, whoever waits returns. -/
theorem Awake.returns (h : site.Awake s) (hOwed : s.owed = 0) (hBegun : s.phase i ≠ .away) :
    site.Returns i s := by
  have hFine := h i
  generalize hPhase : s.phase i = phase at hFine hBegun
  cases phase with
  | away => exact absurd rfl hBegun
  | check => exact returns_of_check hDone hPhase
  | create => exact returns_of_create hDone hPhase
  | recheck seen => exact returns_of_recheck hDone hPhase
  | returned => exact returns_of_returned hPhase
  | asleep seen =>
    obtain ⟨-, hWakes | hNot | hOwes⟩ := hFine
    · exact returns_of_asleep hDone hPhase hWakes
    · exact absurd (hNot.symm.trans hDone) Bool.false_ne_true
    · omega

end

/-- **Waiters return.** -/
theorem waiter_returns {i : Nat} (h : site.watched.Reachable s) (hBegun : s.phase i ≠ .away)
    (hDone : site.done s.shared = true) : ∃ n s',
      site.watched.runFrom s (List.replicate s.owed .notify ++ List.replicate n (.waiter i)) =
        some s' ∧ s'.phase i = .returned ∧ s'.shared = s.shared := by
  have hNotified := @run_notify _ _ site s.owed s rfl
  have hReach : site.watched.Reachable { s with owed := 0, notified := s.notified + s.owed } :=
    Machine.ReachableIf.run _ h (fun _ _ _ => trivial) hNotified
  obtain ⟨n, s', hRun, hPhase, hShared⟩ := Awake.returns (i := i)
    (s := { s with owed := 0, notified := s.notified + s.owed }) hDone (awake hReach) rfl hBegun
  refine ⟨n, s', ?_, hPhase, hShared⟩
  rw [Machine.runFrom_append, hNotified]
  exact hRun

end Site

end NfsRs.Lib.Notify
