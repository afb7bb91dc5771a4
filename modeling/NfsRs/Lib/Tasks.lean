import NfsRs.Lib.List
import NfsRs.Lib.Machine

/-!
# Concurrent tasks over a shared state

A program is a shared state with some tasks, a predicate for the points at which a new task may
begin, and the step that one task takes. Its machine has any number of tasks and moves one of
them at a time; whatever a step meets besides the shared state (a reply, the time, the choice of
a select) is in its label.

A proof outline is an invariant of the shared state and an assertion about each task in it. It
is enough to show that a step keeps the invariant and the assertion of the task that takes it,
and that the assertions of the other tasks are not disturbed. In both, everything asserted of
the pool before the step may be used.

## Main results

- `Program.step_cases` : what a step of the machine can do.
- `Outline.holds` : a proof outline holds in every state reached.
- `RwLock.not_mem_readers` : nobody reads a lock that has a writer.
- `RwLock.Kept` : what a step leaves to the other tasks.
-/

namespace NfsRs.Lib

/-! ## Programs -/

structure TaskPool (σ τ : Type*) where
  shared : σ
  tasks : List τ

inductive TaskEvent (τ ε : Type*) where
  | spawn (t : τ)
  | step (i : Nat) (e : ε)
  deriving DecidableEq, Repr

structure Program (σ τ ε : Type*) where
  init : TaskPool σ τ
  /-- The points at which a task may begin. -/
  entry : τ → Bool
  /-- The step of task `i`. -/
  step : Nat → σ → τ → ε → Option (σ × τ)

namespace Program

variable {σ τ ε : Type*} (p : Program σ τ ε)

def machine : Machine (TaskPool σ τ) (TaskEvent τ ε) where
  init := p.init
  step P
    | .spawn t => if p.entry t then some { P with tasks := P.tasks ++ [t] } else none
    | .step i e =>
      P.tasks[i]?.bind fun t =>
        (p.step i P.shared t e).map fun next => ⟨next.1, P.tasks.set i next.2⟩

variable {p} {P P' : TaskPool σ τ} {a : TaskEvent τ ε}

theorem step_cases (h : p.machine.step P a = some P') :
    (∃ t, a = .spawn t ∧ p.entry t = true ∧ P' = { P with tasks := P.tasks ++ [t] }) ∨
      ∃ i e t s' t', a = .step i e ∧ P.tasks[i]? = some t ∧
        p.step i P.shared t e = some (s', t') ∧ P' = ⟨s', P.tasks.set i t'⟩ := by
  cases a with
  | spawn t =>
    simp only [machine, Option.ite_none_right_eq_some, Option.some.injEq] at h
    exact .inl ⟨t, rfl, h.1, h.2.symm⟩
  | step i e =>
    simp only [machine, Option.bind_eq_some_iff, Option.map_eq_some_iff] at h
    obtain ⟨t, ht, next, hNext, rfl⟩ := h
    exact .inr ⟨i, e, t, next.1, next.2, rfl, ht, hNext, rfl⟩

end Program

/-! ## Proof outlines -/

variable {σ τ ε : Type*}

/-- The invariant of the shared state and the assertions of all tasks. -/
structure Holds (I : σ → Prop) (A : σ → Nat → τ → Prop) (P : TaskPool σ τ) : Prop where
  shared : I P.shared
  task : ∀ i t, P.tasks[i]? = some t → A P.shared i t

structure Outline (p : Program σ τ ε) (ok : TaskPool σ τ → TaskEvent τ ε → Prop)
    (I : σ → Prop) (A : σ → Nat → τ → Prop) : Prop where
  init : Holds I A p.init
  entry : ∀ s i t, I s → p.entry t = true → A s i t
  /-- The task that steps. -/
  own : ∀ (P : TaskPool σ τ) (i : Nat) (t : τ) (e : ε) (s' : σ) (t' : τ), Holds I A P →
    ok P (.step i e) → P.tasks[i]? = some t → p.step i P.shared t e = some (s', t') →
      I s' ∧ A s' i t'
  /-- The tasks that do not. -/
  other : ∀ (P : TaskPool σ τ) (i : Nat) (t : τ) (e : ε) (s' : σ) (t' : τ) (j : Nat) (u : τ),
    Holds I A P → ok P (.step i e) → P.tasks[i]? = some t →
      p.step i P.shared t e = some (s', t') → j ≠ i → P.tasks[j]? = some u → A s' j u

variable {p : Program σ τ ε} {ok : TaskPool σ τ → TaskEvent τ ε → Prop} {I : σ → Prop}
  {A : σ → Nat → τ → Prop} {P : TaskPool σ τ}

theorem Outline.holds (h : Outline p ok I A) (hReach : p.machine.ReachableIf ok P) :
    Holds I A P := by
  refine hReach.invariant h.init fun P P' a _ hok hstep hP => ?_
  rcases Program.step_cases hstep with ⟨t, rfl, hEntry, rfl⟩ | ⟨i, e, t, s', t', rfl, ht, hs, rfl⟩
  · refine ⟨hP.shared, fun j u hu => ?_⟩
    rcases of_getElem?_concat hu with hOld | ⟨-, rfl⟩
    · exact hP.task j u hOld
    · exact h.entry _ j u hP.shared hEntry
  · obtain ⟨hShared, hOwn⟩ := h.own P i t e s' t' hP hok ht hs
    refine ⟨hShared, fun j u hu => ?_⟩
    rcases of_getElem?_set hu with ⟨rfl, rfl⟩ | ⟨hNe, hOld⟩
    · exact hOwn
    · exact h.other P i t e s' t' j u hP hok ht hs hNe hOld

/-! ## A lock with readers and one writer -/

/-- The tasks that hold the lock. -/
structure RwLock where
  readers : List Nat
  writer : Option Nat
  exclusive : writer.isSome → readers = []
  deriving DecidableEq, Repr

namespace RwLock

def free : RwLock := ⟨[], none, fun _ => rfl⟩

def read (l : RwLock) (i : Nat) : Option RwLock :=
  if h : l.writer = none then some ⟨i :: l.readers, none, by simp⟩ else none

def write (l : RwLock) (i : Nat) : Option RwLock :=
  if l.writer = none ∧ l.readers = [] then some ⟨[], some i, fun _ => rfl⟩ else none

/-- Whatever the task holds is given back. -/
def release (l : RwLock) (i : Nat) : RwLock where
  readers := l.readers.filter (· ≠ i)
  writer := l.writer.filter (· ≠ i)
  exclusive h := by
    have hSome : l.writer.isSome := by
      cases hw : l.writer with
      | none => rw [hw] at h; exact absurd h (by simp)
      | some _ => rfl
    rw [l.exclusive hSome]
    rfl

variable {l l' : RwLock} {i : Nat}

theorem read_eq_some (h : l.read i = some l') : l.writer = none ∧ l'.readers = i :: l.readers := by
  simp only [read, Option.dite_none_right_eq_some, Option.some.injEq] at h
  obtain ⟨hWriter, rfl⟩ := h
  exact ⟨hWriter, rfl⟩

theorem write_eq_some (h : l.write i = some l') :
    l.readers = [] ∧ l'.readers = [] ∧ l'.writer = some i := by
  obtain ⟨⟨-, hReaders⟩, ⟨⟩⟩ := Option.ite_none_right_eq_some.mp h
  exact ⟨hReaders, rfl, rfl⟩

/-- Whatever the others hold they still hold. -/
structure Kept (i : Nat) (l l' : RwLock) : Prop where
  reader : ∀ j, j ≠ i → j ∈ l.readers → j ∈ l'.readers
  writer : ∀ j, j ≠ i → l.writer = some j → l'.writer = some j

theorem Kept.refl : Kept i l l := ⟨fun _ _ h => h, fun _ _ h => h⟩

theorem Kept.read (h : l.read i = some l') : Kept i l l' := by
  obtain ⟨hWriter, hReaders⟩ := read_eq_some h
  refine ⟨fun j _ hMem => ?_, fun j _ hj => ?_⟩
  · rw [hReaders]
    exact List.mem_cons_of_mem i hMem
  · rw [hWriter] at hj
    cases hj

theorem Kept.write (h : l.write i = some l') : Kept i l l' := by
  obtain ⟨⟨hWriter, hReaders⟩, ⟨⟩⟩ := Option.ite_none_right_eq_some.mp h
  refine ⟨fun j _ hMem => ?_, fun j _ hj => ?_⟩
  · rw [hReaders] at hMem
    cases hMem
  · rw [hWriter] at hj
    cases hj

theorem Kept.release : Kept i l (l.release i) where
  reader j hj hMem := List.mem_filter.mpr ⟨hMem, by simpa using hj⟩
  writer j hj hWriter := by simp [RwLock.release, hWriter, Option.filter, hj]

/-- Nobody reads while there is a writer. -/
theorem not_mem_readers (h : l.writer = some i) (j : Nat) : j ∉ l.readers := by
  rw [l.exclusive (by rw [h]; rfl)]
  exact List.not_mem_nil

end RwLock

end NfsRs.Lib
