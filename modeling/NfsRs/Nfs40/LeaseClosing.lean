import NfsRs.Nfs40.LeaseFence

/-!
# NfsRs — the end of an NFSv4.0 mount

`umount` stores `Closing`, stops the renewal task, waits for its end and stores `Closed`. Every
`mark_…` function is an unconditional store, so a RENEW or a recovery that succeeds in between
makes the mount ready again, and operations are admitted until `mark_closed`.

## Main results

- `closing_terminal` : behind `mark_closing` the mount stays shut to operations as long as no
  RENEW and no recovery succeeds; behind the end of the renewal and `mark_closed` it does so
  whatever comes.
- `ready_after_closing` : a RENEW that was out makes a closing mount ready again, and a new
  operation is admitted.
-/

namespace NfsRs.Nfs40

open Lib

/-! ## Stages -/

/-- How far `umount` has come. -/
inductive Stage where
  /-- `mark_closing` has been called. -/
  | closing
  /-- `mark_closed` has been called behind the end of the renewal. -/
  | shut
  deriving DecidableEq, Repr

def Stage.reached (s : LeaseShared) : Stage → Bool
  | .closing => s.closing
  | .shut => s.shut

/-- `begin_stateful` was called behind the stage. -/
def Stateful.behind (op : Stateful) : Stage → Bool
  | .closing => op.afterClosing
  | .shut => op.afterShut

/-- Where `begin_stateful` stands as long as it has not met a mount that is ready. -/
def StatefulPhase.barred : StatefulPhase → Bool
  | .beginLoad | .beginGate _ | .done _ => true
  | _ => false

/-- An operation that began behind the stage has not been admitted. -/
structure Barred (stage : Stage) (s : LeaseShared) (op : Stateful) : Prop where
  fresh : op.phase = .start → op.admitted = none
  reached : op.phase ≠ .start → op.behind stage = true → stage.reached s = true
  refused : op.phase ≠ .start → op.behind stage = true →
    op.admitted = none ∧ op.phase.barred = true

/-- Behind the stage the mount is not ready. -/
def NotReady (stage : Stage) (s : LeaseShared) : Prop :=
  stage.reached s = true → s.lease.lifecycle ≠ .ready

/-! ## The condition -/

/-- The renewal is about to make the mount ready. -/
def RenewalPhase.readies : RenewalPhase → Bool
  | .marking stores _ _ => stores.contains (.lifecycle .ready)
  | _ => false

def LeaseTask.readies : LeaseTask → Bool
  | .renewal phase _ => phase.readies
  | _ => false

def LeaseEvent.isSuccess : LeaseEvent → Bool
  | .renewed .ok _ | .recovered _ => true
  | _ => false

/-- **No late success.** Behind `mark_closing` no RENEW and no recovery succeeds, and
`mark_closing` does not fall into a `mark_ready`. -/
def NoLateSuccess (P : TaskPool LeaseShared LeaseTask) : TaskEvent LeaseTask LeaseEvent → Prop
  | .spawn _ => True
  | .step i e =>
    (e.isSuccess = true → P.shared.closing = false) ∧
      (P.tasks[i]?.any (fun t => t matches .umount .closing) = true →
        P.tasks.all (fun t => !t.readies) = true)

instance (P : TaskPool LeaseShared LeaseTask) : ∀ a, Decidable (NoLateSuccess P a)
  | .spawn _ => .isTrue trivial
  | .step _ _ => inferInstanceAs (Decidable (_ ∧ _))

/-! ## Operations -/

section operations

variable {i : Nat} {stage : Stage} {s s' : LeaseShared} {op op' : Stateful}

/-- An operation that has got beyond the gate did not begin behind the stage. -/
theorem Barred.not_behind (h : Barred stage s op) (hStart : op.phase ≠ .start)
    (hPhase : op.phase.barred = false) : op.behind stage = false := by
  by_contra hBehind
  have hBarred := (h.refused hStart (by simpa using hBehind)).2
  exact absurd (hPhase.symm.trans hBarred) (by decide)

theorem Barred.of_not_behind (hStart : op.phase ≠ .start) (hBehind : op.behind stage = false) :
    Barred stage s op where
  fresh hPhase := absurd hPhase hStart
  reached _ h := absurd (hBehind.symm.trans h) (by decide)
  refused _ h := absurd (hBehind.symm.trans h) (by decide)

theorem StatefulPhase.beyond_of_underway {phase : StatefulPhase} (h : phase.underway = true) :
    phase ≠ .start ∧ phase.barred = false := by
  cases phase <;> simp_all [underway, begins, barred]

/-- An admitted operation moves on. -/
theorem Barred.underway (h : Barred stage s op) (hUnderway : op.phase.underway = true)
    {phase : StatefulPhase} (hPhase : phase ≠ .start) : Barred stage s' (op.goto phase) := by
  obtain ⟨hStart, hBarred⟩ := StatefulPhase.beyond_of_underway hUnderway
  refine .of_not_behind hPhase ?_
  cases stage <;> exact h.not_behind hStart hBarred

/-- **An operation's own step.** It begins, it is still at the gate of a mount that is not ready,
or it did not begin behind the stage. -/
theorem Barred.own (h : Barred stage s op) (hReady : NotReady stage s)
    (hFrame : StatefulFrame i s s') (hStep : StatefulStep i s op s' op') :
    Barred stage s' op' := by
  cases hStep with
  | start hPhase =>
    have hFresh := h.fresh hPhase
    refine ⟨(by rintro ⟨⟩), fun _ hBehind => ?_, fun _ _ => ⟨hFresh, rfl⟩⟩
    cases stage <;> exact hBehind
  -- the gate lets an operation on to `beginCheck` only when the mount is ready
  | begin phase hBegins hNext hGate =>
    have hStart : op.phase ≠ .start := by
      intro hPhase
      rw [hPhase] at hBegins
      cases hBegins
    refine ⟨fun hPhase => ?_, fun _ hBehind => h.reached hStart (by cases stage <;> exact hBehind),
      fun _ hBehind => ?_⟩
    · have hEq : phase = .start := hPhase
      rw [hEq] at hNext
      exact absurd hNext (by decide)
    · have hOld : op.behind stage = true := by cases stage <;> exact hBehind
      refine ⟨(h.refused hStart hOld).1, ?_⟩
      cases phase with
      | beginCheck before =>
        exact absurd (hGate before rfl) (hReady (h.reached hStart hOld))
      | beginLoad | beginGate _ | done _ => rfl
      | _ => exact absurd hNext (by simp [StatefulPhase.begins, StatefulPhase.isDone])
  | admitted before hPhase =>
    have hNot := h.not_behind (by rw [hPhase]; rintro ⟨⟩) (by rw [hPhase]; rfl)
    exact .of_not_behind (by rintro ⟨⟩) (by cases stage <;> exact hNot)
  | move phase hUnderway hNext _ _ _ =>
    refine h.underway hUnderway ?_
    rintro rfl
    exact absurd hNext (by decide)
  | openRegister hPhase | guard _ hPhase _ | register hPhase =>
    exact h.underway (by rw [hPhase]; rfl) (by rintro ⟨⟩)
  | check phase hUnderway _ _ hNext =>
    refine h.underway hUnderway ?_
    rcases hNext with rfl | rfl
    · rintro ⟨⟩
    · unfold Stateful.afterFinish
      split <;> rintro ⟨⟩
  | activity now hPhase =>
    refine h.underway (by rw [hPhase]; rfl) ?_
    unfold Stateful.afterFinish
    split <;> rintro ⟨⟩
  | pass hUnderway _ | giveUp _ hUnderway => exact h.underway hUnderway (by rintro ⟨⟩)

theorem Barred.mono (h : Barred stage s op)
    (hReached : stage.reached s = true → stage.reached s' = true) : Barred stage s' op :=
  ⟨h.fresh, fun hStart hBehind => hReached (h.reached hStart hBehind), h.refused⟩

end operations

/-! ## The renewal and `umount` -/

section background

variable {stage : Stage} {i : Nat} {s s' : LeaseShared} {e : LeaseEvent}
  {phase phase' : RenewalPhase}

structure StageInv (stage : Stage) (s : LeaseShared) : Prop where
  notReady : NotReady stage s
  ended : s.shut = true → s.renewalEnded = true

/-- What is asked of a run at each stage. -/
def Stage.Allows (P : TaskPool LeaseShared LeaseTask) (a : TaskEvent LeaseTask LeaseEvent) :
    Stage → Prop
  | .closing => NoLateSuccess P a
  | .shut => True

/-- Behind the stage the renewal does not make the mount ready: it meets no success, or it is
over. -/
def RenewalBarred (s : LeaseShared) (phase : RenewalPhase) : Stage → Prop
  | .closing => s.closing = true → phase.readies = false
  | .shut => s.renewalEnded = true → phase = .ended

def TaskBarred (stage : Stage) (s : LeaseShared) (i : Nat) : LeaseTask → Prop
  | .operation op => Barred stage s op
  | .renewal phase _ => i = 0 ∧ RenewalBarred s phase stage
  | .umount phase => .lifecycle .ready ∉ phase.stores
  | .reconnect stores => .lifecycle .ready ∉ stores

/-- What nearly every step keeps. -/
structure Onward (s s' : LeaseShared) : Prop where
  lifecycle : s'.lease.lifecycle = .ready → s.lease.lifecycle = .ready
  closing : s'.closing = s.closing
  shut : s'.shut = s.shut
  renewalEnded : s'.renewalEnded = s.renewalEnded

theorem StatefulFrame.onward (h : StatefulFrame i s s') : Onward s s' :=
  ⟨fun hReady => h.lifecycle ▸ hReady, h.closing, h.shut, h.renewalEnded⟩

theorem Onward.effect {x : LeaseStore} (hReady : x ≠ .lifecycle .ready) :
    Onward s (s.effect x) := by
  refine ⟨fun h => ?_, rfl, rfl, rfl⟩
  cases x with
  | lifecycle value =>
    have hValue : value = .ready := h
    exact absurd (by rw [hValue]) hReady
  | _ => exact h

theorem Onward.reached (h : Onward s s') : stage.reached s' = stage.reached s := by
  cases stage
  · exact h.closing
  · exact h.shut

theorem StageInv.onward (hInv : StageInv stage s) (h : Onward s s') : StageInv stage s' where
  notReady hReached hReady := hInv.notReady (h.reached ▸ hReached) (h.lifecycle hReady)
  ended hShut := by
    rw [h.renewalEnded]
    exact hInv.ended (h.shut ▸ hShut)

theorem TaskBarred.onward {t : LeaseTask} (hTask : TaskBarred stage s i t) (h : Onward s s') :
    TaskBarred stage s' i t := by
  cases t with
  | operation op => exact Barred.mono hTask fun hReached => h.reached ▸ hReached
  | renewal phase recovery =>
    refine ⟨hTask.1, ?_⟩
    cases stage with
    | closing => exact fun hClosing => hTask.2 (h.closing ▸ hClosing)
    | shut => exact fun hEnded => hTask.2 (h.renewalEnded ▸ hEnded)
  | umount _ | reconnect _ => exact hTask

/-- A renewal that is about to make the mount ready is not behind the stage. -/
theorem RenewalBarred.not_reached {rest : List LeaseStore} {lost : Bool} {next : RenewalNext}
    (h : RenewalBarred s (.marking (.lifecycle .ready :: rest) lost next) stage)
    (hInv : StageInv stage s) : stage.reached s = false := by
  by_contra hReached
  have hReached : stage.reached s = true := by simpa using hReached
  cases stage with
  | closing => exact absurd (h hReached) (by simp [RenewalPhase.readies])
  | shut => cases h (hInv.ended hReached)

/-- **The renewal's step and the mount.** -/
theorem StageInv.renewal (hInv : StageInv stage s) (hBarred : RenewalBarred s phase stage)
    (hStep : RenewalStep i s e phase s' phase') : StageInv stage s' := by
  cases hStep with
  | store x rest lost next =>
    by_cases hx : x = .lifecycle .ready
    · subst hx
      refine ⟨fun hReached => ?_, hInv.ended⟩
      have hNot := hBarred.not_reached hInv
      exact absurd (hNot.symm.trans (by cases stage <;> exact hReached)) (by decide)
    · exact hInv.onward (.effect hx)
  | behind lost next =>
    split
    · exact hInv.onward ⟨id, rfl, rfl, rfl⟩
    · exact hInv
  | lock lock next _ => exact hInv.onward ⟨id, rfl, rfl, rfl⟩
  | mark _ _ _ _ _ _ | goto _ _ _ _ => exact hInv

theorem StageInv.note {next : LeaseShared × RenewalPhase} (h : StageInv stage next.1) :
    StageInv stage (RenewalPhase.note next).1 := by
  unfold RenewalPhase.note
  split
  · exact ⟨by cases stage <;> exact h.notReady, fun _ => rfl⟩
  · exact h

theorem renewalStep_flags (hStep : RenewalStep i s e phase s' phase') :
    s'.closing = s.closing ∧ s'.shut = s.shut ∧ s'.renewalEnded = s.renewalEnded := by
  cases hStep with
  | behind lost next => split <;> exact ⟨rfl, rfl, rfl⟩
  | _ => exact ⟨rfl, rfl, rfl⟩

theorem RenewalPhase.readies_of_awaits (h : phase.awaits = true ∨ phase = .ended) :
    phase.readies = false := by
  rcases h with h | rfl
  · cases phase with
    | marking stores lost next => cases h
    | _ => rfl
  · rfl

/-- The renewal does not set about making the mount ready unless it meets a success. -/
theorem readies_of_success (hStep : RenewalStep i s e phase s' phase')
    (hBefore : phase.readies = false) (hSuccess : e.isSuccess = false) :
    phase'.readies = false := by
  cases hStep with
  | store x rest lost next =>
    simp only [RenewalPhase.readies, List.contains_cons, Bool.or_eq_false_iff] at hBefore
    exact hBefore.2
  | behind lost next => exact RenewalPhase.readies_of_awaits (RenewalPhase.behind_awaits s next)
  | lock lock next _ => rfl
  | mark _ stores next _ _ hReady =>
    by_contra hMem
    have hMem : .lifecycle .ready ∈ stores := by simpa [RenewalPhase.readies] using hMem
    obtain ⟨now, rfl | rfl⟩ := hReady hMem <;> cases hSuccess
  | goto _ _ _ hNext => exact RenewalPhase.readies_of_awaits hNext

theorem renewalStep_not_ended (hStep : RenewalStep i s e phase s' phase') : phase ≠ .ended := by
  rintro rfl
  cases hStep with
  | mark _ _ _ h _ _ | goto _ _ h _ => cases h

/-- **The renewal's own step.** -/
theorem RenewalBarred.own (hBarred : RenewalBarred s phase stage)
    (hok : stage = .closing → e.isSuccess = true → s.closing = false)
    (hStep : RenewalStep i s e phase s' phase') :
    RenewalBarred (RenewalPhase.note (s', phase')).1 phase' stage := by
  obtain ⟨hClosing, -, hEnded⟩ := renewalStep_flags hStep
  cases stage with
  | closing =>
    intro hNow
    have hNow : s.closing = true := by
      rw [← hClosing, ← hNow]
      unfold RenewalPhase.note
      split <;> rfl
    refine readies_of_success hStep (hBarred hNow) ?_
    by_contra hSuccess
    have hNot := hok rfl (by simpa using hSuccess)
    exact absurd (hNot.symm.trans hNow) (by decide)
  | shut =>
    unfold RenewalPhase.note
    split
    next hEnd => exact fun _ => hEnd
    next => exact fun hNow => absurd (hBarred (hEnded ▸ hNow)) (renewalStep_not_ended hStep)

/-- **`umount`'s step and the mount.** -/
theorem StageInv.umount (hInv : StageInv stage s) {phase phase' : UmountPhase}
    (hStores : .lifecycle .ready ∉ phase.stores) (hStep : UmountStep s phase s' phase') :
    StageInv stage s' ∧ .lifecycle .ready ∉ phase'.stores := by
  cases hStep with
  | close => exact ⟨⟨fun _ => nofun, hInv.ended⟩, nofun⟩
  | flag _ _ _ _ _ hNone =>
    rw [hNone]
    exact ⟨hInv.onward ⟨id, rfl, rfl, rfl⟩, nofun⟩
  | mark => exact ⟨hInv, by decide⟩
  | store x rest =>
    have hx : x ≠ .lifecycle .ready := by
      rintro rfl
      exact hStores List.mem_cons_self
    refine ⟨⟨fun hReached hReady => ?_, fun hShut => ?_⟩,
      fun hMem => hStores (List.mem_cons_of_mem x hMem)⟩
    · by_cases hClosed : x = .lifecycle .closed
      · subst hClosed
        cases hReady
      · refine (hInv.onward (.effect hx)).notReady ?_ hReady
        cases stage with
        | closing => exact hReached
        | shut => simpa [Stage.reached, LeaseShared.effect, hClosed] using hReached
    · rcases (Bool.or_eq_true _ _).mp hShut with hOld | hNew
      · exact hInv.ended hOld
      · exact ((Bool.and_eq_true _ _).mp hNew).2

/-- **The others while `umount` steps.** -/
theorem TaskBarred.umount {j : Nat} {t : LeaseTask} (hTask : TaskBarred stage s j t)
    {phase phase' : UmountPhase}
    (hClose : stage = .closing → phase = .closing → t.readies = false)
    (hStep : UmountStep s phase s' phase') : TaskBarred stage s' j t := by
  cases hStep with
  | flag _ _ _ _ _ _ => exact hTask.onward ⟨id, rfl, rfl, rfl⟩
  | mark => exact hTask
  | close =>
    cases t with
    | operation op =>
      refine Barred.mono hTask ?_
      cases stage <;> simp +contextual [Stage.reached, LeaseShared.effect]
    | renewal phase recovery =>
      refine ⟨hTask.1, ?_⟩
      cases stage with
      | closing => exact fun _ => hClose rfl rfl
      | shut => exact hTask.2
    | umount _ | reconnect _ => exact hTask
  | store x rest =>
    cases t with
    | operation op =>
      refine Barred.mono hTask ?_
      cases stage <;> simp +contextual [Stage.reached, LeaseShared.effect]
    | renewal phase recovery => exact ⟨hTask.1, by cases stage <;> exact hTask.2⟩
    | umount _ | reconnect _ => exact hTask

end background

/-! ## The theorem -/

section outline

variable {stage : Stage} {i j : Nat} {s' : LeaseShared} {t t' u : LeaseTask} {e : LeaseEvent}
  {P : TaskPool LeaseShared LeaseTask}

/-- **The task's own step.** -/
theorem closing_own (hHolds : Holds (StageInv stage) (TaskBarred stage) P)
    (hok : stage.Allows P (.step i e)) (ht : P.tasks[i]? = some t)
    (hStep : t.step i P.shared e = some (s', t')) :
    StageInv stage s' ∧ TaskBarred stage s' i t' := by
  have hTask := hHolds.task i t ht
  cases lease_cases hStep with
  | operation hNext =>
    have hFrame := stateful_frame hNext
    exact ⟨hHolds.shared.onward hFrame.onward,
      Barred.own hTask hHolds.shared.notReady hFrame (stateful_cases hNext)⟩
  | renewal hNext =>
    have hCases := renewal_cases hNext
    refine ⟨(hHolds.shared.renewal hTask.2 hCases).note, hTask.1, hTask.2.own ?_ hCases⟩
    rintro rfl
    exact hok.1
  | umount hNext => exact hHolds.shared.umount hTask (umount_cases hNext)
  | reconnect x rest =>
    have hx : x ≠ .lifecycle .ready := fun hx => hTask (by rw [hx]; exact List.mem_cons_self)
    exact ⟨hHolds.shared.onward (.effect hx), fun hMem => hTask (List.mem_cons_of_mem x hMem)⟩

theorem closing_other (hHolds : Holds (StageInv stage) (TaskBarred stage) P)
    (hok : stage.Allows P (.step i e)) (ht : P.tasks[i]? = some t)
    (hStep : t.step i P.shared e = some (s', t')) (hj : j ≠ i) (hu : P.tasks[j]? = some u) :
    TaskBarred stage s' j u := by
  have hTask := hHolds.task i t ht
  have hOther := hHolds.task j u hu
  cases lease_cases hStep with
  | operation hNext => exact hOther.onward (stateful_frame hNext).onward
  | renewal hNext =>
    obtain ⟨hClosing, hShut, -⟩ := renewalStep_flags (renewal_cases hNext)
    cases u with
    | operation op =>
      refine Barred.mono hOther fun hReached => ?_
      unfold RenewalPhase.note
      cases stage <;> split <;> simp_all [Stage.reached, LeaseShared.endRenewal]
    | renewal _ _ => exact absurd (hOther.1.trans hTask.1.symm) hj
    | umount _ | reconnect _ => exact hOther
  | umount hNext =>
    refine hOther.umount ?_ (umount_cases hNext)
    -- `mark_closing` does not fall into a `mark_ready`
    rintro rfl rfl
    have hAll := hok.2 (by rw [ht]; rfl)
    simpa using List.all_eq_true.mp hAll u (List.mem_of_getElem? hu)
  | reconnect x rest =>
    exact hOther.onward (.effect fun hx => hTask (by rw [hx]; exact List.mem_cons_self))

/-- **Every run** keeps what the stage bars. -/
theorem closing_outline (stage : Stage) (leaseSeconds now : Nat) (recovery : Bool) :
    Outline (leaseProgram leaseSeconds now recovery) (fun P a => stage.Allows P a)
      (StageInv stage) (TaskBarred stage) where
  init := by
    refine ⟨⟨by cases stage <;> exact nofun, nofun⟩, fun i t ht => ?_⟩
    obtain ⟨rfl, rfl⟩ : i = 0 ∧ t = .renewal .sleeping recovery := by
      cases i with
      | zero => exact ⟨rfl, (Option.some.inj ht).symm⟩
      | succ i => cases ht
    exact ⟨rfl, by cases stage <;> exact nofun⟩
  entry := by
    intro s i t _ hEntry
    -- every task begins with nothing admitted, stored or published
    cases t with
    | operation op =>
      obtain ⟨kind, phase, expected, admitted, afterClosing, afterShut⟩ := op
      cases phase with
      | start =>
        cases admitted with
        | none => exact ⟨fun _ => rfl, fun h => absurd rfl h, fun h => absurd rfl h⟩
        | some _ => cases hEntry
      | _ => cases hEntry
    | renewal _ _ => cases hEntry
    | umount phase =>
      cases phase with
      | closing => exact nofun
      | _ => cases hEntry
    | reconnect stores =>
      have hStores : stores = markReconnecting := by
        simpa [leaseProgram, LeaseTask.entry] using hEntry
      rw [hStores]
      exact (by decide : LeaseStore.lifecycle .ready ∉ markReconnecting)
  own _ _ _ _ _ _ hHolds hok ht hStep := closing_own hHolds hok ht hStep
  other _ _ _ _ _ _ _ _ hHolds hok ht hStep hj hu := closing_other hHolds hok ht hStep hj hu

/-- Behind the stage the mount is not ready, and no operation that began there is admitted. -/
def TerminalAt (P : TaskPool LeaseShared LeaseTask) (stage : Stage) : Prop :=
  (stage.reached P.shared = true → P.shared.lease.lifecycle ≠ .ready) ∧
    ∀ op, LeaseTask.operation op ∈ P.tasks → op.phase ≠ .start → op.behind stage = true →
      op.admitted = none

theorem terminalAt_of_holds (h : Holds (StageInv stage) (TaskBarred stage) P) :
    TerminalAt P stage := by
  refine ⟨h.shared.notReady, fun op hMem hStart hBehind => ?_⟩
  obtain ⟨i, hi⟩ := List.getElem?_of_mem hMem
  exact ((h.task i _ hi : Barred stage P.shared op).refused hStart hBehind).1

/-- **The end.** Behind `mark_closing` the mount stays shut in every run in which no RENEW and no
recovery succeeds from there on and `mark_closing` does not fall between the stores of a
`mark_ready`, whatever else comes; and behind the `mark_closed` that follows the end of the renewal
it stays shut in every run. -/
theorem closing_terminal {leaseSeconds now : Nat} {recovery : Bool} :
    ((leaseProgram leaseSeconds now recovery).machine.ReachableIf NoLateSuccess P →
        TerminalAt P .closing) ∧
      ((leaseProgram leaseSeconds now recovery).machine.Reachable P → TerminalAt P .shut) := by
  refine ⟨fun h => ?_, fun h => ?_⟩
  · exact terminalAt_of_holds ((closing_outline .closing leaseSeconds now recovery).holds h)
  · exact terminalAt_of_holds ((closing_outline .shut leaseSeconds now recovery).holds h)

end outline

/-! ## Runs -/

/-- A RENEW is out when `umount` begins and fails; a READ begins behind it, the reconnect handler
comes too late, and `umount` goes to its end. -/
def quietEnd : List (TaskEvent LeaseTask LeaseEvent) :=
  goes 0 1 ++ [.spawn (.umount .closing)] ++ goes 1 3 ++ [.step 0 (.renewed .failed 0)] ++
    goes 0 3 ++ [.spawn (newOperation (.plain "read"))] ++ goes 2 3 ++
    [.spawn (.reconnect markReconnecting)] ++ goes 3 2 ++ goes 1 5 ++
    [.spawn (newOperation (.plain "read"))] ++ goes 4 3

theorem closing_terminal_quietEnd :
    ∃ P, (leaseProgram 90 0 true).machine.ReachableIf NoLateSuccess P ∧
      P.shared.closing = true ∧ P.shared.shut = true ∧ TerminalAt P .closing ∧
      TerminalAt P .shut :=
  have hInit : (leaseProgram 90 0 true).machine.ReachableIf NoLateSuccess _ := .init
  have hReach := Machine.reachableIf_of_runChecked quietEnd hInit rfl
  ⟨_, hReach, rfl, rfl, closing_terminal.1 hReach,
    closing_terminal.2 (hReach.mono fun _ _ _ => trivial)⟩

/-- A RENEW is out when `umount` begins, and succeeds; an operation begins. -/
def lateRenew : List (TaskEvent LeaseTask LeaseEvent) :=
  goes 0 1 ++ [.spawn (.umount .closing)] ++ goes 1 1 ++ [.step 0 (.renewed .ok 0)] ++ goes 0 4 ++
    [.spawn (newOperation (.plain "read"))] ++ goes 2 4

/-- **`Closing` is not terminal.** A RENEW that was out makes the mount ready again, and an
operation that began behind `mark_closing` is admitted. -/
theorem ready_after_closing :
    ∃ P, (leaseProgram 90 0 true).machine.Reachable P ∧ P.shared.closing = true ∧
      P.shared.lease.lifecycle = .ready ∧
      ∃ op, LeaseTask.operation op ∈ P.tasks ∧ op.phase ≠ .start ∧ op.afterClosing = true ∧
        op.admitted = some 0 :=
  ⟨_, Machine.reachable_of_runFrom lateRenew rfl, rfl, rfl,
    _, List.mem_of_getElem? (i := 2) rfl, nofun, rfl, rfl⟩

end NfsRs.Nfs40
