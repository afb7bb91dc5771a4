import NfsRs.Nfs40.Lease

/-!
# NfsRs — the generation fence of an NFSv4.0 mount

`mark_lost` raises the generation, and `finish_stateful` and `validate_stateful` compare the
generation of an operation with the current one. Where they differ the functions fall back on the
lifecycle, so the comparison has no effect: once a RENEW has made the mount ready again, an
operation admitted before the loss passes. And OPEN registers its lane before any check.

What does protect the operations is the lifecycle, as long as the mount does not become ready
while an operation from before the loss is underway, and no loss comes while an OPEN is between its
admission and its registration.

## Main results

- `generation_fenced` : under that condition every check that passes, and every record that is
  published, has seen no loss since the admission.
- `published_across_loss` : without it a lock is published, and an open is left registered,
  across a loss.
-/

namespace NfsRs.Nfs40

open Lib

/-! ## The condition -/

/-- The renewal waits operations out: the mount becomes ready only when no operation admitted before
the last loss is underway, and `mark_lost` completes only when no OPEN is between its admission and
its registration. -/
def LeaseTask.settled (P : TaskPool LeaseShared LeaseTask) : LeaseTask → Bool
  | .renewal (.marking (.lifecycle .ready :: _) _ _) _ =>
    P.tasks.all fun t => !t.outdated P.shared.losses
  | .renewal (.marking (.generation :: _) _ _) _ => P.tasks.all fun t => !t.opening
  | _ => true

def LossesSettled (P : TaskPool LeaseShared LeaseTask) : TaskEvent LeaseTask LeaseEvent → Prop
  | .spawn _ => True
  | .step i _ => (P.tasks[i]?).all (·.settled P) = true

instance (P : TaskPool LeaseShared LeaseTask) : ∀ a, Decidable (LossesSettled P a)
  | .spawn _ => .isTrue trivial
  | .step _ _ => inferInstanceAs (Decidable (_ = true))

/-! ## The outline -/

/-- No loss between admission and record. -/
def Fenced.Sound (r : Fenced) : Prop := r.admitted = some r.losses

structure FenceInv (s : LeaseShared) : Prop where
  passed : ∀ r ∈ s.passed, r.Sound
  published : ∀ r ∈ s.published, r.Sound

/-- An operation in its state. -/
structure OperationFenced (s : LeaseShared) (i : Nat) (op : Stateful) : Prop where
  admitted : op.phase.underway = true → op.admitted.isSome = true
  /-- Behind a loss the mount is not ready. -/
  outdated : op.phase.underway = true → op.admitted ≠ some s.losses → s.lease.lifecycle ≠ .ready
  guarded : op.kind.publishes = true → op.phase.guarded = true → i ∈ s.publication.readers
  finished : op.kind.publishes = true → op.phase.finished = true → op.admitted = some s.losses
  publishing : op.phase = .register → op.kind.publishes = true
  /-- An OPEN that has not registered has seen no loss. -/
  opening : op.opening = true → op.admitted = some s.losses

/-- Stores that neither make the mount ready nor count as a loss. -/
def Harmless (stores : List LeaseStore) : Prop :=
  .lifecycle .ready ∉ stores ∧ .generation ∉ stores

/-- The renewal in its state: `mark_lost` has the lock, and the mount is not ready by the time of
its last store. -/
def RenewalFenced (s : LeaseShared) (i : Nat) : RenewalPhase → Prop
  | .marking stores true _ =>
    s.publication.writer = some i ∧ stores <:+ markLost ∧
      (stores = [.generation] → s.lease.lifecycle ≠ .ready)
  | .marking stores false _ => .generation ∉ stores
  | _ => True

def TaskFenced (s : LeaseShared) (i : Nat) : LeaseTask → Prop
  | .operation op => OperationFenced s i op
  | .renewal phase _ => i = 0 ∧ RenewalFenced s i phase
  | .umount phase => Harmless phase.stores
  | .reconnect stores => Harmless stores

/-! ## Steps that disturb nobody -/

section quiet

variable {i j : Nat} {s s' : LeaseShared} {op : Stateful} {phase : RenewalPhase}

/-- No loss, no mount made ready, and nobody disturbed at the publication lock. -/
structure Quiet (i : Nat) (s s' : LeaseShared) : Prop where
  lifecycle : s'.lease.lifecycle = .ready → s.lease.lifecycle = .ready
  losses : s'.losses = s.losses
  locks : RwLock.Kept i s.publication s'.publication

theorem StatefulFrame.quiet (h : StatefulFrame i s s') : Quiet i s s' :=
  ⟨fun hReady => h.lifecycle ▸ hReady, h.losses, h.locks⟩

theorem Quiet.of_eq (hLease : s'.lease = s.lease) (hLosses : s'.losses = s.losses)
    (hLocks : s'.publication = s.publication) : Quiet i s s' :=
  ⟨fun hReady => hLease ▸ hReady, hLosses, by rw [hLocks]; exact .refl⟩

theorem Quiet.effect {x : LeaseStore} (hReady : x ≠ .lifecycle .ready) (hLoss : x ≠ .generation) :
    Quiet i s (s.effect x) where
  lifecycle h := by
    cases x with
    | lifecycle value =>
      have hValue : value = .ready := h
      exact absurd (by rw [hValue]) hReady
    | _ => exact h
  losses := if_neg hLoss
  locks := .refl

theorem OperationFenced.quiet (h : OperationFenced s j op) (hQuiet : Quiet i s s') (hj : j ≠ i) :
    OperationFenced s' j op where
  admitted := h.admitted
  outdated hUnderway hNe hReady := by
    rw [hQuiet.losses] at hNe
    exact h.outdated hUnderway hNe (hQuiet.lifecycle hReady)
  guarded hKind hPhase := hQuiet.locks.reader j hj (h.guarded hKind hPhase)
  finished hKind hPhase := by
    rw [hQuiet.losses]
    exact h.finished hKind hPhase
  publishing := h.publishing
  opening hOpening := by
    rw [hQuiet.losses]
    exact h.opening hOpening

theorem RenewalFenced.quiet (h : RenewalFenced s j phase) (hQuiet : Quiet i s s') (hj : j ≠ i) :
    RenewalFenced s' j phase := by
  cases phase with
  | marking stores lost next =>
    cases lost with
    | true =>
      obtain ⟨hWriter, hSuffix, hLast⟩ := h
      exact ⟨hQuiet.locks.writer j hj hWriter, hSuffix,
        fun hStores hReady => hLast hStores (hQuiet.lifecycle hReady)⟩
    | false => exact h
  | _ => trivial

theorem TaskFenced.quiet {t : LeaseTask} (h : TaskFenced s j t) (hQuiet : Quiet i s s')
    (hj : j ≠ i) : TaskFenced s' j t := by
  cases t with
  | operation op => exact OperationFenced.quiet h hQuiet hj
  | renewal phase recovery => exact ⟨h.1, h.2.quiet hQuiet hj⟩
  | umount _ | reconnect _ => exact h

end quiet

/-! ## The operations -/

section operations

variable {i : Nat} {s s' : LeaseShared} {op op' : Stateful}

theorem StatefulPhase.idle {phase : StatefulPhase}
    (h : phase.begins = true ∨ phase.isDone = true) :
    phase.underway = false ∧ phase.guarded = false ∧ phase.finished = false := by
  cases phase <;> simp_all [begins, isDone, underway, guarded, finished]

theorem Stateful.underway_of_opening (h : op.opening = true) : op.phase.underway = true := by
  unfold opening at h
  cases hPhase : op.phase <;> rw [hPhase] at h <;> first | rfl | cases h

/-- An operation that is not underway needs nothing. -/
theorem OperationFenced.of_idle (hIdle : op.phase.underway = false)
    (hGuarded : op.phase.guarded = false) (hFinished : op.phase.finished = false) :
    OperationFenced s i op where
  admitted h := by rw [hIdle] at h; cases h
  outdated h := by rw [hIdle] at h; cases h
  guarded _ h := by rw [hGuarded] at h; cases h
  finished _ h := by rw [hFinished] at h; cases h
  publishing h := by rw [h] at hFinished; cases hFinished
  opening h := by rw [Stateful.underway_of_opening h] at hIdle; cases hIdle

/-- In a mount that is ready an operation has seen no loss. -/
theorem OperationFenced.no_loss (h : OperationFenced s i op) (hUnderway : op.phase.underway = true)
    (hReady : s.lease.lifecycle = .ready) : op.admitted = some s.losses := by
  by_contra hNe
  exact h.outdated hUnderway hNe hReady

/-- The same of an operation that is not outdated. -/
theorem OperationFenced.current (h : OperationFenced s i op) (hUnderway : op.phase.underway = true)
    (hNot : (!(LeaseTask.operation op).outdated s.losses) = true) :
    op.admitted = some s.losses := by
  obtain ⟨n, hn⟩ := Option.isSome_iff_exists.mp (h.admitted hUnderway)
  have hDone : op.phase.isDone = false := by
    cases hPhase : op.phase <;> rw [hPhase] at hUnderway <;> first | rfl | cases hUnderway
  simpa [LeaseTask.outdated, hn, hDone] using hNot

theorem FenceInv.pass (h : FenceInv s) (hOp : op.admitted = some s.losses) :
    FenceInv (s.pass op) where
  passed := by
    intro r hr
    rcases List.mem_cons.mp hr with rfl | hOld
    · exact hOp
    · exact h.passed r hOld
  published := h.published

theorem FenceInv.publish (h : FenceInv s) (hOp : op.admitted = some s.losses) :
    FenceInv (s.publish op) where
  passed := h.passed
  published := by
    intro r hr
    rcases List.mem_cons.mp hr with rfl | hOld
    · exact hOp
    · exact h.published r hOld

theorem FenceInv.checked (h : FenceInv s) (hOp : op.admitted = some s.losses) :
    FenceInv (op.checked s) := by
  unfold Stateful.checked
  split
  · exact h
  · exact h.pass hOp

/-- The phase behind `finish_stateful`, when nothing has been lost. -/
theorem OperationFenced.afterFinish (hOp : op.admitted = some s.losses)
    (hGuard : op.kind.publishes = true → i ∈ s.publication.readers) :
    OperationFenced s i (op.goto op.afterFinish) := by
  unfold Stateful.afterFinish
  split
  next hKind => exact ⟨fun _ => by rw [Stateful.goto, hOp]; rfl, fun _ hNe => absurd hOp hNe,
      fun _ _ => hGuard hKind, fun _ _ => hOp, fun _ => hKind, fun _ => hOp⟩
  next => exact .of_idle rfl rfl rfl

/-- **An operation's own step.** -/
theorem operation_own (hInv : FenceInv s) (h : OperationFenced s i op)
    (hStep : StatefulStep i s op s' op') : FenceInv s' ∧ OperationFenced s' i op' := by
  cases hStep with
  | start _ => exact ⟨hInv, .of_idle rfl rfl rfl⟩
  | begin phase _ hIdle _ =>
    obtain ⟨hUnderway, hGuarded, hFinished⟩ := StatefulPhase.idle hIdle
    exact ⟨hInv, .of_idle hUnderway hGuarded hFinished⟩
  | admitted before _ =>
    exact ⟨hInv, fun _ => rfl, fun _ hNe => absurd rfl hNe, nofun, nofun, nofun, fun _ => rfl⟩
  | move phase hUnderway _ hGuarded hOpening hFinished =>
    refine ⟨hInv, fun _ => h.admitted hUnderway, fun _ => h.outdated hUnderway,
      fun hKind hPhase => h.guarded hKind (hGuarded hKind hPhase), fun _ hPhase => ?_,
      fun hPhase => ?_, fun hNext => h.opening (hOpening hNext)⟩
    · exact absurd (hFinished.symm.trans hPhase) (by decide)
    · have hRegister : phase = .register := hPhase
      rw [hRegister] at hFinished
      cases hFinished
  -- OPEN registers its lane unchecked; `opening` says that no loss came in between
  | openRegister hPhase =>
    have hOp := h.opening (by rw [Stateful.opening, hPhase])
    exact ⟨hInv.publish hOp, fun _ => by rw [Stateful.goto, hOp]; rfl,
      fun _ hNe => absurd hOp hNe, nofun, nofun, nofun, nofun⟩
  | guard lock hPhase hRead =>
    have hUnderway : op.phase.underway = true := by rw [hPhase]; rfl
    obtain ⟨-, hReaders⟩ := RwLock.read_eq_some hRead
    refine ⟨⟨hInv.passed, hInv.published⟩, fun _ => h.admitted hUnderway,
      fun _ => h.outdated hUnderway, fun _ _ => ?_, nofun, nofun, nofun⟩
    show i ∈ lock.readers
    rw [hReaders]
    exact List.mem_cons_self
  -- a ready mount has lost nothing since the admission
  | check phase hUnderway hGuarded hReady hPhase =>
    have hOp := h.no_loss hUnderway hReady
    have hFrame : StatefulFrame i s (op.checked s) := .checked
    refine ⟨hInv.checked hOp, ?_⟩
    have hOp' : op.admitted = some (op.checked s).losses := by rw [hFrame.losses]; exact hOp
    have hGuard : op.kind.publishes = true → i ∈ (op.checked s).publication.readers := by
      intro hKind
      rw [Stateful.checked, if_pos hKind]
      exact h.guarded hKind hGuarded
    rcases hPhase with rfl | rfl
    · exact ⟨fun _ => by rw [Stateful.goto, hOp]; rfl, fun _ hNe => absurd hOp' hNe,
        fun hKind _ => hGuard hKind, fun _ _ => hOp', nofun, nofun⟩
    · exact .afterFinish hOp' hGuard
  | activity now hPhase =>
    refine ⟨⟨hInv.passed, hInv.published⟩, ?_⟩
    by_cases hKind : op.kind.publishes = true
    · refine .afterFinish (h.finished hKind ?_) fun _ => h.guarded hKind ?_ <;> rw [hPhase] <;> rfl
    · rw [Stateful.afterFinish, if_neg hKind]
      exact .of_idle rfl rfl rfl
  -- the publication guard has kept `mark_lost` out since the check
  | register hPhase =>
    have hKind := h.publishing hPhase
    have hOp := h.finished hKind (by rw [hPhase]; rfl)
    have hGuard := h.guarded hKind (by rw [hPhase]; rfl)
    exact ⟨hInv.publish hOp, fun _ => by rw [Stateful.goto, hOp]; rfl,
      fun _ hNe => absurd hOp hNe, fun _ _ => hGuard, nofun, nofun, nofun⟩
  | pass hUnderway hReady =>
    have hOp := h.no_loss hUnderway hReady
    exact ⟨⟨(hInv.pass hOp).passed, (hInv.pass hOp).published⟩, .of_idle rfl rfl rfl⟩
  | giveUp error _ => exact ⟨⟨hInv.passed, hInv.published⟩, .of_idle rfl rfl rfl⟩

end operations

/-! ## The renewal, `umount` and the reconnect handler -/

section background

variable {i j : Nat} {s s' : LeaseShared} {op : Stateful} {e : LeaseEvent}
  {phase phase' : RenewalPhase}

variable {x : LeaseStore} {rest : List LeaseStore}

/-- The next store of `mark_lost`. -/
theorem markLost_suffix (h : x :: rest <:+ markLost) :
    rest <:+ markLost ∧ x ≠ .lifecycle .ready ∧
      (x = .generation → rest = []) ∧ (rest = [.generation] → x = .lifecycle .lostState) := by
  have hRest : rest <:+ markLost := (List.suffix_cons x rest).trans h
  simp only [markLost, List.suffix_cons_iff, List.cons.injEq, List.suffix_nil, reduceCtorEq,
    or_false] at h
  rcases h with ⟨rfl, rfl⟩ | ⟨rfl, rfl⟩ | ⟨rfl, rfl⟩
  all_goals exact ⟨hRest, by decide, by decide, by decide⟩

theorem RenewalFenced.of_awaits (h : phase.awaits = true ∨ phase = .ended) :
    RenewalFenced s i phase := by
  rcases h with h | rfl
  · cases phase with
    | marking stores lost next => cases h
    | _ => trivial
  · trivial

/-- **The renewal's own step.** -/
theorem renewal_own (h : RenewalFenced s i phase) (hStep : RenewalStep i s e phase s' phase') :
    RenewalFenced s' i phase' := by
  cases hStep with
  | store x rest lost next =>
    cases lost with
    | true =>
      obtain ⟨hWriter, hSuffix, -⟩ := h
      obtain ⟨hRest, -, -, hLost⟩ := markLost_suffix hSuffix
      refine ⟨hWriter, hRest, fun hStores => ?_⟩
      rw [hLost hStores]
      exact nofun
    | false => exact fun hMem => h (List.mem_cons_of_mem x hMem)
  | behind lost next => exact .of_awaits (RenewalPhase.behind_awaits s next)
  | lock lock next hWrite =>
    exact ⟨(RwLock.write_eq_some hWrite).2.2, List.suffix_refl _, fun h => absurd h (by decide)⟩
  | mark _ stores next _ hStores _ => exact hStores
  | goto _ _ _ hAwaits => exact .of_awaits hAwaits

/-- **An operation while the renewal steps.** -/
theorem OperationFenced.renewal (h : OperationFenced s j op) (hRenewal : RenewalFenced s i phase)
    (hj : j ≠ i)
    (hReady : ∀ rest lost next, phase = .marking (.lifecycle .ready :: rest) lost next →
      op.phase.underway = true → op.admitted = some s.losses)
    (hLost : ∀ rest lost next, phase = .marking (.generation :: rest) lost next →
      op.opening = false)
    (hStep : RenewalStep i s e phase s' phase') : OperationFenced s' j op := by
  cases hStep with
  | store x rest lost next =>
    by_cases hLoss : x = .generation
    · -- the last store of `mark_lost`: the lock is held, the mount is not ready
      subst hLoss
      cases lost with
      | false => exact absurd List.mem_cons_self hRenewal
      | true =>
        obtain ⟨hWriter, hSuffix, hLast⟩ := hRenewal
        obtain ⟨-, -, hNil, -⟩ := markLost_suffix hSuffix
        have hFree := RwLock.not_mem_readers hWriter j
        refine ⟨h.admitted, fun _ _ => hLast (by rw [hNil rfl]), h.guarded, fun hKind hPhase => ?_,
          h.publishing, fun hOpening => ?_⟩
        · refine absurd (h.guarded hKind ?_) hFree
          cases hOp : op.phase <;> rw [hOp] at hPhase <;> first | rfl | cases hPhase
        · rw [hLost rest true next rfl] at hOpening
          cases hOpening
    · by_cases hMark : x = .lifecycle .ready
      · subst hMark
        refine ⟨h.admitted, fun hUnderway hNe => ?_, h.guarded, h.finished, h.publishing, h.opening⟩
        exact absurd (hReady rest lost next rfl hUnderway) hNe
      · exact h.quiet (.effect hMark hLoss) hj
  | behind lost next =>
    refine h.quiet (i := i) ?_ hj
    split
    · exact ⟨id, rfl, .release⟩
    · exact .of_eq rfl rfl rfl
  -- the writer finds no reader, so no operation is between its guard and its end
  | lock lock next hWrite =>
    obtain ⟨hNone, -, -⟩ := RwLock.write_eq_some hWrite
    refine ⟨h.admitted, h.outdated, fun hKind hPhase => ?_, h.finished, h.publishing, h.opening⟩
    have hMem := h.guarded hKind hPhase
    rw [hNone] at hMem
    exact absurd hMem List.not_mem_nil
  | mark _ _ _ _ _ _ | goto _ _ _ _ => exact h

theorem Harmless.tail (h : Harmless (x :: rest)) : Harmless rest :=
  ⟨fun hMem => h.1 (List.mem_cons_of_mem x hMem), fun hMem => h.2 (List.mem_cons_of_mem x hMem)⟩

theorem Harmless.effect (h : Harmless (x :: rest)) : Quiet i s (s.effect x) :=
  .effect (fun hx => h.1 (by rw [hx]; exact List.mem_cons_self))
    (fun hx => h.2 (by rw [hx]; exact List.mem_cons_self))

/-- `umount` has no store that matters. -/
theorem umount_quiet {phase phase' : UmountPhase} (h : Harmless phase.stores)
    (hStep : UmountStep s phase s' phase') :
    Quiet i s s' ∧ Harmless phase'.stores ∧ s'.passed = s.passed ∧ s'.published = s.published := by
  cases hStep with
  | close =>
    have hQuiet : Quiet i s (s.effect (.lifecycle .closing)) := .effect (by decide) (by decide)
    exact ⟨⟨hQuiet.lifecycle, hQuiet.losses, .refl⟩, ⟨nofun, nofun⟩, rfl, rfl⟩
  | flag _ _ _ _ _ hStores =>
    rw [hStores]
    exact ⟨.of_eq rfl rfl rfl, ⟨nofun, nofun⟩, rfl, rfl⟩
  | mark => exact ⟨.of_eq rfl rfl rfl, ⟨by decide, by decide⟩, rfl, rfl⟩
  | store x rest =>
    have hQuiet : Quiet i s (s.effect x) := h.effect
    exact ⟨⟨hQuiet.lifecycle, hQuiet.losses, .refl⟩, h.tail, rfl, rfl⟩

end background

/-! ## The theorem -/

section outline

variable {i j : Nat} {s s' : LeaseShared} {t t' u : LeaseTask} {e : LeaseEvent}
  {P : TaskPool LeaseShared LeaseTask}

/-- The note at the end of the renewal concerns nobody here. -/
theorem TaskFenced.note {next : LeaseShared × RenewalPhase} (h : TaskFenced next.1 i t) :
    TaskFenced (RenewalPhase.note next).1 i t := by
  unfold RenewalPhase.note
  split
  · cases t with
    | operation op => exact ⟨h.admitted, h.outdated, h.guarded, h.finished, h.publishing, h.opening⟩
    | renewal phase _ =>
      refine ⟨h.1, ?_⟩
      cases phase with
      | marking stores lost next => cases lost <;> exact h.2
      | _ => trivial
    | umount _ | reconnect _ => exact h
  · exact h

theorem FenceInv.note {next : LeaseShared × RenewalPhase} (h : FenceInv next.1) :
    FenceInv (RenewalPhase.note next).1 := by
  unfold RenewalPhase.note
  split
  · exact ⟨h.passed, h.published⟩
  · exact h

theorem renewal_records {phase phase' : RenewalPhase} (hInv : FenceInv s)
    (hStep : RenewalStep i s e phase s' phase') : FenceInv s' := by
  cases hStep with
  | behind lost next =>
    split
    · exact ⟨hInv.passed, hInv.published⟩
    · exact hInv
  | _ => exact ⟨hInv.passed, hInv.published⟩

/-- **The task's own step.** -/
theorem fence_own (hHolds : Holds FenceInv TaskFenced P)
    (ht : P.tasks[i]? = some t) (hStep : t.step i P.shared e = some (s', t')) :
    FenceInv s' ∧ TaskFenced s' i t' := by
  have hTask := hHolds.task i t ht
  cases lease_cases hStep with
  | operation hNext => exact operation_own hHolds.shared hTask (stateful_cases hNext)
  | @renewal _ phase' recovery _ hNext =>
    have hCases := renewal_cases hNext
    exact ⟨(renewal_records hHolds.shared hCases).note,
      TaskFenced.note (t := .renewal phase' recovery) ⟨hTask.1, renewal_own hTask.2 hCases⟩⟩
  | umount hNext =>
    obtain ⟨-, hHarmless, hPassed, hPublished⟩ := umount_quiet (i := i) hTask (umount_cases hNext)
    refine ⟨⟨?_, ?_⟩, hHarmless⟩
    · rw [hPassed]
      exact hHolds.shared.passed
    · rw [hPublished]
      exact hHolds.shared.published
  | reconnect x rest =>
    exact ⟨⟨hHolds.shared.passed, hHolds.shared.published⟩, Harmless.tail hTask⟩

/-- What another task knows survives the step. -/
theorem fence_other (hHolds : Holds FenceInv TaskFenced P) (hok : LossesSettled P (.step i e))
    (ht : P.tasks[i]? = some t) (hStep : t.step i P.shared e = some (s', t')) (hj : j ≠ i)
    (hu : P.tasks[j]? = some u) : TaskFenced s' j u := by
  have hTask := hHolds.task i t ht
  have hOther := hHolds.task j u hu
  cases lease_cases hStep with
  | operation hNext => exact hOther.quiet (stateful_frame hNext).quiet hj
  | renewal hNext =>
    refine TaskFenced.note ?_
    cases u with
    | operation op =>
      refine OperationFenced.renewal hOther hTask.2 hj ?_ ?_ (renewal_cases hNext)
      · -- the mount becomes ready: nothing outdated is underway
        rintro rest lost after rfl hUnderway
        simp only [LossesSettled, ht, Option.all_some, LeaseTask.settled] at hok
        exact hOther.current hUnderway (List.all_eq_true.mp hok _ (List.mem_of_getElem? hu))
      · -- the state is lost: every OPEN has registered
        rintro rest lost after rfl
        simp only [LossesSettled, ht, Option.all_some, LeaseTask.settled] at hok
        simpa [LeaseTask.opening] using List.all_eq_true.mp hok _ (List.mem_of_getElem? hu)
    | renewal phase' recovery' => exact absurd (hOther.1.trans hTask.1.symm) hj
    | umount _ | reconnect _ => exact hOther
  | umount hNext => exact hOther.quiet (umount_quiet hTask (umount_cases hNext)).1 hj
  | reconnect x rest => exact hOther.quiet (Harmless.effect hTask) hj

theorem fence_outline (leaseSeconds now : Nat) (recovery : Bool) :
    Outline (leaseProgram leaseSeconds now recovery) LossesSettled FenceInv TaskFenced where
  init := by
    refine ⟨⟨nofun, nofun⟩, fun i t ht => ?_⟩
    obtain ⟨rfl, rfl⟩ : i = 0 ∧ t = .renewal .sleeping recovery := by
      cases i with
      | zero => exact ⟨rfl, (Option.some.inj ht).symm⟩
      | succ i => cases ht
    exact ⟨rfl, trivial⟩
  entry := by
    intro s i t _ hEntry
    cases t with
    | operation op =>
      obtain ⟨kind, phase, expected, admitted, afterClosing, afterShut⟩ := op
      cases phase with
      | start => exact .of_idle rfl rfl rfl
      | _ => cases hEntry
    | renewal _ _ => cases hEntry
    | umount phase =>
      cases phase with
      | closing => exact ⟨nofun, nofun⟩
      | _ => cases hEntry
    | reconnect stores =>
      have hStores : stores = markReconnecting := by
        simpa [leaseProgram, LeaseTask.entry] using hEntry
      rw [hStores]
      exact ⟨by decide, by decide⟩
  own _ _ _ _ _ _ hHolds _ ht hStep := fence_own hHolds ht hStep
  other _ _ _ _ _ _ _ _ hHolds hok ht hStep hj hu := fence_other hHolds hok ht hStep hj hu

/-- **The fence.** In every run in which the mount becomes ready only when no operation from
before the last loss is underway, and no `mark_lost` completes while an OPEN is between its
admission and its registration: a check that lets an operation succeed, and the publication of an
open, a lock or a delegation, have seen no `mark_lost` since the operation was admitted. -/
theorem generation_fenced {leaseSeconds now : Nat} {recovery : Bool}
    (h : (leaseProgram leaseSeconds now recovery).machine.ReachableIf LossesSettled P) :
    (∀ r ∈ P.shared.passed, r.admitted = some r.losses) ∧
      ∀ r ∈ P.shared.published, r.admitted = some r.losses :=
  have hInv := ((fence_outline leaseSeconds now recovery).holds h).shared
  ⟨hInv.passed, hInv.published⟩

end outline

/-! ## Runs -/

/-- A task of an operation. -/
def newOperation (kind : StatefulKind) : LeaseTask :=
  .operation ⟨kind, .start, 0, none, false, false⟩

/-- Task `i` goes on for `n` accesses. -/
def goes (i n : Nat) : List (TaskEvent LeaseTask LeaseEvent) := List.replicate n (.step i (.go 0))

/-- RENEW finds the client id expired, and recovery fails. -/
def recoveryFails : List (TaskEvent LeaseTask LeaseEvent) :=
  goes 0 1 ++ [.step 0 (.renewed .expired 0)] ++ goes 0 3 ++ [.step 0 .recoveryFailed] ++ goes 0 5

/-- The next RENEW succeeds. -/
def renews : List (TaskEvent LeaseTask LeaseEvent) :=
  goes 0 1 ++ [.step 0 (.renewed .ok 0)] ++ goes 0 5

/-- A READ succeeds; an OPEN has registered its lane when the state is lost, and fails; a LOCK is
made in the new generation. -/
def settledRun : List (TaskEvent LeaseTask LeaseEvent) :=
  [.spawn (newOperation (.plain "read"))] ++ goes 1 8 ++
    [.spawn (newOperation (.openFile true))] ++ goes 2 6 ++ recoveryFails ++ goes 2 5 ++ renews ++
    [.spawn (newOperation .lock)] ++ goes 3 12

theorem generation_fenced_settledRun :
    ∃ P, (leaseProgram 90 0 true).machine.ReachableIf LossesSettled P ∧
      P.shared.losses = 1 ∧
      P.shared.published = [⟨.lock, some 1, 1⟩, ⟨.openFile true, some 0, 0⟩] ∧
      (∀ r ∈ P.shared.passed, r.admitted = some r.losses) ∧
        ∀ r ∈ P.shared.published, r.admitted = some r.losses :=
  have hInit : (leaseProgram 90 0 true).machine.ReachableIf LossesSettled _ := .init
  have hReach := Machine.reachableIf_of_runChecked settledRun hInit rfl
  ⟨_, hReach, rfl, rfl, generation_fenced hReach⟩

/-- A LOCK is underway when the state is lost; the mount is ready again before its check. -/
def lockAcrossLoss : List (TaskEvent LeaseTask LeaseEvent) :=
  [.spawn (newOperation .lock)] ++ goes 1 4 ++ recoveryFails ++ renews ++ goes 1 8

/-- An OPEN is underway when the state is lost, and registers its lane behind it. -/
def openAcrossLoss : List (TaskEvent LeaseTask LeaseEvent) :=
  [.spawn (newOperation (.openFile false))] ++ goes 1 4 ++ recoveryFails ++ goes 1 2

/-- **The fence does not hold.** A lock is acquired and published across a loss, since the mount
is ready again; and an open stays registered across a loss, even when it is not. -/
theorem published_across_loss :
    (∃ P, (leaseProgram 90 0 true).machine.Reachable P ∧
      (∃ r ∈ P.shared.passed, r.kind = .lock ∧ r.admitted = some 0 ∧ r.losses = 1) ∧
      ∃ r ∈ P.shared.published, r.kind = .lock ∧ r.admitted = some 0 ∧ r.losses = 1) ∧
    ∃ P, (leaseProgram 90 0 true).machine.Reachable P ∧ P.shared.lease.lifecycle = .lostState ∧
      ∃ r ∈ P.shared.published, r.kind = .openFile false ∧ r.admitted = some 0 ∧ r.losses = 1 :=
  ⟨⟨_, Machine.reachable_of_runFrom lockAcrossLoss rfl,
      ⟨_, List.mem_cons_self, rfl, rfl, rfl⟩, ⟨_, List.mem_cons_self, rfl, rfl, rfl⟩⟩,
    ⟨_, Machine.reachable_of_runFrom openAcrossLoss rfl, rfl,
      ⟨_, List.mem_cons_self, rfl, rfl, rfl⟩⟩⟩

end NfsRs.Nfs40
