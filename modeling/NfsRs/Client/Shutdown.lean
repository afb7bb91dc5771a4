import Mathlib.Data.List.Count
import NfsRs.Client.Core
import NfsRs.Lib.List

/-!
# NfsRs — shutdown of a client core

The closer first stores the closing lifecycle and only then reads the drain counters, and an
entry increments its counter before the check that admits it. So an entry that was admitted
was counted when the closer looked, and the counter stays above zero until its guard is
dropped. The registry is taken under its lock, which a publisher holds from its check to its
push.

## Main results

- `coreInv_step` : every step keeps the invariant of counters, phases and registry.
- `shutdown_drains` : over every run, one `umount` behind the end of all admitted work, no
  admission once draining has begun, each published resource closed once, and every closer
  returns with the one report that was published.
-/

namespace NfsRs.Client

open ClientCore

/-! ## The property -/

/-- **Shutdown drains the client.** Resources are counted by publication: a key published
once and not unregistered is closed once. -/
structure ShutdownSafe (s : ClientCore) : Prop where
  umountOnce : s.umounts ≤ 1
  /-- Admitted operations and tasks have ended by the time of `umount`. -/
  drained : 0 < s.umounts → ∀ e ∈ s.entries, e.phase ≠ .admitted
  /-- Nothing is let in once a closer has stored the closing lifecycle. -/
  sealed : s.lifecycle ≠ .ready →
    ∀ evs s', coreMachine.runFrom s evs = some s' → s'.admissions = s.admissions
  resourcesClosed : 0 < s.umounts → ∀ key,
    s.closedResources.count key + s.unregistered.count key = s.published.count key
  /-- What a closer returned with is the report that `run_close` published. -/
  published : ∀ r, .received r ∈ s.closers → s.report = some r
  /-- A closer that waits finds a published report, and returns with that one. -/
  receives : ∀ i r, s.closers[i]? = some .waiting → s.report = some r →
    ∃ s', coreMachine.step s (.receiveReport i) = some s' ∧ s'.closers[i]? = some (.received r)
  oneReport : ∀ r r', .received r ∈ s.closers → .received r' ∈ s.closers → r = r'

/-! ## The invariant -/

/-- Counters, phases of the cleanup, and the registry. -/
structure CoreInv (s : ClientCore) : Prop where
  counted : ∀ k, s.counts k = s.entries.countP (Entry.holds k)
  /-- One closer starts the cleanup. -/
  oneStarter : s.closers.countP CloserPhase.starts + min s.cleanup.stage 1 =
    if s.started then 1 else 0
  storedClosing : .stored ∈ s.closers → s.lifecycle ≠ .ready
  closing : 1 ≤ s.cleanup.stage → s.lifecycle ≠ .ready
  operationsEnded : 2 ≤ s.cleanup.stage → ∀ e ∈ s.entries, e.admitted .inFlight = false
  tasksEnded : 3 ≤ s.cleanup.stage → ∀ e ∈ s.entries, e.admitted .ownedTasks = false
  registryTaken : 4 ≤ s.cleanup.stage →
    s.resources = [] ∧ ∀ p, s.publisher = some p → p.passed = false
  tally : ∀ key, s.published.count key = s.resources.count key + s.unregistered.count key +
    s.cleanup.taken.count key + s.closedResources.count key
  umounted : s.umounts = if 5 ≤ s.cleanup.stage then 1 else 0
  reported : ∀ r, .received r ∈ s.closers → s.report = some r
  unreported : s.cleanup.stage ≤ 6 → s.report = none

theorem coreInv_new : CoreInv .new where
  counted _ := rfl
  oneStarter := rfl
  storedClosing h := nomatch h
  closing h := by simp [ClientCore.new, Cleanup.stage] at h
  operationsEnded h := by simp [ClientCore.new, Cleanup.stage] at h
  tasksEnded h := by simp [ClientCore.new, Cleanup.stage] at h
  registryTaken h := by simp [ClientCore.new, Cleanup.stage] at h
  tally _ := rfl
  umounted := rfl
  reported _ h := nomatch h
  unreported _ := rfl

/-! ## Entries -/

variable {s s' : ClientCore}

variable {i : Nat} {ev : CoreEvent} {k : Counter} {errors : List NfsError} {p : EntryPhase}

/-- **An entry changes its phase.** The counters follow its old and its new phase, and it is
admitted only by a core that is ready. -/
theorem CoreInv.setEntry (h : CoreInv s) {q : EntryPhase} (hAt : s.entries[i]? = some ⟨k, p⟩)
    (counts : Counter → Nat) (admissions : List Admission)
    (hCounts : ∀ k', counts k' + (if Entry.holds k' ⟨k, p⟩ then 1 else 0) =
      s.counts k' + if Entry.holds k' ⟨k, q⟩ then 1 else 0)
    (hReady : q = .admitted → s.lifecycle = .ready) :
    CoreInv { s with
      counts := counts, entries := s.entries.set i ⟨k, q⟩, admissions := admissions } :=
  have hEnded : 1 ≤ s.cleanup.stage → ∀ k', (∀ e ∈ s.entries, e.admitted k' = false) →
      ∀ e ∈ s.entries.set i ⟨k, q⟩, e.admitted k' = false := by
    intro hStage k' hAll
    have hq : q ≠ .admitted := fun hq => h.closing hStage (hReady hq)
    exact Lib.forall_mem_set hAll (by simp [Entry.admitted, hq])
  { h with
    counted := by
      intro k'
      have hSet := Lib.countP_set_add (Entry.holds k') hAt (b := ⟨k, q⟩)
      have hNew := hCounts k'
      have hOld := h.counted k'
      show counts k' = (s.entries.set i ⟨k, q⟩).countP (Entry.holds k')
      omega
    operationsEnded := fun hStage =>
      hEnded (by simp only at hStage; omega) _ (h.operationsEnded hStage)
    tasksEnded := fun hStage => hEnded (by simp only at hStage; omega) _ (h.tasksEnded hStage) }

/-- Counting an entry. -/
theorem increment_counts (k k' : Counter) :
    (s.increment k).counts k' = s.counts k' + if k = k' then 1 else 0 := by
  unfold ClientCore.increment
  by_cases hk : k = k'
  · subst hk
    simp
  · simp [Function.update_of_ne (Ne.symm hk), hk]

theorem decrement_counts (k k' : Counter) (hPos : 0 < s.counts k) :
    (s.decrement k).counts k' + (if k = k' then 1 else 0) = s.counts k' := by
  unfold ClientCore.decrement
  by_cases hk : k = k'
  · subst hk
    simp
    omega
  · simp [Function.update_of_ne (Ne.symm hk), hk]

/-- A counter is positive while one of its entries is counted. -/
theorem CoreInv.counts_pos (h : CoreInv s) (hAt : s.entries[i]? = some ⟨k, p⟩)
    (hp : p.holds = true) : 0 < s.counts k := by
  rw [h.counted k]
  exact Lib.countP_pos_of_getElem? hAt (by simp [Entry.holds, hp])

/-- An entry that leaves its counter. -/
theorem CoreInv.leave (h : CoreInv s) (hAt : s.entries[i]? = some ⟨k, p⟩) (hp : p.holds = true) :
    CoreInv ((s.decrement k).setEntry i k .ended) := by
  refine h.setEntry hAt (s.decrement k).counts s.admissions (fun k' => ?_) (nomatch ·)
  have hDec := decrement_counts k k' (h.counts_pos hAt hp)
  have hEnded : Entry.holds k' ⟨k, .ended⟩ = false := by simp [Entry.holds, EntryPhase.holds]
  have hHeld : Entry.holds k' ⟨k, p⟩ = decide (k = k') := by simp [Entry.holds, hp]
  rw [hEnded, hHeld]
  simpa using hDec

/-- **Steps of the entries**: increment, second check, give-back and end. -/
theorem CoreInv.entryStep (h : CoreInv s) (hstep : s.entryStep ev = some s') : CoreInv s' := by
  unfold ClientCore.entryStep at hstep
  split at hstep
  next i =>
    split at hstep
    next k hAt =>
      cases hstep
      refine h.setEntry hAt (s.increment k).counts s.admissions (fun k' => ?_) (nomatch ·)
      simp [Entry.holds, EntryPhase.holds, increment_counts]
    next => cases hstep
  -- the second check: the lifecycle is read behind the increment
  next i =>
    split at hstep
    next k hAt =>
      split at hstep
      next hReady =>
        cases hstep
        refine h.setEntry hAt s.counts _ (fun k' => ?_) fun _ => of_decide_eq_true hReady
        simp [Entry.holds, EntryPhase.holds]
      next =>
        cases hstep
        refine h.setEntry hAt s.counts s.admissions (fun k' => ?_) (nomatch ·)
        simp [Entry.holds, EntryPhase.holds]
    next => cases hstep
  next i =>
    split at hstep
    next k hAt =>
      cases hstep
      exact h.leave hAt rfl
    next => cases hstep
  next i =>
    split at hstep
    next k hAt =>
      cases hstep
      exact h.leave hAt rfl
    next => cases hstep
  next => cases hstep

/-- A new entry is not yet counted. -/
theorem CoreInv.enter (h : CoreInv s) (k : Counter) :
    CoreInv { s with entries := s.entries ++ [{ counter := k, phase := .checked }] } :=
  have hEnded : ∀ k', (∀ e ∈ s.entries, e.admitted k' = false) →
      ∀ e ∈ s.entries ++ [⟨k, .checked⟩], e.admitted k' = false := by
    intro k' hAll
    exact Lib.forall_mem_concat hAll (by simp [Entry.admitted])
  { h with
    counted := by
      intro k'
      simp [h.counted k', List.countP_append, Entry.holds, EntryPhase.holds]
    operationsEnded := fun hStage => hEnded _ (h.operationsEnded hStage)
    tasksEnded := fun hStage => hEnded _ (h.tasksEnded hStage) }

/-! ## The registry -/

/-- A resource leaves the registry on its own. -/
theorem CoreInv.unregisterResource (h : CoreInv s) (key : ResourceKey) :
    CoreInv (s.unregisterResource key) := by
  unfold ClientCore.unregisterResource
  split
  next hMem =>
    exact { h with
      registryTaken := by
        intro hStage
        have hEmpty := (h.registryTaken hStage).1
        rw [hEmpty] at hMem
        cases hMem
      tally := by
        intro key'
        have hTally := h.tally key'
        have hPos : 0 < s.resources.count key := List.count_pos_iff.mpr hMem
        simp only [List.count_append, List.count_singleton, List.count_erase]
        by_cases hk : key = key'
        · subst hk
          simp only [BEq.rfl, ↓reduceIte]
          omega
        · have hb : (key == key') = false := beq_eq_false_iff_ne.mpr hk
          simp only [hb, Bool.false_eq_true, ↓reduceIte]
          omega }
  next => exact h

theorem CoreInv.registryStep (h : CoreInv s) (hstep : s.registryStep ev = some s') :
    CoreInv s' := by
  unfold ClientCore.registryStep at hstep
  split at hstep
  next =>
    split at hstep <;> cases hstep
    · exact { h with }
    · exact h
  next key =>
    split at hstep <;> cases hstep
    exact { h with
      registryTaken := fun hStage => ⟨(h.registryTaken hStage).1, fun p hp => by cases hp; rfl⟩ }
  next =>
    split at hstep
    next key hHeld =>
      split at hstep
      next hReady =>
        cases hstep
        -- the check passes only before the cleanup has begun
        have hEarly : ¬ 1 ≤ s.cleanup.stage :=
          fun hStage => h.closing hStage (of_decide_eq_true hReady)
        exact { h with
          registryTaken := fun hStage => absurd (by simp only at hStage; omega) hEarly }
      next =>
        cases hstep
        exact { h with
          registryTaken := fun hStage => ⟨(h.registryTaken hStage).1, nofun⟩ }
    next => cases hstep
  next =>
    split at hstep
    next key hHeld =>
      cases hstep
      exact { h with
        registryTaken := fun hStage => absurd ((h.registryTaken hStage).2 _ hHeld) nofun
        tally := by
          intro key'
          have hTally := h.tally key'
          simp only [List.count_append]
          omega }
    next => cases hstep
  next key =>
    split at hstep <;> cases hstep
    exact h.unregisterResource key
  next => cases hstep

/-! ## Closers -/

/-- Another caller of `close`. -/
theorem CoreInv.close (h : CoreInv s) : CoreInv s.close := by
  have hStored : ∀ p : CloserPhase, p ≠ .stored → .stored ∈ s.closers ++ [p] →
      s.lifecycle ≠ .ready := by
    intro p hp hMem
    rcases List.mem_append.mp hMem with hOld | hNew
    · exact h.storedClosing hOld
    · exact absurd (List.mem_singleton.mp hNew).symm hp
  have hReported : ∀ p : CloserPhase, p.starts = true ∨ p = .waiting →
      ∀ r, .received r ∈ s.closers ++ [p] → s.report = some r := by
    intro p hp r hMem
    rcases List.mem_append.mp hMem with hOld | hNew
    · exact h.reported r hOld
    · rw [← List.mem_singleton.mp hNew] at hp
      simp [CloserPhase.starts] at hp
  -- a closer starts the cleanup only if none has; any other one waits
  have hCount := h.oneStarter
  unfold ClientCore.close
  split
  next hStarted =>
    exact { h with
      oneStarter := by
        simpa [List.countP_append, CloserPhase.starts, hStarted] using hCount
      storedClosing := hStored _ nofun
      reported := hReported _ (.inr rfl) }
  next hStarted =>
    have hZero : s.closers.countP CloserPhase.starts + min s.cleanup.stage 1 = 0 := by
      simpa [hStarted] using hCount
    exact { h with
      oneStarter := by
        simp only [List.countP_append, List.countP_singleton, CloserPhase.starts, ↓reduceIte]
        omega
      storedClosing := hStored _ nofun
      reported := hReported _ (.inl rfl) }

/-- While a closer has yet to spawn the cleanup, there is none. -/
theorem CoreInv.idle_of_starts (h : CoreInv s) {p : CloserPhase} (hAt : s.closers[i]? = some p)
    (hp : p.starts = true) : s.cleanup.stage = 0 := by
  have hPos : 0 < s.closers.countP CloserPhase.starts := Lib.countP_pos_of_getElem? hAt hp
  have hOne := h.oneStarter
  split at hOne <;> omega

/-- No report is lost or invented where a closer is set to a phase without one. -/
theorem CoreInv.reported_set (h : CoreInv s) {p : CloserPhase}
    (hp : ∀ r, p = .received r → s.report = some r) :
    ∀ r, .received r ∈ s.closers.set i p → s.report = some r := by
  intro r hMem
  rcases List.mem_or_eq_of_mem_set hMem with hOld | hNew
  · exact h.reported r hOld
  · exact hp r hNew.symm

theorem CoreInv.storeClosing (h : CoreInv s) (hAt : s.closers[i]? = some .starting) :
    CoreInv { s.setCloser i .stored with lifecycle := .closing } :=
  { h with
    oneStarter := by
      have hSet := Lib.countP_set_add CloserPhase.starts hAt (b := .stored)
      have hOne := h.oneStarter
      simp only [CloserPhase.starts, ↓reduceIte] at hSet
      refine Eq.trans ?_ hOne
      show (s.closers.set i .stored).countP CloserPhase.starts + min s.cleanup.stage 1 = _
      omega
    storedClosing := nofun
    closing := nofun
    reported := h.reported_set nofun }

theorem CoreInv.spawnCleanup (h : CoreInv s) (hAt : s.closers[i]? = some .stored) :
    CoreInv { s.setCloser i .waiting with cleanup := .waitOperations } :=
  have hIdle : s.cleanup.stage = 0 := h.idle_of_starts hAt rfl
  have hTaken : s.cleanup.taken = [] := by
    cases hc : s.cleanup with
    | closing keys errors => simp [hc, Cleanup.stage] at hIdle
    | _ => rfl
  { h with
    oneStarter := by
      have hSet := Lib.countP_set_add CloserPhase.starts hAt (b := .waiting)
      have hOne := h.oneStarter
      simp only [CloserPhase.starts, Bool.false_eq_true, ↓reduceIte] at hSet
      refine Eq.trans ?_ hOne
      show (s.closers.set i .waiting).countP CloserPhase.starts + 1 = _
      omega
    storedClosing := fun _ => h.storedClosing (List.mem_of_getElem? hAt)
    closing := fun _ => h.storedClosing (List.mem_of_getElem? hAt)
    operationsEnded := fun hStage => by simp [Cleanup.stage] at hStage
    tasksEnded := fun hStage => by simp [Cleanup.stage] at hStage
    registryTaken := fun hStage => by simp [Cleanup.stage] at hStage
    tally := by
      intro key
      have hTally := h.tally key
      rw [hTaken] at hTally
      exact hTally
    umounted := by
      have hUmounts := h.umounted
      rw [hIdle] at hUmounts
      exact hUmounts
    reported := h.reported_set nofun
    unreported := fun _ => h.unreported (by omega) }

/-- A closer that waits gets the report. -/
theorem CoreInv.receiveReport (h : CoreInv s) {report : ClientCloseReport}
    (hAt : s.closers[i]? = some .waiting) (hReport : s.report = some report) :
    CoreInv (s.setCloser i (.received report)) :=
  { h with
    oneStarter := by
      have hSet := Lib.countP_set_add CloserPhase.starts hAt (b := .received report)
      have hOne := h.oneStarter
      simp only [CloserPhase.starts, Bool.false_eq_true, ↓reduceIte] at hSet
      refine Eq.trans ?_ hOne
      show (s.closers.set i (.received report)).countP CloserPhase.starts +
        min s.cleanup.stage 1 = _
      omega
    storedClosing := by
      intro hMem
      rcases List.mem_or_eq_of_mem_set hMem with hOld | hNew
      · exact h.storedClosing hOld
      · cases hNew
    reported := h.reported_set fun r hr => by
      cases hr
      exact hReport }

theorem CoreInv.closerStep (h : CoreInv s) (hstep : s.closerStep ev = some s') : CoreInv s' := by
  unfold ClientCore.closerStep at hstep
  split at hstep
  next =>
    cases hstep
    exact h.close
  next i =>
    split at hstep <;> cases hstep
    exact h.storeClosing ‹_›
  next i =>
    split at hstep <;> cases hstep
    exact h.spawnCleanup ‹_›
  next i =>
    split at hstep <;> cases hstep
    exact h.receiveReport ‹_› ‹_›
  next => cases hstep

/-! ## The cleanup -/

/-- A counter that reads zero has no admitted entry. -/
theorem CoreInv.none_admitted (h : CoreInv s) (hZero : s.counts k = 0) :
    ∀ e ∈ s.entries, e.admitted k = false := by
  intro e he
  have hNone := List.countP_eq_zero.mp ((h.counted k).symm.trans hZero) e he
  cases hAdm : e.admitted k with
  | false => rfl
  | true =>
    simp only [Entry.admitted, Bool.and_eq_true, decide_eq_true_eq] at hAdm
    simp [Entry.holds, hAdm.1, hAdm.2, EntryPhase.holds] at hNone

/-- A drain counter has read zero behind the closing lifecycle. -/
theorem CoreInv.drain (h : CoreInv s) {next : Cleanup} (hSpawned : 1 ≤ s.cleanup.stage)
    (hStage : next.stage = s.cleanup.stage + 1) (hLow : next.stage ≤ 3)
    (hOps : s.cleanup.stage = 1 → s.counts .inFlight = 0)
    (hTasks : s.cleanup.stage = 2 → s.counts .ownedTasks = 0)
    (hTaken : next.taken = s.cleanup.taken) : CoreInv { s with cleanup := next } :=
  { h with
    oneStarter := by
      refine Eq.trans ?_ h.oneStarter
      show s.closers.countP CloserPhase.starts + min next.stage 1 = _
      omega
    closing := fun _ => h.closing hSpawned
    operationsEnded := by
      intro hNext
      -- the operations end with the first drain, the tasks with the second
      by_cases hOne : s.cleanup.stage = 1
      · exact h.none_admitted (hOps hOne)
      · exact h.operationsEnded (by omega)
    tasksEnded := by
      intro hNext
      have hTwo : s.cleanup.stage = 2 := by
        simp only at hNext
        omega
      exact h.none_admitted (hTasks hTwo)
    registryTaken := fun hNext => absurd hLow (by simp only at hNext; omega)
    tally := fun key => by
      simp only [hTaken]
      exact h.tally key
    umounted := by
      have hUmounts := h.umounted
      rw [if_neg (by omega)] at hUmounts
      simp only [hUmounts]
      rw [if_neg (by omega)]
    unreported := fun _ => h.unreported (by omega) }

/-- **The drained cleanup goes on.** Behind both drains a step answers for the registry, the
tally, `umount` and the report; what the drains established stays. -/
theorem CoreInv.goOn (h : CoreInv s) (hDrained : 3 ≤ s.cleanup.stage) (next : Cleanup)
    (hStage : 3 ≤ next.stage) {resources closedResources : List ResourceKey} {umounts : Nat}
    {report : Option ClientCloseReport} {lifecycle : Lifecycle} (hLifecycle : lifecycle ≠ .ready)
    (hTaken : 4 ≤ next.stage → resources = [] ∧ ∀ p, s.publisher = some p → p.passed = false)
    (hTally : ∀ key, s.published.count key = resources.count key + s.unregistered.count key +
      next.taken.count key + closedResources.count key)
    (hUmounts : umounts = if 5 ≤ next.stage then 1 else 0)
    (hReported : ∀ r, s.report = some r → report = some r)
    (hUnreported : next.stage ≤ 6 → report = none) :
    CoreInv { s with
      cleanup := next, resources := resources, closedResources := closedResources,
      umounts := umounts, report := report, lifecycle := lifecycle } where
  counted := h.counted
  oneStarter := by
    refine Eq.trans ?_ h.oneStarter
    show s.closers.countP CloserPhase.starts + min next.stage 1 = _
    omega
  storedClosing _ := hLifecycle
  closing _ := hLifecycle
  operationsEnded _ := h.operationsEnded (by omega)
  tasksEnded _ := h.tasksEnded hDrained
  registryTaken := hTaken
  tally := hTally
  umounted := hUmounts
  reported r hr := hReported r (h.reported r hr)
  unreported := hUnreported

theorem CoreInv.takeResources (h : CoreInv s) (hc : s.cleanup = .takeResources)
    (hFree : s.publisher = none) :
    CoreInv { s with cleanup := .closing s.resources [], resources := [] } := by
  have hStage : s.cleanup.stage = 3 := by rw [hc]; rfl
  refine h.goOn (by omega) (.closing s.resources []) (by simp [Cleanup.stage])
    (h.closing (by omega)) (fun _ => ⟨rfl, fun p hp => ?_⟩) (fun key => ?_) ?_ (fun _ hr => hr)
    fun _ => h.unreported (by omega)
  · rw [hFree] at hp
    cases hp
  · have hTally := h.tally key
    rw [hc] at hTally
    simp only [Cleanup.taken, List.count_nil] at hTally ⊢
    omega
  · rw [h.umounted, hStage]
    rfl

theorem CoreInv.closeResource (h : CoreInv s) {key : ResourceKey} {keys : List ResourceKey}
    {errors' : List NfsError} (hc : s.cleanup = .closing (key :: keys) errors) :
    CoreInv { s with
      cleanup := .closing keys errors', closedResources := s.closedResources ++ [key] } := by
  have hStage : s.cleanup.stage = 4 := by rw [hc]; rfl
  refine h.goOn (by omega) (.closing keys errors') (by simp [Cleanup.stage])
    (h.closing (by omega)) (fun _ => h.registryTaken (by omega)) (fun key' => ?_) ?_
    (fun _ hr => hr) fun _ => h.unreported (by omega)
  · have hTally := h.tally key'
    rw [hc] at hTally
    simp only [Cleanup.taken, List.count_append, List.count_cons, List.count_nil] at hTally ⊢
    omega
  · rw [h.umounted, hStage]
    rfl

theorem CoreInv.umount (h : CoreInv s) {errors' : List NfsError}
    (hc : s.cleanup = .closing [] errors) :
    CoreInv { s with cleanup := .umounted errors', umounts := s.umounts + 1 } := by
  have hStage : s.cleanup.stage = 4 := by rw [hc]; rfl
  refine h.goOn (by omega) (.umounted errors') (by simp [Cleanup.stage]) (h.closing (by omega))
    (fun _ => h.registryTaken (by omega)) (fun key => ?_) ?_ (fun _ hr => hr)
    fun _ => h.unreported (by omega)
  · have hTally := h.tally key
    rw [hc] at hTally
    exact hTally
  · rw [h.umounted, hStage]
    rfl

theorem CoreInv.storeClosed (h : CoreInv s) (hc : s.cleanup = .umounted errors) :
    CoreInv { s with cleanup := .closed errors, lifecycle := .closed } := by
  have hStage : s.cleanup.stage = 5 := by rw [hc]; rfl
  refine h.goOn (by omega) (.closed errors) (by simp [Cleanup.stage]) nofun
    (fun _ => h.registryTaken (by omega)) (fun key => ?_) ?_ (fun _ hr => hr)
    fun _ => h.unreported (by omega)
  · have hTally := h.tally key
    rw [hc] at hTally
    exact hTally
  · rw [h.umounted, hStage]
    rfl

theorem CoreInv.publishReport (h : CoreInv s) (hc : s.cleanup = .closed errors) :
    CoreInv { s with cleanup := .done, report := some { errors := errors } } := by
  have hStage : s.cleanup.stage = 6 := by rw [hc]; rfl
  refine h.goOn (by omega) .done (by decide) (h.closing (by omega))
    (fun _ => h.registryTaken (by omega)) (fun key => ?_) ?_ (fun r hr => ?_)
    fun hLow => absurd hLow (by decide)
  · have hTally := h.tally key
    rw [hc] at hTally
    exact hTally
  · rw [h.umounted, hStage]
    rfl
  · rw [h.unreported (by omega)] at hr
    cases hr

/-- **Steps of the cleanup**, in their order. -/
theorem CoreInv.cleanupStep (h : CoreInv s) (hstep : s.cleanupStep ev = some s') : CoreInv s' := by
  unfold ClientCore.cleanupStep at hstep
  split at hstep
  -- two drains, the registry, its resources, `umount`, the lifecycle and the report
  next =>
    split at hstep
    next hc =>
      split at hstep <;> cases hstep
      refine h.drain ?_ ?_ ?_ (fun _ => ‹_›) ?_ ?_ <;> simp [hc, Cleanup.stage, Cleanup.taken]
    next => cases hstep
  next =>
    split at hstep
    next hc =>
      split at hstep <;> cases hstep
      refine h.drain ?_ ?_ ?_ ?_ (fun _ => ‹_›) ?_ <;> simp [hc, Cleanup.stage, Cleanup.taken]
    next => cases hstep
  next =>
    split at hstep
    next hc =>
      split at hstep <;> cases hstep
      exact h.takeResources hc ‹_›
    next => cases hstep
  next result =>
    split at hstep <;> cases hstep
    exact h.closeResource ‹_›
  next result =>
    split at hstep <;> cases hstep
    exact h.umount ‹_›
  next =>
    split at hstep <;> cases hstep
    exact h.storeClosed ‹_›
  next =>
    split at hstep <;> cases hstep
    exact h.publishReport ‹_›
  next => cases hstep

/-! ## Runs -/

/-- **Every step keeps the invariant.** -/
theorem coreInv_step (h : CoreInv s) (hstep : s.step ev = some s') : CoreInv s' := by
  unfold ClientCore.step at hstep
  split at hstep
  next k =>
    split at hstep <;> cases hstep
    · exact h.enter k
    · exact h
  next =>
    rcases Option.or_eq_some_iff.mp hstep with hEntry | ⟨-, hRest⟩
    · exact h.entryStep hEntry
    rcases Option.or_eq_some_iff.mp hRest with hRegistry | ⟨-, hRest⟩
    · exact h.registryStep hRegistry
    rcases Option.or_eq_some_iff.mp hRest with hCloser | ⟨-, hCleanup⟩
    · exact h.closerStep hCloser
    · exact h.cleanupStep hCleanup

theorem coreInv_reachable (h : coreMachine.Reachable s) : CoreInv s :=
  h.invariant coreInv_new fun _ _ _ _ _ hstep hInv => coreInv_step hInv hstep

@[simp] theorem unregisterResource_lifecycle (key : ResourceKey) :
    (s.unregisterResource key).lifecycle = s.lifecycle := by
  unfold ClientCore.unregisterResource
  split <;> rfl

@[simp] theorem unregisterResource_admissions (key : ResourceKey) :
    (s.unregisterResource key).admissions = s.admissions := by
  unfold ClientCore.unregisterResource
  split <;> rfl

@[simp] theorem close_lifecycle : s.close.lifecycle = s.lifecycle := by
  unfold ClientCore.close
  split <;> rfl

@[simp] theorem close_admissions : s.close.admissions = s.admissions := by
  unfold ClientCore.close
  split <;> rfl

/-- A core that is not ready admits nothing and does not become ready again. -/
theorem sealed_step (hSealed : s.lifecycle ≠ .ready) (hstep : s.step ev = some s') :
    s'.lifecycle ≠ .ready ∧ s'.admissions = s.admissions := by
  have hNot : s.ensureReady = false := decide_eq_false hSealed
  cases ev <;>
    simp only [ClientCore.step, entryStep, registryStep, closerStep, cleanupStep, hNot,
      Option.or_none, Option.none_or, Bool.false_eq_true, ↓reduceIte] at hstep
  all_goals
    repeat' split at hstep
  all_goals
    cases hstep
  all_goals
    -- the closer and the cleanup store a lifecycle of their own
    first
      | exact ⟨hSealed, rfl⟩
      | exact ⟨nofun, rfl⟩
      | simp [hSealed]

theorem sealed_run : ∀ (evs : List CoreEvent) {s : ClientCore}, s.lifecycle ≠ .ready →
    coreMachine.runFrom s evs = some s' → s'.admissions = s.admissions
  | [], s, _, hrun => by
    cases hrun
    rfl
  | ev :: rest, s, hSealed, hrun => by
    obtain ⟨s₁, hstep, hrest⟩ := Option.bind_eq_some_iff.mp hrun
    obtain ⟨hSealed₁, hSame⟩ := sealed_step hSealed hstep
    rw [sealed_run rest hSealed₁ hrest, hSame]

/-- `umount` comes behind the close of the taken resources. -/
theorem CoreInv.stage_of_umounts (h : CoreInv s) (hUmount : 0 < s.umounts) :
    5 ≤ s.cleanup.stage := by
  by_contra hLow
  rw [h.umounted, if_neg hLow] at hUmount
  cases hUmount

/-- **The client core shuts down safely** over every interleaving of admissions, tasks,
publications and closers. -/
theorem shutdown_drains (h : coreMachine.Reachable s) : ShutdownSafe s where
  umountOnce := by
    rw [(coreInv_reachable h).umounted]
    split <;> omega
  drained hUmount e he hAdm := by
    have hInv := coreInv_reachable h
    have hStage := hInv.stage_of_umounts hUmount
    have hOps := hInv.operationsEnded (by omega) e he
    have hTasks := hInv.tasksEnded (by omega) e he
    cases hk : e.counter <;> simp [Entry.admitted, hk, hAdm] at hOps hTasks
  sealed hSealed evs _ hrun := sealed_run evs hSealed hrun
  resourcesClosed hUmount key := by
    have hInv := coreInv_reachable h
    have hStage := hInv.stage_of_umounts hUmount
    have hTally := hInv.tally key
    rw [(hInv.registryTaken (by omega)).1] at hTally
    have hTaken : s.cleanup.taken = [] := by
      cases hc : s.cleanup with
      | closing keys errors => simp [hc, Cleanup.stage] at hStage
      | _ => rfl
    rw [hTaken] at hTally
    simp only [List.count_nil] at hTally
    omega
  published := (coreInv_reachable h).reported
  receives i r hWaits hReport := by
    refine ⟨s.setCloser i (.received r), ?_, ?_⟩
    · -- neither an entry nor the registry has such a step
      simp [coreMachine, ClientCore.step, ClientCore.entryStep, ClientCore.registryStep,
        ClientCore.closerStep, hWaits, hReport]
    · exact List.getElem?_set_self (List.getElem?_eq_some_iff.mp hWaits).1
  oneReport r r' hr hr' := by
    have hInv := coreInv_reachable h
    exact Option.some.inj ((hInv.reported r hr).symm.trans (hInv.reported r' hr'))

/-- An operation and a task are admitted and two resources published, one of which is
unregistered again. Two callers close; an operation that passed its first check before is
refused by its second. -/
def fullShutdown : List CoreEvent :=
  [.enter .inFlight, .increment 0, .recheck 0, .enter .ownedTasks, .increment 1, .recheck 1,
    .allocateResourceKey, .allocateResourceKey,
    .lockPublish 1, .publishCheck, .publishPush, .lockPublish 2, .publishCheck, .publishPush,
    .unregisterResource 1, .enter .inFlight, .close, .storeClosing 0, .increment 2, .close,
    .spawnCleanup 0, .recheck 2, .giveBack 2, .finish 0, .operationsDrained, .finish 1,
    .tasksDrained, .takeResources, .closeResource (.error (.rpc "close failed")),
    .umount (.ok ()), .storeClosed, .publishReport, .receiveReport 0, .receiveReport 1]

/-- Both callers end with the report, which has the error of the resource. -/
theorem shutdown_drains_fullShutdown :
    ∃ s, coreMachine.runFrom .new fullShutdown = some s ∧ ShutdownSafe s ∧ s.umounts = 1 ∧
      s.closedResources = [2] ∧
      s.closers = List.replicate 2 (.received ⟨[.rpc "close failed"]⟩) :=
  ⟨_, rfl, shutdown_drains (Lib.Machine.reachable_of_runFrom fullShutdown rfl), rfl, rfl, rfl⟩

end NfsRs.Client
