import NfsRs.Lib.List
import NfsRs.Nfs41.SlotTableSteps

/-!
# NfsRs — every slot is in one place

The accounts of the slot table over all interleavings of its steps. A slot is in the pool, or
out of it with exactly one call, or fenced; and the permits of the semaphore, with those that a
call has in hand or is about to give back, are as many as the free slots. The bitmap covers
what callers hold, so that the advertised highest slot id does.

Between the steps of an operation the permits and the pool may disagree, and a target that is
updated between the load and the search of an `acquire` does not bind that grant.

## Main results

- `slotTable_partition` : the accounts in every reachable state of an accepted table.
-/

namespace NfsRs.Nfs41

open Lib

variable {n : Nat} {s s' : SharedSlotTable} {i : Nat} {p q : AcquirePhase}

/-! ## Slots and permits -/

/-- The slot is in the pool and its permit is still to be added. -/
def AcquirePhase.owesPermit : AcquirePhase → Bool
  | .pushed => true
  | _ => false

/-- **The accounts of a table of `n` slots.** -/
structure SlotAccounts (n : Nat) (s : SharedSlotTable) : Prop where
  size : s.table.size = n
  once : ∀ slot, s.table.freePool.count slot + s.calls.countP (·.owns slot) +
    s.fenced.count slot = if slot < n then 1 else 0
  permits : s.permits + s.calls.countP AcquirePhase.hasPermit +
    s.calls.countP AcquirePhase.owesPermit = s.table.freePool.length
  fencedCount : s.table.fencedSlots = s.fenced.length
  target : s.table.targetHighestSlotId < n

namespace SlotAccounts

theorem initial (hn : 0 < n) : SlotAccounts n (.initial n) where
  size := rfl
  once slot := by
    show (List.range n).count slot + 0 + 0 = _
    simp [List.count_range]
  permits := by simp [SharedSlotTable.initial, SlotTable.new]
  fencedCount := rfl
  target := by
    show n - 1 < n
    omega

/-- One call moves, and what it has of the table balances what the table has. -/
theorem move {t : SharedSlotTable} (h : SlotAccounts n s) (hCall : s.calls[i]? = some p)
    (hCalls : t.calls = s.calls.set i q) (hSize : t.table.size = s.table.size)
    (hTarget : t.table.targetHighestSlotId = s.table.targetHighestSlotId)
    (hOnce : ∀ slot, t.table.freePool.count slot + (if q.owns slot then 1 else 0) +
      t.fenced.count slot = s.table.freePool.count slot + (if p.owns slot then 1 else 0) +
        s.fenced.count slot)
    (hPermits : t.permits + (if q.hasPermit then 1 else 0) + (if q.owesPermit then 1 else 0) +
      s.table.freePool.length = s.permits + (if p.hasPermit then 1 else 0) +
        (if p.owesPermit then 1 else 0) + t.table.freePool.length)
    (hFenced : t.table.fencedSlots + s.fenced.length = s.table.fencedSlots + t.fenced.length) :
    SlotAccounts n t where
  size := hSize.trans h.size
  once slot := by
    have hBefore := h.once slot
    have hMove := hOnce slot
    -- the calls lose what the old phase counted for and gain what the new one does
    have hCount := countP_set_add (b := q) (·.owns slot) hCall
    rw [hCalls]
    omega
  permits := by
    have hBefore := h.permits
    have hHas := countP_set_add (b := q) AcquirePhase.hasPermit hCall
    have hOwes := countP_set_add (b := q) AcquirePhase.owesPermit hCall
    rw [hCalls]
    omega
  fencedCount := by
    have hBefore := h.fencedCount
    omega
  target := by
    rw [hTarget]
    exact h.target

/-- Calls that have nothing of the table move or join. -/
theorem of_counts {t : SharedSlotTable} (h : SlotAccounts n s) (hTable : t.table = s.table)
    (hPermits : t.permits = s.permits) (hFenced : t.fenced = s.fenced)
    (hOwns : ∀ slot, t.calls.countP (·.owns slot) = s.calls.countP (·.owns slot))
    (hHas : t.calls.countP AcquirePhase.hasPermit = s.calls.countP AcquirePhase.hasPermit)
    (hOwes : t.calls.countP AcquirePhase.owesPermit = s.calls.countP AcquirePhase.owesPermit) :
    SlotAccounts n t where
  size := by
    rw [hTable]
    exact h.size
  once slot := by
    rw [hTable, hOwns, hFenced]
    exact h.once slot
  permits := by
    rw [hTable, hPermits, hHas, hOwes]
    exact h.permits
  fencedCount := by
    rw [hTable, hFenced]
    exact h.fencedCount
  target := by
    rw [hTable]
    exact h.target

/-- A call without anything of the table moves to another such phase, and waiters are woken. -/
theorem countP_idle {f : AcquirePhase → Bool} {calls : List AcquirePhase}
    (hf : ∀ p : AcquirePhase, p.idle = true → f p = false) (hCall : s.calls[i]? = some p)
    (hp : p.idle = true) (hq : q.restsAt s.broadcasts)
    (hWoken : Woken (s.calls.set i q) calls) :
    calls.countP f = s.calls.countP f := by
  have hSet := countP_set_add (b := q) f hCall
  rw [hf p hp, hf q (AcquirePhase.idle_of_restsAt hq)] at hSet
  rw [hWoken.countP_eq (hf _ rfl) fun _ => hf _ rfl]
  simpa using hSet

theorem owns_of_idle (slot : Nat) (hp : p.idle = true) : p.owns slot = false := by
  cases p <;> first | rfl | cases hp

theorem hasPermit_of_idle (hp : p.idle = true) : p.hasPermit = false := by
  cases p <;> first | rfl | cases hp

theorem owesPermit_of_idle (hp : p.idle = true) : p.owesPermit = false := by
  cases p <;> first | rfl | cases hp

/-- A slot in a phase of a call is one of the table. -/
theorem lt_of_owns {slot : Nat} (h : SlotAccounts n s) (hCall : s.calls[i]? = some p)
    (hOwns : p.owns slot = true) : slot < n := by
  have hOnce := h.once slot
  have hPos := countP_pos_of_getElem? (p := (·.owns slot)) hCall hOwns
  split at hOnce
  · assumption
  · omega

/-- **One step keeps the accounts.** -/
theorem step (hn : n ≤ 64) (h : SlotAccounts n s) (hMove : TableMove s s') :
    SlotAccounts n s' := by
  cases hMove with
  | call =>
    refine h.of_counts rfl rfl rfl (fun slot => ?_) ?_ ?_ <;>
      simp [AcquirePhase.owns, AcquirePhase.slot?, AcquirePhase.hasPermit, AcquirePhase.owesPermit]
  | idle hCall hp hq _ hWoken =>
    exact h.of_counts rfl rfl rfl
      (fun slot => countP_idle (fun _ => owns_of_idle slot) hCall hp hq hWoken)
      (countP_idle (fun _ => hasPermit_of_idle) hCall hp hq hWoken)
      (countP_idle (fun _ => owesPermit_of_idle) hCall hp hq hWoken)
  | permit hCall hPermit =>
    refine h.move hCall rfl rfl rfl (fun slot => rfl) ?_ rfl
    simp [SharedSlotTable.setCall, AcquirePhase.hasPermit, AcquirePhase.owesPermit]
    omega
  | load hCall => exact h.move hCall rfl rfl rfl (fun slot => rfl) rfl rfl
  | @grant i since target version granted hCall hFree hTarget =>
    have hLen := List.length_erase_of_mem hFree
    have hPos := List.length_pos_of_mem hFree
    refine h.move hCall rfl rfl rfl (fun slot => ?_) ?_ rfl
    · have hCount : (s.table.freePool.erase granted).count slot = s.table.freePool.count slot -
          if (granted == slot) = true then 1 else 0 := List.count_erase
      have hMem : 0 < s.table.freePool.count granted := List.count_pos_iff.mpr hFree
      simp only [SharedSlotTable.grant, SharedSlotTable.setCall, AcquirePhase.owns,
        AcquirePhase.slot?]
      by_cases hSlot : granted = slot
      · subst hSlot
        simp at hCount ⊢
        omega
      · simp [hSlot] at hCount ⊢
        omega
    · simp [SharedSlotTable.grant, SharedSlotTable.setCall, AcquirePhase.hasPermit,
        AcquirePhase.owesPermit]
      omega
  | miss hCall _ => exact h.move hCall rfl rfl rfl (fun slot => rfl) rfl rfl
  | returnPermit hCall =>
    refine h.move hCall rfl rfl rfl (fun slot => rfl) ?_ rfl
    simp [SharedSlotTable.setCall, AcquirePhase.hasPermit, AcquirePhase.owesPermit]
  | cancelPermit hCall =>
    refine h.move hCall rfl rfl rfl (fun slot => rfl) ?_ rfl
    simp [SharedSlotTable.setCall, AcquirePhase.hasPermit, AcquirePhase.owesPermit]
  | mark hCall => exact h.move hCall rfl rfl rfl (fun slot => rfl) rfl rfl
  | @overflow i slot hCall hBound =>
    -- A slot of the table is below 64.
    have hLt : slot < n := h.lt_of_owns hCall (by simp [AcquirePhase.owns, AcquirePhase.slot?])
    omega
  | dispose hCall => exact h.move hCall rfl rfl rfl (fun slot => rfl) rfl rfl
  | clear hCall => exact h.move hCall rfl rfl rfl (fun slot => rfl) rfl rfl
  | @push i pushed hCall =>
    refine h.move hCall rfl rfl rfl (fun slot => ?_) ?_ rfl
    · by_cases hSlot : pushed = slot <;>
        simp [SharedSlotTable.setCall, AcquirePhase.owns, AcquirePhase.slot?, hSlot]
    · simp [SharedSlotTable.setCall, AcquirePhase.hasPermit, AcquirePhase.owesPermit]
      omega
  | addPermit hCall => exact h.move hCall rfl rfl rfl (fun slot => rfl) rfl rfl
  | @count i fenced hCall =>
    refine h.move hCall rfl rfl rfl (fun slot => ?_) rfl ?_
    · by_cases hSlot : fenced = slot <;>
        simp [SharedSlotTable.setCall, AcquirePhase.owns, AcquirePhase.slot?, hSlot]
      omega
    · simp [SharedSlotTable.setCall]
      omega
  | close hCall => exact h.move hCall rfl rfl rfl (fun slot => rfl) rfl rfl
  | updateTarget hBound =>
    exact
      { size := h.size, once := h.once, permits := h.permits, fencedCount := h.fencedCount
        target := h.size ▸ hBound }
  | notifyWaiters hUpdates =>
    have hWoken : Woken s.calls (s.calls.map (AcquirePhase.wake false)) := .map _
    exact h.of_counts rfl rfl rfl (fun slot => hWoken.countP_eq rfl fun _ => rfl)
      (hWoken.countP_eq rfl fun _ => rfl) (hWoken.countP_eq rfl fun _ => rfl)

end SlotAccounts

/-! ## The bitmap -/

/-- The caller has an `AcquiredSlot` for this slot. -/
def AcquirePhase.holds (slot : Nat) : AcquirePhase → Bool
  | .held mine _ => mine == slot
  | _ => false

/-- **The bitmap covers what callers hold**, and nothing outside the table. -/
structure SlotMarks (n : Nat) (s : SharedSlotTable) : Prop where
  marked : ∀ slot, slot ∉ s.table.active → s.calls.countP (·.holds slot) = 0
  bound : ∀ slot ∈ s.table.active, slot < n

namespace SlotMarks

theorem initial : SlotMarks n (.initial n) where
  marked _ _ := rfl
  bound := nofun

/-- A call moves without coming to hold a slot, and the bitmap is left alone. -/
theorem move {t : SharedSlotTable} (h : SlotMarks n s) (hCall : s.calls[i]? = some p)
    (hCalls : t.calls = s.calls.set i q) (hActive : t.table.active = s.table.active)
    (hHolds : ∀ slot, q.holds slot = true → p.holds slot = true) : SlotMarks n t where
  marked slot hSlot := by
    have hZero := h.marked slot (hActive ▸ hSlot)
    have hLe := countP_set_le (·.holds slot) hCall (hHolds slot)
    rw [hCalls]
    omega
  bound := hActive ▸ h.bound

theorem holds_of_idle (slot : Nat) (hp : p.idle = true) : p.holds slot = false := by
  cases p <;> first | rfl | cases hp

theorem owns_of_holds {slot : Nat} (h : p.holds slot = true) : p.owns slot = true := by
  cases p with
  | held mine _ => simpa [AcquirePhase.holds, AcquirePhase.owns, AcquirePhase.slot?] using h
  | _ => cases h

/-- Only `mark` and `clear` write the bitmap, each for the slot of its own call. -/
theorem step (hAccounts : SlotAccounts n s) (h : SlotMarks n s) (hMove : TableMove s s') :
    SlotMarks n s' := by
  cases hMove with
  | call =>
    refine ⟨fun slot hSlot => ?_, h.bound⟩
    simpa [AcquirePhase.holds] using h.marked slot hSlot
  | idle hCall hp hq _ hWoken =>
    refine ⟨fun slot hSlot => ?_, h.bound⟩
    rw [SlotAccounts.countP_idle (fun _ => holds_of_idle slot) hCall hp hq hWoken]
    exact h.marked slot hSlot
  | permit hCall _ => exact h.move hCall rfl rfl (by rintro _ ⟨⟩)
  | load hCall => exact h.move hCall rfl rfl (by rintro _ ⟨⟩)
  | grant hCall _ _ => exact h.move hCall rfl rfl (by rintro _ ⟨⟩)
  | miss hCall _ => exact h.move hCall rfl rfl (by rintro _ ⟨⟩)
  | returnPermit hCall => exact h.move hCall rfl rfl (by rintro _ ⟨⟩)
  | cancelPermit hCall => exact h.move hCall rfl rfl (by rintro _ ⟨⟩)
  | @mark i marked hCall =>
    -- the slot that is marked leaves the statement, and no other count changes
    refine ⟨fun slot hSlot => ?_, List.forall_mem_cons.mpr ⟨?_, h.bound⟩⟩
    · have hOther : marked ≠ slot ∧ slot ∉ s.table.active := by
        simpa [SharedSlotTable.setCall, eq_comm] using hSlot
      rw [SharedSlotTable.setCall, countP_set_eq _ hCall]
      · exact h.marked slot hOther.2
      · simp [AcquirePhase.holds, hOther.1]
    · exact hAccounts.lt_of_owns hCall (by simp [AcquirePhase.owns, AcquirePhase.slot?])
  | overflow hCall _ => exact h.move hCall rfl rfl (by rintro _ ⟨⟩)
  | dispose hCall => exact h.move hCall rfl rfl fun slot hHolds => hHolds
  | @clear i cleared hCall =>
    refine ⟨fun slot hSlot => ?_, fun slot hSlot => h.bound slot (List.mem_filter.mp hSlot).1⟩
    by_cases hSame : cleared = slot
    · -- No other call owns the slot, so no other caller holds it.
      subst hSame
      have hHolds : AcquirePhase.holds cleared (.held cleared .release) = true := by
        simp [AcquirePhase.holds]
      have hCount := countP_set_stop (b := .cleared cleared) (·.holds cleared) hCall hHolds rfl
      have hOnce := hAccounts.once cleared
      have hLe : s.calls.countP (·.holds cleared) ≤ s.calls.countP (·.owns cleared) :=
        List.countP_mono_left fun _ _ => owns_of_holds
      show (s.calls.set i (.cleared cleared)).countP (·.holds cleared) = 0
      split at hOnce <;> omega
    · rw [SharedSlotTable.setCall, countP_set_eq _ hCall]
      · exact h.marked slot (by simpa [SharedSlotTable.setCall, eq_comm, hSame] using hSlot)
      · simp [AcquirePhase.holds, hSame]
  | push hCall => exact h.move hCall rfl rfl (by rintro _ ⟨⟩)
  | addPermit hCall => exact h.move hCall rfl rfl (by rintro _ ⟨⟩)
  | count hCall => exact h.move hCall rfl rfl (by rintro _ ⟨⟩)
  | close hCall => exact h.move hCall rfl rfl (by rintro _ ⟨⟩)
  | updateTarget _ => exact ⟨h.marked, h.bound⟩
  | notifyWaiters _ =>
    refine ⟨fun slot hSlot => ?_, h.bound⟩
    show (s.calls.map (AcquirePhase.wake false)).countP (·.holds slot) = 0
    rw [(Woken.map s.calls).countP_eq rfl fun _ => rfl]
    exact h.marked slot hSlot

end SlotMarks

/-! ## Targets -/

/-- What a phase remembers of the target and of the `Notify` is from the past, and a target
loaded behind the last update is the one in force. -/
def AcquirePhase.ReadBefore (broadcasts versions target : Nat) : AcquirePhase → Prop
  | .semaphore since | .permitted since | .missed since | .resting since => since ≤ broadcasts
  | .loaded since read version =>
    since ≤ broadcasts ∧ since ≤ version ∧ version ≤ versions ∧ (version = versions → read = target)
  | _ => True

/-- **The target binds every grant** that no update of it has overtaken. -/
structure TargetReads (s : SharedSlotTable) : Prop where
  calls : ∀ p ∈ s.calls, p.ReadBefore s.broadcasts s.versions s.table.targetHighestSlotId
  grants : ∀ g ∈ s.grants, g.slot ≤ g.read ∧ (g.raced = false → g.read = g.target)

namespace TargetReads

theorem initial : TargetReads (.initial n) where
  calls := nofun
  grants := nofun

theorem move {t : SharedSlotTable} (h : TargetReads s) (hCalls : t.calls = s.calls.set i q)
    (hTarget : t.table.targetHighestSlotId = s.table.targetHighestSlotId)
    (hBroadcasts : t.broadcasts = s.broadcasts) (hUpdates : t.updates = s.updates)
    (hGrants : t.grants = s.grants)
    (hq : q.ReadBefore s.broadcasts s.versions s.table.targetHighestSlotId) : TargetReads t where
  calls := by
    rw [hCalls, hTarget, SharedSlotTable.versions, hBroadcasts, hUpdates]
    exact forall_mem_set h.calls hq
  grants := hGrants ▸ h.grants

/-- What holds of the phase that a call is in. -/
theorem of_call (h : TargetReads s) (hCall : s.calls[i]? = some p) :
    p.ReadBefore s.broadcasts s.versions s.table.targetHighestSlotId :=
  h.calls p (List.mem_of_getElem? hCall)

theorem readBefore_woken {b v t : Nat} {l l' : List AcquirePhase} (hWoken : Woken l l')
    (h : ∀ p ∈ l, p.ReadBefore b v t) : ∀ p ∈ l', p.ReadBefore b v t := by
  intro p hp
  rcases hWoken.mem hp with hOld | ⟨one, rfl⟩
  · exact h p hOld
  · trivial

/-- A later broadcast or update leaves what is remembered in the past. -/
theorem readBefore_later {b b' v v' t t' : Nat} (hb : b ≤ b') (hv : v < v' ∨ v = v' ∧ t = t')
    (h : p.ReadBefore b v t) : p.ReadBefore b' v' t' := by
  cases p with
  | loaded since read version =>
    obtain ⟨hSince, hVersion, hLe, hRead⟩ := h
    rcases hv with hLt | ⟨rfl, rfl⟩
    · exact ⟨by omega, hVersion, by omega, fun hEq => absurd hEq (by omega)⟩
    · exact ⟨by omega, hVersion, hLe, hRead⟩
  | semaphore since | permitted since | missed since | resting since => exact Nat.le_trans h hb
  | _ => trivial

theorem readBefore_of_restsAt {b v t : Nat} (h : p.restsAt b) : p.ReadBefore b v t := by
  cases p with
  | semaphore since => exact Nat.le_of_eq h
  | sleeping | ended | failed => trivial
  | _ => exact h.elim

/-- A load reads the target in force; every later update makes the load an old one. -/
theorem step (h : TargetReads s) (hMove : TableMove s s') : TargetReads s' := by
  cases hMove with
  | call => exact ⟨forall_mem_concat h.calls (Nat.le_refl _), h.grants⟩
  | idle _ _ hq _ hWoken =>
    exact ⟨readBefore_woken hWoken (forall_mem_set h.calls (readBefore_of_restsAt hq)), h.grants⟩
  | @permit i since hCall _ =>
    have hSince : since ≤ s.broadcasts := h.of_call hCall
    exact h.move rfl rfl rfl rfl rfl hSince
  | @load i since hCall =>
    have hSince : since ≤ s.broadcasts := h.of_call hCall
    refine h.move rfl rfl rfl rfl rfl ⟨hSince, ?_, Nat.le_refl _, fun _ => rfl⟩
    simp only [SharedSlotTable.versions]
    omega
  | @grant i since target version slot hCall hFree hTarget =>
    obtain ⟨-, -, -, hRead⟩ := h.of_call hCall
    refine ⟨forall_mem_set h.calls trivial, List.forall_mem_cons.mpr ⟨⟨hTarget, ?_⟩, h.grants⟩⟩
    intro hRaced
    exact hRead (by simpa using hRaced)
  | miss hCall _ => exact h.move rfl rfl rfl rfl rfl (h.of_call hCall).1
  | @returnPermit i since hCall =>
    have hSince : since ≤ s.broadcasts := h.of_call hCall
    exact h.move rfl rfl rfl rfl rfl hSince
  | cancelPermit hCall => exact h.move rfl rfl rfl rfl rfl trivial
  | mark hCall => exact h.move rfl rfl rfl rfl rfl trivial
  | overflow hCall _ => exact h.move rfl rfl rfl rfl rfl trivial
  | dispose hCall => exact h.move rfl rfl rfl rfl rfl trivial
  | clear hCall => exact h.move rfl rfl rfl rfl rfl trivial
  | push hCall => exact h.move rfl rfl rfl rfl rfl trivial
  | addPermit hCall => exact h.move rfl rfl rfl rfl rfl trivial
  | count hCall => exact h.move rfl rfl rfl rfl rfl trivial
  | close hCall => exact h.move rfl rfl rfl rfl rfl trivial
  | updateTarget hBound =>
    refine ⟨fun p hp => readBefore_later (Nat.le_refl _) (.inl ?_) (h.calls p hp), h.grants⟩
    -- the version grows, so that no earlier load counts as one of the new target
    simp only [SharedSlotTable.versions]
    omega
  | notifyWaiters hUpdates =>
    refine ⟨readBefore_woken (Woken.map s.calls) fun p hp => ?_, h.grants⟩
    refine readBefore_later (Nat.le_succ _) (.inr ⟨?_, rfl⟩) (h.calls p hp)
    simp only [SharedSlotTable.versions, SharedSlotTable.notifyWaiters]
    omega

end TargetReads

/-! ## Runs -/

/-- What the steps keep of a table of `n` slots. -/
structure TableInv (n : Nat) (s : SharedSlotTable) : Prop where
  accounts : SlotAccounts n s
  marks : SlotMarks n s
  reads : TargetReads s

/-- **Every run keeps the accounts, the bitmap and the targets.** -/
theorem tableInv_of_reachable (hPos : 0 < n) (hBound : n ≤ 64)
    (hs : (slotTableMachine n).Reachable s) : TableInv n s := by
  refine Machine.ReachableIf.invariant hs ⟨.initial hPos, .initial, .initial⟩ ?_
  intro s s' e _ _ hStep h
  have hMove := tableMove_of_step hStep
  exact ⟨h.accounts.step hBound hMove, h.marks.step h.accounts hMove, h.reads.step hMove⟩

theorem SlotAccounts.owner_unique (h : SlotAccounts n s) {j slot : Nat}
    (hi : s.calls[i]? = some p) (hp : p.owns slot = true) (hj : s.calls[j]? = some q)
    (hq : q.owns slot = true) : i = j := by
  have hOnce := h.once slot
  refine index_unique_of_countP (p := (·.owns slot)) ?_ hi hp hj hq
  split at hOnce <;> omega

/-- `highest_slot_id` loads the bitmap and then the target; other steps may come between. -/
def advertised (atBitmap atTarget : SlotTable) : Nat :=
  max (atBitmap.active.foldl max 0) atTarget.targetHighestSlotId

theorem foldl_max_lt : ∀ (l : List Nat) (m : Nat), m < n → (∀ x ∈ l, x < n) →
    l.foldl max m < n
  | [], _, hm, _ => hm
  | x :: rest, m, hm, h => by
    have hx := h x List.mem_cons_self
    exact foldl_max_lt rest (max m x) (by omega) fun y hy => h y (List.mem_cons_of_mem x hy)

theorem le_foldl_max : ∀ (l : List Nat) (m : Nat), m ≤ l.foldl max m ∧ ∀ x ∈ l, x ≤ l.foldl max m
  | [], m => ⟨Nat.le_refl m, nofun⟩
  | y :: rest, m => by
    obtain ⟨hStart, hRest⟩ := le_foldl_max rest (max m y)
    refine ⟨by simp only [List.foldl_cons]; omega, List.forall_mem_cons.mpr ⟨?_, hRest⟩⟩
    simp only [List.foldl_cons]
    omega

/-- No call is between taking a permit and its slot, or between returning a slot and its
permit. -/
def SharedSlotTable.Settled (s : SharedSlotTable) : Prop :=
  ∀ p ∈ s.calls, p.hasPermit = false ∧ p.owesPermit = false

/-- What the table guarantees between any two steps. -/
structure SlotPartition (n : Nat) (s : SharedSlotTable) : Prop where
  /-- A slot of the table is in the pool, with one call, or fenced, and there once; no other
  slot exists. -/
  once : ∀ slot, s.table.freePool.count slot + s.calls.countP (·.owns slot) +
    s.fenced.count slot = if slot < n then 1 else 0
  /-- No two calls have one slot. -/
  exclusive : ∀ (i j : Nat) (p q : AcquirePhase) (slot : Nat), s.calls[i]? = some p →
    p.owns slot = true → s.calls[j]? = some q → q.owns slot = true → i = j
  /-- Permits, with those in the hands of calls and those still to be added. -/
  permits : s.permits + s.calls.countP AcquirePhase.hasPermit +
    s.calls.countP AcquirePhase.owesPermit = s.table.freePool.length
  /-- Between operations the permits alone are as many as the free slots. -/
  settled : s.Settled → s.permits = s.table.freePool.length
  /-- A grant is within the target that the call loaded, and within the target in force unless
  an update has come between. -/
  granted : ∀ g ∈ s.grants, g.slot ≤ g.read ∧ (g.raced = false → g.slot ≤ g.target)

theorem TableInv.partition (h : TableInv n s) : SlotPartition n s where
  once := h.accounts.once
  exclusive _ _ _ _ _ hi hp hj hq := h.accounts.owner_unique hi hp hj hq
  permits := h.accounts.permits
  settled hSettled := by
    have hPermits := h.accounts.permits
    rw [List.countP_eq_zero.mpr fun p hp => by simp [(hSettled p hp).1],
      List.countP_eq_zero.mpr fun p hp => by simp [(hSettled p hp).2]] at hPermits
    simpa using hPermits
  granted g hg := by
    obtain ⟨hRead, hRaced⟩ := h.reads.grants g hg
    exact ⟨hRead, fun hNot => hRaced hNot ▸ hRead⟩

theorem TableInv.le_advertised (h : TableInv n s) {slot : Nat} {disposition : SlotDisposition}
    (hCall : s.calls[i]? = some (.held slot disposition)) (t : SlotTable) :
    slot ≤ advertised s.table t := by
  have hActive : slot ∈ s.table.active := by
    by_contra hNot
    have hZero := h.marks.marked slot hNot
    have hHolds := countP_pos_of_getElem? (p := (·.holds slot)) hCall (by simp [AcquirePhase.holds])
    omega
  exact Nat.le_trans ((le_foldl_max _ _).2 slot hActive) (Nat.le_max_left _ _)

/-- **Every slot is in one place.** In every state of a table whose attributes were accepted,
the slots are partitioned and the permits account for the pool; and the highest slot id that a
request advertises is at least every slot held at its load of the bitmap, and below the
number of slots. -/
theorem slotTable_partition {attrs : ChannelAttrs}
    (hAttrs : validateChannelAttrs "fore" attrs foreAttrs = .ok ()) {s : SharedSlotTable}
    (hs : (slotTableMachine attrs.maxRequests).Reachable s) :
    SlotPartition attrs.maxRequests s ∧
    ∀ s', (slotTableMachine attrs.maxRequests).Reachable s' →
      advertised s.table s'.table < attrs.maxRequests ∧
      ∀ (i slot : Nat) (disposition : SlotDisposition),
        s.calls[i]? = some (.held slot disposition) →
        slot ≤ advertised s.table s'.table := by
  obtain ⟨hPos, hBound⟩ := maxRequests_of_validateChannelAttrs hAttrs
  have h := tableInv_of_reachable hPos hBound hs
  refine ⟨h.partition, fun s' hs' => ⟨?_, fun i slot disposition hCall => ?_⟩⟩
  · have h' := tableInv_of_reachable hPos hBound hs'
    have hActive := foldl_max_lt s.table.active 0 hPos h.marks.bound
    have hTarget := h'.accounts.target
    simp only [advertised]
    omega
  · exact h.le_advertised hCall s'.table

/-- Attributes of a fore channel with three slots. -/
def threeSlotAttrs : ChannelAttrs :=
  { headerPadSize := 0
    maxRequestSize := 65536
    maxResponseSize := 65536
    maxCachedResponseSize := 4096
    maxOps := 8
    maxRequests := 3 }

/-- Two calls load the target; the first takes slot 0. The target drops to 0 and the second
takes slot 1. A third call takes a permit. -/
def overtakenRun : List SlotTableEvent :=
  [.call, .call, .next 0, .next 0, .next 1, .next 1, .next 0, .next 0, .updateTarget 0, .next 1,
    .next 1, .call, .next 2]

/-- The accounts on a run with a grant, a race and a permit in hand. -/
theorem slotTable_partition_three :
    ∃ s, (slotTableMachine 3).Reachable s ∧ SlotPartition 3 s ∧
      s.calls[0]? = some (.held 0 .release) ∧ 0 ≤ advertised s.table s.table := by
  have hAttrs : validateChannelAttrs "fore" threeSlotAttrs foreAttrs = .ok () := by rfl
  have hs := Machine.reachable_of_runFrom (m := slotTableMachine 3) overtakenRun rfl
  obtain ⟨hPartition, hHighest⟩ := slotTable_partition hAttrs hs
  exact ⟨_, hs, hPartition, rfl, (hHighest _ hs).2 0 0 .release rfl⟩

/-- In the middle of an `acquire` a permit is missing for a slot that is still free, and the
slot granted before it exceeds the target in force at the grant. -/
theorem slotTable_midway :
    validateChannelAttrs "fore" threeSlotAttrs foreAttrs = .ok () ∧
    ∃ s, (slotTableMachine threeSlotAttrs.maxRequests).Reachable s ∧
      s.permits ≠ s.table.freePool.length ∧
      ∃ g ∈ s.grants, g.target < g.slot := by
  have hs := Machine.reachable_of_runFrom (m := slotTableMachine 3) overtakenRun rfl
  refine ⟨rfl, _, hs, by decide, ?_⟩
  exact ⟨{ slot := 1, read := 2, target := 0, raced := true }, by decide, by decide⟩

end NfsRs.Nfs41
