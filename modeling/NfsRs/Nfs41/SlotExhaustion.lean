import Mathlib.Data.List.Perm.Subperm
import NfsRs.Nfs41.SlotPartition

/-!
# NfsRs — a table whose slots are all fenced

A fenced slot never comes back. The drop that fences the last slot closes the semaphore, and
from then on `acquire` fails, which is what makes the session's users recover. The count is
over the whole table, though, and the server's target may keep free slots out of reach: with
every slot within the target fenced and a free one above it, the table stays open and an
`acquire` waits for a notification that no task will send.

Where no free slot is out of reach, exhaustion is reported: the table is closed, and a call
that waits is at the semaphore, where its next step fails, or has a broadcast coming.

## Main results

- `exhausted_closed` : without a free slot above the target, exhaustion closes the table.
- `exhausted_above_target` : the open table in which an `acquire` waits for good.
-/

namespace NfsRs.Nfs41

open Lib

variable {n : Nat} {s s' : SharedSlotTable} {i : Nat} {p q : AcquirePhase}

/-! ## Closing -/

/-- The drop is about to close the table. -/
def AcquirePhase.closes (n : Nat) : AcquirePhase → Bool
  | .counted fenced => decide (n ≤ fenced)
  | _ => false

/-- With every slot fenced the table is closed, or some drop is about to close it. -/
def Closing (n : Nat) (s : SharedSlotTable) : Prop :=
  n ≤ s.table.fencedSlots → s.table.closed = true ∨ 0 < s.calls.countP (AcquirePhase.closes n)

namespace Closing

theorem initial (hn : 0 < n) : Closing n (.initial n) := by
  intro hLe
  exact absurd hLe (Nat.not_le_of_gt hn)

/-- A call that is not about to close the table moves. -/
theorem move {t : SharedSlotTable} (h : Closing n s) (hCall : s.calls[i]? = some p)
    (hCalls : t.calls = s.calls.set i q) (hFenced : t.table.fencedSlots = s.table.fencedSlots)
    (hClosed : t.table.closed = s.table.closed) (hSame : q.closes n = p.closes n) :
    Closing n t := by
  intro hLe
  rw [hCalls, hClosed, countP_set_eq _ hCall hSame]
  exact h (hFenced ▸ hLe)

theorem closes_of_idle (hp : p.idle = true) : p.closes n = false := by
  cases p <;> first | rfl | cases hp

theorem step (hAccounts : SlotAccounts n s) (h : Closing n s) (hMove : TableMove s s') :
    Closing n s' := by
  cases hMove with
  | call =>
    intro hLe
    refine (h hLe).imp_right fun hPos => ?_
    simp only [List.countP_append]
    omega
  | idle hCall hp hq _ hWoken =>
    intro hLe
    rw [SlotAccounts.countP_idle (fun _ => closes_of_idle) hCall hp hq hWoken]
    exact h hLe
  | permit hCall _ => exact h.move hCall rfl rfl rfl rfl
  | load hCall => exact h.move hCall rfl rfl rfl rfl
  | grant hCall _ _ => exact h.move hCall rfl rfl rfl rfl
  | miss hCall _ => exact h.move hCall rfl rfl rfl rfl
  | returnPermit hCall => exact h.move hCall rfl rfl rfl rfl
  | cancelPermit hCall => exact h.move hCall rfl rfl rfl rfl
  | mark hCall => exact h.move hCall rfl rfl rfl rfl
  | overflow hCall _ => exact h.move hCall rfl rfl rfl rfl
  | dispose hCall => exact h.move hCall rfl rfl rfl rfl
  | clear hCall => exact h.move hCall rfl rfl rfl rfl
  | push hCall => exact h.move hCall rfl rfl rfl rfl
  | addPermit hCall => exact h.move hCall rfl rfl rfl rfl
  | @count i slot hCall =>
    intro hLe
    -- The drop that counts the last slot is the one that will close.
    have hCloses : AcquirePhase.closes n (.counted (s.table.fencedSlots + 1)) = true :=
      decide_eq_true hLe
    have hSet := countP_set_start (AcquirePhase.closes n) hCall rfl hCloses
    exact .inr (by show 0 < (s.calls.set i _).countP _; omega)
  | @close i fenced hCall =>
    intro hLe
    by_cases hAll : n ≤ fenced
    · refine .inl ?_
      simp [SharedSlotTable.setCall, hAccounts.size, hAll]
    · rcases h hLe with hClosed | hPos
      · exact .inl (by simp [SharedSlotTable.setCall, hClosed])
      · refine .inr ?_
        rwa [SharedSlotTable.setCall, countP_set_eq _ hCall (by simp [AcquirePhase.closes, hAll])]
  | updateTarget _ => exact h
  | notifyWaiters _ =>
    intro hLe
    show _ ∨ 0 < (s.calls.map (AcquirePhase.wake false)).countP _
    rw [(Woken.map s.calls).countP_eq rfl fun _ => rfl]
    exact h hLe

end Closing

/-! ## Waiters -/

/-- The call searches the pool with a target that is no longer the last. -/
def AcquirePhase.stale (versions : Nat) : AcquirePhase → Bool
  | .loaded _ _ version => decide (version ≠ versions)
  | _ => false

/-- Free slots that the target keeps out of reach. -/
def SharedSlotTable.outOfReach (s : SharedSlotTable) : Nat :=
  s.table.freePool.countP fun slot => decide (s.table.targetHighestSlotId < slot)

/-- **Why a waiter waits.** While no notification of an update is due, a call that found no
slot and was not woken leaves a free slot above the target that no search under way can
take. -/
def WaitsForTarget (s : SharedSlotTable) : Prop :=
  s.updates = 0 → (∃ p ∈ s.calls, p.unwoken s.broadcasts = true) →
    s.calls.countP (AcquirePhase.stale s.versions) < s.outOfReach

namespace WaitsForTarget

theorem initial : WaitsForTarget (.initial n) := by
  rintro - ⟨p, hp, -⟩
  cases hp

/-- A call moves that neither comes to wait nor to search with an old target, and no free slot
within reach of a waiter goes. -/
theorem move {t : SharedSlotTable} (h : WaitsForTarget s) (hCall : s.calls[i]? = some p)
    (hCalls : t.calls = s.calls.set i q) (hBroadcasts : t.broadcasts = s.broadcasts)
    (hUpdates : t.updates = s.updates) (hReach : s.outOfReach ≤ t.outOfReach)
    (hUnwoken : q.unwoken s.broadcasts = true → p.unwoken s.broadcasts = true)
    (hStale : q.stale s.versions = true → p.stale s.versions = true) : WaitsForTarget t := by
  rintro hNone ⟨w, hw, hWaits⟩
  have hBefore : ∃ p ∈ s.calls, p.unwoken s.broadcasts = true := by
    rw [hCalls] at hw
    rw [hBroadcasts] at hWaits
    rcases List.mem_or_eq_of_mem_set hw with hOld | rfl
    · exact ⟨w, hOld, hWaits⟩
    · exact ⟨p, List.mem_of_getElem? hCall, hUnwoken hWaits⟩
  have hLt := h (hUpdates ▸ hNone) hBefore
  have hLe := countP_set_le (AcquirePhase.stale s.versions) hCall hStale
  rw [hCalls, SharedSlotTable.versions, hBroadcasts, hUpdates]
  exact Nat.lt_of_lt_of_le (Nat.lt_of_le_of_lt hLe hLt) hReach

theorem stale_of_idle {v : Nat} (hp : p.idle = true) : p.stale v = false := by
  cases p <;> first | rfl | cases hp

theorem hasPermit_of_stale {v : Nat} (h : p.stale v = true) : p.hasPermit = true := by
  cases p <;> first | rfl | cases h

/-- The search of a call misses. If the call will wait, its target is the last one, all free
slots are above it, and its own permit accounts for one more of them than the others can
take. -/
theorem miss_lt {since target version : Nat} (hAccounts : SlotAccounts n s) (hReads : TargetReads s)
    (hCall : s.calls[i]? = some (.loaded since target version))
    (hNone : ∀ slot ∈ s.table.freePool, target < slot) (hUpdates : s.updates = 0)
    (hSince : s.broadcasts ≤ since) :
    (s.calls.set i (.missed since)).countP (AcquirePhase.stale s.versions) < s.outOfReach := by
  obtain ⟨-, hVersion, hLe, hRead⟩ := hReads.of_call hCall
  have hVersions : s.versions = s.broadcasts := by
    simp only [SharedSlotTable.versions]
    omega
  have hLast : version = s.versions := by omega
  have hAll : s.outOfReach = s.table.freePool.length := by
    refine List.countP_eq_length.mpr fun slot hSlot => ?_
    rw [← hRead hLast]
    simpa using hNone slot hSlot
  have hHas := countP_set_stop (b := .ended) AcquirePhase.hasPermit hCall rfl rfl
  have hStale : (s.calls.set i .ended).countP (AcquirePhase.stale s.versions) ≤
      (s.calls.set i .ended).countP AcquirePhase.hasPermit :=
    List.countP_mono_left fun _ _ => hasPermit_of_stale
  have hOld : AcquirePhase.stale s.versions (.loaded since target version) = false := by
    simp [AcquirePhase.stale, hLast]
  have hEnded := countP_set_eq (b := .ended) (AcquirePhase.stale s.versions) hCall (hOld ▸ rfl)
  have hMissed := countP_set_eq (b := .missed since) (AcquirePhase.stale s.versions) hCall
    (hOld ▸ rfl)
  have hPermits := hAccounts.permits
  omega

/-- A grant takes a slot out of reach only with an old target. -/
theorem grant {since target version slot : Nat} (hReads : TargetReads s) (h : WaitsForTarget s)
    (hCall : s.calls[i]? = some (.loaded since target version)) (hFree : slot ∈ s.table.freePool)
    (hTarget : slot ≤ target) : WaitsForTarget (s.grant i slot target version) := by
  rintro hNone ⟨w, hw, hWaits⟩
  obtain ⟨-, -, -, hRead⟩ := hReads.of_call hCall
  have hBefore : ∃ p ∈ s.calls, p.unwoken s.broadcasts = true := by
    rcases List.mem_or_eq_of_mem_set hw with hOld | rfl
    · exact ⟨w, hOld, hWaits⟩
    · cases hWaits
  have hLt := h hNone hBefore
  have hErase := List.perm_cons_erase hFree
  have hCount := hErase.countP_eq fun slot => decide (s.table.targetHighestSlotId < slot)
  rw [List.countP_cons] at hCount
  show (s.calls.set i (.taken slot)).countP (AcquirePhase.stale s.versions) <
    (s.table.freePool.erase slot).countP fun slot => decide (s.table.targetHighestSlotId < slot)
  simp only [SharedSlotTable.outOfReach] at hLt
  by_cases hLast : version = s.versions
  · have hWithin : ¬ s.table.targetHighestSlotId < slot := by
      rw [← hRead hLast]
      omega
    have hSame := countP_set_le (b := .taken slot) (AcquirePhase.stale s.versions) hCall nofun
    rw [if_neg (by simpa using hWithin)] at hCount
    omega
  · have hStale : AcquirePhase.stale s.versions (.loaded since target version) = true := by
      simpa [AcquirePhase.stale] using hLast
    have hSet := countP_set_stop (b := .taken slot) (AcquirePhase.stale s.versions) hCall hStale rfl
    split at hCount <;> omega

theorem step (hAccounts : SlotAccounts n s) (hReads : TargetReads s) (h : WaitsForTarget s)
    (hMove : TableMove s s') : WaitsForTarget s' := by
  cases hMove with
  | call =>
    rintro hNone ⟨w, hw, hWaits⟩
    have hBefore : ∃ p ∈ s.calls, p.unwoken s.broadcasts = true := by
      rcases List.mem_append.mp hw with hOld | hNew
      · exact ⟨w, hOld, hWaits⟩
      · rw [List.mem_singleton.mp hNew] at hWaits
        cases hWaits
    have hLt := h hNone hBefore
    show (s.calls ++ [_]).countP (AcquirePhase.stale s.versions) < s.outOfReach
    simpa [AcquirePhase.stale] using hLt
  | @idle i p q calls waiters stored hCall hp hq hUnwoken hWoken =>
    rintro hNone ⟨w, hw, hWaits⟩
    have hBefore : ∃ p ∈ s.calls, p.unwoken s.broadcasts = true := by
      rcases hWoken.mem hw with hSet | ⟨one, rfl⟩
      · rcases List.mem_or_eq_of_mem_set hSet with hOld | rfl
        · exact ⟨w, hOld, hWaits⟩
        · exact ⟨p, List.mem_of_getElem? hCall, hUnwoken hWaits⟩
      · cases hWaits
    show calls.countP (AcquirePhase.stale s.versions) < s.outOfReach
    rw [SlotAccounts.countP_idle (fun _ => stale_of_idle) hCall hp hq hWoken]
    exact h hNone hBefore
  | permit hCall _ => exact h.move hCall rfl rfl rfl (Nat.le_refl _) (by rintro ⟨⟩) (by rintro ⟨⟩)
  | load hCall =>
    refine h.move hCall rfl rfl rfl (Nat.le_refl _) (by rintro ⟨⟩) fun hStale => ?_
    simp [AcquirePhase.stale] at hStale
  | grant hCall hFree hTarget => exact h.grant hReads hCall hFree hTarget
  | @miss i since target version hCall hFree =>
    by_cases hSince : s.broadcasts ≤ since
    · rintro hNone -
      exact miss_lt hAccounts hReads hCall hFree hNone hSince
    · refine h.move hCall rfl rfl rfl (Nat.le_refl _) (fun hWaits => ?_) (by rintro ⟨⟩)
      simp [AcquirePhase.unwoken, hSince] at hWaits
  | returnPermit hCall =>
    exact h.move hCall rfl rfl rfl (Nat.le_refl _) (fun hWaits => hWaits) (by rintro ⟨⟩)
  | cancelPermit hCall =>
    exact h.move hCall rfl rfl rfl (Nat.le_refl _) (by rintro ⟨⟩) (by rintro ⟨⟩)
  | mark hCall => exact h.move hCall rfl rfl rfl (Nat.le_refl _) (by rintro ⟨⟩) (by rintro ⟨⟩)
  | overflow hCall _ => exact h.move hCall rfl rfl rfl (Nat.le_refl _) (by rintro ⟨⟩) (by rintro ⟨⟩)
  | dispose hCall => exact h.move hCall rfl rfl rfl (Nat.le_refl _) (by rintro ⟨⟩) (by rintro ⟨⟩)
  | clear hCall => exact h.move hCall rfl rfl rfl (Nat.le_refl _) (by rintro ⟨⟩) (by rintro ⟨⟩)
  | push hCall =>
    refine h.move hCall rfl rfl rfl ?_ (by rintro ⟨⟩) (by rintro ⟨⟩)
    show _ ≤ (s.table.freePool ++ [_]).countP _
    rw [List.countP_append]
    exact Nat.le_add_right _ _
  | addPermit hCall => exact h.move hCall rfl rfl rfl (Nat.le_refl _) (by rintro ⟨⟩) (by rintro ⟨⟩)
  | count hCall => exact h.move hCall rfl rfl rfl (Nat.le_refl _) (by rintro ⟨⟩) (by rintro ⟨⟩)
  | close hCall => exact h.move hCall rfl rfl rfl (Nat.le_refl _) (by rintro ⟨⟩) (by rintro ⟨⟩)
  | updateTarget _ =>
    intro hNone
    exact absurd hNone (Nat.succ_ne_zero _)
  | notifyWaiters _ =>
    rintro - ⟨w, hw, hWaits⟩
    -- The broadcast woke every waiter, and every `notified` future is older than it.
    obtain ⟨p, hp, rfl⟩ := List.mem_map.mp hw
    have hRead := hReads.calls p hp
    cases p with
    | missed since | resting since =>
      have hSince : since ≤ s.broadcasts := hRead
      have hAfter : s.broadcasts + 1 ≤ since := of_decide_eq_true hWaits
      omega
    | _ => cases hWaits

end WaitsForTarget

/-! ## Exhaustion -/

/-- No task has a slot, and every slot within the target is fenced. -/
structure Exhausted (s : SharedSlotTable) : Prop where
  noHolder : ∀ p ∈ s.calls, p.holdsSlot = false
  fenced : ∀ slot ≤ s.table.targetHighestSlotId, slot ∈ s.fenced

/-- **A stuck table**: exhausted, open, and an `acquire` waits. -/
structure Stuck (s : SharedSlotTable) : Prop extends Exhausted s where
  notClosed : s.table.closed = false
  waiting : ∃ p ∈ s.calls, p.waits = true

theorem exhaustionInv (hPos : 0 < n) (hBound : n ≤ 64) (hs : (slotTableMachine n).Reachable s) :
    Closing n s ∧ WaitsForTarget s := by
  refine Machine.ReachableIf.invariant (I := fun s => Closing n s ∧ WaitsForTarget s) hs
    ⟨.initial hPos, .initial⟩ ?_
  intro s s' e hReach _ hStep h
  have hInv := tableInv_of_reachable hPos hBound hReach
  have hMove := tableMove_of_step hStep
  exact ⟨h.1.step hInv.accounts hMove, h.2.step hInv.accounts hInv.reads hMove⟩

/-- In an exhausted table a slot that is not fenced is free, and above the target. -/
theorem SlotAccounts.fenced_of_exhausted (h : SlotAccounts n s) (hExhausted : Exhausted s)
    (hReach : ∀ slot ∈ s.table.freePool, slot ≤ s.table.targetHighestSlotId) :
    ∀ slot < n, slot ∈ s.fenced := by
  intro slot hSlot
  by_contra hNot
  have hOnce := h.once slot
  have hUnfenced : s.fenced.count slot = 0 := List.count_eq_zero.mpr hNot
  have hUnowned : s.calls.countP (·.owns slot) = 0 := by
    refine List.countP_eq_zero.mpr fun p hp hOwns => ?_
    have hNone := hExhausted.noHolder p hp
    cases p <;> first | cases hOwns | cases hNone
  rw [if_pos hSlot, hUnfenced, hUnowned] at hOnce
  have hFree : slot ∈ s.table.freePool := List.count_pos_iff.mp (by omega)
  exact hNot (hExhausted.fenced slot (hReach slot hFree))

/-- With every slot of the table fenced the pool is empty. -/
theorem SlotAccounts.freePool_eq_nil (h : SlotAccounts n s)
    (hFenced : ∀ slot < n, slot ∈ s.fenced) :
    s.table.freePool = [] := by
  refine List.eq_nil_iff_forall_not_mem.mpr fun slot hSlot => ?_
  have hOnce := h.once slot
  have hFree : 0 < s.table.freePool.count slot := List.count_pos_iff.mpr hSlot
  split at hOnce
  next hLt =>
    have hCount : 0 < s.fenced.count slot := List.count_pos_iff.mpr (hFenced slot hLt)
    omega
  next => omega

/-- With every slot of the table fenced the count of fenced slots is the whole table. -/
theorem SlotAccounts.le_fencedSlots (h : SlotAccounts n s)
    (hFenced : ∀ slot < n, slot ∈ s.fenced) : n ≤ s.table.fencedSlots := by
  rw [h.fencedCount]
  calc n = (List.range n).length := List.length_range.symm
    _ ≤ s.fenced.length := by
      refine (List.Nodup.subperm List.nodup_range fun slot hSlot => ?_).length_le
      exact hFenced slot (List.mem_range.mp hSlot)

/-- With every slot of the table fenced and no drop under way, the table is closed. -/
theorem closed_of_fenced (hClosing : Closing n s) (hAccounts : SlotAccounts n s)
    (hExhausted : Exhausted s) (hAll : ∀ slot < n, slot ∈ s.fenced) : s.table.closed = true := by
  have hNoDrop : s.calls.countP (AcquirePhase.closes n) = 0 := by
    refine List.countP_eq_zero.mpr fun p hp hCloses => ?_
    have hNone := hExhausted.noHolder p hp
    cases p <;> first | cases hCloses | cases hNone
  rcases hClosing (hAccounts.le_fencedSlots hAll) with hClosed | hDrop
  · exact hClosed
  · omega

/-- **Exhaustion is reported.** When no free slot is above the target the table is not stuck:
once no slot is held and those within the target are fenced, the table is closed, a call at
the semaphore fails with its next step, and no call sleeps unless a broadcast that wakes it
is due. -/
theorem exhausted_closed {attrs : ChannelAttrs}
    (hAttrs : validateChannelAttrs "fore" attrs foreAttrs = .ok ()) {s : SharedSlotTable}
    (hs : (slotTableMachine attrs.maxRequests).Reachable s)
    (hReach : ∀ slot ∈ s.table.freePool, slot ≤ s.table.targetHighestSlotId) :
    ¬ Stuck s ∧
    (Exhausted s → s.table.closed = true ∧
      (∀ (i since : Nat), s.calls[i]? = some (.semaphore since) →
        slotTableStep s (.next i) = some (s.setCall i .failed)) ∧
      (s.updates = 0 → .sleeping ∉ s.calls)) := by
  obtain ⟨hPos, hBound⟩ := maxRequests_of_validateChannelAttrs hAttrs
  obtain ⟨hClosing, hWaits⟩ := exhaustionInv hPos hBound hs
  have hAccounts := (tableInv_of_reachable hPos hBound hs).accounts
  have hClosed : Exhausted s → s.table.closed = true := fun hExhausted =>
    closed_of_fenced hClosing hAccounts hExhausted (hAccounts.fenced_of_exhausted hExhausted hReach)
  refine ⟨fun hStuck => ?_, fun hExhausted => ⟨hClosed hExhausted, ?_, ?_⟩⟩
  · have hTrue := hClosed hStuck.toExhausted
    rw [hStuck.notClosed] at hTrue
    cases hTrue
  · intro i since hCall
    simp [slotTableStep, hCall, SharedSlotTable.nextStep, hClosed hExhausted]
  · intro hUpdates hSleeping
    have hLt := hWaits hUpdates ⟨.sleeping, hSleeping, rfl⟩
    have hNil := hAccounts.freePool_eq_nil (hAccounts.fenced_of_exhausted hExhausted hReach)
    simp [SharedSlotTable.outOfReach, hNil] at hLt

/-- A call of one slot, from `acquire` to the drop of its fenced slot. -/
def callToFence (i : Nat) : List SlotTableEvent :=
  [.call, .next i, .next i, .next i, .next i, .dispose i .fence, .drop i, .next i]

/-- Attributes of a fore channel with two slots. -/
def twoSlotAttrs : ChannelAttrs := { threeSlotAttrs with maxRequests := 2 }

/-- Both slots of a table are fenced while a third call waits for a permit. -/
def exhaustedRun : List SlotTableEvent := callToFence 0 ++ callToFence 1 ++ [.call]

theorem exhausted_closed_two :
    ∃ s, (slotTableMachine 2).Reachable s ∧ s.table.closed = true ∧
      slotTableStep s (.next 2) = some (s.setCall 2 .failed) := by
  have hs := Machine.reachable_of_runFrom (m := slotTableMachine 2) exhaustedRun rfl
  have hAttrs : validateChannelAttrs "fore" twoSlotAttrs foreAttrs = .ok () := by rfl
  have hReport := (exhausted_closed hAttrs hs (by decide +kernel)).2
    ⟨by decide +kernel, by decide +kernel⟩
  exact ⟨_, hs, hReport.1, hReport.2.1 2 0 rfl⟩

/-- Two slots are held, the target drops to 0, slot 1 is released and slot 0 fenced. A third
call takes the permit, finds no slot within the target, returns the permit and waits. -/
def aboveTargetRun : List SlotTableEvent :=
  [.call, .next 0, .next 0, .next 0, .next 0, .call, .next 1, .next 1, .next 1, .next 1,
    .updateTarget 0, .notifyWaiters, .drop 1, .next 1, .next 1, .next 1, .dispose 0 .fence, .drop 0,
    .next 0, .call, .next 2, .next 2, .next 2, .next 2, .next 2, .next 2, .next 2, .next 2,
    .next 2, .next 2]

/-- A stuck table: no call has a next step, and no notification is due. -/
theorem exhausted_above_target :
    validateChannelAttrs "fore" twoSlotAttrs foreAttrs = .ok () ∧
    ∃ s, (slotTableMachine twoSlotAttrs.maxRequests).Reachable s ∧ Stuck s ∧
      s.updates = 0 ∧ ∀ i, slotTableStep s (.next i) = none := by
  have hs := Machine.reachable_of_runFrom (m := slotTableMachine 2) aboveTargetRun rfl
  refine ⟨rfl, _, hs, ⟨⟨by decide +kernel, by decide +kernel⟩, rfl, by decide +kernel⟩, rfl, ?_⟩
  rintro (_ | _ | _ | i) <;> rfl

end NfsRs.Nfs41
