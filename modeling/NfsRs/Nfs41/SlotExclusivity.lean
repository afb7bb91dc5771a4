import NfsRs.Nfs41.SlotUse

/-!
# NfsRs — who may use a sequence id

Two requests that carry one (session, slot, sequence id) are told apart by nothing: the
server answers the second with the cached reply of the first. This file finds out when the
client transmits such a pair. A slot goes back to the pool with a used sequence id in two
ways only: its request is read-only and ended without an answer (such requests are not
fenced), or SEQUENCE itself refused a frame of it. All else either advances or fences.

The invariant is stated slot by slot: a step changes one slot (`SameAt` says that the
others are as they were), so each step is checked at its own slot only.

## Main results

- `slotInv_step` : every step of the clients and the server keeps the invariant.
- `slots_exclusive` : the frames of different requests under one sequence id come with a
  lapse of that id, every lapse has one of the two reasons, and the next id of a free slot
  without an unanswered lapse is the one behind the last id the server has accepted.
- `read_reply_lost_reuses_slot` : a lost read reply lets a REMOVE reuse the identity.
-/

namespace NfsRs.Nfs41

open SlotUse

/-! ## The invariant at one slot -/

/-- What the logs and the server say about a slot, whoever holds it. -/
structure SlotFacts (s : SlotUse) (slot : Nat) : Prop where
  count_le : ∀ f ∈ s.frames, f.slot = slot → f.count ≤ s.table.advances slot
  inFlight_sub : ∀ f ∈ s.inFlight, f.slot = slot → f ∈ s.frames
  exclusive : ∀ f ∈ s.frames, ∀ f' ∈ s.frames, f.slot = slot → f'.slot = slot →
    f.count = f'.count → f.request = f'.request ∨ s.Lapsed slot f.count
  accepted : s.accepted slot = s.table.advances slot ∨
    s.accepted slot = s.table.advances slot + 1 ∧
      ∃ r, s.acceptedBy slot = some r ∧
        { slot := slot, count := s.table.advances slot, request := r } ∈ s.inFlight

/-- A hold of the slot whose sequence id is still the one it was acquired with: the frames
under that id are its own, or come with a lapse. -/
structure LiveHold (s : SlotUse) (slot : Nat) (h : Hold) : Prop where
  count : s.table.advances slot = h.count
  own : ∀ f ∈ s.frames, f.slot = slot → f.count = h.count →
    (h.sent = true ∧ f.request = h.request) ∨ s.Lapsed slot h.count
  flight : ∀ f ∈ s.inFlight, f.slot = slot → f.count = h.count →
    (h.sent = true ∧ f.request = h.request) ∨ s.LapsedUnanswered slot h.count
  present : h.sent = true → h.refused = false → h.frame slot ∈ s.inFlight
  armed : h.disposition = .release → h.sent = true →
    h.refused = true ∨ h.request.sender.fences = false
  calling : h.phase = .calling → h.request.sender.fences = true → h.disposition = .fence
  phase : ∀ action, h.phase ≠ .settling action

/-- The sequence id that the next holder gets is unused, or comes with a lapse. -/
structure Fresh (s : SlotUse) (slot : Nat) : Prop where
  lapsed : ∀ f ∈ s.frames, f.slot = slot → f.count = s.table.advances slot →
    s.Lapsed slot (s.table.advances slot)
  flight : ∀ f ∈ s.inFlight, f.slot = slot → f.count = s.table.advances slot →
    s.LapsedUnanswered slot (s.table.advances slot)

/-- A hold before its advance, or behind it. -/
def HoldCore (s : SlotUse) (slot : Nat) (h : Hold) : Prop :=
  if h.advanced then Fresh s slot else LiveHold s slot h

/-- Behind its advance, a hold only waits to be dropped. -/
structure HoldOk (s : SlotUse) (slot : Nat) (h : Hold) : Prop where
  core : HoldCore s slot h
  waits : h.advanced = true → ∃ action, h.phase = .settling action

variable {slot : Nat} {h : Hold}

theorem HoldOk.live {s : SlotUse} (hOk : HoldOk s slot h)
    (hPhase : ∀ action, h.phase ≠ .settling action) : LiveHold s slot h ∧ h.advanced = false := by
  have hAdv : ¬ h.advanced = true := by
    intro hAdv
    obtain ⟨action, hEq⟩ := hOk.waits hAdv
    exact hPhase action hEq
  have hCore := hOk.core
  rw [HoldCore, if_neg hAdv] at hCore
  exact ⟨hCore, by simpa using hAdv⟩

theorem LiveHold.ok {s : SlotUse} (hLive : LiveHold s slot h) (hAdv : h.advanced = false) :
    HoldOk s slot h := by
  refine ⟨?_, fun hTrue => ?_⟩
  · rw [HoldCore, if_neg (by simp [hAdv])]
    exact hLive
  · rw [hAdv] at hTrue
    cases hTrue

structure SlotOk (s : SlotUse) (slot : Nat) : Prop where
  facts : SlotFacts s slot
  hold : ∀ h, s.held slot = some h → HoldOk s slot h
  free : slot ∈ s.table.freePool → s.held slot = none ∧ Fresh s slot

/-- A release without advance was of a read-only request left unanswered, or SEQUENCE
refused the request. -/
def Lapse.Excused (l : Lapse) : Prop :=
  l.refused = true ∨ (l.frame.request.sender.fences = false ∧ l.unanswered = true)

structure SlotInv (s : SlotUse) : Prop where
  slots : ∀ slot, SlotOk s slot
  pool_nodup : s.table.freePool.Nodup
  excused : ∀ l ∈ s.lapses, l.Excused

/-! ## Untouched slots -/

/-- A step left the logs and the server's view of the slot as they were. -/
structure SameLog (s s' : SlotUse) (slot : Nat) : Prop where
  advances : s'.table.advances slot = s.table.advances slot
  accepted : s'.accepted slot = s.accepted slot
  acceptedBy : s'.acceptedBy slot = s.acceptedBy slot
  frames : ∀ f : Frame, f.slot = slot → (f ∈ s'.frames ↔ f ∈ s.frames)
  inFlight : ∀ f : Frame, f.slot = slot → (f ∈ s'.inFlight ↔ f ∈ s.inFlight)
  lapses : ∀ l : Lapse, l.frame.slot = slot → (l ∈ s'.lapses ↔ l ∈ s.lapses)

/-- A step left the slot as it was. -/
structure SameAt (s s' : SlotUse) (slot : Nat) : Prop extends SameLog s s' slot where
  held : s'.held slot = s.held slot
  pool : slot ∈ s'.table.freePool ↔ slot ∈ s.table.freePool

namespace SameLog

variable {s s' : SlotUse} {slot : Nat}

theorem lapsed_iff (h : SameLog s s' slot) (count : Nat) :
    s'.Lapsed slot count ↔ s.Lapsed slot count := by
  constructor
  · rintro ⟨l, hl, hSlot, hCount⟩
    exact ⟨l, (h.lapses l hSlot).mp hl, hSlot, hCount⟩
  · rintro ⟨l, hl, hSlot, hCount⟩
    exact ⟨l, (h.lapses l hSlot).mpr hl, hSlot, hCount⟩

theorem lapsedUnanswered_iff (h : SameLog s s' slot) (count : Nat) :
    s'.LapsedUnanswered slot count ↔ s.LapsedUnanswered slot count := by
  constructor
  · rintro ⟨l, hl, hSlot, hRest⟩
    exact ⟨l, (h.lapses l hSlot).mp hl, hSlot, hRest⟩
  · rintro ⟨l, hl, hSlot, hRest⟩
    exact ⟨l, (h.lapses l hSlot).mpr hl, hSlot, hRest⟩

theorem facts (h : SameLog s s' slot) (hf : SlotFacts s slot) : SlotFacts s' slot where
  count_le f hMem hSlot := by
    rw [h.advances]
    exact hf.count_le f ((h.frames f hSlot).mp hMem) hSlot
  inFlight_sub f hMem hSlot :=
    (h.frames f hSlot).mpr (hf.inFlight_sub f ((h.inFlight f hSlot).mp hMem) hSlot)
  exclusive f hMem f' hMem' hSlot hSlot' hCount := by
    rw [h.lapsed_iff]
    exact hf.exclusive f ((h.frames f hSlot).mp hMem) f' ((h.frames f' hSlot').mp hMem')
      hSlot hSlot' hCount
  accepted := by
    rw [h.accepted, h.advances, h.acceptedBy]
    refine hf.accepted.imp_right fun ⟨hEq, r, hBy, hMem⟩ => ⟨hEq, r, hBy, ?_⟩
    exact (h.inFlight _ rfl).mpr hMem

theorem fresh (h : SameLog s s' slot) (hf : Fresh s slot) : Fresh s' slot where
  lapsed f hMem hSlot hCount := by
    rw [h.advances] at hCount ⊢
    exact (h.lapsed_iff _).mpr (hf.lapsed f ((h.frames f hSlot).mp hMem) hSlot hCount)
  flight f hMem hSlot hCount := by
    rw [h.advances] at hCount ⊢
    exact (h.lapsedUnanswered_iff _).mpr
      (hf.flight f ((h.inFlight f hSlot).mp hMem) hSlot hCount)

theorem liveHold (h : SameLog s s' slot) {hold : Hold} (hl : LiveHold s slot hold) :
    LiveHold s' slot hold where
  count := h.advances.trans hl.count
  own f hMem hSlot hCount := by
    rw [h.lapsed_iff]
    exact hl.own f ((h.frames f hSlot).mp hMem) hSlot hCount
  flight f hMem hSlot hCount := by
    rw [h.lapsedUnanswered_iff]
    exact hl.flight f ((h.inFlight f hSlot).mp hMem) hSlot hCount
  present hSent hRef := (h.inFlight _ rfl).mpr (hl.present hSent hRef)
  armed := hl.armed
  calling := hl.calling
  phase := hl.phase

theorem holdOk (h : SameLog s s' slot) {hold : Hold} (ho : HoldOk s slot hold) :
    HoldOk s' slot hold := by
  refine ⟨?_, ho.waits⟩
  have hCore := ho.core
  unfold HoldCore at hCore ⊢
  split at hCore
  · rw [if_pos ‹_›]
    exact h.fresh hCore
  · rw [if_neg ‹_›]
    exact h.liveHold hCore

end SameLog

/-- An untouched slot stays as it should be. -/
theorem SameAt.slotOk {s s' : SlotUse} (h : SameAt s s' slot) (hok : SlotOk s slot) :
    SlotOk s' slot where
  facts := h.facts hok.facts
  hold hold hHeld := h.holdOk (hok.hold hold (h.held ▸ hHeld))
  free hPool := by
    obtain ⟨hNone, hFresh⟩ := hok.free (h.pool.mp hPool)
    exact ⟨h.held.trans hNone, h.fresh hFresh⟩

/-! ## A slot taken out of the invariant -/

/-- The invariant while one slot is worked on: its holder is left out. -/
structure InvBut (s : SlotUse) (slot : Nat) : Prop where
  others : ∀ slot', slot' ≠ slot → SlotOk s slot'
  facts : SlotFacts s slot
  not_free : slot ∉ s.table.freePool
  pool_nodup : s.table.freePool.Nodup
  excused : ∀ l ∈ s.lapses, l.Excused

theorem SlotInv.takeOut {s : SlotUse} (hinv : SlotInv s) (hHeld : s.held slot = some h) :
    InvBut s slot ∧ HoldOk s slot h := by
  have hNot : slot ∉ s.table.freePool := by
    intro hPool
    have hNone := ((hinv.slots slot).free hPool).1
    rw [hHeld] at hNone
    cases hNone
  exact ⟨⟨fun slot' _ => hinv.slots slot', (hinv.slots slot).facts, hNot, hinv.pool_nodup,
    hinv.excused⟩, (hinv.slots slot).hold h hHeld⟩

namespace InvBut

variable {s : SlotUse} {slot : Nat} {h : Hold}

/-- Put a holder back. -/
theorem setHold (hinv : InvBut s slot) (hOk : HoldOk s slot h) : SlotInv (s.setHold slot h) := by
  have hLog : ∀ slot', SameLog s (s.setHold slot h) slot' := fun slot' =>
    ⟨rfl, rfl, rfl, fun _ _ => .rfl, fun _ _ => .rfl, fun _ _ => .rfl⟩
  refine ⟨fun slot' => ?_, hinv.pool_nodup, hinv.excused⟩
  by_cases hEq : slot' = slot
  · subst hEq
    refine ⟨(hLog slot').facts hinv.facts, fun h' hHeld => ?_, fun hPool => ?_⟩
    · have hh : h = h' := by simpa [SlotUse.setHold] using hHeld
      exact hh ▸ (hLog slot').holdOk hOk
    · exact absurd hPool hinv.not_free
  · refine SameAt.slotOk ⟨hLog slot', ?_, .rfl⟩ (hinv.others slot' hEq)
    exact Function.update_of_ne hEq _ _

variable {d : SlotDisposition} {slot' : Nat}

/-- The lapse of a dropped hold, when there is one. -/
theorem lapses_dropHold {l : Lapse} (hl : l ∈ (s.dropHold slot h d).lapses) :
    l ∈ s.lapses ∨ (d = .release ∧ h.sent = true ∧ h.advanced = false ∧
      l = { frame := h.frame slot, unanswered := decide (h.frame slot ∈ s.inFlight)
            refused := h.refused }) := by
  unfold SlotUse.dropHold at hl
  dsimp only at hl
  split at hl
  · rename_i hWhen
    rcases List.mem_cons.mp hl with hEq | hMem
    · exact .inr ⟨hWhen.1, hWhen.2.1, hWhen.2.2, hEq⟩
    · exact .inl hMem
  · exact .inl hl

theorem mem_lapses_dropHold {l : Lapse} (hl : l ∈ s.lapses) : l ∈ (s.dropHold slot h d).lapses := by
  unfold SlotUse.dropHold
  dsimp only
  split
  · exact List.mem_cons_of_mem _ hl
  · exact hl

/-- A released hold without advance leaves its lapse. -/
theorem lapse_of_release (hSent : h.sent = true) (hAdv : h.advanced = false) :
    { frame := h.frame slot, unanswered := decide (h.frame slot ∈ s.inFlight)
      refused := h.refused } ∈ (s.dropHold slot h .release).lapses := by
  unfold SlotUse.dropHold
  dsimp only
  rw [if_pos ⟨rfl, hSent, hAdv⟩]
  exact List.mem_cons_self

theorem sameAt_dropHold (hne : slot' ≠ slot) :
    SameAt s (s.dropHold slot h d) slot' where
  advances := by cases d <;> rfl
  accepted := rfl
  acceptedBy := rfl
  frames _ _ := .rfl
  inFlight _ _ := .rfl
  lapses l hSlot := by
    refine ⟨fun hl => ?_, mem_lapses_dropHold⟩
    rcases lapses_dropHold hl with hMem | ⟨-, -, -, rfl⟩
    · exact hMem
    · exact absurd hSlot.symm hne
  held := Function.update_of_ne hne _ _
  pool := by
    cases d with
    | release => simp [SlotUse.dropHold, SlotTable.dropSlot, hne]
    | fence => exact .rfl

theorem advances_dropHold (s : SlotUse) (slot : Nat) (h : Hold) (d : SlotDisposition) :
    (s.dropHold slot h d).table.advances = s.table.advances := by
  cases d <;> rfl

theorem lapsed_dropHold {count : Nat} (hl : s.Lapsed slot' count) :
    (s.dropHold slot h d).Lapsed slot' count := by
  obtain ⟨l, hMem, hRest⟩ := hl
  exact ⟨l, mem_lapses_dropHold hMem, hRest⟩

theorem lapsedUnanswered_dropHold {count : Nat} (hl : s.LapsedUnanswered slot' count) :
    (s.dropHold slot h d).LapsedUnanswered slot' count := by
  obtain ⟨l, hMem, hRest⟩ := hl
  exact ⟨l, mem_lapses_dropHold hMem, hRest⟩

theorem facts_dropHold (hf : SlotFacts s slot) :
    SlotFacts (s.dropHold slot h d) slot where
  count_le f hMem hSlot := by
    rw [advances_dropHold]
    exact hf.count_le f hMem hSlot
  inFlight_sub := hf.inFlight_sub
  exclusive f hMem f' hMem' hSlot hSlot' hCount :=
    (hf.exclusive f hMem f' hMem' hSlot hSlot' hCount).imp_right lapsed_dropHold
  accepted := by
    rw [advances_dropHold]
    exact hf.accepted

/-- A released slot is fresh for its next holder: the id was advanced, or it lapses. -/
theorem fresh_release (hOk : HoldCore s slot h) :
    Fresh (s.dropHold slot h .release) slot := by
  unfold HoldCore at hOk
  split at hOk
  · obtain ⟨hLapsed, hFlight⟩ := hOk
    exact ⟨fun f hMem hSlot hCount => lapsed_dropHold (hLapsed f hMem hSlot hCount),
      fun f hMem hSlot hCount => lapsedUnanswered_dropHold (hFlight f hMem hSlot hCount)⟩
  · have hAdv : h.advanced = false := by simpa using ‹¬ h.advanced = true›
    have hCur : (s.dropHold slot h .release).table.advances slot = h.count := hOk.count
    constructor
    · intro f hMem hSlot hCount
      rw [hCur] at hCount ⊢
      rcases hOk.own f hMem hSlot hCount with ⟨hSent, -⟩ | hLapsed
      · exact ⟨_, lapse_of_release hSent hAdv, rfl, rfl⟩
      · exact lapsed_dropHold hLapsed
    · intro f hMem hSlot hCount
      rw [hCur] at hCount ⊢
      rcases hOk.flight f hMem hSlot hCount with ⟨hSent, hReq⟩ | hLapsed
      · -- the frame in flight is the holder's own
        have hf : f = h.frame slot := by
          obtain ⟨_, _, _⟩ := f
          simp only [Hold.frame, Frame.mk.injEq]
          exact ⟨hSlot, hCount, hReq⟩
        exact ⟨_, lapse_of_release hSent hAdv, rfl, rfl, decide_eq_true (hf ▸ hMem)⟩
      · exact lapsedUnanswered_dropHold hLapsed

/-- Drop a holder. A release without advance needs its excuse. -/
theorem dropHold (hinv : InvBut s slot) (hOk : HoldCore s slot h)
    (hArmed : d = .release → h.advanced = false → h.sent = true →
      h.refused = true ∨ h.request.sender.fences = false) : SlotInv (s.dropHold slot h d) := by
  refine ⟨fun slot' => ?_, ?_, fun l hl => ?_⟩
  · by_cases hEq : slot' = slot
    · subst hEq
      have hNone : (s.dropHold slot' h d).held slot' = none := Function.update_self _ _ _
      refine ⟨facts_dropHold hinv.facts, fun h' hHeld => ?_, fun hPool => ⟨hNone, ?_⟩⟩
      · rw [hNone] at hHeld
        cases hHeld
      · cases d with
        | release => exact fresh_release hOk
        | fence => exact absurd hPool hinv.not_free
    · exact (sameAt_dropHold hEq).slotOk (hinv.others slot' hEq)
  · cases d with
    | release =>
      refine List.nodup_append.mpr ⟨hinv.pool_nodup, by simp, ?_⟩
      intro a ha b hb hab
      rw [List.mem_singleton] at hb
      exact hinv.not_free (hb ▸ hab ▸ ha)
    | fence => exact hinv.pool_nodup
  -- a lapse is recorded only where the slot is released without an advance
  · rcases lapses_dropHold hl with hMem | ⟨hd, hSent, hAdv, rfl⟩
    · exact hinv.excused l hMem
    · have hLive : LiveHold s slot h := by
        rw [HoldCore, if_neg (by simp [hAdv])] at hOk
        exact hOk
      by_cases hRef : h.refused = true
      · exact .inl hRef
      · have hReads := (hArmed hd hAdv hSent).resolve_left hRef
        exact .inr ⟨hReads, decide_eq_true (hLive.present hSent (by simpa using hRef))⟩

/-! ## The steps of a holder -/

/-- One more frame of the holder. -/
theorem transmit (hinv : InvBut s slot) (hLive : LiveHold s slot h)
    (hPhase : h.phase = .calling) :
    InvBut { s with frames := h.frame slot :: s.frames, inFlight := h.frame slot :: s.inFlight }
        slot ∧
      LiveHold { s with frames := h.frame slot :: s.frames
                        inFlight := h.frame slot :: s.inFlight } slot
        { h with sent := true } := by
  have hOther : ∀ (f : Frame) (l : List Frame) {slot' : Nat}, slot' ≠ slot → f.slot = slot' →
      (f ∈ h.frame slot :: l ↔ f ∈ l) := by
    intro f l slot' hne hSlot
    refine ⟨fun hMem => ?_, List.mem_cons_of_mem _⟩
    rcases List.mem_cons.mp hMem with rfl | hMem
    · exact absurd hSlot.symm hne
    · exact hMem
  -- the frames already there under this id are the holder's, or come with a lapse
  have hOwn : ∀ f ∈ h.frame slot :: s.frames, f.slot = slot → f.count = h.count →
      f.request = h.request ∨ s.Lapsed slot h.count := by
    intro f hMem hSlot hCount
    rcases List.mem_cons.mp hMem with rfl | hMem
    · exact .inl rfl
    · exact (hLive.own f hMem hSlot hCount).imp_left (·.2)
  constructor
  · refine ⟨fun slot' hne => ?_, ⟨?_, ?_, ?_, ?_⟩, hinv.not_free, hinv.pool_nodup,
      hinv.excused⟩
    · refine SameAt.slotOk (s := s) ⟨⟨rfl, rfl, rfl, fun f hSlot => ?_, fun f hSlot => ?_,
        fun _ _ => .rfl⟩, rfl, .rfl⟩ (hinv.others slot' hne)
      · exact hOther f s.frames hne hSlot
      · exact hOther f s.inFlight hne hSlot
    · intro f hMem hSlot
      rcases List.mem_cons.mp hMem with rfl | hMem
      · exact hLive.count.ge
      · exact hinv.facts.count_le f hMem hSlot
    · intro f hMem hSlot
      rcases List.mem_cons.mp hMem with rfl | hMem
      · exact List.mem_cons_self
      · exact List.mem_cons_of_mem _ (hinv.facts.inFlight_sub f hMem hSlot)
    · intro f hMem f' hMem' hSlot hSlot' hCount
      by_cases hNow : f.count = h.count
      · rcases hOwn f hMem hSlot hNow with hReq | hLapsed
        · rcases hOwn f' hMem' hSlot' (hCount ▸ hNow) with hReq' | hLapsed
          · exact .inl (hReq.trans hReq'.symm)
          · exact .inr (hNow ▸ hLapsed)
        · exact .inr (hNow ▸ hLapsed)
      · -- an older id: both frames were there before
        have hOld : ∀ g ∈ h.frame slot :: s.frames, g.count ≠ h.count → g ∈ s.frames := by
          intro g hg hgCount
          rcases List.mem_cons.mp hg with rfl | hg
          · exact absurd rfl hgCount
          · exact hg
        exact hinv.facts.exclusive f (hOld f hMem hNow) f' (hOld f' hMem' (hCount ▸ hNow))
          hSlot hSlot' hCount
    · refine hinv.facts.accepted.imp_right fun ⟨hEq, r, hBy, hMem⟩ => ⟨hEq, r, hBy, ?_⟩
      exact List.mem_cons_of_mem _ hMem
  · refine ⟨hLive.count, fun f hMem hSlot hCount => ?_, fun f hMem hSlot hCount => ?_,
      fun _ _ => List.mem_cons_self, fun hRel _ => ?_, hLive.calling, hLive.phase⟩
    · exact (hOwn f hMem hSlot hCount).imp_left fun hReq => ⟨rfl, hReq⟩
    · rcases List.mem_cons.mp hMem with rfl | hMem
      · exact .inl ⟨rfl, rfl⟩
      · exact (hLive.flight f hMem hSlot hCount).imp_left fun ⟨_, hReq⟩ => ⟨rfl, hReq⟩
    · -- a calling holder that fences has its fence armed
      right
      by_contra hFences
      have hFence := hLive.calling hPhase (by simpa using hFences)
      rw [show h.disposition = .release from hRel] at hFence
      cases hFence

/-- SEQUENCE refuses a frame of the holder. -/
theorem refuse (hinv : InvBut s slot) (hLive : LiveHold s slot h)
    (hCan : s.canRefuse slot h) :
    InvBut { s with inFlight := s.inFlight.erase (h.frame slot) } slot ∧
      LiveHold { s with inFlight := s.inFlight.erase (h.frame slot) } slot
        { h with refused := true } := by
  have hSub : ∀ f ∈ s.inFlight.erase (h.frame slot), f ∈ s.inFlight := fun f =>
    List.mem_of_mem_erase
  constructor
  · refine ⟨fun slot' hne => ?_, ⟨hinv.facts.count_le, fun f hMem hSlot => ?_,
      hinv.facts.exclusive, ?_⟩, hinv.not_free, hinv.pool_nodup, hinv.excused⟩
    · have hFlight : ∀ f : Frame, f.slot = slot' →
          (f ∈ s.inFlight.erase (h.frame slot) ↔ f ∈ s.inFlight) := by
        intro f hSlot
        refine List.mem_erase_of_ne ?_
        rintro rfl
        exact hne hSlot.symm
      exact SameAt.slotOk (s := s) ⟨⟨rfl, rfl, rfl, fun _ _ => .rfl, hFlight,
        fun _ _ => .rfl⟩, rfl, .rfl⟩ (hinv.others slot' hne)
    · exact hinv.facts.inFlight_sub f (hSub f hMem) hSlot
    · -- the accepted frame is not the refused one, or a copy of it is left
      refine hinv.facts.accepted.imp_right fun ⟨hEq, r, hBy, hMem⟩ => ⟨hEq, r, hBy, ?_⟩
      by_cases hr : r = h.request
      · have hFrame : ({ slot := slot, count := s.table.advances slot, request := r } : Frame) =
            h.frame slot := by rw [hLive.count, hr]; rfl
        have hTwo : 2 ≤ s.inFlight.count (h.frame slot) := by
          rcases hCan with hTwo | hNot
          · exact hTwo
          · exact absurd ⟨by rw [hEq, hLive.count], by rw [hBy, hr]⟩ hNot
        rw [hFrame, ← List.count_pos_iff, List.count_erase_self]
        omega
      · refine (List.mem_erase_of_ne ?_).mpr hMem
        intro hFrame
        exact hr (congrArg Frame.request hFrame)
  · exact ⟨hLive.count, hLive.own, fun f hMem => hLive.flight f (hSub f hMem), nofun,
      fun _ _ => .inl rfl, hLive.calling, hLive.phase⟩

/-- The accepted sequence id is behind the slot: no frame was sent under the next one. -/
theorem advanceSlot (hinv : InvBut s slot) (hLive : LiveHold s slot h)
    (hAcc : s.accepted slot = h.count + 1) {settle : Settlement} (hAdv : settle.advance = true) :
    InvBut (s.advanceSlot slot settle) slot ∧ Fresh (s.advanceSlot slot settle) slot := by
  obtain ⟨t, hEq, hPool, hSelf, hNe⟩ : ∃ t : SlotTable,
      s.advanceSlot slot settle = { s with table := t } ∧ t.freePool = s.table.freePool ∧
        t.advances slot = h.count + 1 ∧
        ∀ slot', slot' ≠ slot → t.advances slot' = s.table.advances slot' := by
    refine ⟨(settle.target.elim s.table s.table.setTarget).advance slot, if_pos hAdv, ?_, ?_,
      fun slot' hne => ?_⟩
    · cases settle.target <;> rfl
    · rw [← hLive.count]
      cases settle.target <;> exact Function.update_self _ _ _
    · cases settle.target <;> exact Function.update_of_ne hne _ _
  -- every frame so far was sent under the id that is used up now
  have hLt : ∀ f ∈ s.frames, f.slot = slot → f.count ≠ h.count + 1 := by
    intro f hMem hSlot
    have hLe := hinv.facts.count_le f hMem hSlot
    rw [hLive.count] at hLe
    omega
  rw [hEq]
  refine ⟨⟨fun slot' hne => ?_, ⟨fun f hMem hSlot => ?_, hinv.facts.inFlight_sub,
    hinv.facts.exclusive, .inl ?_⟩, ?_, ?_, hinv.excused⟩, ⟨fun f hMem hSlot hCount => ?_,
    fun f hMem hSlot hCount => ?_⟩⟩
  · exact SameAt.slotOk (s := s) ⟨⟨hNe slot' hne, rfl, rfl, fun _ _ => .rfl, fun _ _ => .rfl,
      fun _ _ => .rfl⟩, rfl, by simp only [hPool]⟩ (hinv.others slot' hne)
  · have hLe := hinv.facts.count_le f hMem hSlot
    rw [hLive.count] at hLe
    simp only [hSelf]
    omega
  · exact hAcc.trans hSelf.symm
  · simpa only [hPool] using hinv.not_free
  · simpa only [hPool] using hinv.pool_nodup
  · exact absurd (hCount.trans hSelf) (hLt f hMem hSlot)
  · exact absurd (hCount.trans hSelf) (hLt f (hinv.facts.inFlight_sub f hMem hSlot) hSlot)

/-- The verdict's advance, then the drop of the slot. -/
theorem settleDrop (hinv : InvBut s slot) (hLive : LiveHold s slot h) {settle : Settlement}
    (hAcc : settle.advance = true → s.accepted slot = h.count + 1)
    (hRes : settle.advance = false → settle.action = .resolve → h.refused = true) :
    SlotInv ((s.advanceSlot slot settle).dropHold slot { h with advanced := settle.advance }
      (settle.action.apply h.disposition)) := by
  by_cases hAdv : settle.advance = true
  · obtain ⟨hBut, hFresh⟩ := hinv.advanceSlot hLive (hAcc hAdv) hAdv
    refine hBut.dropHold ?_ fun _ hFalse => ?_
    · rw [HoldCore, if_pos hAdv]
      exact hFresh
    · rw [show settle.advance = false from hFalse] at hAdv
      cases hAdv
  · have hFalse : settle.advance = false := by simpa using hAdv
    have hEq : s.advanceSlot slot settle = s := if_neg hAdv
    rw [hEq]
    refine hinv.dropHold ?_ fun hRelease _ hSent => ?_
    · rw [HoldCore, if_neg hAdv]
      exact ⟨hLive.count, hLive.own, hLive.flight, hLive.present, hLive.armed, hLive.calling,
        hLive.phase⟩
    · -- released by the verdict, or left as it was armed
      cases hAct : settle.action with
      | resolve => exact .inl (hRes hFalse hAct)
      | keep =>
        rw [hAct] at hRelease
        exact hLive.armed hRelease hSent
      | fence =>
        rw [hAct] at hRelease
        cases hRelease

/-- **A decoded response.** The sender's verdict keeps the invariant when an advance comes
with an accepted frame, and a release without advance with a refused one. -/
theorem conclude (session : Session) (attempt : Nat) (resp : CompoundResponse)
    (hinv : InvBut s slot) (hLive : LiveHold s slot h) (hNot : h.advanced = false)
    (hAcc : (h.request.sender.verdict (context session slot h) s.table.highestSlotId attempt
      resp).settlement.advance = true → s.accepted slot = h.count + 1)
    (hRes : (h.request.sender.verdict (context session slot h) s.table.highestSlotId attempt
        resp).settlement.advance = false →
      (h.request.sender.verdict (context session slot h) s.table.highestSlotId attempt
        resp).settlement.action = .resolve → h.refused = true) :
    SlotInv (s.conclude session slot h attempt resp) := by
  have hFlag : (h.request.sender.verdict (context session slot h) s.table.highestSlotId attempt
      resp).flagged = true → _ := Sender.verdict_flagged
  unfold SlotUse.conclude
  -- the three facts are about the verdict, which is taken apart next
  revert hAcc hRes hFlag
  cases h.request.sender.verdict (context session slot h) s.table.highestSlotId attempt
      resp with
  | busySequence e =>
    intro _ hRes _
    refine hinv.setHold (LiveHold.ok ?_ hNot)
    exact ⟨hLive.count, hLive.own, hLive.flight, hLive.present, fun _ _ => .inl (hRes rfl rfl),
      nofun, nofun⟩
  | finish settle flags result =>
    intro hAcc hRes hFlag
    cases flags with
    | none => exact hinv.settleDrop hLive hAcc hRes
    | some f =>
      have hAdv : settle.advance = true := hFlag rfl
      obtain ⟨hBut, hFresh⟩ := hinv.advanceSlot hLive (hAcc hAdv) hAdv
      refine hBut.setHold ⟨?_, fun _ => ⟨_, rfl⟩⟩
      rw [HoldCore, if_pos hAdv]
      exact hFresh
  | retryBusy settle e => exact fun hAcc hRes _ => hinv.settleDrop hLive hAcc hRes
  | recover settle e => exact fun hAcc hRes _ => hinv.settleDrop hLive hAcc hRes

end InvBut

/-! ## Every step -/

variable {session : Session} {s s' : SlotUse}

theorem slotInv_initial (session : Session) : SlotInv (.initial session) where
  slots _ :=
    { facts :=
        { count_le := fun _ hf => nomatch hf
          inFlight_sub := fun _ hf => nomatch hf
          exclusive := fun _ hf => nomatch hf
          accepted := .inl rfl }
      hold := fun _ hHeld => nomatch hHeld
      free := fun _ => ⟨rfl, (fun _ hf => nomatch hf), fun _ hf => nomatch hf⟩ }
  pool_nodup := List.nodup_range
  excused _ hl := nomatch hl

/-- `SlotTable::acquire` takes a free slot out of the pool. -/
theorem acquire_spec {t t' : SlotTable} (h : t.acquire = some (slot, t')) :
    slot ∈ t.freePool ∧ t'.freePool = t.freePool.erase slot ∧ t'.advances = t.advances := by
  unfold SlotTable.acquire at h
  split at h
  · cases h
  split at h
  · cases h
  · rename_i free hFind
    cases h
    exact ⟨List.mem_of_find?_eq_some hFind, rfl, rfl⟩

/-- A slot leaves the pool for a new holder. -/
theorem slotInv_acquire {request : LogicalRequest} (hinv : SlotInv s)
    (hstep : slotStep session s (.acquire request) = some s') : SlotInv s' := by
  obtain ⟨⟨slot, t⟩, hAcq, rfl⟩ := Option.map_eq_some_iff.mp hstep
  obtain ⟨hFree, hPool, hAdv⟩ := acquire_spec hAcq
  obtain ⟨-, hFresh⟩ := (hinv.slots slot).free hFree
  have hLog : ∀ slot', SameLog s { s with table := t } slot' := fun slot' =>
    ⟨congrFun hAdv slot', rfl, rfl, fun _ _ => .rfl, fun _ _ => .rfl, fun _ _ => .rfl⟩
  have hBut : InvBut { s with table := t } slot := by
    refine ⟨fun slot' hne => SameAt.slotOk ⟨hLog slot', rfl, ?_⟩ (hinv.slots slot'),
      (hLog slot).facts (hinv.slots slot).facts, ?_, ?_, hinv.excused⟩
    · simp only [hPool]
      exact List.mem_erase_of_ne hne
    · simp only [hPool]
      exact hinv.pool_nodup.not_mem_erase
    · simp only [hPool]
      exact hinv.pool_nodup.erase slot
  refine hBut.setHold (LiveHold.ok ?_ rfl)
  exact ⟨congrFun hAdv slot, fun f hMem hSlot hCount => .inr (hFresh.lapsed f hMem hSlot hCount),
    fun f hMem hSlot hCount => .inr (hFresh.flight f hMem hSlot hCount), nofun, nofun, nofun,
    nofun⟩

/-- The server accepts the frame with the next sequence id of its slot. -/
theorem slotInv_accept {frame : Frame} (hinv : SlotInv s)
    (hstep : slotStep session s (.accept frame) = some s') : SlotInv s' := by
  simp only [slotStep] at hstep
  split at hstep
  · rename_i hWhen
    obtain ⟨hMem, hNext⟩ := hWhen
    cases hstep
    refine ⟨fun slot' => ?_, hinv.pool_nodup, hinv.excused⟩
    have hOk := hinv.slots slot'
    by_cases hEq : slot' = frame.slot
    · subst hEq
      have hLe := hOk.facts.count_le frame (hOk.facts.inFlight_sub frame hMem rfl) rfl
      -- a frame in flight under an id that is not used up is of the current one
      have hCur : frame.count = s.table.advances frame.slot := by
        rcases hOk.facts.accepted with hAcc | ⟨hAcc, -⟩
        · omega
        · omega
      refine ⟨⟨hOk.facts.count_le, hOk.facts.inFlight_sub, hOk.facts.exclusive, .inr ⟨?_, ?_⟩⟩,
        fun h hHeld => ⟨?_, (hOk.hold h hHeld).waits⟩,
        fun hPool => ⟨(hOk.free hPool).1, (hOk.free hPool).2.lapsed, (hOk.free hPool).2.flight⟩⟩
      · show Function.update s.accepted frame.slot (s.accepted frame.slot + 1) frame.slot =
          s.table.advances frame.slot + 1
        rw [Function.update_self, ← hNext, hCur]
      · refine ⟨frame.request, Function.update_self _ _ _, ?_⟩
        rw [← hCur]
        exact hMem
      · have hCore := (hOk.hold h hHeld).core
        unfold HoldCore at hCore ⊢
        split at hCore
        · rw [if_pos ‹_›]
          exact ⟨hCore.lapsed, hCore.flight⟩
        · rw [if_neg ‹_›]
          exact ⟨hCore.count, hCore.own, hCore.flight, hCore.present, hCore.armed, hCore.calling,
            hCore.phase⟩
    · exact SameAt.slotOk (s := s) ⟨⟨rfl, Function.update_of_ne hEq _ _,
        Function.update_of_ne hEq _ _, fun _ _ => .rfl, fun _ _ => .rfl, fun _ _ => .rfl⟩, rfl,
        .rfl⟩ hOk
  · cases hstep

/-- Entering the call arms the fence of a request that is fenced. -/
theorem slotInv_call (hinv : SlotInv s) (hHeld : s.held slot = some h)
    (hPhase : h.phase = .acquired ∨ h.phase = .backoff) :
    SlotInv (s.setHold slot
      { h with
        phase := .calling
        disposition := if h.request.sender.fences then .fence else h.disposition }) := by
  obtain ⟨hBut, hOk⟩ := hinv.takeOut hHeld
  obtain ⟨hLive, hNot⟩ := hOk.live (by rcases hPhase with hEq | hEq <;> simp [hEq])
  refine hBut.setHold (LiveHold.ok ?_ hNot)
  refine ⟨hLive.count, hLive.own, hLive.flight, hLive.present, fun hRel hSent => ?_,
    fun _ hFences => ?_, nofun⟩
  · by_cases hFences : h.request.sender.fences = true
    · simp [hFences] at hRel
    · exact .inr (by simpa using hFences)
  · simp only [if_pos (show h.request.sender.fences = true from hFences)]

theorem slotInv_reply {attempt : Nat} {resp : CompoundResponse} (hinv : SlotInv s)
    (hstep : slotStep session s (.reply slot attempt resp) = some s') : SlotInv s' := by
  obtain ⟨h, hHeld, hstep⟩ := Option.bind_eq_some_iff.mp hstep
  split at hstep
  · rename_i hCalling
    obtain ⟨hBut, hOk⟩ := hinv.takeOut hHeld
    obtain ⟨hLive, hNot⟩ := hOk.live (by simp [hCalling.1])
    split at hstep
    · -- the server accepted the request, and its reply is the cached one
      rename_i hAcc
      cases hstep
      refine hBut.conclude session attempt resp hLive hNot (fun _ => hAcc.2) ?_
      intro hFalse hResolve
      rcases hAcc.1.advance_or_unresolved h.request.sender s.table.highestSlotId attempt with
        hTrue | hNe
      · rw [hFalse] at hTrue
        cases hTrue
      · exact absurd hResolve hNe
    split at hstep
    · rename_i hRef
      cases hstep
      obtain ⟨hBut', hLive'⟩ := hBut.refuse hLive hRef.2
      refine hBut'.conclude session attempt resp hLive' hNot (fun hAdv => ?_) fun _ _ => rfl
      have hFalse := hRef.1.not_advance h.request.sender (context session slot h)
        s.table.highestSlotId attempt
      rw [show (h.request.sender.verdict (context session slot h) s.table.highestSlotId attempt
        resp).settlement.advance = true from hAdv] at hFalse
      cases hFalse
    · cases hstep
  · cases hstep

/-- **Step.** Every step of the clients and the server keeps the invariant. -/
theorem slotInv_step {a : SlotEvent} (hinv : SlotInv s)
    (hstep : slotStep session s a = some s') : SlotInv s' := by
  cases a with
  | acquire request => exact slotInv_acquire hinv hstep
  | accept frame => exact slotInv_accept hinv hstep
  | reply slot attempt resp => exact slotInv_reply hinv hstep
  | start slot =>
    obtain ⟨h, hHeld, hstep⟩ := Option.bind_eq_some_iff.mp hstep
    split at hstep
    · cases hstep
      exact slotInv_call hinv hHeld (.inl ‹_›)
    · cases hstep
  | resend slot =>
    obtain ⟨h, hHeld, hstep⟩ := Option.bind_eq_some_iff.mp hstep
    split at hstep
    · cases hstep
      exact slotInv_call hinv hHeld (.inr ‹_›)
    · cases hstep
  | transmit slot =>
    obtain ⟨h, hHeld, hstep⟩ := Option.bind_eq_some_iff.mp hstep
    split at hstep
    · rename_i hPhase
      cases hstep
      obtain ⟨hBut, hOk⟩ := hinv.takeOut hHeld
      obtain ⟨hLive, hNot⟩ := hOk.live (by simp [hPhase])
      obtain ⟨hBut', hLive'⟩ := hBut.transmit hLive hPhase
      exact hBut'.setHold (hLive'.ok hNot)
    · cases hstep
  | settled slot =>
    obtain ⟨h, hHeld, hstep⟩ := Option.bind_eq_some_iff.mp hstep
    split at hstep
    · rename_i action hPhase
      cases hstep
      obtain ⟨hBut, hOk⟩ := hinv.takeOut hHeld
      refine hBut.dropHold hOk.core fun _ hFalse _ => ?_
      -- only an advanced slot waits here
      have hCore := hOk.core
      rw [HoldCore, if_neg (by simp [hFalse])] at hCore
      exact absurd hPhase (hCore.phase action)
    · cases hstep
  | giveUp slot =>
    obtain ⟨h, hHeld, rfl⟩ := Option.map_eq_some_iff.mp hstep
    obtain ⟨hBut, hOk⟩ := hinv.takeOut hHeld
    refine hBut.dropHold hOk.core fun hRelease hFalse hSent => ?_
    have hCore := hOk.core
    rw [HoldCore, if_neg (by simp [hFalse])] at hCore
    exact hCore.armed hRelease hSent

theorem slotInv_reachable (h : (slotMachine session).Reachable s) : SlotInv s :=
  h.invariant (slotInv_initial session) fun _ _ _ _ _ hstep hinv => slotInv_step hinv hstep

/-! ## Exclusive use of a sequence id -/

/-- One request for each (slot, sequence id) among all frames transmitted. -/
def TripleUnique (s : SlotUse) : Prop :=
  ∀ f ∈ s.frames, ∀ f' ∈ s.frames, f.slot = f'.slot →
    sequenceIdOf f.count = sequenceIdOf f'.count → f.request = f'.request

/-- The next sequence id of the slot is the one behind the last id that the server has
accepted on it or can still accept. -/
structure NextUnused (s : SlotUse) (slot : Nat) : Prop where
  accepted : s.accepted slot = s.table.advances slot
  sequenceId : s.table.sequenceId slot = (s.accepted slot + 1) % 2 ^ 32
  inFlight : ∀ f ∈ s.inFlight, f.slot = slot → f.count < s.table.advances slot

/-- What the client keeps of slot exclusivity. -/
structure SlotsExclusive (s : SlotUse) : Prop where
  /-- Different requests under one wire identity are a whole round of sequence ids apart,
  or the identity lapsed. -/
  distinct : ∀ f ∈ s.frames, ∀ f' ∈ s.frames, f.slot = f'.slot →
    sequenceIdOf f.count = sequenceIdOf f'.count → f.request ≠ f'.request →
      f.count + 2 ^ 32 ≤ f'.count ∨ f'.count + 2 ^ 32 ≤ f.count ∨ s.Lapsed f.slot f.count
  /-- A free slot whose id did not lapse with a frame unanswered is in step with the
  server. -/
  next : ∀ slot ∈ s.table.freePool, ¬ s.LapsedUnanswered slot (s.table.advances slot) →
    NextUnused s slot
  /-- An identity lapses only behind a read-only request that stays unanswered, or behind
  a refusal by SEQUENCE. -/
  excused : ∀ l ∈ s.lapses, l.refused = true ∨
    (l.frame.request.sender.request.operationClass = .readOnly ∧ l.unanswered = true)

theorem sequenceIdOf_eq {n m : Nat} (h : sequenceIdOf n = sequenceIdOf m) :
    n = m ∨ n + 2 ^ 32 ≤ m ∨ m + 2 ^ 32 ≤ n := by
  unfold sequenceIdOf at h
  omega

theorem readOnly_of_not_fences {sender : Sender} (h : sender.fences = false) :
    sender.request.operationClass = .readOnly := by
  cases sender with
  | compound r => simpa [Sender.fences, Sender.request] using h
  | dataServer r => simpa [Sender.fences, Sender.request] using h
  | renew => cases h
  | recallReturn ops => cases h
  | reclaimComplete => cases h

theorem SlotInv.nextUnused (hinv : SlotInv s) (hFree : slot ∈ s.table.freePool)
    (hNot : ¬ s.LapsedUnanswered slot (s.table.advances slot)) : NextUnused s slot := by
  obtain ⟨-, hFresh⟩ := (hinv.slots slot).free hFree
  have hFacts := (hinv.slots slot).facts
  have hNone : ∀ f ∈ s.inFlight, f.slot = slot → f.count ≠ s.table.advances slot :=
    fun f hMem hSlot hCount => hNot (hFresh.flight f hMem hSlot hCount)
  have hAcc : s.accepted slot = s.table.advances slot := by
    rcases hFacts.accepted with hEq | ⟨-, r, -, hMem⟩
    · exact hEq
    · exact absurd rfl (hNone _ hMem rfl)
  refine ⟨hAcc, by rw [hAcc]; rfl, fun f hMem hSlot => ?_⟩
  have hLe := hFacts.count_le f (hFacts.inFlight_sub f hMem hSlot) hSlot
  have hNe := hNone f hMem hSlot
  omega

/-- **Slot exclusivity.** In every run of the five senders over one session, with any loss,
retransmission and cancellation, an identity is used by two requests only behind a lapse,
and free slots without an unanswered lapse are in step with the server. -/
theorem slots_exclusive (h : (slotMachine session).Reachable s) : SlotsExclusive s := by
  have hinv := slotInv_reachable h
  refine ⟨fun f hMem f' hMem' hSlot hId hNe => ?_, fun slot => hinv.nextUnused,
    fun l hl => ?_⟩
  · rcases sequenceIdOf_eq hId with hCount | hFar | hFar
    · have hExcl := (hinv.slots f.slot).facts.exclusive f hMem f' hMem' rfl hSlot.symm hCount
      exact .inr (.inr (hExcl.resolve_left hNe))
    · exact .inl hFar
    · exact .inr (.inl hFar)
  · exact (hinv.excused l hl).imp_right fun ⟨hReads, hUn⟩ => ⟨readOnly_of_not_fences hReads, hUn⟩

/-- A session with one slot. -/
def oneSlotSession : Session :=
  { id := List.replicate 16 7, generation := 1, protocol := .nfsV4p1, maxRequestSize := 4096
    maxResponseSize := 4096, maxOperations := 16, maxCachedResponseSize := 512
    maxRequests := 1 }

/-- PUTFH and one more operation, as request number `id`. -/
def requestOn (id : Nat) (opcode : OpNum) : LogicalRequest :=
  { id := id
    sender := .compound
      { tag := "op", ops := [{ opcode := .putFh, args := [] }, { opcode := opcode, args := [] }]
        requiredGeneration := none, progressIndex := none, dataLen := 0 } }

/-- GETATTR is executed and its reply lost; behind the timeout REMOVE gets the slot. -/
def lostReadReply : List SlotEvent :=
  [.acquire (requestOn 0 .getAttr), .start 0, .transmit 0,
   .accept { slot := 0, count := 0, request := requestOn 0 .getAttr }, .giveUp 0,
   .acquire (requestOn 1 .remove), .start 0, .transmit 0]

/-- The invariant holds where the two requests share their identity: it lapsed. -/
theorem slots_exclusive_lostReadReply :
    ∃ s, (slotMachine oneSlotSession).runFrom (slotMachine oneSlotSession).init lostReadReply =
        some s ∧ SlotsExclusive s :=
  ⟨_, rfl, slots_exclusive (Lib.Machine.reachable_of_runFrom (m := slotMachine oneSlotSession)
    lostReadReply rfl)⟩

/-- GETATTR and REMOVE are transmitted under one slot and sequence id; before that, the slot
is in the pool with the sequence id that the server has executed. -/
theorem read_reply_lost_reuses_slot :
    (∃ s, (slotMachine oneSlotSession).Reachable s ∧ ¬ TripleUnique s) ∧
      ∃ s, (slotMachine oneSlotSession).Reachable s ∧ 0 ∈ s.table.freePool ∧
        s.accepted 0 = 1 ∧ s.table.sequenceId 0 = 1 := by
  constructor
  · refine ⟨_, Lib.Machine.reachable_of_runFrom (m := slotMachine oneSlotSession)
      lostReadReply rfl, fun hUnique => ?_⟩
    have hEq := hUnique { slot := 0, count := 0, request := requestOn 1 .remove } (by decide)
      { slot := 0, count := 0, request := requestOn 0 .getAttr } (by decide) rfl rfl
    exact absurd hEq (by decide)
  · exact ⟨_, Lib.Machine.reachable_of_runFrom (m := slotMachine oneSlotSession)
      (lostReadReply.take 5) rfl, by decide, by decide, by decide⟩

end NfsRs.Nfs41
