import NfsRs.Lib.List
import NfsRs.Lib.Machine
import NfsRs.Nfs41.Layout

/-!
# NfsRs — every dirty byte is accounted for

Bytes written through a layout are marked dirty until a LAYOUTCOMMIT covers them. The layout
manager keeps one range per file, the hull of all marks, and a revision that counts them; a
LAYOUTCOMMIT is sent for a snapshot of the range and clears it only if the range is still that
snapshot.

This file has the three methods under any interleaving with the LAYOUTCOMMITs between them and
the two steps of a generation transition. The revision starts again at zero when a range has
been cleared, so that a range can come to equal a snapshot that is older than it: with two
LAYOUTCOMMITs under way the older one may clear a mark that neither has sent. The accounts are
exact while LAYOUTCOMMITs of a file do not overlap, the revision does not come round, and marks of
a generation stand behind its transition.

## Main results

- `dirtyInv_step` : every step in order keeps the accounts.
- `dirty_accounted` : a marked byte is committed behind its mark, or still recorded.
- `older_snapshot_clears` : two LAYOUTCOMMITs under way, and a mark that is lost.
- `transition_clears` : a transition takes marks of its own generation with it.
-/

namespace NfsRs.Nfs41

/-! ## State -/

/-- A range that was marked dirty. -/
structure DirtyMark where
  generation : Nat
  start : Nat
  stop : Nat
  deriving DecidableEq, Repr

/-- A LAYOUTCOMMIT from its snapshot to the acknowledgement; `seen` marks were made before. -/
structure DirtySpan where
  snapshot : DirtyRange
  seen : Nat
  /-- The server has answered with success. -/
  committed : Bool
  deriving DecidableEq, Repr

/-- A range that the server has committed, with the marks made before its snapshot. -/
structure DirtyAck where
  generation : Nat
  start : Nat
  stop : Nat
  seen : Nat
  deriving DecidableEq, Repr

structure DirtyRun where
  mgr : LayoutManager
  /-- A transition has published its generation and not yet emptied the ranges. -/
  sweeping : Bool
  spans : List DirtySpan
  /-- All marks taken, in order. -/
  marks : List DirtyMark
  acks : List DirtyAck

inductive DirtyEvent where
  | mark (generation start stop : Nat)
  | snapshot
  /-- LAYOUTCOMMIT number `k` under way is answered. -/
  | answered (k : Nat) (ok : Bool)
  | acknowledge (k : Nat)
  /-- The future of the LAYOUTCOMMIT is dropped. -/
  | abandon (k : Nat)
  /-- `transition_to` publishes a generation. -/
  | fence (generation : Nat)
  /-- It empties the ranges. -/
  | sweep
  deriving DecidableEq, Repr

namespace DirtyRun

def initial : DirtyRun where
  mgr := { activeGeneration := 1, layout := none, dirty := none, pendingWrites := [] }
  sweeping := false
  spans := []
  marks := []
  acks := []

def mark (s : DirtyRun) (generation start stop : Nat) : DirtyRun :=
  { s with
    mgr := s.mgr.markDirtyAt generation start stop
    marks :=
      if generation = s.mgr.activeGeneration then s.marks ++ [⟨generation, start, stop⟩]
      else s.marks }

def step (s : DirtyRun) : DirtyEvent → Option DirtyRun
  | .mark generation start stop => some (s.mark generation start stop)
  | .snapshot =>
    s.mgr.snapshotDirty.map fun range =>
      { s with spans := s.spans ++ [⟨range, s.marks.length, false⟩] }
  | .answered k ok =>
    (s.spans[k]?).bind fun span =>
      if span.committed then none
      else if ok then
        some { s with
          spans := s.spans.set k { span with committed := true }
          acks := ⟨span.snapshot.generation, span.snapshot.start, span.snapshot.stop, span.seen⟩ ::
            s.acks }
      else some { s with spans := s.spans.eraseIdx k }
  | .acknowledge k =>
    (s.spans[k]?).bind fun span =>
      if span.committed then
        some { s with
          mgr := (s.mgr.acknowledgeDirty span.snapshot).2
          spans := s.spans.eraseIdx k }
      else none
  | .abandon k => if k < s.spans.length then some { s with spans := s.spans.eraseIdx k } else none
  | .fence generation => some { s with mgr := s.mgr.fence generation, sweeping := true }
  | .sweep => if s.sweeping then some { s with mgr := s.mgr.clear, sweeping := false } else none

/-- The byte is in a range committed behind mark number `i`. -/
def Committed (s : DirtyRun) (generation i byte : Nat) : Prop :=
  ∃ a ∈ s.acks, a.generation = generation ∧ i < a.seen ∧ a.start ≤ byte ∧ byte < a.stop

/-- The byte is in the recorded range. -/
def Recorded (s : DirtyRun) (byte : Nat) : Prop :=
  ∃ r, s.mgr.snapshotDirty = some r ∧ r.start ≤ byte ∧ byte < r.stop

/-- **LAYOUTCOMMITs one at a time.** None begins while another is under way, fewer than `2 ^ 64`
marks are made meanwhile; and a generation is marked in only behind its transition, which
leads to a generation without marks. -/
def InOrder (s : DirtyRun) : DirtyEvent → Prop
  | .snapshot => s.spans = []
  | .mark generation _ _ => generation = s.mgr.activeGeneration →
    s.sweeping = false ∧ ∀ span ∈ s.spans, s.marks.length + 1 < span.seen + 2 ^ 64
  | .fence generation => ∀ m ∈ s.marks, m.generation < generation
  | _ => True

end DirtyRun

/-- The dirty range of one file. -/
def dirtyMachine : Lib.Machine DirtyRun DirtyEvent where
  init := .initial
  step := DirtyRun.step

/-! ## The accounts -/

open DirtyRun

/-- The range of a snapshot is the recorded one, `k` marks later. -/
structure GrownBy (k : Nat) (snapshot range : DirtyRange) : Prop where
  generation : range.generation = snapshot.generation
  revision : range.revision = (snapshot.revision + k) % 2 ^ 64
  same : k = 0 → range = snapshot

/-- What holds of a LAYOUTCOMMIT under way. -/
structure SpanOk (s : DirtyRun) (span : DirtySpan) : Prop where
  seen_le : span.seen ≤ s.marks.length
  close : s.marks.length < span.seen + 2 ^ 64
  revision : span.snapshot.revision < 2 ^ 64
  marked : ∃ m ∈ s.marks, m.generation = span.snapshot.generation
  grown : span.snapshot.generation = s.mgr.activeGeneration →
    ∃ r, s.mgr.dirty = some r ∧ GrownBy (s.marks.length - span.seen) span.snapshot r
  covered : ∀ i m byte, i < span.seen → s.marks[i]? = some m →
    m.generation = span.snapshot.generation → m.start ≤ byte → byte < m.stop →
      s.Committed m.generation i byte ∨
        (span.snapshot.start ≤ byte ∧ byte < span.snapshot.stop)
  committed : span.committed = true →
    ⟨span.snapshot.generation, span.snapshot.start, span.snapshot.stop, span.seen⟩ ∈ s.acks

structure DirtyInv (s : DirtyRun) : Prop where
  sweeping : s.sweeping = true → ∀ m ∈ s.marks, m.generation < s.mgr.activeGeneration
  current : s.sweeping = false → ∀ r, s.mgr.dirty = some r →
    r.generation = s.mgr.activeGeneration
  revision : ∀ r, s.mgr.dirty = some r → r.revision < 2 ^ 64
  marked : ∀ r, s.mgr.dirty = some r → ∃ m ∈ s.marks, m.generation = r.generation
  covered : ∀ i m byte, s.marks[i]? = some m → m.generation = s.mgr.activeGeneration →
    m.start ≤ byte → byte < m.stop → s.Committed m.generation i byte ∨ s.Recorded byte
  one : s.spans.length ≤ 1
  spans : ∀ span ∈ s.spans, SpanOk s span

variable {s s' : DirtyRun} {span : DirtySpan}

theorem DirtyRun.Committed.mono {generation i byte : Nat} (h : s.Committed generation i byte)
    (hAcks : ∀ a ∈ s.acks, a ∈ s'.acks) : s'.Committed generation i byte := by
  obtain ⟨a, ha, hRest⟩ := h
  exact ⟨a, hAcks a ha, hRest⟩

/-- The recorded range while no transition sweeps. -/
theorem DirtyInv.snapshotDirty (h : DirtyInv s) (hSweeping : s.sweeping = false) :
    s.mgr.snapshotDirty = s.mgr.dirty := by
  unfold LayoutManager.snapshotDirty
  cases hDirty : s.mgr.dirty with
  | none => rfl
  | some r => simp [h.current hSweeping r hDirty]

theorem dirtyInv_init : DirtyInv DirtyRun.initial where
  sweeping := nofun
  current := nofun
  revision := nofun
  marked := nofun
  covered := nofun
  one := Nat.zero_le 1
  spans := nofun

/-- Records grow and the manager stays. -/
theorem SpanOk.mono (h : SpanOk s span) (hMgr : s'.mgr = s.mgr) (hMarks : s'.marks = s.marks)
    (hAcks : ∀ a ∈ s.acks, a ∈ s'.acks) : SpanOk s' span where
  seen_le := hMarks ▸ h.seen_le
  close := hMarks ▸ h.close
  revision := h.revision
  marked := hMarks ▸ h.marked
  grown := by
    rw [hMgr, hMarks]
    exact h.grown
  covered i m byte hi hm hGen hStart hStop := by
    rw [hMarks] at hm
    exact (h.covered i m byte hi hm hGen hStart hStop).imp_left fun hC => hC.mono hAcks
  committed hCommitted := hAcks _ (h.committed hCommitted)

/-- The LAYOUTCOMMITs under way change and the manager stays. -/
theorem DirtyInv.respan (h : DirtyInv s) (hMgr : s'.mgr = s.mgr)
    (hSweeping : s'.sweeping = s.sweeping) (hMarks : s'.marks = s.marks)
    (hAcks : ∀ a ∈ s.acks, a ∈ s'.acks) (hOne : s'.spans.length ≤ 1)
    (hSpans : ∀ span ∈ s'.spans, SpanOk s' span) : DirtyInv s' where
  sweeping := by
    rw [hMgr, hSweeping, hMarks]
    exact h.sweeping
  current := by
    rw [hMgr, hSweeping]
    exact h.current
  revision := by
    rw [hMgr]
    exact h.revision
  marked := by
    rw [hMgr, hMarks]
    exact h.marked
  covered i m byte hm hGen hStart hStop := by
    rw [hMarks] at hm
    rw [hMgr] at hGen
    refine (h.covered i m byte hm hGen hStart hStop).imp (fun hC => hC.mono hAcks) ?_
    rintro ⟨r, hr, hIn⟩
    exact ⟨r, by rw [hMgr]; exact hr, hIn⟩
  one := hOne
  spans := hSpans

/-- A LAYOUTCOMMIT ends. -/
theorem DirtyInv.eraseSpan (h : DirtyInv s) (k : Nat) :
    DirtyInv { s with spans := s.spans.eraseIdx k } := by
  refine h.respan rfl rfl rfl (fun _ ha => ha) ?_ fun span hSpan => ?_
  · exact Nat.le_trans (List.length_eraseIdx_le _ _) h.one
  · exact (h.spans span (List.mem_of_mem_eraseIdx hSpan)).mono rfl rfl fun _ ha => ha

/-- A LAYOUTCOMMIT takes the range, with no other one under way. -/
theorem DirtyInv.snapshot (h : DirtyInv s) {range : DirtyRange}
    (hNone : s.spans = []) (hRange : s.mgr.snapshotDirty = some range) :
    DirtyInv { s with spans := s.spans ++ [⟨range, s.marks.length, false⟩] } := by
  obtain ⟨hDirty, hCurrent⟩ := Option.filter_eq_some_iff.mp hRange
  have hGen : range.generation = s.mgr.activeGeneration := by simpa using hCurrent
  refine h.respan rfl rfl rfl (fun _ ha => ha) (by simp [hNone]) fun span hSpan => ?_
  rw [hNone, List.nil_append, List.mem_singleton] at hSpan
  subst hSpan
  refine ⟨Nat.le_refl _, ?_, h.revision range hDirty, h.marked range hDirty, fun _ => ?_, ?_, nofun⟩
  · show s.marks.length < s.marks.length + 2 ^ 64
    omega
  · refine ⟨range, hDirty, rfl, ?_, fun _ => rfl⟩
    have hRevision := h.revision range hDirty
    show range.revision = (range.revision + (s.marks.length - s.marks.length)) % 2 ^ 64
    rw [Nat.sub_self, Nat.add_zero, Nat.mod_eq_of_lt hRevision]
  · intro i m byte hi hm hSame hStart hStop
    refine (h.covered i m byte hm (hSame.trans hGen) hStart hStop).imp_right ?_
    rintro ⟨r, hr, hIn⟩
    cases hRange.symm.trans hr
    exact hIn

theorem DirtyInv.answered (h : DirtyInv s) {k : Nat} (hSpan : s.spans[k]? = some span) :
    DirtyInv { s with
      spans := s.spans.set k { span with committed := true }
      acks := ⟨span.snapshot.generation, span.snapshot.start, span.snapshot.stop, span.seen⟩ ::
        s.acks } := by
  have hAcks : ∀ a ∈ s.acks, a ∈ ⟨span.snapshot.generation, span.snapshot.start,
      span.snapshot.stop, span.seen⟩ :: s.acks := fun a ha => List.mem_cons_of_mem _ ha
  refine h.respan rfl rfl rfl hAcks (by simpa using h.one) fun other hOther => ?_
  rcases List.mem_or_eq_of_mem_set hOther with hOld | rfl
  · exact (h.spans other hOld).mono rfl rfl hAcks
  · have hOk := h.spans span (List.mem_of_getElem? hSpan)
    refine ⟨hOk.seen_le, hOk.close, hOk.revision, hOk.marked, hOk.grown, ?_, fun _ => ?_⟩
    · intro i m byte hi hm hGen hStart hStop
      exact (hOk.covered i m byte hi hm hGen hStart hStop).imp_left fun hC => hC.mono hAcks
    · exact List.mem_cons_self

/-- **An acknowledged range has not grown.** -/
theorem SpanOk.unmarked (h : SpanOk s span)
    (hAck : (s.mgr.acknowledgeDirty span.snapshot).1 = true) :
    s.mgr.dirty = some span.snapshot ∧ span.snapshot.generation = s.mgr.activeGeneration ∧
      s.marks.length = span.seen := by
  unfold LayoutManager.acknowledgeDirty at hAck
  split at hAck
  next hSame =>
    obtain ⟨r, hr, hGrown⟩ := h.grown hSame.2
    cases hSame.1.symm.trans hr
    refine ⟨hSame.1, hSame.2, ?_⟩
    have hRevision := hGrown.revision
    have hBound := h.revision
    have hClose := h.close
    have hSeen := h.seen_le
    omega
  next => cases hAck

/-- The range is cleared only at the revision of the snapshot that was committed. -/
theorem DirtyInv.acknowledge (h : DirtyInv s) {k : Nat} (hSpan : s.spans[k]? = some span)
    (hCommitted : span.committed = true) :
    DirtyInv { s with
      mgr := (s.mgr.acknowledgeDirty span.snapshot).2
      spans := s.spans.eraseIdx k } := by
  have hOk := h.spans span (List.mem_of_getElem? hSpan)
  cases hAck : (s.mgr.acknowledgeDirty span.snapshot).1 with
  | false =>
    have hMgr : (s.mgr.acknowledgeDirty span.snapshot).2 = s.mgr := by
      unfold LayoutManager.acknowledgeDirty at hAck ⊢
      split at hAck
      next => cases hAck
      next hOther => rw [if_neg hOther]
    rw [hMgr]
    exact h.eraseSpan k
  | true =>
    obtain ⟨hDirty, hGen, hLength⟩ := hOk.unmarked hAck
    have hMgr : (s.mgr.acknowledgeDirty span.snapshot).2 = { s.mgr with dirty := none } := by
      unfold LayoutManager.acknowledgeDirty
      rw [if_pos ⟨hDirty, hGen⟩]
    have hEmpty : s.spans.eraseIdx k = [] := by
      obtain ⟨hk, -⟩ := List.getElem?_eq_some_iff.mp hSpan
      have hOne := h.one
      refine List.length_eq_zero_iff.mp ?_
      rw [List.length_eraseIdx, if_pos hk]
      omega
    rw [hMgr, hEmpty]
    refine ⟨h.sweeping, nofun, nofun, nofun, ?_, Nat.zero_le 1, nofun⟩
    -- every mark was made before the snapshot, and the whole snapshot is committed
    intro i m byte hm hSame hStart hStop
    have hi : i < span.seen := by
      obtain ⟨hi, -⟩ := List.getElem?_eq_some_iff.mp hm
      exact hLength ▸ hi
    have hSnapshot : m.generation = span.snapshot.generation := hSame.trans hGen.symm
    rcases hOk.covered i m byte hi hm hSnapshot hStart hStop with hOld | hIn
    · exact .inl hOld
    · exact .inl ⟨_, hOk.committed hCommitted, hSnapshot.symm, hi, hIn⟩

/-- What a mark does to the recorded range. -/
theorem DirtyInv.markDirtyAt (h : DirtyInv s) (hSweeping : s.sweeping = false) (start stop : Nat) :
    ∃ r, s.mgr.markDirtyAt s.mgr.activeGeneration start stop = { s.mgr with dirty := some r } ∧
      r.generation = s.mgr.activeGeneration ∧ r.revision < 2 ^ 64 ∧
      r.start ≤ start ∧ stop ≤ r.stop ∧
      ∀ old, s.mgr.dirty = some old → r.start ≤ old.start ∧ old.stop ≤ r.stop ∧
        r.revision = (old.revision + 1) % 2 ^ 64 := by
  unfold LayoutManager.markDirtyAt
  rw [if_neg (not_not_intro rfl)]
  cases hDirty : s.mgr.dirty with
  | none =>
    refine ⟨_, rfl, rfl, ?_, Nat.le_refl _, Nat.le_refl _, nofun⟩
    show 0 < 2 ^ 64
    omega
  | some old =>
    refine ⟨_, rfl, h.current hSweeping old hDirty, Nat.mod_lt _ (Nat.two_pow_pos 64),
      Nat.min_le_right .., Nat.le_max_right .., ?_⟩
    rintro _ ⟨⟩
    exact ⟨Nat.min_le_left .., Nat.le_max_left .., rfl⟩

/-- A mark of the active generation is covered by the recorded range from then on; one of another
generation is dropped. -/
theorem DirtyInv.mark (h : DirtyInv s) {generation start stop : Nat}
    (hOrder : s.InOrder (.mark generation start stop)) :
    DirtyInv (s.mark generation start stop) := by
  unfold DirtyRun.mark
  by_cases hGen : generation = s.mgr.activeGeneration
  case neg =>
    rw [if_neg hGen, LayoutManager.markDirtyAt, if_pos hGen]
    exact h
  obtain ⟨hSweeping, hClose⟩ := hOrder hGen
  subst hGen
  obtain ⟨r, hMgr, hCurrent, hRevision, hStartLe, hLeStop, hOld⟩ :=
    h.markDirtyAt hSweeping start stop
  rw [if_pos rfl, hMgr]
  refine ⟨fun hTrue => ?_, ?_, ?_, ?_, ?_, h.one, ?_⟩
  · exact absurd (hSweeping.symm.trans hTrue) Bool.false_ne_true
  · rintro _ _ ⟨⟩
    exact hCurrent
  · rintro _ ⟨⟩
    exact hRevision
  · rintro _ ⟨⟩
    exact ⟨_, List.mem_concat_self, hCurrent.symm⟩
  -- the range only grows, so the older marks stay inside it
  · intro i m byte hm hSame hStart hStop
    have hSnapshot : (some r).filter (fun range => range.generation == s.mgr.activeGeneration) =
        some r := by simp [hCurrent]
    rcases Lib.of_getElem?_concat hm with hm | ⟨-, rfl⟩
    · rcases h.covered i m byte hm hSame hStart hStop with hCommitted | ⟨old, hOldRange, hIn⟩
      · exact .inl hCommitted
      · obtain ⟨hStartOld, hStopOld, -⟩ := hOld old (h.snapshotDirty hSweeping ▸ hOldRange)
        exact .inr ⟨r, hSnapshot, by omega, by omega⟩
    · have hStart : start ≤ byte := hStart
      have hStop : byte < stop := hStop
      exact .inr ⟨r, hSnapshot, by omega, by omega⟩
  -- the new mark has a revision beyond every snapshot under way
  · intro span hSpan
    have hOk := h.spans span hSpan
    have hSpanClose := hClose span hSpan
    have hSeen := hOk.seen_le
    refine ⟨?_, ?_, hOk.revision, ?_, fun hSame => ?_, ?_, hOk.committed⟩
    · simp only [List.length_append, List.length_singleton]
      omega
    · simpa only [List.length_append, List.length_singleton] using hSpanClose
    · obtain ⟨m, hm, hGeneration⟩ := hOk.marked
      exact ⟨m, List.mem_append_left _ hm, hGeneration⟩
    · obtain ⟨old, hDirty, hGrown⟩ := hOk.grown hSame
      obtain ⟨-, -, hNext⟩ := hOld old hDirty
      have hOldRevision := hGrown.revision
      refine ⟨r, rfl, hCurrent.trans hSame.symm, ?_, ?_⟩ <;>
        simp only [List.length_append, List.length_singleton]
      · omega
      · omega
    · intro i m byte hi hm
      rw [List.getElem?_append_left (by omega)] at hm
      exact hOk.covered i m byte hi hm

/-- A snapshot of an earlier generation says nothing about the recorded range. -/
theorem SpanOk.outdated (h : SpanOk s span) (hMarks : s'.marks = s.marks) (hAcks : s'.acks = s.acks)
    (hBelow : ∀ m ∈ s.marks, m.generation < s'.mgr.activeGeneration) : SpanOk s' span where
  seen_le := hMarks ▸ h.seen_le
  close := hMarks ▸ h.close
  revision := h.revision
  marked := hMarks ▸ h.marked
  grown hSame := by
    obtain ⟨m, hm, hGen⟩ := h.marked
    have hLt := hBelow m hm
    omega
  covered i m byte hi hm hGen hStart hStop := by
    rw [hMarks] at hm
    exact (h.covered i m byte hi hm hGen hStart hStop).imp_left fun hC =>
      hC.mono fun a ha => hAcks ▸ ha
  committed hCommitted := hAcks ▸ h.committed hCommitted

theorem DirtyInv.fence (h : DirtyInv s) {generation : Nat}
    (hBelow : ∀ m ∈ s.marks, m.generation < generation) :
    DirtyInv { s with mgr := s.mgr.fence generation, sweeping := true } := by
  refine ⟨fun _ => hBelow, nofun, h.revision, h.marked, ?_, h.one, fun span hSpan => ?_⟩
  · intro i m _ hm hSame
    exact absurd hSame (hBelow m (List.mem_of_getElem? hm)).ne
  · exact (h.spans span hSpan).outdated rfl rfl hBelow

theorem DirtyInv.sweep (h : DirtyInv s) (hSweeping : s.sweeping = true) :
    DirtyInv { s with mgr := s.mgr.clear, sweeping := false } := by
  have hBelow := h.sweeping hSweeping
  refine ⟨nofun, nofun, nofun, nofun, ?_, h.one, fun span hSpan => ?_⟩
  · intro i m _ hm hSame
    exact absurd hSame (hBelow m (List.mem_of_getElem? hm)).ne
  · exact (h.spans span hSpan).outdated rfl rfl hBelow

/-- **Every step in order keeps the accounts.** -/
theorem dirtyInv_step (s s' : DirtyRun) (e : DirtyEvent) (h : DirtyInv s) (hOrder : s.InOrder e)
    (hStep : s.step e = some s') : DirtyInv s' := by
  cases e with
  | mark generation start stop =>
    cases hStep
    exact h.mark hOrder
  | snapshot =>
    obtain ⟨range, hRange, rfl⟩ := Option.map_eq_some_iff.mp hStep
    exact h.snapshot hOrder hRange
  | answered k ok =>
    obtain ⟨span, hSpan, hStep⟩ := Option.bind_eq_some_iff.mp hStep
    split at hStep
    next => cases hStep
    split at hStep <;> cases hStep
    · exact h.answered hSpan
    · exact h.eraseSpan k
  | acknowledge k =>
    obtain ⟨span, hSpan, hStep⟩ := Option.bind_eq_some_iff.mp hStep
    split at hStep <;> cases hStep
    next hCommitted => exact h.acknowledge hSpan hCommitted
  | abandon k =>
    simp only [DirtyRun.step] at hStep
    split at hStep <;> cases hStep
    exact h.eraseSpan k
  | fence generation =>
    cases hStep
    exact h.fence hOrder
  | sweep =>
    simp only [DirtyRun.step] at hStep
    split at hStep <;> cases hStep
    next hSweeping => exact h.sweep hSweeping

theorem dirtyInv_reachable (h : dirtyMachine.ReachableIf DirtyRun.InOrder s) : DirtyInv s :=
  h.invariant dirtyInv_init fun s s' e _ hOrder hStep hInv => dirtyInv_step s s' e hInv hOrder hStep

/-! ## Results -/

/-- **Every dirty byte is accounted for.** A byte marked in the current generation is in a range
whose LAYOUTCOMMIT succeeded with a snapshot taken after the mark, or still in the recorded
range; and a LAYOUTCOMMIT that clears the range saw every mark. -/
theorem dirty_accounted (s : DirtyRun) (h : dirtyMachine.ReachableIf DirtyRun.InOrder s) :
    (∀ i m byte, s.marks[i]? = some m → m.generation = s.mgr.activeGeneration →
      m.start ≤ byte → byte < m.stop → s.Committed m.generation i byte ∨ s.Recorded byte) ∧
    ∀ span ∈ s.spans, (s.mgr.acknowledgeDirty span.snapshot).1 = true →
      span.seen = s.marks.length := by
  have hInv := dirtyInv_reachable h
  refine ⟨hInv.covered, fun span hSpan hAck => ?_⟩
  exact ((hInv.spans span hSpan).unmarked hAck).2.2.symm

instance DirtyRun.decidableInOrder (s : DirtyRun) (e : DirtyEvent) : Decidable (s.InOrder e) := by
  cases e <;> unfold DirtyRun.InOrder <;> infer_instance

/-- Two marks with a LAYOUTCOMMIT between them that saw the first, and another behind. -/
def marksBetween : List DirtyEvent :=
  [.mark 1 0 4, .snapshot, .mark 1 8 12, .answered 0 true, .acknowledge 0, .snapshot,
    .answered 0 true]

theorem dirty_accounted_between :
    ∃ s, dirtyMachine.runFrom dirtyMachine.init marksBetween = some s ∧
      s.marks[1]? = some ⟨1, 8, 12⟩ ∧ (s.Committed 1 1 9 ∨ s.Recorded 9) := by
  refine ⟨_, rfl, rfl, ?_⟩
  have hReach : dirtyMachine.ReachableIf DirtyRun.InOrder _ :=
    Lib.Machine.reachableIf_of_runChecked marksBetween .init rfl
  exact (dirty_accounted _ hReach).1 1 _ 9 rfl rfl (by decide) (by decide)

/-- The first LAYOUTCOMMIT is still to acknowledge its snapshot when a second one has, and the
same range is marked again. -/
def overlappingCommits : List DirtyEvent :=
  [.mark 1 0 4, .snapshot, .snapshot, .answered 0 true, .answered 1 true, .acknowledge 0,
    .mark 1 0 4, .acknowledge 0]

/-- **Two LAYOUTCOMMITs under way.** The second acknowledgement clears a mark that was made
after both snapshots: byte 0 is marked, not recorded and not committed behind its mark. -/
theorem older_snapshot_clears :
    ∃ s, dirtyMachine.runFrom dirtyMachine.init overlappingCommits = some s ∧
      s.marks[1]? = some ⟨1, 0, 4⟩ ∧ s.mgr.activeGeneration = 1 ∧
      ¬ s.Committed 1 1 0 ∧ ¬ s.Recorded 0 := by
  refine ⟨_, rfl, rfl, rfl, ?_, ?_⟩
  · rintro ⟨a, ha, -, hSeen, -⟩
    revert a
    decide
  · rintro ⟨r, hr, -⟩
    cases hr

/-- A mark between the two steps of a transition, and a transition to the generation of a mark:
the ranges are emptied under a mark of the current generation. -/
theorem transition_clears :
    ∀ run ∈ [[.fence 2, .mark 2 0 4, .sweep], [.mark 1 0 4, .fence 1, .sweep]],
      ∃ s m, dirtyMachine.runFrom dirtyMachine.init run = some s ∧ s.marks = [m] ∧
        m.generation = s.mgr.activeGeneration ∧ m.start = 0 ∧
        ¬ s.Committed m.generation 0 0 ∧ ¬ s.Recorded 0 := by
  intro run hRun
  simp only [List.mem_cons, List.not_mem_nil, or_false] at hRun
  rcases hRun with rfl | rfl
  all_goals
    refine ⟨_, _, rfl, rfl, rfl, rfl, ?_, ?_⟩
    · rintro ⟨a, ha, -⟩
      cases ha
    · rintro ⟨r, hr, -⟩
      cases hr

end NfsRs.Nfs41
