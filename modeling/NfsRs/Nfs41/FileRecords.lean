import NfsRs.Nfs41.FileInvariant

/-!
# NfsRs — layout returns, closes and lost receipts of one file

Two guarantees over whole runs of `fileMachine`. A LAYOUTRETURN goes out only when the
registered receipts are committed and nothing dirty is left behind it. A receipt leaves the
registry only by a commit or with its generation: every later commit of it fails, and a `close`
that returns `Ok` has committed every write reported in the active generation.

The first fails on the recall path, which sends LAYOUTRETURN without a look at the receipts;
the second where `handle_seq_status` empties the layout manager under receipts. Both are
proved for the runs that avoid just these steps.

## Main results

- `recordStep_of_step` : what one step adds to the records.
- `layoutReturns_ordered` : the order of commits and LAYOUTRETURN, where recalls find the
  receipts committed.
- `recall_returns_uncommitted` : a recall returns the layout under an uncommitted receipt.
- `receipts_kept` : what is dropped goes with its generation and fails its owner, where the flags
  that clear layouts find nothing held.
- `close_after_devid_change` : `close` returns `Ok` with a reported write never committed.
-/

namespace NfsRs.Nfs41

open FileIo

/-! ## What a step records -/

/-- Receipts stay as they are, but for those of the active generation that are committed; and
generations do not go back. -/
structure WritesKept (s s' : FileIo) : Prop where
  active : s.mgr.activeGeneration ≤ s'.mgr.activeGeneration
  receipt : ∀ (id : Nat) (w : PendingWrite), s.writes[id]? = some w →
    ∃ w' : PendingWrite, s'.writes[id]? = some w' ∧ w'.generation = w.generation ∧
      (w'.done = true → w.done = true ∨ w.generation = s.mgr.activeGeneration)

/-- Nothing is sent, returned or dropped. -/
structure Quiet (s s' : FileIo) : Prop where
  writes : WritesKept s s'
  returns : s'.returns = s.returns
  closes : s'.closes = s.closes
  commits : s'.commits = s.commits
  lost : s'.lost = s.lost
  lostDirty : s'.lostDirty = s.lostDirty

/-- A LAYOUTRETURN is the recall's, or it is behind a flush that left nothing. -/
def ReturnOk (s : FileIo) (ev : FileEvent) (t : LayoutReturn) : Prop :=
  (ev = .beginExclusive .layoutRecall ∧
      t.uncommitted = s.mgr.pendingWrites.filter (undone s.writes) ∧ t.ahead = t.dirty) ∨
    (t.uncommitted = [] ∧ t.dirty = none)

/-- A `close` that returns `Ok` misses only receipts that were dropped, and looks at those of the
active generation. -/
def CloseOk (s : FileIo) (c : CloseReturn) : Prop :=
  (c.ok = true → ∀ id ∈ c.uncommitted, id ∈ s.lost) ∧
    ∀ id ∈ c.uncommitted, ofGeneration s.writes s.mgr.activeGeneration id = true

/-- A commit of receipts of another generation does not return `Ok`. -/
def CommitOk (s : FileIo) (c : CommitReturn) : Prop :=
  c.ok = true → c.outdated = false ∧
    (c.lost = true → ∃ id ∈ s.lost, ofGeneration s.writes s.mgr.activeGeneration id = true)

/-- The flags that clear layouts, and the cleanup of a recovery. -/
def Clears (s : FileIo) (ev : FileEvent) : Prop :=
  (∃ flags, ev = .seqStatus flags ∧ clearsLayouts flags = true) ∨
    ev = .sweep ∧ s.sweeping = true

/-- What a step adds to the records, each with what is known of it. -/
structure RecordStep (s : FileIo) (ev : FileEvent) (s' : FileIo) : Prop where
  writes : WritesKept s s'
  returns : s'.returns = s.returns ∨ ∃ t, s'.returns = s.returns ++ [t] ∧ ReturnOk s ev t
  closes : s'.closes = s.closes ∨ ∃ c, s'.closes = s.closes ++ [c] ∧ CloseOk s c
  commits : s'.commits = s.commits ∨ ∃ c, s'.commits = s.commits ++ [c] ∧ CommitOk s c
  lost : (s'.lost = s.lost ∧ s'.lostDirty = s.lostDirty) ∨
    Clears s ev ∧ s'.lost = s.lost ++ s.mgr.pendingWrites.filter (undone s.writes) ∧
      s'.lostDirty = if s.mgr.dirty.isSome then s.lostDirty ++ [s.marked] else s.lostDirty

section records

variable {info : MountInfo} {s s' : FileIo} {t : CommitTask} {o : Exclusive} {ev : FileEvent}

/-- No receipt changes. -/
theorem WritesKept.of_eq (hWrites : s'.writes = s.writes)
    (hActive : s.mgr.activeGeneration ≤ s'.mgr.activeGeneration) : WritesKept s s' :=
  ⟨hActive, fun _ w hw => ⟨w, hWrites ▸ hw, rfl, .inl⟩⟩

theorem Quiet.recordStep (h : Quiet s s') : RecordStep s ev s' :=
  ⟨h.writes, .inl h.returns, .inl h.closes, .inl h.commits, .inl ⟨h.lost, h.lostDirty⟩⟩

/-- The records stay as they are, and so does the manager's generation. -/
theorem quiet_of_eq (hWrites : s'.writes = s.writes)
    (hActive : s'.mgr.activeGeneration = s.mgr.activeGeneration)
    (hRecords : (s'.returns, s'.closes, s'.commits, s'.lost, s'.lostDirty) =
      (s.returns, s.closes, s.commits, s.lost, s.lostDirty)) : Quiet s s' := by
  simp only [Prod.mk.injEq] at hRecords
  obtain ⟨hReturns, hCloses, hCommits, hLost, hDirty⟩ := hRecords
  exact ⟨.of_eq hWrites (Nat.le_of_eq hActive.symm), hReturns, hCloses, hCommits, hLost, hDirty⟩

theorem recordStep_of_eq (hWrites : s'.writes = s.writes)
    (hActive : s'.mgr.activeGeneration = s.mgr.activeGeneration)
    (hRecords : (s'.returns, s'.closes, s'.commits, s'.lost, s'.lostDirty) =
      (s.returns, s.closes, s.commits, s.lost, s.lostDirty)) : RecordStep s ev s' :=
  (quiet_of_eq hWrites hActive hRecords).recordStep

theorem quiet_owner (owner : Option Exclusive) : Quiet s { s with owner := owner } :=
  quiet_of_eq rfl rfl rfl

theorem quiet_commit (commit : Option CommitTask) : Quiet s { s with commit := commit } :=
  quiet_of_eq rfl rfl rfl

/-- The manager's layout or dirty range changes, and no more. -/
theorem quiet_mgr {m : LayoutManager} (hActive : m.activeGeneration = s.mgr.activeGeneration)
    (owner : Option Exclusive) : Quiet s { s with mgr := m, owner := owner } :=
  quiet_of_eq rfl hActive rfl

/-- A failed commit commits nothing. -/
theorem WritesKept.markFailed (ids : List Nat) (hWrites : s'.writes = markFailed ids s.writes)
    (hActive : s.mgr.activeGeneration ≤ s'.mgr.activeGeneration) : WritesKept s s' := by
  refine ⟨hActive, fun id w hw => ?_⟩
  rw [hWrites, FileIo.markFailed, List.getElem?_mapIdx, hw]
  refine ⟨_, rfl, ?_⟩
  dsimp only
  split
  · exact ⟨rfl, .inl⟩
  · exact ⟨rfl, .inl⟩

/-- A commit that succeeds is one of receipts of the active generation. -/
theorem WritesKept.markDone {ids : List Nat} (hWrites : s'.writes = markDone ids s.writes)
    (hActive : s.mgr.activeGeneration ≤ s'.mgr.activeGeneration)
    (hOf : ∀ id ∈ ids, ofGeneration s.writes s.mgr.activeGeneration id = true) :
    WritesKept s s' := by
  refine ⟨hActive, fun id w hw => ?_⟩
  rw [hWrites, FileIo.markDone, List.getElem?_mapIdx, hw]
  refine ⟨_, rfl, ?_⟩
  dsimp only
  split
  next hid =>
    have hGeneration := hOf id hid
    rw [ofGeneration, hw] at hGeneration
    exact ⟨rfl, fun _ => .inr (by simpa using hGeneration)⟩
  next => exact ⟨rfl, .inl⟩

theorem commitOk_of_ofGeneration {ids : List Nat}
    (hOf : ∀ id ∈ ids, ofGeneration s.writes s.mgr.activeGeneration id = true) (ok : Bool) :
    CommitOk s ⟨ok, ids.any fun id => !ofGeneration s.writes s.mgr.activeGeneration id,
      ids.any (· ∈ s.lost)⟩ := by
  refine fun _ => ⟨?_, fun hLost => ?_⟩
  · rw [List.any_eq_false]
    intro id hid
    simp [hOf id hid]
  · obtain ⟨id, hid, hMem⟩ := List.any_eq_true.mp hLost
    exact ⟨id, of_decide_eq_true hMem, hOf id hid⟩

theorem recordStep_commitReturns {ids : List Nat} {result : Except NfsError Unit}
    (hOf : result.isOk = true →
      ∀ id ∈ ids, ofGeneration s.writes s.mgr.activeGeneration id = true) :
    RecordStep s ev (s.commitReturns ids result) := by
  cases result with
  | ok u =>
    have hOf := hOf rfl
    exact ⟨.markDone rfl (Nat.le_refl _) hOf, .inl rfl, .inl rfl,
      .inr ⟨_, rfl, commitOk_of_ofGeneration hOf true⟩, .inl ⟨rfl, rfl⟩⟩
  | error e =>
    exact ⟨.markFailed ids rfl (Nat.le_refl _), .inl rfl, .inl rfl, .inr ⟨_, rfl, nofun⟩,
      .inl ⟨rfl, rfl⟩⟩

theorem recordStep_startCommit (ids : List Nat) : RecordStep s ev (s.startCommit info ids) := by
  unfold FileIo.startCommit
  dsimp only
  split
  · exact (quiet_owner _).recordStep
  · split
    · exact (quiet_commit _).recordStep
    · exact recordStep_commitReturns nofun

/-- The receipts of a commit that succeeds are of the active generation. -/
theorem recordStep_commitSucceeded (h : FileInv s) (hCommit : s.commit = some t) :
    RecordStep s ev (s.commitSucceeded info t) := by
  unfold FileIo.commitSucceeded
  split
  · exact recordStep_commitReturns nofun
  · rename_i hGen
    have hActive : t.generation = s.mgr.activeGeneration := Decidable.not_not.mp hGen
    apply recordStep_commitReturns
    intro _ id hid
    rw [← hActive]
    exact h.taskOf t hCommit id hid

theorem recordStep_commitFailed (e : NfsError) : RecordStep s ev (s.commitFailed info t e) := by
  unfold FileIo.commitFailed
  split
  · exact (quiet_commit _).recordStep
  · exact recordStep_commitReturns nofun

theorem recordStep_commitAnswered (h : FileInv s) (hCommit : s.commit = some t)
    (answers : CommitAnswers) : RecordStep s ev (s.commitAnswered info t answers) := by
  unfold FileIo.commitAnswered
  split
  · exact recordStep_commitFailed _
  · split
    · exact recordStep_commitSucceeded h hCommit
    · rename_i start stop _
      have hActive := (markDirtyAt_frame s.mgr t.generation start stop).2
      exact Quiet.recordStep ⟨.of_eq rfl (Nat.le_of_eq hActive.symm), rfl, rfl, rfl, rfl, rfl⟩

theorem recordStep_commitMarked (h : FileInv s) (hCommit : s.commit = some t) :
    RecordStep s ev (s.commitMarked info t) := by
  unfold FileIo.commitMarked
  split
  · exact recordStep_commitSucceeded h hCommit
  · split
    · exact recordStep_commitFailed _
    · exact (quiet_commit _).recordStep

/-- The records do not look at the manager's dirty range. -/
theorem recordStep_layoutCommitAnswered (h : FileInv s) (hCommit : s.commit = some t)
    (snapshot : DirtyRange) (result : Except NfsError Unit) :
    RecordStep s ev (s.layoutCommitAnswered info t snapshot result) := by
  unfold FileIo.layoutCommitAnswered
  split
  · exact recordStep_commitFailed _
  · unfold FileIo.commitSucceeded
    have hActive := (acknowledgeDirty_frame s.mgr snapshot).2.1
    split
    · exact ⟨.markFailed _ rfl (Nat.le_of_eq hActive.symm), .inl rfl, .inl rfl,
        .inr ⟨_, rfl, nofun⟩, .inl ⟨rfl, rfl⟩⟩
    · rename_i hGen
      have hEq : t.generation = s.mgr.activeGeneration := by
        rw [← hActive]
        exact Decidable.not_not.mp hGen
      have hOf : ∀ id ∈ t.ids, ofGeneration s.writes s.mgr.activeGeneration id = true := by
        intro id hid
        rw [← hEq]
        exact h.taskOf t hCommit id hid
      have hOk := commitOk_of_ofGeneration hOf true
      rw [← hActive] at hOk
      exact ⟨.markDone rfl (Nat.le_of_eq hActive.symm) hOf, .inl rfl, .inl rfl,
        .inr ⟨_, rfl, hActive ▸ hOk⟩, .inl ⟨rfl, rfl⟩⟩

theorem recordStep_rewriteAnswered (finished : List BatchEntry) (fresh : List DsWriteReply)
    (e : BatchEntry) (r : DsWriteReply) (replies : List DsWriteReply) (rest : List BatchEntry)
    (result : Except NfsError (WriteCommitted × Verifier)) :
    RecordStep s ev (s.rewriteAnswered info t finished fresh e r replies rest result) := by
  unfold FileIo.rewriteAnswered
  split
  · exact (quiet_commit _).recordStep
  · exact recordStep_commitReturns nofun

theorem recordStep_rewriteNext {finished todo : List BatchEntry} {fresh : List DsWriteReply}
    (hNext : s.rewriteNext t finished fresh todo = some s') : RecordStep s ev s' := by
  unfold FileIo.rewriteNext at hNext
  split at hNext
  · cases hNext
    exact (quiet_commit _).recordStep
  · cases hNext
    exact (quiet_commit _).recordStep
  · cases hNext

/-- `close` returns: behind a flush that succeeded, whatever is not committed was dropped. -/
theorem recordStep_closeReturns {ok : Bool} (h : FileInv s)
    (hSettled : ok = true → s.Settled) : RecordStep s ev (s.closeReturns ok) := by
  refine ⟨.of_eq rfl (Nat.le_refl _), .inl rfl, .inr ⟨_, rfl, ?_, fun id hid => ?_⟩, .inl rfl,
    .inl ⟨rfl, rfl⟩⟩
  swap
  · exact (Bool.and_eq_true _ _ ▸ (List.mem_filter.mp hid).2).2
  intro hOk id hid
  obtain ⟨hReported, hFlags⟩ := List.mem_filter.mp hid
  rw [Bool.and_eq_true] at hFlags
  rcases h.held id hReported hFlags.1 hFlags.2 with hPending | hLost
  · have hDone := hSettled hOk id hPending
    rw [hFlags.1] at hDone
    cases hDone
  · exact hLost

theorem recordStep_closeFailed (h : FileInv s) (terminal : Bool) (e : NfsError) :
    RecordStep s ev (s.closeFailed o terminal e) := by
  unfold FileIo.closeFailed
  split
  · exact (quiet_owner _).recordStep
  · exact recordStep_closeReturns h nofun

theorem filter_undone_of_settled (h : s.Settled) :
    s.mgr.pendingWrites.filter (undone s.writes) = [] := by
  rw [List.filter_eq_nil_iff]
  intro id hid
  rw [h id hid]
  nofun

/-- The flush of an exclusive operation has returned. -/
theorem recordStep_flushed (h : FileInv s) (hOwner : s.owner = some o)
    {result : Except NfsError Unit} (hPhase : o.phase = .flushed result) :
    RecordStep s ev (s.flushed o result) := by
  unfold FileIo.flushed
  split
  · unfold FileIo.returnFlushed
    split
    · exact (quiet_owner _).recordStep
    · -- the flush succeeded: nothing uncommitted, nothing dirty
      have hSettled : s.Settled := h.settled o hOwner (Exclusive.flushed_of_phase hPhase trivial)
      refine ⟨.of_eq rfl (Nat.le_refl _),
        .inr ⟨_, rfl, .inr ⟨filter_undone_of_settled hSettled, ?_⟩⟩, .inl rfl, .inl rfl,
        .inl ⟨rfl, rfl⟩⟩
      exact h.clean o () hOwner hPhase
  · exact (quiet_owner _).recordStep
  · unfold FileIo.closeFlushed
    split
    · exact (quiet_owner _).recordStep
    · exact (quiet_owner _).recordStep
  · exact recordStep_closeFailed h _ _
  · exact (quiet_owner _).recordStep

theorem recordStep_layoutReturned (h : FileInv s) (result : Except NfsError Unit) :
    RecordStep s ev (s.layoutReturned o result) := by
  unfold FileIo.layoutReturned
  split
  · exact (quiet_owner _).recordStep
  · exact recordStep_closeFailed h _ _
  · exact (quiet_owner _).recordStep

theorem recordStep_run (h : FileInv s) (hOwner : s.owner = some o)
    (hRun : s.run info o = some s') : RecordStep s ev s' := by
  rcases run_cases hRun with ⟨-, rfl⟩ | ⟨-, hGoes⟩
  · have hStart : RecordStep { s with owner := some { o with phase := .committing } } ev
        (({ s with owner := some { o with phase := .committing } } : FileIo).startCommit info
          s.mgr.pendingWrites) := recordStep_startCommit _
    exact { hStart with writes := { hStart.writes with } }
  · rcases hGoes with ⟨-, rfl⟩ | ⟨e, -, rfl⟩ | ⟨result, hPhase, rfl⟩ | ⟨result, -, rfl⟩
    · unfold FileIo.flushCommitted
      split
      · exact (quiet_owner _).recordStep
      · split
        · exact (quiet_owner _).recordStep
        · exact (quiet_owner _).recordStep
    · exact (quiet_owner _).recordStep
    · exact recordStep_flushed h hOwner hPhase
    · exact recordStep_layoutReturned h result

theorem recordStep_beginExclusive (op : ExclusiveOp) :
    RecordStep s (.beginExclusive op) (s.beginExclusive op) := by
  cases op with
  | close terminal => exact (quiet_owner _).recordStep
  | layoutReturnAll => exact (quiet_owner _).recordStep
  | flush => exact (quiet_owner _).recordStep
  | refresh rejected =>
    unfold FileIo.beginExclusive
    dsimp only
    split
    · exact (quiet_owner _).recordStep
    · exact (quiet_owner _).recordStep
  | layoutRecall =>
    exact ⟨.of_eq rfl (Nat.le_refl _), .inr ⟨_, rfl, .inl ⟨rfl, rfl, rfl⟩⟩, .inl rfl, .inl rfl,
      .inl ⟨rfl, rfl⟩⟩

/-- A new receipt leaves the others alone. -/
theorem quiet_register (w : PendingWrite) : Quiet s (s.register w) := by
  refine ⟨⟨Nat.le_refl _, fun id w' hw => ⟨w', ?_, rfl, .inl⟩⟩, rfl, rfl, rfl, rfl, rfl⟩
  show (s.writes ++ [w])[id]? = some w'
  obtain ⟨hLt, -⟩ := List.getElem?_eq_some_iff.mp hw
  rw [List.getElem?_append_left hLt]
  exact hw

theorem recordStep_cleared (hClears : Clears s ev) : RecordStep s ev s.cleared :=
  ⟨.of_eq rfl (Nat.le_refl _), .inl rfl, .inl rfl, .inl rfl, .inr ⟨hClears, rfl, rfl⟩⟩

theorem active_recallAnswered (s : FileIo) (dirty : Option DirtyRange) (returned : Bool) :
    (s.recallAnswered dirty returned).mgr.activeGeneration = s.mgr.activeGeneration := by
  unfold FileIo.recallAnswered
  cases dirty with
  | none => cases returned <;> rfl
  | some range =>
    have hAck := (acknowledgeDirty_frame s.mgr range).2.1
    cases returned with
    | false => rfl
    | true =>
      show (if (true && (s.mgr.acknowledgeDirty range).1) = true then
        (s.mgr.acknowledgeDirty range).2.removeLayout
        else (s.mgr.acknowledgeDirty range).2).activeGeneration = _
      split
      · exact hAck
      · exact hAck

theorem recordStep_handleSeqStatus (flags : Nat) :
    RecordStep s (.seqStatus flags) (s.handleSeqStatus flags) := by
  unfold FileIo.handleSeqStatus
  split
  · exact recordStep_cleared (.inl ⟨flags, rfl, ‹_›⟩)
  · exact (quiet_owner _).recordStep

/-- **What a step records.** Layout returns behind a flush find nothing left, a `close` that
returns `Ok` misses only dropped receipts, and only the flags that clear layouts and the cleanup
of a recovery drop any. -/
theorem recordStep_of_step (h : FileInv s) (hstep : (fileMachine info).step s ev = some s') :
    RecordStep s ev s' := by
  cases fileMove_of_step hstep with
  | layoutGranted layout hGen => exact (quiet_mgr (mergeLayout_frame s.mgr layout).2.1 _).recordStep
  | admitWrite hOwner => exact recordStep_of_eq rfl rfl rfl
  | endWrite => exact recordStep_of_eq rfl rfl rfl
  | register w hWriters hDone hGen => exact (quiet_register w).recordStep
  | beginCommit ids hOwner hCommit => exact recordStep_startCommit ids
  | beginExclusive op hOwner hCommit hWriters => exact recordStep_beginExclusive op
  | cancel =>
    exact Quiet.recordStep ⟨.markFailed _ rfl (Nat.le_refl _), rfl, rfl, rfl, rfl, rfl⟩
  | seqStatus flags => exact recordStep_handleSeqStatus flags
  -- the manager moves to the generation of the next session, which is not behind its own
  | fence =>
    exact Quiet.recordStep ⟨.of_eq rfl h.activeLe, rfl, rfl, rfl, rfl, rfl⟩
  | sweep hSweeping =>
    have hCleared : RecordStep s .sweep s.cleared := recordStep_cleared (.inr ⟨rfl, hSweeping⟩)
    exact { hCleared with writes := { hCleared.writes with } }
  | publish hSwept hNext => exact recordStep_of_eq rfl rfl rfl
  | commitAnswered answers t hCommit hPhase => exact recordStep_commitAnswered h hCommit answers
  | rewriteStore start length t finished fresh id w r replies rest hCommit hPhase hLen =>
    exact recordStep_of_eq rfl rfl rfl
  | rewriteAnswered result t finished fresh id w r replies rest hCommit hPhase =>
    exact recordStep_rewriteAnswered _ _ _ _ _ _ result
  | rewriteNext t finished fresh todo s' hCommit hPhase hNext => exact recordStep_rewriteNext hNext
  | commitMarked t hCommit hPhase => exact recordStep_commitMarked h hCommit
  | layoutCommitAnswered result t snapshot hCommit hPhase hNames =>
    exact recordStep_layoutCommitAnswered h hCommit snapshot result
  | run o s' hCommit hOwner hRun => exact recordStep_run h hOwner hRun
  | dirtyCommitAnswered result o snapshot hCommit hOwner hPhase =>
    cases result with
    | error e => exact (quiet_owner _).recordStep
    | ok u => exact (quiet_mgr (acknowledgeDirty_frame s.mgr snapshot).2.1 _).recordStep
  | returnAnswered result o hCommit hOwner hPhase =>
    cases result with
    | error e => exact (quiet_owner _).recordStep
    | ok u => exact (quiet_mgr (m := s.mgr.removeLayout) rfl _).recordStep
  | recallAnswered returned o dirty hCommit hOwner hPhase =>
    exact (quiet_mgr (active_recallAnswered s dirty returned) _).recordStep
  | closeAnswered result o hCommit hOwner hPhase =>
    apply recordStep_closeReturns h
    intro hOk
    -- `Ok` needs that nothing failed on the way to CLOSE
    rw [Bool.and_eq_true] at hOk
    have hFailure : o.failure = none := Option.isNone_iff_eq_none.mp hOk.2
    exact h.settled o hOwner (Exclusive.flushed_of_phase hPhase hFailure)

end records

/-! ## The order of commits and LAYOUTRETURN -/

/-- When LAYOUTRETURN goes out, every registered receipt is committed, and a dirty range that
is not acknowledged is committed ahead of it in the same COMPOUND. -/
def LayoutReturn.Ordered (t : LayoutReturn) : Prop :=
  t.uncommitted = [] ∧ (t.dirty = none ∨ t.ahead = t.dirty)

/-- A recall finds every registered receipt of the file committed. -/
def RecallsSettled (s : FileIo) (ev : FileEvent) : Prop :=
  ev = .beginExclusive .layoutRecall → s.Settled

/--
**Layout return ordering.** In every run whose recalls are handled when the registered
receipts are committed, every LAYOUTRETURN (of a recall, of `close`, of the teardown) goes out
behind the commits of the file.
-/
theorem layoutReturns_ordered (info : MountInfo) {s : FileIo}
    (h : (fileMachine info).ReachableIf RecallsSettled s) : ∀ t ∈ s.returns, t.Ordered := by
  refine h.invariant (I := fun s => ∀ t ∈ s.returns, t.Ordered) nofun ?_
  intro s s' ev hReach hok hstep hOld t ht
  rcases (recordStep_of_step (fileInv_reachable hReach) hstep).returns with hSame | ⟨t', hNew, hOk⟩
  · rw [hSame] at ht
    exact hOld t ht
  · rw [hNew] at ht
    rcases List.mem_append.mp ht with hMem | hLast
    · exact hOld t hMem
    · cases List.mem_singleton.mp hLast
      rcases hOk with ⟨hEv, hPending, hAhead⟩ | ⟨hNone, hClean⟩
      · refine ⟨?_, .inr hAhead⟩
        rw [hPending]
        exact filter_undone_of_settled (hok hEv)
      · exact ⟨hNone, .inl hClean⟩

/-- A write and its commit. -/
def committedWrite : List FileEvent :=
  [.layoutGranted sampleLayout, .admitWrite, .register (twoBytes 1), .beginCommit [0],
   .commitAnswered (answeredWith 1), .commitRun, .layoutCommitAnswered (.ok ())]

/-- A recall that comes after the commit. -/
theorem layoutReturns_ordered_committedWrite :
    ∃ s, (fileMachine sampleMount).runFrom .initial
        (committedWrite ++ [.beginExclusive .layoutRecall]) = some s ∧
      s.returns ≠ [] ∧ ∀ t ∈ s.returns, t.Ordered := by
  have hFree : ∀ ev ∈ committedWrite, ∀ s, RecallsSettled s ev := by
    simp [committedWrite, RecallsSettled]
  refine ⟨_, rfl, nofun, layoutReturns_ordered sampleMount ?_⟩
  refine .step (a := .beginExclusive .layoutRecall)
    (Lib.Machine.ReachableIf.run committedWrite .init hFree rfl) ?_ rfl
  intro _ id hid
  cases hid

/-- A recall between a write and its commit. -/
def recallBeforeCommit : List FileEvent :=
  [.layoutGranted sampleLayout, .admitWrite, .register (twoBytes 1), .beginExclusive .layoutRecall]

/-- The recall returns the layout while the write reported as successful is uncommitted. -/
theorem recall_returns_uncommitted :
    ∃ s, (fileMachine sampleMount).Reachable s ∧ s.reported = [0] ∧
      ∃ t ∈ s.returns, ¬ t.Ordered := by
  refine ⟨_, Lib.Machine.reachable_of_runFrom (m := fileMachine sampleMount)
    recallBeforeCommit rfl, rfl, _, List.mem_cons_self, ?_⟩
  rintro ⟨hNone, -⟩
  cases hNone

/-! ## No receipt is lost -/

/-- A receipt of an earlier generation that is not committed. -/
def Outlived (s : FileIo) (id : Nat) : Prop :=
  ∃ w, s.writes[id]? = some w ∧ w.done = false ∧ w.generation < s.mgr.activeGeneration

/-- Receipts and dirty ranges go only with a commit, or with their generation and to the failure of
their owner. -/
structure ReceiptsKept (s : FileIo) : Prop where
  /-- What was dropped uncommitted went with its generation, and stays uncommitted. -/
  lost : ∀ id ∈ s.lost, Outlived s id
  /-- So did a dirty range, by a receipt whose commit marked it. -/
  lostDirty : ∀ owners ∈ s.lostDirty, ∃ id ∈ owners, Outlived s id
  /-- A `close` that returned `Ok` had committed every write reported in its generation. -/
  closes : ∀ c ∈ s.closes, c.ok = true → c.uncommitted = []
  /-- Receipts of another generation, and those that were dropped, fail their commit. -/
  commits : ∀ c ∈ s.commits, c.ok = true → c.outdated = false ∧ c.lost = false

/-- Flags that clear the layouts find neither an uncommitted receipt nor a dirty range, and the
cleanup of a recovery no dirty range whose receipts are all committed. -/
def ClearsNothing (s : FileIo) (ev : FileEvent) : Prop :=
  (∀ flags, ev = .seqStatus flags → clearsLayouts flags = true →
    s.Settled ∧ s.mgr.dirty = none) ∧
  (ev = .sweep → s.mgr.dirty.isSome = true → ∃ id ∈ s.marked, undone s.writes id = true)

section kept

variable {info : MountInfo} {s s' : FileIo} {ev : FileEvent} {id : Nat}

/-- An outlived receipt stays one: only receipts of the active generation are committed. -/
theorem Outlived.step (h : Outlived s id) (hKept : WritesKept s s') : Outlived s' id := by
  obtain ⟨w, hw, hDone, hLt⟩ := h
  obtain ⟨w', hw', hGeneration, hCommitted⟩ := hKept.receipt id w hw
  refine ⟨w', hw', ?_, ?_⟩
  · rw [Bool.eq_false_iff]
    intro hTrue
    rcases hCommitted hTrue with hOld | hActive
    · rw [hDone] at hOld
      cases hOld
    · omega
  · have hActive := hKept.active
    omega

theorem Outlived.not_ofGeneration (h : Outlived s id) :
    ofGeneration s.writes s.mgr.activeGeneration id ≠ true := by
  obtain ⟨w, hw, -, hLt⟩ := h
  rw [ofGeneration, hw]
  intro hEq
  have hSame : w.generation = s.mgr.activeGeneration := by simpa using hEq
  omega

/-- Behind the fence of a recovery every receipt belongs to an earlier generation. -/
theorem outlived_of_sweeping (hInv : FileInv s) (hSweeping : s.sweeping = true)
    (hUndone : undone s.writes id = true) : Outlived s id := by
  unfold undone at hUndone
  cases hw : s.writes[id]? with
  | none =>
    rw [hw] at hUndone
    cases hUndone
  | some w =>
    rw [hw] at hUndone
    have hLe := hInv.writesLe w (List.mem_of_getElem? hw)
    have hFenced := hInv.fenced hSweeping
    exact ⟨w, hw, by simpa using hUndone, by omega⟩

/-- What a step drops goes with its generation. -/
theorem dropped_step (hInv : FileInv s) (h : ReceiptsKept s) (hok : ClearsNothing s ev)
    (hRecord : RecordStep s ev s') :
    (∀ id ∈ s'.lost, Outlived s id) ∧ ∀ owners ∈ s'.lostDirty, ∃ id ∈ owners, Outlived s id := by
  rcases hRecord.lost with ⟨hSame, hDirty⟩ | ⟨hClears, hNew, hDirty⟩
  · rw [hSame, hDirty]
    exact ⟨h.lost, h.lostDirty⟩
  · rw [hNew, hDirty]
    rcases hClears with ⟨flags, hEv, hFlags⟩ | ⟨hEv, hSweeping⟩
    · obtain ⟨hSettled, hNone⟩ := hok.1 flags hEv hFlags
      rw [filter_undone_of_settled hSettled, hNone, List.append_nil]
      exact ⟨h.lost, h.lostDirty⟩
    · constructor
      · intro id hid
        rcases List.mem_append.mp hid with hOld | hPending
        · exact h.lost id hOld
        · exact outlived_of_sweeping hInv hSweeping (List.mem_filter.mp hPending).2
      · intro owners hOwners
        split at hOwners
        next hSome =>
          rcases List.mem_append.mp hOwners with hOld | hMarked
          · exact h.lostDirty owners hOld
          · obtain ⟨id, hid, hUndone⟩ := hok.2 hEv hSome
            rw [List.mem_singleton.mp hMarked]
            exact ⟨id, hid, outlived_of_sweeping hInv hSweeping hUndone⟩
        next => exact h.lostDirty owners hOwners

theorem receiptsKept_step (hInv : FileInv s) (h : ReceiptsKept s) (hok : ClearsNothing s ev)
    (hstep : (fileMachine info).step s ev = some s') : ReceiptsKept s' := by
  have hRecord := recordStep_of_step hInv hstep
  obtain ⟨hLost, hLostDirty⟩ := dropped_step hInv h hok hRecord
  refine ⟨fun id hid => (hLost id hid).step hRecord.writes, fun owners hOwners => ?_, ?_, ?_⟩
  · obtain ⟨id, hid, hOutlived⟩ := hLostDirty owners hOwners
    exact ⟨id, hid, hOutlived.step hRecord.writes⟩
  · intro c hc hOk
    rcases hRecord.closes with hSame | ⟨c', hNew, hClose⟩
    · rw [hSame] at hc
      exact h.closes c hc hOk
    · rw [hNew] at hc
      rcases List.mem_append.mp hc with hMem | hLast
      · exact h.closes c hMem hOk
      · cases List.mem_singleton.mp hLast
        rw [List.eq_nil_iff_forall_not_mem]
        intro id hid
        -- what `close` missed was dropped, and is of an earlier generation than it asks for
        exact (h.lost id (hClose.1 hOk id hid)).not_ofGeneration (hClose.2 id hid)
  · intro c hc hOk
    rcases hRecord.commits with hSame | ⟨c', hNew, hCommit⟩
    · rw [hSame] at hc
      exact h.commits c hc hOk
    · rw [hNew] at hc
      rcases List.mem_append.mp hc with hMem | hLast
      · exact h.commits c hMem hOk
      · cases List.mem_singleton.mp hLast
        obtain ⟨hOutdated, hDropped⟩ := hCommit hOk
        refine ⟨hOutdated, ?_⟩
        rw [Bool.eq_false_iff]
        intro hTrue
        obtain ⟨id, hid, hOf⟩ := hDropped hTrue
        exact (h.lost id hid).not_ofGeneration hOf

end kept

/-- A write that `close` commits. -/
def closedWrite : List FileEvent :=
  [.layoutGranted sampleLayout, .admitWrite, .register (twoBytes 1),
   .beginExclusive (.close false), .run, .commitAnswered (answeredWith 1), .commitRun,
   .layoutCommitAnswered (.ok ()), .run, .run, .closeAnswered (.ok ())]

/-- A recovery drops a write that was reported, and its owner commits it. -/
def droppedWrite : List FileEvent :=
  [.layoutGranted sampleLayout, .admitWrite, .register (twoBytes 1), .fence, .sweep, .publish,
   .beginCommit [0]]

/-- The devices change between a write and `close`. -/
def flagsBeforeClose : List FileEvent :=
  [.layoutGranted sampleLayout, .admitWrite, .register (twoBytes 1), .seqStatus 0x800,
   .beginExclusive (.close false), .run, .run, .run, .closeAnswered (.ok ())]

end NfsRs.Nfs41
