import NfsRs.Nfs41.FileIo

/-!
# NfsRs — what the rewrite after a verifier change stores

When a COMMIT answers another verifier than the WRITEs it covers, `commit_pending_writes`
writes the data of its receipts again. The data must not be older than what the last write of
the same byte, reported as successful before, has put there. The batch is chosen without a
look at the other receipts of the file, so this holds in the runs where no receipt of a batch
to be rewritten has been overtaken, and none is overtaken while the rewrite goes on.

## Main results

- `replays_current` : in every run whose verifier changes meet no overtaken receipt and whose
  writes during a rewrite stay clear of it, no rewrite stores stale data.
- `flush_rewrites_over_committed` : a receipt left out of a later batch is written over the
  committed data of that batch.
-/

namespace NfsRs.Nfs41

namespace FileIo

/-- Receipt `id` acknowledges the byte. -/
def Acknowledges (s : FileIo) (id : Nat) (l : Location) : Prop :=
  ∃ w, s.writes[id]? = some w ∧ w.Covers l

/-- A later write, reported as successful, covers a byte of receipt `id`. -/
def Overtaken (s : FileIo) (id : Nat) : Prop :=
  ∃ j ∈ s.reported, id < j ∧ ∃ l, s.Acknowledges id l ∧ s.Acknowledges j l

/-- No rewrite has stored data older than the last write of a byte that was reported as
successful by then. -/
def NoStaleReplay (s : FileIo) : Prop :=
  ∀ st ∈ s.stores, ∀ j ∈ s.reported, st.id < j → j < st.seen →
    ∀ l, st.Covers l → ¬ s.Acknowledges j l

end FileIo

/-- The commit is writing its receipts again. -/
def CommitTask.IsRewriting (t : CommitTask) : Prop :=
  ∃ finished fresh todo, t.phase = .rewriting finished fresh todo

/-- A changed verifier meets a batch none of whose receipts is overtaken, and a write reported
while a batch is rewritten has no byte in common with it. -/
structure ReplaysCurrent (info : MountInfo) (s : FileIo) (ev : FileEvent) : Prop where
  changed : ∀ answers t e, ev = .commitAnswered answers → s.commit = some t → t.attempt < 2 →
    executeCommits info.protocol (planCommitBatch t.batch) answers = .error e →
    changesVerifier e = true → ∀ id ∈ t.ids, ¬ s.Overtaken id
  meanwhile : ∀ w t, ev = .register w → w.failed = false → s.commit = some t →
    t.IsRewriting → ∀ id ∈ t.ids, ∀ l, w.Covers l → ¬ s.Acknowledges id l

/-! ## What a move leaves of the receipts -/

/-- Receipts and reports are the same; only flags may differ. -/
structure SameReceipts (s s' : FileIo) : Prop where
  replies : s'.writes.map (·.replies) = s.writes.map (·.replies)
  reported : s'.reported = s.reported

section frame

variable {s s' : FileIo}

theorem SameReceipts.refl (s : FileIo) : SameReceipts s s := ⟨rfl, rfl⟩

theorem SameReceipts.length (h : SameReceipts s s') : s'.writes.length = s.writes.length := by
  simpa using congrArg List.length h.replies

theorem SameReceipts.acknowledges (h : SameReceipts s s') (id : Nat) (l : Location) :
    s'.Acknowledges id l ↔ s.Acknowledges id l := by
  have hAt : s'.writes[id]?.map (·.replies) = s.writes[id]?.map (·.replies) := by
    rw [← List.getElem?_map, ← List.getElem?_map, h.replies]
  have hOf (s₁ : FileIo) : s₁.Acknowledges id l ↔
      ∃ replies, s₁.writes[id]?.map (·.replies) = some replies ∧ ∃ r ∈ replies, r.Covers l := by
    constructor
    · rintro ⟨w, hw, hCov⟩
      exact ⟨w.replies, by rw [hw]; rfl, hCov⟩
    · rintro ⟨replies, hMap, hCov⟩
      obtain ⟨w, hw, rfl⟩ := Option.map_eq_some_iff.mp hMap
      exact ⟨w, hw, hCov⟩
  rw [hOf s', hOf s, hAt]

theorem SameReceipts.overtaken (h : SameReceipts s s') (id : Nat) :
    s'.Overtaken id ↔ s.Overtaken id := by
  unfold FileIo.Overtaken
  simp only [h.reported, h.acknowledges]

theorem SameReceipts.noStaleReplay (h : SameReceipts s s') (hStores : s'.stores = s.stores)
    (hNo : s.NoStaleReplay) : s'.NoStaleReplay := by
  intro st hst j hj hLt hSeen l hCov hAck
  rw [hStores] at hst
  rw [h.reported] at hj
  exact hNo st hst j hj hLt hSeen l hCov ((h.acknowledges j l).mp hAck)

/-- The flags of a receipt are no part of what it acknowledges. -/
theorem sameReceipts_commitReturns (s : FileIo) (ids : List Nat)
    (result : Except NfsError Unit) : SameReceipts s (s.commitReturns ids result) := by
  refine ⟨?_, rfl⟩
  cases result with
  | ok _ => exact FileIo.map_markDone ids s.writes (·.replies) fun _ => rfl
  | error _ => exact FileIo.map_markFailed ids s.writes (·.replies) fun _ => rfl

theorem OwnerFrame.sameReceipts (h : OwnerFrame s s') : SameReceipts s s' :=
  ⟨by rw [h.writes], h.reported⟩

end frame

/-! ## The invariant -/

/-- The entry stands for one of the batch's receipts and reaches no byte beyond it. -/
structure EntryOk (s : FileIo) (t : CommitTask) (e : BatchEntry) : Prop where
  id : e.id ∈ t.ids
  within : ∀ r ∈ e.replies, ∀ l, r.Covers l → s.Acknowledges e.id l

/-- A rewrite goes through entries of the batch, and none of its receipts is overtaken. -/
structure RewriteOk (s : FileIo) (t : CommitTask) (finished : List BatchEntry)
    (fresh : List DsWriteReply) (todo : List BatchEntry) : Prop where
  doneOk : ∀ e ∈ finished, EntryOk s t e
  todoOk : ∀ e ∈ todo, EntryOk s t e
  freshOk : ∀ e rest, todo = e :: rest → EntryOk s t ⟨e.id, e.write, fresh⟩
  current : ∀ id ∈ t.ids, ¬ s.Overtaken id

structure TaskOk (s : FileIo) (t : CommitTask) : Prop where
  batch : ∀ e ∈ t.batch, EntryOk s t e
  rewriting : ∀ finished fresh todo, t.phase = .rewriting finished fresh todo →
    RewriteOk s t finished fresh todo

structure ReplayInv (s : FileIo) : Prop where
  task : ∀ t, s.commit = some t → TaskOk s t
  reported : ∀ j ∈ s.reported, j < s.writes.length
  seen : ∀ st ∈ s.stores, st.seen ≤ s.writes.length
  noStale : s.NoStaleReplay

section invariant

variable {info : MountInfo} {s s' : FileIo} {t t' : CommitTask}

variable {w : PendingWrite} {finished todo : List BatchEntry} {fresh : List DsWriteReply} {id : Nat}
    {e : BatchEntry} {l : Location}

theorem EntryOk.frame (h : EntryOk s t e) (hSame : SameReceipts s s') (hIds : t'.ids = t.ids) :
    EntryOk s' t' e := by
  refine ⟨hIds ▸ h.id, ?_⟩
  intro r hr l hCov
  exact (hSame.acknowledges e.id l).mpr (h.within r hr l hCov)

theorem RewriteOk.frame (h : RewriteOk s t finished fresh todo) (hSame : SameReceipts s s')
    (hIds : t'.ids = t.ids) : RewriteOk s' t' finished fresh todo where
  doneOk e he := (h.doneOk e he).frame hSame hIds
  todoOk e he := (h.todoOk e he).frame hSame hIds
  freshOk e rest hTodo := (h.freshOk e rest hTodo).frame hSame hIds
  current id hid := by
    rw [hSame.overtaken]
    exact h.current id (hIds ▸ hid)

theorem TaskOk.frame (h : TaskOk s t) (hSame : SameReceipts s s') : TaskOk s' t where
  batch e he := (h.batch e he).frame hSame rfl
  rewriting _ _ _ hPhase := (h.rewriting _ _ _ hPhase).frame hSame rfl

/-- Outside a rewrite, only the entries of the batch matter. -/
theorem TaskOk.setPhase (h : TaskOk s t) {phase : CommitPhase}
    (hPhase : ∀ finished fresh todo, phase ≠ .rewriting finished fresh todo) :
    TaskOk s { t with phase := phase } where
  batch e he := (h.batch e he).frame (.refl s) rfl
  rewriting finished fresh todo hEq := absurd hEq (hPhase finished fresh todo)

/-- A move that keeps the receipts needs a word on the commit it leaves. -/
theorem ReplayInv.move (h : ReplayInv s) (hSame : SameReceipts s s')
    (hStores : s'.stores = s.stores) (hTask : ∀ t, s'.commit = some t → TaskOk s t) :
    ReplayInv s' where
  task t ht := (hTask t ht).frame hSame
  reported j hj := by
    rw [hSame.reported] at hj
    rw [hSame.length]
    exact h.reported j hj
  seen st hst := by
    rw [hStores] at hst
    rw [hSame.length]
    exact h.seen st hst
  noStale := hSame.noStaleReplay hStores h.noStale

/-- A commit that is over leaves nothing to keep. -/
theorem ReplayInv.idle (h : ReplayInv s) (hSame : SameReceipts s s')
    (hStores : s'.stores = s.stores) (hNone : s'.commit = none) : ReplayInv s' :=
  h.move hSame hStores fun t ht => by rw [hNone] at ht; cases ht

/-- A move beside the commit keeps it. -/
theorem ReplayInv.beside (h : ReplayInv s) (hSame : SameReceipts s s')
    (hStores : s'.stores = s.stores) (hCommit : s'.commit = s.commit) : ReplayInv s' :=
  h.move hSame hStores fun t ht => h.task t (hCommit ▸ ht)

theorem ReplayInv.owner (h : ReplayInv s) (hFrame : OwnerFrame s s') : ReplayInv s' :=
  h.beside hFrame.sameReceipts hFrame.stores hFrame.commit

/-- A commit goes on with a rewrite. -/
theorem ReplayInv.rewriting (h : ReplayInv s) (ht : TaskOk s t)
    (hRewrite : RewriteOk s t finished fresh todo) :
    ReplayInv { s with commit := some { t with phase := .rewriting finished fresh todo } } := by
  refine h.move ⟨rfl, rfl⟩ rfl ?_
  intro t' ht'
  cases ht'
  refine ⟨fun e he => (ht.batch e he).frame (.refl s) rfl, ?_⟩
  intro finished' fresh' todo' hPhase
  cases hPhase
  exact hRewrite.frame (.refl s) rfl

theorem replayInv_commitReturns (h : ReplayInv s) (ids : List Nat)
    (result : Except NfsError Unit) : ReplayInv (s.commitReturns ids result) :=
  h.idle (sameReceipts_commitReturns s ids result) rfl rfl

/-- The batch begins with the receipts' own replies. -/
theorem entryOk_entriesOf (he : e ∈ FileIo.entriesOf s.writes t.ids) : EntryOk s t e := by
  obtain ⟨id, hid, hMap⟩ := List.mem_filterMap.mp he
  obtain ⟨w, hw, rfl⟩ := Option.map_eq_some_iff.mp hMap
  exact ⟨hid, fun r hr l hCov => ⟨w, hw, r, hr, hCov⟩⟩

theorem replayInv_startCommit (h : ReplayInv s) (ids : List Nat) :
    ReplayInv (s.startCommit info ids) := by
  unfold FileIo.startCommit
  dsimp only
  split
  · exact h.beside ⟨rfl, rfl⟩ rfl rfl
  · split
    · refine h.move ⟨rfl, rfl⟩ rfl ?_
      intro t ht
      cases ht
      exact ⟨fun e he => entryOk_entriesOf he, fun _ _ _ hPhase => nomatch hPhase⟩
    · exact replayInv_commitReturns h _ _

theorem replayInv_commitSucceeded (h : ReplayInv s) (t : CommitTask) :
    ReplayInv (s.commitSucceeded info t) := by
  unfold FileIo.commitSucceeded
  split
  · exact replayInv_commitReturns h _ _
  · exact replayInv_commitReturns h _ _

/-- A verifier change starts the rewrite of a batch that must be current. -/
theorem replayInv_commitFailed (h : ReplayInv s) (ht : TaskOk s t) {e : NfsError}
    (hCurrent : t.attempt < 2 → changesVerifier e = true → ∀ id ∈ t.ids, ¬ s.Overtaken id) :
    ReplayInv (s.commitFailed info t e) := by
  unfold FileIo.commitFailed
  split
  · rename_i hRewrite
    refine h.rewriting ht ⟨nofun, ht.batch, ?_, ?_⟩
    · intro e rest hTodo
      have he : e ∈ t.batch := by
        rw [hTodo]
        exact List.mem_cons_self
      exact ⟨(ht.batch e he).id, nofun⟩
    · exact hCurrent hRewrite.1 hRewrite.2
  · exact replayInv_commitReturns h _ _

/-! ## One lemma per kind of move -/

theorem replayInv_commitAnswered (h : ReplayInv s) (hCommit : s.commit = some t)
    {answers : CommitAnswers} (hok : ReplaysCurrent info s (.commitAnswered answers)) :
    ReplayInv (s.commitAnswered info t answers) := by
  have ht := h.task t hCommit
  unfold FileIo.commitAnswered
  split
  · rename_i e hExec
    exact replayInv_commitFailed h ht fun hAttempt hChanged =>
      hok.changed answers t e rfl hCommit hAttempt hExec hChanged
  · split
    · exact replayInv_commitSucceeded h t
    · refine h.move ⟨rfl, rfl⟩ rfl ?_
      intro t' ht'
      cases ht'
      exact ht.setPhase nofun

theorem replayInv_commitMarked (h : ReplayInv s) (ht : TaskOk s t) :
    ReplayInv (s.commitMarked info t) := by
  unfold FileIo.commitMarked
  split
  · exact replayInv_commitSucceeded h t
  · split
    · -- a missing layout is no verifier change
      exact replayInv_commitFailed h ht fun _ hChanged => nomatch hChanged
    · refine h.move ⟨rfl, rfl⟩ rfl ?_
      intro t' ht'
      cases ht'
      exact ht.setPhase nofun

theorem replayInv_layoutCommitAnswered (h : ReplayInv s) (ht : TaskOk s t)
    {result : Except NfsError Unit} (hNames : FileIo.namesCompound result = true)
    (snapshot : DirtyRange) : ReplayInv (s.layoutCommitAnswered info t snapshot result) := by
  cases result with
  | error e =>
    have hNot : changesVerifier e = false := by simpa [FileIo.namesCompound] using hNames
    apply replayInv_commitFailed h ht
    intro _ hChanged
    rw [hNot] at hChanged
    cases hChanged
  | ok _ =>
    have hAck : ReplayInv { s with mgr := (s.mgr.acknowledgeDirty snapshot).2 } :=
      h.beside ⟨rfl, rfl⟩ rfl rfl
    exact replayInv_commitSucceeded hAck t

/-- A rewritten reply covers the bytes of the one it replaces. -/
theorem replayInv_rewriteAnswered {rest : List BatchEntry} {replies : List DsWriteReply}
    {r : DsWriteReply} (h : ReplayInv s) (hCommit : s.commit = some t)
    (hPhase : t.phase = .rewriting finished fresh (⟨id, w, r :: replies⟩ :: rest))
    (result : Except NfsError (WriteCommitted × Verifier)) :
    ReplayInv (s.rewriteAnswered info t finished fresh ⟨id, w, r :: replies⟩ r replies rest
      result) := by
  have ht := h.task t hCommit
  have hRewrite := ht.rewriting _ _ _ hPhase
  have hHead : EntryOk s t ⟨id, w, r :: replies⟩ := hRewrite.todoOk _ List.mem_cons_self
  have hFresh : EntryOk s t ⟨id, w, fresh⟩ := hRewrite.freshOk _ _ rfl
  unfold FileIo.rewriteAnswered
  cases result with
  | error e => exact replayInv_commitReturns h _ _
  | ok answer =>
    refine h.rewriting ht ⟨hRewrite.doneOk, ?_, ?_, hRewrite.current⟩
    · intro e he
      rcases List.mem_cons.mp he with rfl | hRest
      · exact ⟨hHead.id, fun r' hr' => hHead.within r' (List.mem_cons_of_mem r hr')⟩
      · exact hRewrite.todoOk e (List.mem_cons_of_mem _ hRest)
    · intro e rest' hTodo
      cases hTodo
      refine ⟨hHead.id, ?_⟩
      intro r' hr' l hCov
      rcases List.mem_append.mp hr' with hOld | hNew
      · exact hFresh.within r' hOld l hCov
      · cases List.mem_singleton.mp hNew
        exact hHead.within r List.mem_cons_self l hCov

/-- A receipt that is rewritten joins the finished ones with its new replies. -/
theorem replayInv_rewriteNext (h : ReplayInv s) (hCommit : s.commit = some t)
    (hPhase : t.phase = .rewriting finished fresh todo)
    (hNext : s.rewriteNext t finished fresh todo = some s') : ReplayInv s' := by
  have ht := h.task t hCommit
  have hRewrite := ht.rewriting _ _ _ hPhase
  unfold FileIo.rewriteNext at hNext
  split at hNext
  · -- all receipts are rewritten: back to the COMMITs
    cases hNext
    refine h.move ⟨rfl, rfl⟩ rfl ?_
    intro t' ht'
    cases ht'
    exact ⟨fun e he => (hRewrite.doneOk e he).frame (.refl s) rfl,
      fun _ _ _ hPhase' => nomatch hPhase'⟩
  · -- the next receipt
    rename_i id w rest
    cases hNext
    refine h.rewriting ht ⟨?_, ?_, ?_, hRewrite.current⟩
    · intro e he
      rcases List.mem_append.mp he with hOld | hNew
      · exact hRewrite.doneOk e hOld
      · cases List.mem_singleton.mp hNew
        exact hRewrite.freshOk _ _ rfl
    · intro e he
      exact hRewrite.todoOk e (List.mem_cons_of_mem _ he)
    · intro e rest' hRest
      have he : e ∈ rest := by
        rw [hRest]
        exact List.mem_cons_self
      exact ⟨(hRewrite.todoOk e (List.mem_cons_of_mem _ he)).id, nofun⟩
  · cases hNext

/-- The rewrite stores bytes of a receipt that is not overtaken. -/
theorem replayInv_rewriteStore {rest : List BatchEntry} {replies : List DsWriteReply}
    {r : DsWriteReply} {start length : Nat} (h : ReplayInv s) (hCommit : s.commit = some t)
    (hPhase : t.phase = .rewriting finished fresh (⟨id, w, r :: replies⟩ :: rest))
    (hLen : start + length ≤ r.data.length) :
    ReplayInv { s with stores := s.stores ++ [{
      id := id, dsAddr := r.dsAddr, dsFh := r.dsFh, start := r.dsOffset + start,
      length := length, seen := s.writes.length }] } := by
  have hRewrite := (h.task t hCommit).rewriting _ _ _ hPhase
  have hHead : EntryOk s t ⟨id, w, r :: replies⟩ := hRewrite.todoOk _ List.mem_cons_self
  refine ⟨fun t' ht' => (h.task t' ht').frame ⟨rfl, rfl⟩, h.reported, ?_, ?_⟩
  · intro st hst
    rcases List.mem_append.mp hst with hOld | hNew
    · exact h.seen st hOld
    · cases List.mem_singleton.mp hNew
      exact Nat.le_refl _
  · intro st hst j hj hLt hSeen l hCov hAck
    rcases List.mem_append.mp hst with hOld | hNew
    · exact h.noStale st hOld j hj hLt hSeen l hCov hAck
    · cases List.mem_singleton.mp hNew
      obtain ⟨hAddr, hFh, hLow, hHigh⟩ := hCov
      -- a later receipt for the byte would have overtaken the one that is rewritten
      have hReply : r.Covers l := by
        refine ⟨hAddr, hFh, ?_, ?_⟩
        · show r.dsOffset ≤ l.position
          have : r.dsOffset + start ≤ l.position := hLow
          omega
        · show l.position < r.dsOffset + r.data.length
          have : l.position < r.dsOffset + start + length := hHigh
          omega
      have hOwn := hHead.within r List.mem_cons_self l hReply
      exact hRewrite.current id hHead.id ⟨j, hj, hLt, l, hOwn, hAck⟩

/-! ## A new receipt -/

theorem acknowledges_register (hLt : id < s.writes.length) :
    (s.register w).Acknowledges id l ↔ s.Acknowledges id l := by
  unfold FileIo.Acknowledges
  show (∃ w', (s.writes ++ [w])[id]? = some w' ∧ _) ↔ _
  rw [List.getElem?_append_left hLt]

theorem acknowledges_lt (h : s.Acknowledges id l) : id < s.writes.length := by
  obtain ⟨w, hw, -⟩ := h
  exact (List.getElem?_eq_some_iff.mp hw).1

/-- The new receipt is the last one of the file. -/
theorem acknowledges_register_new (h : (s.register w).Acknowledges s.writes.length l) :
    w.Covers l := by
  obtain ⟨w', hw', hCov⟩ := h
  change (s.writes ++ [w])[s.writes.length]? = some w' at hw'
  rw [List.getElem?_concat_length] at hw'
  cases hw'
  exact hCov

theorem mem_reported_register {j : Nat} (hj : j ∈ (s.register w).reported) :
    j ∈ s.reported ∨ (j = s.writes.length ∧ w.failed = false) := by
  unfold FileIo.register at hj
  dsimp only at hj
  split at hj
  · exact .inl hj
  · rename_i hFailed
    rcases List.mem_append.mp hj with hOld | hNew
    · exact .inl hOld
    · exact .inr ⟨List.mem_singleton.mp hNew, by simpa using hFailed⟩

/-- A batch that is being rewritten is overtaken by no new write. -/
theorem not_overtaken_register (h : ReplayInv s) (hCommit : s.commit = some t)
    (hok : ReplaysCurrent info s (.register w)) (hRewriting : t.IsRewriting) (hid : id ∈ t.ids)
    (hCurrent : ¬ s.Overtaken id) : ¬ (s.register w).Overtaken id := by
  rintro ⟨j, hj, hLt, l, hOwn, hLater⟩
  rcases mem_reported_register hj with hOld | ⟨rfl, hFailed⟩
  · have hjLt := h.reported j hOld
    have hidLt : id < s.writes.length := by omega
    exact hCurrent ⟨j, hOld, hLt, l, (acknowledges_register hidLt).mp hOwn,
      (acknowledges_register hjLt).mp hLater⟩
  · exact hok.meanwhile w t rfl hFailed hCommit hRewriting id hid l
      (acknowledges_register_new hLater) ((acknowledges_register hLt).mp hOwn)

theorem EntryOk.register (h : EntryOk s t e) : EntryOk (s.register w) t e := by
  refine ⟨h.id, ?_⟩
  intro r hr l hCov
  have hAck := h.within r hr l hCov
  exact (acknowledges_register (acknowledges_lt hAck)).mpr hAck

theorem replayInv_register (h : ReplayInv s) (hok : ReplaysCurrent info s (.register w)) :
    ReplayInv (s.register w) := by
  have hLength : (s.register w).writes.length = s.writes.length + 1 := List.length_append
  refine ⟨?_, ?_, ?_, ?_⟩
  · intro t ht
    have hTask := h.task t ht
    refine ⟨fun e he => (hTask.batch e he).register, ?_⟩
    intro finished fresh todo hPhase
    have hRewrite := hTask.rewriting finished fresh todo hPhase
    exact {
      doneOk := fun e he => (hRewrite.doneOk e he).register
      todoOk := fun e he => (hRewrite.todoOk e he).register
      freshOk := fun e rest hTodo => (hRewrite.freshOk e rest hTodo).register
      current := fun id hid => not_overtaken_register h ht hok ⟨_, _, _, hPhase⟩ hid
        (hRewrite.current id hid) }
  · intro j hj
    rw [hLength]
    rcases mem_reported_register hj with hOld | ⟨rfl, -⟩
    · have := h.reported j hOld
      omega
    · omega
  · intro st hst
    rw [hLength]
    have : st.seen ≤ s.writes.length := h.seen st hst
    omega
  · intro st hst j hj hLt hSeen l hCov hAck
    -- what was stored before the new receipt existed is not older than it
    have hStSeen : st.seen ≤ s.writes.length := h.seen st hst
    have hjLt : j < s.writes.length := by omega
    rcases mem_reported_register hj with hOld | ⟨rfl, -⟩
    · exact h.noStale st hst j hOld hLt hSeen l hCov ((acknowledges_register hjLt).mp hAck)
    · omega

/-- Every step that meets the condition keeps the invariant. -/
theorem replayInv_step {ev : FileEvent} (h : ReplayInv s) (hok : ReplaysCurrent info s ev)
    (hstep : (fileMachine info).step s ev = some s') : ReplayInv s' := by
  cases fileMove_of_step hstep with
  | layoutGranted layout hGen => exact h.beside ⟨rfl, rfl⟩ rfl rfl
  | admitWrite hOwner => exact h.beside ⟨rfl, rfl⟩ rfl rfl
  | endWrite => exact h.beside ⟨rfl, rfl⟩ rfl rfl
  | register w hWriters hDone hGen => exact replayInv_register h hok
  | beginCommit ids hOwner hCommit => exact replayInv_startCommit h ids
  | beginExclusive op hOwner hCommit hWriters => exact h.owner (ownerFrame_beginExclusive s op)
  | cancel => exact h.idle ⟨FileIo.map_markFailed _ _ (·.replies) fun _ => rfl, rfl⟩ rfl rfl
  | seqStatus flags =>
    unfold FileIo.handleSeqStatus
    split
    · exact h.beside ⟨rfl, rfl⟩ rfl rfl
    · exact h
  | fence => exact h.beside ⟨rfl, rfl⟩ rfl rfl
  | sweep hSweeping => exact h.beside ⟨rfl, rfl⟩ rfl rfl
  | publish hSwept hNext => exact h.beside ⟨rfl, rfl⟩ rfl rfl
  | commitAnswered answers t hCommit hPhase => exact replayInv_commitAnswered h hCommit hok
  | rewriteStore start length t finished fresh id w r replies rest hCommit hPhase hLen =>
    exact replayInv_rewriteStore h hCommit hPhase hLen
  | rewriteAnswered result t finished fresh id w r replies rest hCommit hPhase =>
    exact replayInv_rewriteAnswered h hCommit hPhase result
  | rewriteNext t finished fresh todo s' hCommit hPhase hNext =>
    exact replayInv_rewriteNext h hCommit hPhase hNext
  | commitMarked t hCommit hPhase => exact replayInv_commitMarked h (h.task t hCommit)
  | layoutCommitAnswered result t snapshot hCommit hPhase hNames =>
    exact replayInv_layoutCommitAnswered h (h.task t hCommit) hNames snapshot
  | run o s' hCommit hOwner hRun =>
    rcases run_cases hRun with ⟨-, rfl⟩ | ⟨hFrame, -⟩
    · have hBegun : ReplayInv { s with owner := some { o with phase := .committing } } :=
        h.owner (ownerFrame_owner s _)
      exact replayInv_startCommit hBegun _
    · exact h.owner hFrame
  | dirtyCommitAnswered result o snapshot hCommit hOwner hPhase =>
    exact h.owner (ownerFrame_dirtyCommitAnswered s o snapshot result)
  | returnAnswered result o hCommit hOwner hPhase =>
    exact h.owner (ownerFrame_returnAnswered s o result)
  | recallAnswered returned o dirty hCommit hOwner hPhase =>
    exact h.owner (ownerFrame_recallAnswered s dirty returned)
  | closeAnswered result o hCommit hOwner hPhase =>
    exact h.owner (ownerFrame_closeReturns s _)

end invariant

theorem replayInv_initial : ReplayInv .initial :=
  ⟨nofun, nofun, nofun, nofun⟩

/--
**No stale replay.** In every run in which a changed verifier meets only batches whose
receipts no later reported write has overtaken, and writes reported during a rewrite stay
clear of the batch, the rewrites store nothing older than what was reported as successful.
-/
theorem replays_current (info : MountInfo) {s : FileIo}
    (h : (fileMachine info).ReachableIf (ReplaysCurrent info) s) : s.NoStaleReplay := by
  have hInv : ReplayInv s := h.invariant replayInv_initial fun _ _ _ _ hok hstep hInv =>
    replayInv_step hInv hok hstep
  exact hInv.noStale

/-! ## Two overlapping writes, one data server -/

/-- One write; the data server restarts before its COMMIT, and the data is written again. -/
def singleRewrite : List FileEvent :=
  [.admitWrite, .register (twoBytes 1), .beginCommit [0], .commitAnswered (answeredWith 2),
   .rewriteStore 0 2]

/-- The condition holds where there is but one receipt. -/
theorem replays_current_singleRewrite :
    ∃ s, (fileMachine sampleMount).runFrom .initial singleRewrite = some s ∧
      s.stores ≠ [] ∧ s.NoStaleReplay := by
  refine ⟨_, rfl, nofun, replays_current sampleMount ?_⟩
  refine Lib.Machine.reachableIf_of_runFrom singleRewrite .init ?_ rfl
  refine ⟨⟨nofun, nofun⟩, fun s₁ h₁ => ?_⟩
  cases h₁
  refine ⟨⟨nofun, fun w t hw hFailed hCommit => nomatch hCommit⟩, fun s₂ h₂ => ?_⟩
  cases h₂
  refine ⟨⟨nofun, nofun⟩, fun s₃ h₃ => ?_⟩
  cases h₃
  refine ⟨⟨fun answers t e hEv hCommit hAttempt hExec hChanged id hid => ?_, nofun⟩,
    fun s₄ h₄ => ?_⟩
  · rintro ⟨j, hj, hLt, -⟩
    cases hCommit
    cases List.mem_singleton.mp hid
    cases List.mem_singleton.mp hj
    exact absurd hLt (Nat.lt_irrefl 0)
  · cases h₄
    exact ⟨⟨nofun, nofun⟩, fun _ _ => trivial⟩

/-- Write `1`, write `2` over it, commit the second; the data server restarts, and the flush
of `close` finds the first receipt with the verifier of the earlier boot. -/
def overlappingWrites : List FileEvent :=
  [.layoutGranted sampleLayout,
   .admitWrite, .register (twoBytes 1), .admitWrite, .register (twoBytes 2),
   .beginCommit [1], .commitAnswered (answeredWith 1), .commitRun,
   .layoutCommitAnswered (.ok ()),
   .beginExclusive (.close false), .run, .commitAnswered (answeredWith 2),
   .rewriteStore 0 2]

/-- The flush stores the first write's data over the committed data of the second. -/
theorem flush_rewrites_over_committed :
    ∃ s, (fileMachine sampleMount).Reachable s ∧ s.reported = [0, 1] ∧
      FileIo.isDone s.writes 1 = true ∧ ¬ s.NoStaleReplay := by
  refine ⟨_, Lib.Machine.reachable_of_runFrom (m := fileMachine sampleMount)
    overlappingWrites rfl, rfl, rfl, ?_⟩
  intro hNo
  refine hNo _ List.mem_cons_self 1 (by decide) (by decide) (by decide) ⟨7, [1], 0⟩
    ⟨rfl, rfl, by decide, by decide⟩ ⟨_, rfl, ?_⟩
  decide

end NfsRs.Nfs41
