import NfsRs.Nfs41.FileIo

/-!
# NfsRs — the invariant of one file's pNFS state

What every run of `fileMachine` keeps, whatever flags, recalls, recoveries and cancellations
it meets: generations of receipts and dirty ranges lie behind the published session, the
exclusive gate keeps writers out, a flush's commit covers every registered receipt that is not
done, and a receipt reported in the active generation is still registered, done, or dropped
by a bulk clear.

## Main results

- `fileInv_step` : every move keeps the invariant.
- `fileInv_reachable` : it holds in every reachable state.
-/

namespace NfsRs.Nfs41

open FileIo

/-! ## The flags of receipts -/

section flags

variable (ids : List Nat) (writes : List PendingWrite) (id : Nat)

/-- After a successful commit, what is not done was not done before and not in the batch. -/
theorem undone_markDone (h : undone (markDone ids writes) id = true) :
    undone writes id = true ∧ id ∉ ids := by
  unfold undone markDone at h
  rw [List.getElem?_mapIdx] at h
  unfold undone
  cases hw : writes[id]? with
  | none =>
    rw [hw] at h
    cases h
  | some w =>
    rw [hw] at h
    by_cases hid : id ∈ ids
    · simp [hid] at h
    · simpa [hid] using h

/-- Whether a receipt exists undone, read off the flags alone. -/
theorem undone_eq_map : undone writes id = (writes.map (·.done))[id]?.any fun d => !d := by
  simp [undone, Option.any_map]

theorem ofGeneration_eq_map (generation : Nat) :
    ofGeneration writes generation id =
      (writes.map (·.generation))[id]?.any fun g => g == generation := by
  simp [ofGeneration, Option.any_map]

@[simp] theorem undone_markFailed : undone (markFailed ids writes) id = undone writes id := by
  rw [undone_eq_map, undone_eq_map, map_markFailed ids writes (·.done) fun _ => rfl]

@[simp] theorem ofGeneration_markDone (generation : Nat) :
    ofGeneration (markDone ids writes) generation id = ofGeneration writes generation id := by
  rw [ofGeneration_eq_map, ofGeneration_eq_map,
    map_markDone ids writes (·.generation) fun _ => rfl]

@[simp] theorem ofGeneration_markFailed (generation : Nat) :
    ofGeneration (markFailed ids writes) generation id = ofGeneration writes generation id := by
  rw [ofGeneration_eq_map, ofGeneration_eq_map,
    map_markFailed ids writes (·.generation) fun _ => rfl]

variable {ids writes id}

theorem isDone_of_undone (h : undone writes id = true) : isDone writes id = false := by
  unfold undone at h
  unfold isDone
  cases hw : writes[id]? with
  | none => rfl
  | some w =>
    rw [hw] at h
    simpa using h

/-- A receipt of a generation above every receipt does not exist. -/
theorem ofGeneration_lt {generation bound : Nat} (hLe : ∀ w ∈ writes, w.generation ≤ bound)
    (h : ofGeneration writes generation id = true) : generation ≤ bound := by
  unfold ofGeneration at h
  cases hw : writes[id]? with
  | none =>
    rw [hw] at h
    cases h
  | some w =>
    rw [hw] at h
    have hEq : w.generation = generation := by simpa using h
    have hBound := hLe w (List.mem_of_getElem? hw)
    omega

theorem undone_append {w : PendingWrite} (hLt : id < writes.length) :
    undone (writes ++ [w]) id = undone writes id := by
  unfold undone
  rw [List.getElem?_append_left hLt]

theorem ofGeneration_append {w : PendingWrite} {generation : Nat} (hLt : id < writes.length) :
    ofGeneration (writes ++ [w]) generation id = ofGeneration writes generation id := by
  unfold ofGeneration
  rw [List.getElem?_append_left hLt]

theorem lt_of_undone (h : undone writes id = true) : id < writes.length := by
  apply Decidable.byContradiction
  intro hGe
  unfold undone at h
  rw [List.getElem?_eq_none (by omega)] at h
  cases h

theorem lt_of_ofGeneration {generation : Nat} (h : ofGeneration writes generation id = true) :
    id < writes.length := by
  apply Decidable.byContradiction
  intro hGe
  unfold ofGeneration at h
  rw [List.getElem?_eq_none (by omega)] at h
  cases h

end flags

/-! ## The invariant -/

/-- Every registered receipt is committed. -/
def FileIo.Settled (s : FileIo) : Prop :=
  ∀ id ∈ s.mgr.pendingWrites, undone s.writes id = false

/-- The operation is past a flush that succeeded. -/
def Exclusive.Flushed (o : Exclusive) : Prop :=
  match o.phase with
  | .committed (.ok _) | .dirtyCommit _ | .flushed (.ok _) | .returning | .returned (.ok _) =>
      True
  | .closing => o.failure = none
  | _ => False

/-- A point's promise is read off its phase. -/
theorem Exclusive.flushed_of_phase {o : Exclusive} {phase : ExclusivePhase}
    (hPhase : o.phase = phase) (h : ({ o with phase := phase } : Exclusive).Flushed) :
    o.Flushed := by
  subst hPhase
  exact h

structure FileInv (s : FileIo) : Prop where
  sessionLe : s.session ≤ s.mgr.activeGeneration
  activeLe : s.mgr.activeGeneration ≤ s.session + 1
  fenced : s.sweeping = true → s.session < s.mgr.activeGeneration
  writesLe : ∀ w ∈ s.writes, w.generation ≤ s.session
  dirtyLe : ∀ d, s.mgr.dirty = some d → d.generation ≤ s.mgr.activeGeneration
  gate : s.owner ≠ none → s.writers = 0
  committing : ∀ t o, s.commit = some t → s.owner = some o → o.phase = .committing
  covered : ∀ t o, s.commit = some t → s.owner = some o →
    ∀ id ∈ s.mgr.pendingWrites, undone s.writes id = true → id ∈ t.ids
  taskOf : ∀ t, s.commit = some t →
    ∀ id ∈ t.ids, ofGeneration s.writes t.generation id = true
  settled : ∀ o, s.owner = some o → o.Flushed → s.Settled
  clean : ∀ o u, s.owner = some o → o.phase = .flushed (.ok u) → s.mgr.snapshotDirty = none
  held : ∀ id ∈ s.reported, undone s.writes id = true →
    ofGeneration s.writes s.mgr.activeGeneration id = true →
    id ∈ s.mgr.pendingWrites ∨ id ∈ s.lost

theorem fileInv_initial : FileInv .initial where
  sessionLe := Nat.le_refl 1
  activeLe := Nat.le_succ 1
  fenced := nofun
  writesLe := nofun
  dirtyLe := nofun
  gate h := absurd rfl h
  committing _ _ ht := nomatch ht
  covered _ _ ht := nomatch ht
  taskOf _ ht := nomatch ht
  settled _ ho := nomatch ho
  clean _ _ ho := nomatch ho
  held _ hid := nomatch hid

section moves

variable {info : MountInfo} {s s' : FileIo} {t : CommitTask} {o : Exclusive}

/-- Outside its commit, an exclusive operation owes only what its new point promises. -/
theorem FileInv.owner (h : FileInv s) (hFrame : OwnerFrame s s') (hCommit : s.commit = none)
    (hPending : s'.mgr.pendingWrites = s.mgr.pendingWrites)
    (hActive : s'.mgr.activeGeneration = s.mgr.activeGeneration)
    (hDirty : ∀ d, s'.mgr.dirty = some d → s.mgr.dirty = some d) (hGate : s.writers = 0)
    (hSettled : ∀ o, s'.owner = some o → o.Flushed → s.Settled)
    (hClean : ∀ o u, s'.owner = some o → o.phase = .flushed (.ok u) →
      s'.mgr.snapshotDirty = none) : FileInv s' := by
  have hNone : s'.commit = none := hFrame.commit.trans hCommit
  exact {
    sessionLe := by rw [hFrame.session, hActive]; exact h.sessionLe
    activeLe := by rw [hFrame.session, hActive]; exact h.activeLe
    fenced := by rw [hFrame.sweeping, hFrame.session, hActive]; exact h.fenced
    writesLe := by rw [hFrame.writes, hFrame.session]; exact h.writesLe
    dirtyLe := by
      intro d hd
      rw [hActive]
      exact h.dirtyLe d (hDirty d hd)
    gate := fun _ => hFrame.writers.trans hGate
    committing := fun t o ht => by rw [hNone] at ht; cases ht
    covered := fun t o ht => by rw [hNone] at ht; cases ht
    taskOf := fun t ht => by rw [hNone] at ht; cases ht
    settled := by
      intro o ho hFlushed id hid
      rw [hPending] at hid
      rw [hFrame.writes]
      exact hSettled o ho hFlushed id hid
    clean := hClean
    held := by
      rw [hFrame.reported, hFrame.writes, hFrame.lost, hPending, hActive]
      exact h.held }

/-- A change of layout or dirty range keeps the invariant where it keeps what is dirty behind
the active generation. -/
theorem FileInv.setMgr (h : FileInv s) {m : LayoutManager}
    (hPending : m.pendingWrites = s.mgr.pendingWrites)
    (hActive : m.activeGeneration = s.mgr.activeGeneration)
    (hDirty : ∀ d, m.dirty = some d → d.generation ≤ s.mgr.activeGeneration)
    (hClean : ∀ o u, s.owner = some o → o.phase = .flushed (.ok u) → m.snapshotDirty = none) :
    FileInv { s with mgr := m } where
  sessionLe := by rw [hActive]; exact h.sessionLe
  activeLe := by rw [hActive]; exact h.activeLe
  fenced := by rw [hActive]; exact h.fenced
  writesLe := h.writesLe
  dirtyLe d hd := by rw [hActive]; exact hDirty d hd
  gate := h.gate
  committing := h.committing
  covered t o ht ho := by rw [hPending]; exact h.covered t o ht ho
  taskOf := h.taskOf
  settled o ho hFlushed id hid := by
    rw [hPending] at hid
    exact h.settled o ho hFlushed id hid
  clean := hClean
  held := by rw [hPending, hActive]; exact h.held

/-- The commit goes on over the same receipts. -/
theorem FileInv.setCommit (h : FileInv s) (hCommit : s.commit = some t) {t' : CommitTask}
    (hIds : t'.ids = t.ids) (hGen : t'.generation = t.generation) :
    FileInv { s with commit := some t' } where
  sessionLe := h.sessionLe
  activeLe := h.activeLe
  fenced := h.fenced
  writesLe := h.writesLe
  dirtyLe := h.dirtyLe
  gate := h.gate
  committing _ o _ ho := h.committing t o hCommit ho
  covered t₁ o ht₁ ho id hid hUndone := by
    cases ht₁
    rw [hIds]
    exact h.covered t o hCommit ho id hid hUndone
  taskOf t₁ ht₁ id hid := by
    cases ht₁
    rw [hGen]
    exact h.taskOf t hCommit id (hIds ▸ hid)
  settled := h.settled
  clean := h.clean
  held := h.held

/-! ## `commit_pending_writes` -/

/-- A bound on the generations of receipts is one on those of the same generations. -/
theorem generation_le_of_map {writes writes' : List PendingWrite} {bound : Nat}
    (hMap : writes'.map (·.generation) = writes.map (·.generation))
    (hLe : ∀ w ∈ writes, w.generation ≤ bound) : ∀ w ∈ writes', w.generation ≤ bound := by
  intro w hw
  have hMem : w.generation ∈ writes.map (·.generation) :=
    hMap ▸ List.mem_map_of_mem hw
  obtain ⟨w', hw', hEq⟩ := List.mem_map.mp hMem
  rw [← hEq]
  exact hLe w' hw'

/-- A commit that succeeds settles what it covers. -/
theorem fileInv_commitReturns_ok (h : FileInv s) {ids : List Nat} (u : Unit)
    (hCovers : ∀ o, s.owner = some o → ∀ id ∈ s.mgr.pendingWrites,
      undone s.writes id = true → id ∈ ids) :
    FileInv (s.commitReturns ids (.ok u)) where
  sessionLe := h.sessionLe
  activeLe := h.activeLe
  fenced := h.fenced
  writesLe := generation_le_of_map
    (FileIo.map_markDone ids s.writes (·.generation) fun _ => rfl) h.writesLe
  dirtyLe := h.dirtyLe
  gate hOwner := h.gate fun hNone => hOwner (by
    show s.owner.map _ = none
    rw [hNone]
    rfl)
  committing _ _ ht := nomatch ht
  covered _ _ ht := nomatch ht
  taskOf _ ht := nomatch ht
  -- a flush has handed over the whole registry: what is left was not undone
  settled o ho _ id hid := by
    obtain ⟨o', ho', -⟩ := Option.map_eq_some_iff.mp ho
    have hPending := (List.mem_filter.mp hid).1
    rw [Bool.eq_false_iff]
    intro hUndone
    obtain ⟨hOld, hNot⟩ := undone_markDone _ _ _ hUndone
    exact hNot (hCovers o' ho' id hPending hOld)
  clean o u ho hPhase := by
    obtain ⟨o', -, rfl⟩ := Option.map_eq_some_iff.mp ho
    cases hPhase
  held id hid hUndone hGen := by
    have hUndone' : undone (markDone ids s.writes) id = true := hUndone
    have hOld := (undone_markDone _ _ _ hUndone').1
    have hGen' : ofGeneration (markDone ids s.writes) s.mgr.activeGeneration id = true := hGen
    rw [ofGeneration_markDone] at hGen'
    rcases h.held id hid hOld hGen' with hPending | hLost
    · refine .inl (List.mem_filter.mpr ⟨hPending, ?_⟩)
      rw [isDone_of_undone hUndone']
      rfl
    · exact .inr hLost

/-- A commit that ends unsettled promises nothing to the operation it belongs to. -/
theorem FileInv.markFailed (h : FileInv s) (ids : List Nat) (owner : Option Exclusive)
    (hOwner : ∀ o, owner = some o → s.owner ≠ none ∧ ¬ o.Flushed) :
    FileInv { s with
      writes := FileIo.markFailed ids s.writes, commit := none, owner := owner } where
  sessionLe := h.sessionLe
  activeLe := h.activeLe
  fenced := h.fenced
  writesLe := generation_le_of_map
    (FileIo.map_markFailed ids s.writes (·.generation) fun _ => rfl) h.writesLe
  dirtyLe := h.dirtyLe
  gate hSome := by
    obtain ⟨o, ho⟩ := Option.ne_none_iff_exists'.mp hSome
    exact h.gate (hOwner o ho).1
  committing _ _ ht := nomatch ht
  covered _ _ ht := nomatch ht
  taskOf _ ht := nomatch ht
  settled o ho hFlushed := absurd hFlushed (hOwner o ho).2
  clean o u ho hPhase :=
    absurd (Exclusive.flushed_of_phase hPhase trivial) (hOwner o ho).2
  held id hid hUndone hGen := by
    have hUndone' : undone (FileIo.markFailed ids s.writes) id = true := hUndone
    have hGen' : ofGeneration (FileIo.markFailed ids s.writes) s.mgr.activeGeneration id = true :=
      hGen
    rw [undone_markFailed] at hUndone'
    rw [ofGeneration_markFailed] at hGen'
    exact h.held id hid hUndone' hGen'

theorem fileInv_commitReturns_error (h : FileInv s) (ids : List Nat) (e : NfsError) :
    FileInv (s.commitReturns ids (.error e)) := by
  have hFailed := h.markFailed ids
    (s.owner.map fun o => { o with phase := .committed (.error e) }) (by
      intro o ho
      obtain ⟨o', ho', rfl⟩ := Option.map_eq_some_iff.mp ho
      refine ⟨?_, nofun⟩
      rw [ho']
      nofun)
  exact { hFailed with }

/-- A commit that begins covers what its caller hands it; a flush hands over the registry. -/
theorem fileInv_startCommit (h : FileInv s) (hCommit : s.commit = none) {ids : List Nat}
    (hOwner : ∀ o, s.owner = some o → o.phase = .committing ∧ ids = s.mgr.pendingWrites) :
    FileInv (s.startCommit info ids) := by
  unfold FileIo.startCommit
  dsimp only
  split
  · -- nothing is left to commit
    rename_i hNil
    refine { h with gate := ?_, committing := ?_, covered := ?_, settled := ?_, clean := ?_ }
    · intro hSome
      apply h.gate
      intro hNone
      apply hSome
      show s.owner.map _ = none
      rw [hNone]
      rfl
    · intro t o ht
      rw [hCommit] at ht
      cases ht
    · intro t o ht
      rw [hCommit] at ht
      cases ht
    -- no receipt of the registry was left undone
    · intro o ho _ id hid
      obtain ⟨o', ho', -⟩ := Option.map_eq_some_iff.mp ho
      rw [(hOwner o' ho').2] at hNil
      rw [Bool.eq_false_iff]
      exact List.filter_eq_nil_iff.mp hNil id hid
    · intro o u ho hPhase
      obtain ⟨o', -, rfl⟩ := Option.map_eq_some_iff.mp ho
      cases hPhase
  · split
    · -- the COMMITs go out
      rename_i hAll
      refine { h with committing := ?_, covered := ?_, taskOf := ?_ }
      · intro t o _ ho
        exact (hOwner o ho).1
      · intro t o ht ho id hid hUndone
        cases ht
        rw [(hOwner o ho).2]
        exact List.mem_filter.mpr ⟨hid, hUndone⟩
      · intro t ht id hid
        cases ht
        exact List.all_eq_true.mp hAll id hid
    · exact fileInv_commitReturns_error h _ _

theorem fileInv_commitSucceeded (h : FileInv s) (hCommit : s.commit = some t) :
    FileInv (s.commitSucceeded info t) := by
  unfold FileIo.commitSucceeded
  split
  · exact fileInv_commitReturns_error h _ _
  · exact fileInv_commitReturns_ok h () fun o ho => h.covered t o hCommit ho

theorem fileInv_commitFailed (h : FileInv s) (hCommit : s.commit = some t) (e : NfsError) :
    FileInv (s.commitFailed info t e) := by
  unfold FileIo.commitFailed
  split
  · exact h.setCommit hCommit rfl rfl
  · exact fileInv_commitReturns_error h _ _

/-- While a commit runs, no operation stands behind its flush. -/
theorem FileInv.not_flushed (h : FileInv s) (hCommit : s.commit = some t) {u : Unit}
    (ho : s.owner = some o) (hPhase : o.phase = .flushed (.ok u)) : False := by
  rw [h.committing t o hCommit ho] at hPhase
  cases hPhase

theorem markDirtyAt_generation {m : LayoutManager} {generation start stop : Nat}
    (hLe : ∀ d, m.dirty = some d → d.generation ≤ m.activeGeneration) :
    ∀ d, (m.markDirtyAt generation start stop).dirty = some d →
      d.generation ≤ m.activeGeneration := by
  intro d hd
  unfold LayoutManager.markDirtyAt at hd
  split at hd
  · exact hLe d hd
  · rename_i hGen
    split at hd
    · cases hd
      show generation ≤ m.activeGeneration
      omega
    · rename_i range hRange
      cases hd
      exact hLe range hRange

theorem markDirtyAt_frame (m : LayoutManager) (generation start stop : Nat) :
    (m.markDirtyAt generation start stop).pendingWrites = m.pendingWrites ∧
      (m.markDirtyAt generation start stop).activeGeneration = m.activeGeneration := by
  unfold LayoutManager.markDirtyAt
  split
  · exact ⟨rfl, rfl⟩
  · split <;> exact ⟨rfl, rfl⟩

theorem fileInv_commitAnswered (h : FileInv s) (hCommit : s.commit = some t)
    (answers : CommitAnswers) : FileInv (s.commitAnswered info t answers) := by
  unfold FileIo.commitAnswered
  split
  · exact fileInv_commitFailed h hCommit _
  · split
    · exact fileInv_commitSucceeded h hCommit
    · rename_i start stop _
      obtain ⟨hPending, hActive⟩ := markDirtyAt_frame s.mgr t.generation start stop
      have hMarked : FileInv { s with mgr := s.mgr.markDirtyAt t.generation start stop } :=
        h.setMgr hPending hActive (markDirtyAt_generation h.dirtyLe)
          fun o u ho hPhase => (h.not_flushed hCommit ho hPhase).elim
      have hNext : FileInv
          { s with
            mgr := s.mgr.markDirtyAt t.generation start stop
            commit := some { t with phase := .marked } } := hMarked.setCommit hCommit rfl rfl
      exact { hNext with }

theorem fileInv_commitMarked (h : FileInv s) (hCommit : s.commit = some t) :
    FileInv (s.commitMarked info t) := by
  unfold FileIo.commitMarked
  split
  · exact fileInv_commitSucceeded h hCommit
  · split
    · exact fileInv_commitFailed h hCommit _
    · exact h.setCommit hCommit rfl rfl

/-- Acknowledging a range drops it or leaves all as it was. -/
theorem acknowledgeDirty_cases (m : LayoutManager) (d : DirtyRange) :
    m.acknowledgeDirty d = (true, { m with dirty := none }) ∨
      m.acknowledgeDirty d = (false, m) := by
  unfold LayoutManager.acknowledgeDirty
  split
  · exact .inl rfl
  · exact .inr rfl

theorem acknowledgeDirty_frame (m : LayoutManager) (d : DirtyRange) :
    (m.acknowledgeDirty d).2.pendingWrites = m.pendingWrites ∧
      (m.acknowledgeDirty d).2.activeGeneration = m.activeGeneration ∧
      ∀ d', (m.acknowledgeDirty d).2.dirty = some d' → m.dirty = some d' := by
  rcases acknowledgeDirty_cases m d with hEq | hEq
  · rw [hEq]
    exact ⟨rfl, rfl, nofun⟩
  · rw [hEq]
    exact ⟨rfl, rfl, fun _ hd => hd⟩

theorem fileInv_layoutCommitAnswered (h : FileInv s) (hCommit : s.commit = some t)
    (snapshot : DirtyRange) (result : Except NfsError Unit) :
    FileInv (s.layoutCommitAnswered info t snapshot result) := by
  unfold FileIo.layoutCommitAnswered
  split
  · exact fileInv_commitFailed h hCommit _
  · obtain ⟨hPending, hActive, hDirty⟩ := acknowledgeDirty_frame s.mgr snapshot
    have hAck : FileInv { s with mgr := (s.mgr.acknowledgeDirty snapshot).2 } :=
      h.setMgr hPending hActive (fun d hd => h.dirtyLe d (hDirty d hd))
        fun o u ho hPhase => (h.not_flushed hCommit ho hPhase).elim
    exact fileInv_commitSucceeded hAck hCommit

theorem fileInv_rewriteAnswered (h : FileInv s) (hCommit : s.commit = some t)
    (finished : List BatchEntry) (fresh : List DsWriteReply) (e : BatchEntry) (r : DsWriteReply)
    (replies : List DsWriteReply) (rest : List BatchEntry)
    (result : Except NfsError (WriteCommitted × Verifier)) :
    FileInv (s.rewriteAnswered info t finished fresh e r replies rest result) := by
  unfold FileIo.rewriteAnswered
  split
  · exact h.setCommit hCommit rfl rfl
  · exact fileInv_commitReturns_error h _ _

theorem fileInv_rewriteNext (h : FileInv s) (hCommit : s.commit = some t)
    {finished todo : List BatchEntry} {fresh : List DsWriteReply}
    (hNext : s.rewriteNext t finished fresh todo = some s') : FileInv s' := by
  unfold FileIo.rewriteNext at hNext
  split at hNext
  · cases hNext
    exact h.setCommit hCommit rfl rfl
  · cases hNext
    exact h.setCommit hCommit rfl rfl
  · cases hNext

/-! ## The operations under the exclusive gate -/

/-- The operation moves to another point and nothing else changes. -/
theorem FileInv.setOwner (h : FileInv s) (hCommit : s.commit = none) (hOwner : s.owner = some o)
    {owner : Option Exclusive}
    (hSettled : ∀ o', owner = some o' → o'.Flushed → o.Flushed)
    (hClean : ∀ o' u, owner = some o' → o'.phase = .flushed (.ok u) →
      s.mgr.snapshotDirty = none) : FileInv { s with owner := owner } := by
  have hGate : s.writers = 0 := h.gate (by rw [hOwner]; nofun)
  exact h.owner (ownerFrame_owner s owner) hCommit rfl rfl (fun _ hd => hd) hGate
    (fun o' ho' hFlushed => h.settled o hOwner (hSettled o' ho' hFlushed)) hClean

theorem fileInv_closeReturns (h : FileInv s) (hCommit : s.commit = none)
    (hOwner : s.owner = some o) (ok : Bool) : FileInv (s.closeReturns ok) := by
  have hGate : s.writers = 0 := h.gate (by rw [hOwner]; nofun)
  exact h.owner (ownerFrame_closeReturns s ok) hCommit rfl rfl (fun _ hd => hd) hGate
    (fun _ ho _ => nomatch ho) fun _ _ ho _ => nomatch ho

theorem fileInv_closeFailed (h : FileInv s) (hCommit : s.commit = none)
    (hOwner : s.owner = some o) (terminal : Bool) (e : NfsError) :
    FileInv (s.closeFailed o terminal e) := by
  unfold FileIo.closeFailed
  split
  · apply h.setOwner hCommit hOwner
    · intro o' ho' hFlushed
      cases ho'
      cases hFlushed
    · intro o' u ho' hPhase
      cases ho'
      cases hPhase
  · exact fileInv_closeReturns h hCommit hOwner false

/-- From a point behind a successful flush, an operation may go anywhere but to the end of a
flush that must find nothing dirty. -/
theorem FileInv.goOn (h : FileInv s) (hCommit : s.commit = none) (hOwner : s.owner = some o)
    (hFlushed : o.Flushed) {o' : Exclusive} (hPhase : ∀ u, o'.phase ≠ .flushed (.ok u)) :
    FileInv { s with owner := some o' } := by
  apply h.setOwner hCommit hOwner
  · intro _ _ _
    exact hFlushed
  · intro o₁ u ho₁ hEq
    cases ho₁
    exact absurd hEq (hPhase u)

/-- An operation that promises nothing may go there from anywhere. -/
theorem FileInv.giveUp (h : FileInv s) (hCommit : s.commit = none) (hOwner : s.owner = some o)
    {o' : Exclusive} (hNot : ¬ o'.Flushed) : FileInv { s with owner := some o' } := by
  apply h.setOwner hCommit hOwner
  · intro o₁ ho₁ hFlushed
    cases ho₁
    exact absurd hFlushed hNot
  · intro o₁ u ho₁ hEq
    cases ho₁
    exact absurd (Exclusive.flushed_of_phase hEq trivial) hNot

theorem fileInv_release (h : FileInv s) (hCommit : s.commit = none) (hOwner : s.owner = some o) :
    FileInv { s with owner := none } :=
  h.setOwner hCommit hOwner (fun _ ho _ => nomatch ho) fun _ _ ho _ => nomatch ho

theorem fileInv_sendLayoutReturn (h : FileInv s) (hCommit : s.commit = none)
    (hOwner : s.owner = some o) (hFlushed : o.Flushed) :
    FileInv (s.sendLayoutReturn o .returning none) := by
  have hGate : s.writers = 0 := h.gate (by rw [hOwner]; nofun)
  refine h.owner (ownerFrame_sendLayoutReturn s o _ _) hCommit rfl rfl (fun _ hd => hd) hGate
    (fun _ _ _ => h.settled o hOwner hFlushed) ?_
  intro o' u ho' hPhase
  cases ho'
  cases hPhase

theorem fileInv_flushCommitted (h : FileInv s) (hCommit : s.commit = none)
    (hOwner : s.owner = some o) (hFlushed : o.Flushed) : FileInv (s.flushCommitted o) := by
  unfold FileIo.flushCommitted
  split
  · rename_i hClean
    apply h.setOwner hCommit hOwner
    · intro _ _ _
      exact hFlushed
    · intro _ _ _ _
      exact hClean
  · split
    · exact h.giveUp hCommit hOwner nofun
    · exact h.goOn hCommit hOwner hFlushed nofun

/-- The flush of an exclusive operation has returned. -/
theorem fileInv_flushed (h : FileInv s) (hCommit : s.commit = none) (hOwner : s.owner = some o)
    {result : Except NfsError Unit} (hPhase : o.phase = .flushed result) :
    FileInv (s.flushed o result) := by
  have hFlushed : ∀ u, result = .ok u → o.Flushed := by
    rintro u rfl
    exact Exclusive.flushed_of_phase hPhase trivial
  unfold FileIo.flushed
  split
  · -- `layoutreturn_file` goes on
    unfold FileIo.returnFlushed
    split
    · exact h.goOn hCommit hOwner (hFlushed () rfl) nofun
    · exact fileInv_sendLayoutReturn h hCommit hOwner (hFlushed () rfl)
  · exact h.giveUp hCommit hOwner nofun
  · -- `close_file_inner` goes on
    unfold FileIo.closeFlushed
    split
    · exact h.giveUp hCommit hOwner nofun
    · exact h.goOn hCommit hOwner (hFlushed () rfl) nofun
  · exact fileInv_closeFailed h hCommit hOwner _ _
  · exact fileInv_release h hCommit hOwner

theorem fileInv_layoutReturned (h : FileInv s) (hCommit : s.commit = none)
    (hOwner : s.owner = some o) {result : Except NfsError Unit}
    (hPhase : o.phase = .returned result) : FileInv (s.layoutReturned o result) := by
  unfold FileIo.layoutReturned
  split
  · exact h.goOn hCommit hOwner (Exclusive.flushed_of_phase hPhase trivial) nofun
  · exact fileInv_closeFailed h hCommit hOwner _ _
  · exact fileInv_release h hCommit hOwner

theorem fileInv_run (h : FileInv s) (hCommit : s.commit = none) (hOwner : s.owner = some o)
    (hRun : s.run info o = some s') : FileInv s' := by
  rcases run_cases hRun with ⟨-, rfl⟩ | ⟨-, hGoes⟩
  · have hBegun : FileInv { s with owner := some { o with phase := .committing } } :=
      h.giveUp hCommit hOwner nofun
    refine fileInv_startCommit hBegun hCommit ?_
    intro o' ho'
    cases ho'
    exact ⟨rfl, rfl⟩
  · rcases hGoes with ⟨hPhase, rfl⟩ | ⟨e, hPhase, rfl⟩ | ⟨result, hPhase, rfl⟩ |
      ⟨result, hPhase, rfl⟩
    · exact fileInv_flushCommitted h hCommit hOwner (Exclusive.flushed_of_phase hPhase trivial)
    · exact h.giveUp hCommit hOwner nofun
    · exact fileInv_flushed h hCommit hOwner hPhase
    · exact fileInv_layoutReturned h hCommit hOwner hPhase

theorem fileInv_dirtyCommitAnswered (h : FileInv s) (hCommit : s.commit = none)
    (hOwner : s.owner = some o) {snapshot : DirtyRange} (hPhase : o.phase = .dirtyCommit snapshot)
    (result : Except NfsError Unit) : FileInv (s.dirtyCommitAnswered o snapshot result) := by
  have hFlushed : o.Flushed := Exclusive.flushed_of_phase hPhase trivial
  have hGate : s.writers = 0 := h.gate (by rw [hOwner]; nofun)
  cases result with
  | error e => exact h.giveUp hCommit hOwner nofun
  | ok u =>
    obtain ⟨hPending, hActive, hDirty⟩ := acknowledgeDirty_frame s.mgr snapshot
    refine h.owner (ownerFrame_dirtyCommitAnswered s o snapshot (.ok u)) hCommit hPending hActive
      hDirty hGate (fun _ _ _ => h.settled o hOwner hFlushed) ?_
    intro o' u' ho' hPhase'
    -- the flush ends well only when the range it committed is gone
    unfold FileIo.dirtyCommitAnswered at ho' ⊢
    dsimp only at ho' ⊢
    rcases acknowledgeDirty_cases s.mgr snapshot with hAck | hAck
    · rw [hAck]
      rfl
    · rw [hAck] at ho'
      cases ho'
      cases hPhase'

theorem fileInv_returnAnswered (h : FileInv s) (hCommit : s.commit = none)
    (hOwner : s.owner = some o) (hPhase : o.phase = .returning)
    (result : Except NfsError Unit) : FileInv (s.returnAnswered o result) := by
  have hFlushed : o.Flushed := Exclusive.flushed_of_phase hPhase trivial
  have hGate : s.writers = 0 := h.gate (by rw [hOwner]; nofun)
  cases result with
  | error e => exact h.giveUp hCommit hOwner nofun
  | ok u =>
    refine h.owner (ownerFrame_returnAnswered s o (.ok u)) hCommit rfl rfl (fun _ hd => hd) hGate
      (fun _ _ _ => h.settled o hOwner hFlushed) ?_
    intro o' u' ho' hPhase'
    cases ho'
    cases hPhase'

/-- The LAYOUTRETURN of a recall is answered. -/
theorem fileInv_recallAnswered (h : FileInv s) (hCommit : s.commit = none)
    (hOwner : s.owner = some o) (dirty : Option DirtyRange) (returned : Bool) :
    FileInv (s.recallAnswered dirty returned) := by
  have hGate : s.writers = 0 := h.gate (by rw [hOwner]; nofun)
  have hFrame : (s.recallAnswered dirty returned).mgr.pendingWrites = s.mgr.pendingWrites ∧
      (s.recallAnswered dirty returned).mgr.activeGeneration = s.mgr.activeGeneration ∧
      ∀ d, (s.recallAnswered dirty returned).mgr.dirty = some d → s.mgr.dirty = some d := by
    cases dirty with
    | none => cases returned <;> exact ⟨rfl, rfl, fun _ hd => hd⟩
    | some range =>
      cases returned with
      | false => exact ⟨rfl, rfl, fun _ hd => hd⟩
      | true =>
        unfold FileIo.recallAnswered
        rcases acknowledgeDirty_cases s.mgr range with hAck | hAck
        · simp only [hAck]
          exact ⟨rfl, rfl, nofun⟩
        · simp only [hAck]
          exact ⟨rfl, rfl, fun _ hd => hd⟩
  exact h.owner (ownerFrame_recallAnswered s dirty returned) hCommit hFrame.1 hFrame.2.1
    hFrame.2.2 hGate (fun _ ho _ => nomatch ho) fun _ _ ho _ => nomatch ho

theorem fileInv_beginExclusive (h : FileInv s) (hOwner : s.owner = none)
    (hCommit : s.commit = none) (hWriters : s.writers = 0) (op : ExclusiveOp) :
    FileInv (s.beginExclusive op) := by
  have hNew : ∀ o', (s.beginExclusive op).owner = some o' → ¬ o'.Flushed := by
    intro o' ho'
    cases op with
    | refresh rejected =>
      unfold FileIo.beginExclusive at ho'
      dsimp only at ho'
      split at ho'
      · cases ho'
        nofun
      · rw [hOwner] at ho'
        cases ho'
    | _ =>
      cases ho'
      nofun
  have hMgr : (s.beginExclusive op).mgr = s.mgr := by
    cases op with
    | refresh rejected =>
      unfold FileIo.beginExclusive
      dsimp only
      split <;> rfl
    | _ => rfl
  refine h.owner (ownerFrame_beginExclusive s op) hCommit (by rw [hMgr]) (by rw [hMgr])
    (fun d hd => by rw [hMgr] at hd; exact hd) hWriters
    (fun o' ho' hFlushed => absurd hFlushed (hNew o' ho')) ?_
  intro o' u ho' hPhase
  exact absurd (Exclusive.flushed_of_phase hPhase trivial) (hNew o' ho')

/-! ## Writes, status flags, recovery -/

/-- A write that registers its receipt holds the shared gate, so no operation is exclusive. -/
theorem fileInv_register {w : PendingWrite} (h : FileInv s) (hWriters : 0 < s.writers)
    (hGen : w.generation ≤ s.session) : FileInv (s.register w) := by
  have hNone : s.owner = none := by
    cases hOwner : s.owner with
    | none => rfl
    | some o =>
      have hZero := h.gate (by rw [hOwner]; nofun)
      omega
  refine { h with
    writesLe := ?_, gate := ?_, committing := ?_, covered := ?_, taskOf := ?_, settled := ?_
    held := ?_ }
  · intro w' hw'
    rcases List.mem_append.mp hw' with hOld | hNew
    · exact h.writesLe w' hOld
    · cases List.mem_singleton.mp hNew
      exact hGen
  · exact fun hSome => absurd hNone hSome
  · intro t o _ ho
    rw [show (s.register w).owner = s.owner from rfl, hNone] at ho
    cases ho
  · intro t o _ ho
    rw [show (s.register w).owner = s.owner from rfl, hNone] at ho
    cases ho
  · intro t ht id hid
    have hOf := h.taskOf t ht id hid
    show ofGeneration (s.writes ++ [w]) t.generation id = true
    rw [ofGeneration_append (lt_of_ofGeneration hOf)]
    exact hOf
  · intro o ho
    rw [show (s.register w).owner = s.owner from rfl, hNone] at ho
    cases ho
  · intro id hid hUndone hOf
    -- the new receipt goes into the registry; the old ones keep their place
    by_cases hNew : id = s.writes.length
    · subst hNew
      exact .inl (List.mem_append_right _ List.mem_cons_self)
    · have hLt : id < s.writes.length := by
        have hBound := lt_of_undone hUndone
        have hLength : (s.register w).writes.length = s.writes.length + 1 := List.length_append
        omega
      have hReported : id ∈ s.reported := by
        unfold FileIo.register at hid
        dsimp only at hid
        split at hid
        · exact hid
        · rcases List.mem_append.mp hid with hOld | hLast
          · exact hOld
          · exact absurd (List.mem_singleton.mp hLast) hNew
      have hUndone' : undone (s.writes ++ [w]) id = true := hUndone
      have hOf' : ofGeneration (s.writes ++ [w]) s.mgr.activeGeneration id = true := hOf
      rw [undone_append hLt] at hUndone'
      rw [ofGeneration_append hLt] at hOf'
      rcases h.held id hReported hUndone' hOf' with hPending | hLost
      · exact .inl (List.mem_append_left _ hPending)
      · exact .inr hLost

theorem fileInv_cleared (h : FileInv s) : FileInv s.cleared := by
  refine { h with dirtyLe := nofun, covered := ?_, settled := ?_, clean := ?_, held := ?_ }
  · intro t o _ _ id hid
    cases hid
  · intro o _ _ id hid
    cases hid
  · intro _ _ _ _
    rfl
  · intro id hid hUndone hOf
    rcases h.held id hid hUndone hOf with hPending | hLost
    · exact .inr (List.mem_append_right _ (List.mem_filter.mpr ⟨hPending, hUndone⟩))
    · exact .inr (List.mem_append_left _ hLost)

theorem fileInv_handleSeqStatus (h : FileInv s) (flags : Nat) :
    FileInv (s.handleSeqStatus flags) := by
  unfold FileIo.handleSeqStatus
  split
  · exact fileInv_cleared h
  · exact h

/-- Behind the fence no receipt belongs to the active generation. -/
theorem FileInv.not_ofGeneration (h : FileInv s) {generation id : Nat}
    (hLt : s.session < generation) : ofGeneration s.writes generation id = false := by
  rw [Bool.eq_false_iff]
  intro hOf
  have hLe := ofGeneration_lt h.writesLe hOf
  omega

/-- The fence is ahead of every receipt, so the claims about current receipts are empty. -/
theorem fileInv_fence (h : FileInv s) :
    FileInv { s with mgr := s.mgr.fence (s.session + 1), sweeping := true } := by
  refine { h with
    sessionLe := Nat.le_succ _, activeLe := Nat.le_refl _, fenced := fun _ => Nat.lt_succ_self _
    dirtyLe := ?_, settled := h.settled, clean := ?_, held := ?_ }
  · intro d hd
    have hOld := h.dirtyLe d hd
    have hActive := h.activeLe
    show d.generation ≤ s.session + 1
    omega
  -- a range of an older generation does not count as dirty
  · intro o u ho hPhase
    have hClean := h.clean o u ho hPhase
    show s.mgr.dirty.filter _ = none
    cases hd : s.mgr.dirty with
    | none => rfl
    | some d =>
      have hOld := h.dirtyLe d hd
      have hActive := h.activeLe
      have hNe : d.generation ≠ s.mgr.activeGeneration := by
        intro hEq
        rw [LayoutManager.snapshotDirty, hd] at hClean
        simp [hEq] at hClean
      have hNext : d.generation ≠ s.session + 1 := by omega
      simp [hNext, LayoutManager.fence]
  · intro id _ _ hOf
    have hNot : ofGeneration s.writes (s.session + 1) id = false :=
      h.not_ofGeneration (Nat.lt_succ_self _)
    have hOf' : ofGeneration s.writes (s.session + 1) id = true := hOf
    rw [hNot] at hOf'
    cases hOf'

/-- The session catches up with the generation that the fence has set. -/
theorem fileInv_publish (h : FileInv s) (hSwept : s.sweeping = false)
    (hNext : s.mgr.activeGeneration = s.session + 1) :
    FileInv { s with session := s.session + 1 } := by
  refine { h with sessionLe := ?_, activeLe := ?_, fenced := ?_, writesLe := ?_ }
  · show s.session + 1 ≤ s.mgr.activeGeneration
    omega
  · show s.mgr.activeGeneration ≤ s.session + 1 + 1
    omega
  · intro hSweeping
    rw [hSwept] at hSweeping
    cases hSweeping
  · intro w hw
    have hOld := h.writesLe w hw
    show w.generation ≤ s.session + 1
    omega

theorem mergeLayout_frame (m : LayoutManager) (layout : Layout) :
    (m.mergeLayout layout).pendingWrites = m.pendingWrites ∧
      (m.mergeLayout layout).activeGeneration = m.activeGeneration ∧
      (m.mergeLayout layout).dirty = m.dirty := by
  unfold LayoutManager.mergeLayout
  split
  · exact ⟨rfl, rfl, rfl⟩
  · split <;> exact ⟨rfl, rfl, rfl⟩

theorem fileInv_layoutGranted (h : FileInv s) (layout : Layout) :
    FileInv { s with mgr := s.mgr.mergeLayout layout } := by
  obtain ⟨hPending, hActive, hDirty⟩ := mergeLayout_frame s.mgr layout
  refine h.setMgr hPending hActive (fun d hd => h.dirtyLe d (hDirty ▸ hd)) ?_
  intro o u ho hPhase
  have hClean := h.clean o u ho hPhase
  unfold LayoutManager.snapshotDirty at hClean ⊢
  rw [hDirty, hActive]
  exact hClean

theorem fileInv_admitWrite (h : FileInv s) (hOwner : s.owner = none) :
    FileInv { s with writers := s.writers + 1 } :=
  { h with gate := fun hSome => absurd hOwner hSome }

theorem fileInv_endWrite (h : FileInv s) : FileInv { s with writers := s.writers - 1 } := by
  refine { h with gate := ?_ }
  intro hSome
  have hZero := h.gate hSome
  show s.writers - 1 = 0
  omega

/-- **Every move keeps the invariant.** -/
theorem fileInv_step {ev : FileEvent} (h : FileInv s)
    (hstep : (fileMachine info).step s ev = some s') : FileInv s' := by
  cases fileMove_of_step hstep with
  | layoutGranted layout hGen => exact fileInv_layoutGranted h layout
  | admitWrite hOwner => exact fileInv_admitWrite h hOwner
  | endWrite => exact fileInv_endWrite h
  | register w hWriters hDone hGen => exact fileInv_register h hWriters hGen
  | beginCommit ids hOwner hCommit =>
    refine fileInv_startCommit h hCommit ?_
    intro o ho
    rw [hOwner] at ho
    cases ho
  | beginExclusive op hOwner hCommit hWriters =>
    exact fileInv_beginExclusive h hOwner hCommit hWriters op
  | cancel => exact h.markFailed _ none nofun
  | seqStatus flags => exact fileInv_handleSeqStatus h flags
  | fence => exact fileInv_fence h
  | sweep hSweeping => exact { fileInv_cleared h with fenced := nofun }
  | publish hSwept hNext => exact fileInv_publish h hSwept hNext
  | commitAnswered answers t hCommit hPhase => exact fileInv_commitAnswered h hCommit answers
  | rewriteStore start length t finished fresh id w r replies rest hCommit hPhase hLen =>
    exact { h with }
  | rewriteAnswered result t finished fresh id w r replies rest hCommit hPhase =>
    exact fileInv_rewriteAnswered h hCommit _ _ _ _ _ _ result
  | rewriteNext t finished fresh todo s' hCommit hPhase hNext =>
    exact fileInv_rewriteNext h hCommit hNext
  | commitMarked t hCommit hPhase => exact fileInv_commitMarked h hCommit
  | layoutCommitAnswered result t snapshot hCommit hPhase hNames =>
    exact fileInv_layoutCommitAnswered h hCommit snapshot result
  | run o s' hCommit hOwner hRun => exact fileInv_run h hCommit hOwner hRun
  | dirtyCommitAnswered result o snapshot hCommit hOwner hPhase =>
    exact fileInv_dirtyCommitAnswered h hCommit hOwner hPhase result
  | returnAnswered result o hCommit hOwner hPhase =>
    exact fileInv_returnAnswered h hCommit hOwner hPhase result
  | recallAnswered returned o dirty hCommit hOwner hPhase =>
    exact fileInv_recallAnswered h hCommit hOwner dirty returned
  | closeAnswered result o hCommit hOwner hPhase =>
    exact fileInv_closeReturns h hCommit hOwner _

end moves

theorem fileInv_reachable {info : MountInfo} {ok : FileIo → FileEvent → Prop} {s : FileIo}
    (h : (fileMachine info).ReachableIf ok s) : FileInv s :=
  h.invariant fileInv_initial fun _ _ _ _ _ hstep hInv => fileInv_step hInv hstep

end NfsRs.Nfs41
