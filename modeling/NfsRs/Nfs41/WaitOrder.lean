import Mathlib.Data.List.Count
import Mathlib.Order.Nat
import NfsRs.Lib.ScopedLocks

/-!
# NfsRs — what the operations of an NFSv4.1 mount wait for

The operations of a `Mount41` as programs with scoped locks: the barriers of `WriteOwner`, the
I/O gates and commit gates of the files, the singleflight gates of layouts, devices and data
servers, the recovery lock, and the slots of the sessions. Guards are held to the end of their
scope in the source; where a guard is dropped before something is awaited (the I/O gate before a
layout refresh, the slot before the recovery lock), the block ends there.

COPY and CLONE take the barriers and the I/O gates of two files in the order of their handles.
A future that an operation awaits together with others is a party of its own, with the locks of
the operation around it. The reading and the writing side of a gate are one lock, whose queue is
in the order of arrival, so that a queued writer is before the readers behind it.
-/

namespace NfsRs.Nfs41.WaitOrder

open NfsRs.Lib

variable {H : Type*}

inductive MountLock (H : Type*) where
  | barrier (fh : H)
  | io (fh : H)
  | commit (fh : H)
  | layoutFetch (generation : Nat) (fh : H)
  | deviceFetch (generation device : Nat)
  | dsInit (generation address : Nat)
  | recovery
  | slot (session : Nat)
  | dsSlot (address : Nat)

/-- What an operation meets on its way: the sessions that it tries one after another, the layout
generation, and the devices and data servers of its layout. -/
structure Way where
  sessions : List Nat
  generation : Nat
  devices : List Nat
  addresses : List Nat

def hold (l : MountLock H) (body : Scoped (MountLock H)) : Scoped (MountLock H) :=
  .hold l .exclusive body

def sequence : List (Scoped (MountLock H)) → Scoped (MountLock H)
  | [] => .skip
  | p :: ps => .seq p (sequence ps)

/-! ## The parts -/

/-- `compound`: a slot for each attempt. The slot is dropped before the recovery lock is taken,
and a new session is established, with a slot of its own, under that lock. -/
def compound : List Nat → Scoped (MountLock H)
  | [] => .skip
  | s :: rest => .seq (hold (.slot s) .skip)
      (.seq (.choice .skip (hold .recovery (hold (.slot (s + 1)) .skip))) (compound rest))

variable (w : Way)

/-- `get_data_server` and `compound_ds`. -/
def dsCall (address : Nat) : Scoped (MountLock H) :=
  .seq (.choice .skip (hold (.dsInit w.generation address) (hold (.dsSlot address) .skip)))
    (hold (.dsSlot address) .skip)

def dsCalls : Scoped (MountLock H) := sequence (w.addresses.map (dsCall w))

/-- `get_or_fetch_device`. -/
def fetchDevice (device : Nat) : Scoped (MountLock H) :=
  .choice .skip (hold (.deviceFetch w.generation device) (.loop (compound w.sessions)))

def fetchDevices : Scoped (MountLock H) := sequence (w.devices.map (fetchDevice w))

/-- `get_or_fetch_layout`, which fetches the devices under its gate. -/
def getOrFetchLayout (fh : H) : Scoped (MountLock H) :=
  .choice .skip (hold (.layoutFetch w.generation fh) (.seq (compound w.sessions) (fetchDevices w)))

/-- `commit_pending_writes`, with the writes that a changed verifier makes it repeat. -/
def commitPendingWrites (fh : H) : Scoped (MountLock H) :=
  hold (.commit fh) (.loop (.seq (compound w.sessions) (dsCalls w)))

def flushLayoutcommit (fh : H) : Scoped (MountLock H) :=
  .seq (commitPendingWrites w fh) (compound w.sessions)

def layoutreturnFile (fh : H) : Scoped (MountLock H) :=
  .seq (flushLayoutcommit w fh) (compound w.sessions)

def refreshRejectedLayout (fh : H) : Scoped (MountLock H) :=
  hold (.io fh) (flushLayoutcommit w fh)

/-- A transfer by the layout, under the reading side of the I/O gate. -/
def transfer (fh : H) : Scoped (MountLock H) :=
  .hold (.io fh) .shared (.seq (getOrFetchLayout w fh) (.seq (fetchDevices w)
    (.seq (dsCalls w) (compound w.sessions))))

/-- `pnfs_read` and `write_pnfs`: the gate is dropped before the refresh. -/
def withRefresh (fh : H) : Scoped (MountLock H) :=
  .loop (.seq (transfer w fh) (.choice .skip (refreshRejectedLayout w fh)))

/-- `commit_write_batch_inner`, under the reading side of the I/O gate. -/
def commitWriteBatchInner (fh : H) : Scoped (MountLock H) :=
  .hold (.io fh) .shared (.seq (compound w.sessions) (commitPendingWrites w fh))

/-- `WriteOwner::admit`: the guard is dropped while it waits for abandoned writes. -/
def admitWrite (fh : H) (body : Scoped (MountLock H)) : Scoped (MountLock H) :=
  .seq (.loop (.seq (.hold (.barrier fh) .shared .skip) (hold (.barrier fh) .skip)))
    (.hold (.barrier fh) .shared body)

/-- The I/O gates of COPY and CLONE, with the return of each layout behind its gate. -/
def returnEach (body : Scoped (MountLock H)) : List H → Scoped (MountLock H)
  | [] => body
  | fh :: rest => hold (.io fh) (.seq (layoutreturnFile w fh) (returnEach body rest))

/-- The barriers of `run_owned`. -/
def barriers (body : Scoped (MountLock H)) : List H → Scoped (MountLock H)
  | [] => body
  | fh :: rest => hold (.barrier fh) (barriers body rest)

/-! ## The operations -/

/-- `sort` and `dedup` of two handles. -/
def sortedPair [LinearOrder H] (a b : H) : List H :=
  if a = b then [a] else if a < b then [a, b] else [b, a]

inductive MountOp (H : Type*) where
  | read (fh : H)
  | write (fh : H)
  /-- `commit` and `commit_with_verifier`. -/
  | commit (fh : H)
  | commitWriteBatch (fh : H)
  | truncate (fh : H)
  | close (fh : H)
  /-- ALLOCATE and DEALLOCATE return the layout, SEEK and READ_PLUS flush it. -/
  | exclusive (fh : H)
  | copy (source destination : H)
  | handleRecalls (fhs : List H)
  | returnAll (fhs : List H)
  /-- Operations that only send a COMPOUND, and the recovery behind it. -/
  | metadata

def MountOp.handles : MountOp H → List H
  | .read fh | .write fh | .commit fh | .commitWriteBatch fh | .truncate fh | .close fh
  | .exclusive fh => [fh]
  | .copy source destination => [source, destination]
  | .handleRecalls fhs | .returnAll fhs => fhs
  | .metadata => []

def MountOp.program [LinearOrder H] (w : Way) : MountOp H → Scoped (MountLock H)
  | .read fh => .seq (withRefresh w fh) (compound w.sessions)
  -- the task of a WRITE that nobody waits for any more commits it before the barrier is left
  | .write fh => admitWrite fh (.seq (withRefresh w fh)
      (.seq (.hold (.io fh) .shared (compound w.sessions))
        (.choice .skip (commitWriteBatchInner w fh))))
  | .commit fh => hold (.barrier fh) (compound w.sessions)
  | .commitWriteBatch fh => hold (.barrier fh) (commitWriteBatchInner w fh)
  | .truncate fh => hold (.io fh) (.seq (flushLayoutcommit w fh) (compound w.sessions))
  | .close fh => hold (.barrier fh) (hold (.io fh) (.seq (flushLayoutcommit w fh)
      (.seq (.choice .skip (layoutreturnFile w fh)) (compound w.sessions))))
  | .exclusive fh => hold (.barrier fh) (hold (.io fh)
      (.seq (.choice (layoutreturnFile w fh) (flushLayoutcommit w fh)) (compound w.sessions)))
  | .copy source destination =>
      barriers (returnEach w (compound w.sessions) (sortedPair source destination))
        (sortedPair source destination)
  | .handleRecalls fhs => sequence (fhs.map fun fh => hold (.io fh) (compound w.sessions))
  | .returnAll fhs => sequence (fhs.map fun fh => hold (.io fh) (layoutreturnFile w fh))
  | .metadata => compound w.sessions

/-! ## The order -/

section Order

variable [LinearOrder H]

/-- The place of a handle among those of a configuration. -/
def rank (hs : List H) (fh : H) : Nat := (hs.filter fun h => h < fh).length

theorem rank_le (hs : List H) (fh : H) : rank hs fh ≤ hs.length := List.length_filter_le _ _

theorem rank_lt {hs : List H} {a b : H} (ha : a ∈ hs) (hLt : a < b) : rank hs a < rank hs b := by
  have hBelow : (hs.filter fun h => h < a) = (hs.filter fun h => h < b).filter fun h => h < a := by
    rw [List.filter_filter]
    refine List.filter_congr fun h _ => ?_
    by_cases hh : h < a
    · simp [hh, lt_trans hh hLt]
    · simp [hh]
  -- of the handles below `b`, the one at `a` is not below `a`
  have hMem : a ∈ hs.filter fun h => h < b := List.mem_filter.mpr ⟨ha, by simpa using hLt⟩
  have hCount : (hs.filter fun h => h < b).countP (fun h => h < a) <
      (hs.filter fun h => h < b).length :=
    List.countP_lt_length_iff.mpr ⟨a, hMem, by simp⟩
  rw [List.countP_eq_length_filter, ← hBelow] at hCount
  exact hCount

/-- Barriers by handle, then I/O gates by handle, then the others. -/
def MountLock.level (hs : List H) : MountLock H → Nat
  | .barrier fh => 1 + rank hs fh
  | .io fh => hs.length + 2 + rank hs fh
  | .commit _ => 2 * hs.length + 3
  | .layoutFetch _ _ => 2 * hs.length + 4
  | .deviceFetch _ _ => 2 * hs.length + 5
  | .dsInit _ _ => 2 * hs.length + 6
  | .recovery => 2 * hs.length + 7
  | .slot _ | .dsSlot _ => 2 * hs.length + 8

variable {hs : List H} {floor : Nat} {w : Way}

theorem increasing_sequence {ps : List (Scoped (MountLock H))}
    (h : ∀ p ∈ ps, p.Increasing (MountLock.level hs) floor) :
    (sequence ps).Increasing (MountLock.level hs) floor := by
  induction ps with
  | nil => trivial
  | cons p ps ih =>
      exact ⟨h p List.mem_cons_self, ih fun q hq => h q (List.mem_cons_of_mem _ hq)⟩

theorem increasing_compound (sessions : List Nat) (h : floor < 2 * hs.length + 7) :
    (compound sessions).Increasing (MountLock.level hs) floor := by
  induction sessions with
  | nil => trivial
  | cons s rest ih =>
      have hSlot : floor < (MountLock.slot s : MountLock H).level hs := by
        simp only [MountLock.level]
        omega
      have hInside : (MountLock.recovery : MountLock H).level hs <
          (MountLock.slot (s + 1) : MountLock H).level hs := by
        simp only [MountLock.level]
        omega
      exact ⟨⟨hSlot, trivial⟩, ⟨trivial, h, hInside, trivial⟩, ih⟩

theorem increasing_dsCalls (h : floor < 2 * hs.length + 6) :
    (dsCalls w).Increasing (MountLock.level hs) floor := by
  refine increasing_sequence fun p hp => ?_
  obtain ⟨address, -, rfl⟩ := List.mem_map.mp hp
  have hSlot : floor < (MountLock.dsSlot address : MountLock H).level hs := by
    simp only [MountLock.level]
    omega
  have hInside : (MountLock.dsInit w.generation address : MountLock H).level hs <
      (MountLock.dsSlot address : MountLock H).level hs := by
    simp only [MountLock.level]
    omega
  exact ⟨⟨trivial, h, hInside, trivial⟩, hSlot, trivial⟩

theorem increasing_fetchDevices (h : floor < 2 * hs.length + 5) :
    (fetchDevices w).Increasing (MountLock.level hs) floor := by
  refine increasing_sequence fun p hp => ?_
  obtain ⟨device, -, rfl⟩ := List.mem_map.mp hp
  refine ⟨trivial, h, increasing_compound w.sessions ?_⟩
  simp only [MountLock.level]
  omega

theorem increasing_getOrFetchLayout (fh : H) (h : floor < 2 * hs.length + 4) :
    (getOrFetchLayout w fh).Increasing (MountLock.level hs) floor := by
  refine ⟨trivial, h, increasing_compound w.sessions ?_, increasing_fetchDevices ?_⟩
  · simp only [MountLock.level]
    omega
  · simp only [MountLock.level]
    omega

theorem increasing_commitPendingWrites (fh : H) (h : floor < 2 * hs.length + 3) :
    (commitPendingWrites w fh).Increasing (MountLock.level hs) floor := by
  refine ⟨h, increasing_compound w.sessions ?_, increasing_dsCalls ?_⟩
  · simp only [MountLock.level]
    omega
  · simp only [MountLock.level]
    omega

theorem increasing_flushLayoutcommit (fh : H) (h : floor < 2 * hs.length + 3) :
    (flushLayoutcommit w fh).Increasing (MountLock.level hs) floor :=
  ⟨increasing_commitPendingWrites fh h, increasing_compound w.sessions (by omega)⟩

theorem increasing_layoutreturnFile (fh : H) (h : floor < 2 * hs.length + 3) :
    (layoutreturnFile w fh).Increasing (MountLock.level hs) floor :=
  ⟨increasing_flushLayoutcommit fh h, increasing_compound w.sessions (by omega)⟩

/-- Every I/O gate is above every barrier and below every commit gate. -/
theorem level_io (hs : List H) (fh : H) : hs.length + 1 < (MountLock.io fh).level hs ∧
    (MountLock.io fh).level hs < 2 * hs.length + 3 := by
  have hRank := rank_le hs fh
  simp only [MountLock.level]
  omega

theorem level_barrier (hs : List H) (fh : H) : 0 < (MountLock.barrier fh).level hs ∧
    (MountLock.barrier fh).level hs ≤ hs.length + 1 := by
  have hRank := rank_le hs fh
  simp only [MountLock.level]
  omega

variable {body : Scoped (MountLock H)}

/-- A block of an I/O gate, above the barriers. -/
theorem increasing_io {m : LockMode} {fh : H} (hFloor : floor ≤ hs.length + 1)
    (hBody : body.Increasing (MountLock.level hs) (2 * hs.length + 2)) :
    (Scoped.hold (.io fh) m body).Increasing (MountLock.level hs) floor := by
  obtain ⟨hLow, hHigh⟩ := level_io hs fh
  exact ⟨by omega, hBody.mono (by omega)⟩

theorem increasing_barrier {m : LockMode} {fh : H}
    (hBody : body.Increasing (MountLock.level hs) (hs.length + 1)) :
    (Scoped.hold (.barrier fh) m body).Increasing (MountLock.level hs) 0 := by
  obtain ⟨hLow, hHigh⟩ := level_barrier hs fh
  exact ⟨hLow, hBody.mono hHigh⟩

theorem increasing_withRefresh (fh : H) (hFloor : floor ≤ hs.length + 1) :
    (withRefresh w fh).Increasing (MountLock.level hs) floor := by
  refine ⟨increasing_io hFloor ?_, trivial, increasing_io hFloor ?_⟩
  · exact ⟨increasing_getOrFetchLayout fh (by omega), increasing_fetchDevices (by omega),
      increasing_dsCalls (by omega), increasing_compound w.sessions (by omega)⟩
  · exact increasing_flushLayoutcommit fh (by omega)

theorem increasing_commitWriteBatchInner (fh : H) :
    (commitWriteBatchInner w fh).Increasing (MountLock.level hs) (hs.length + 1) :=
  increasing_io (Nat.le_refl _) ⟨increasing_compound w.sessions (by omega),
    increasing_commitPendingWrites fh (by omega)⟩

theorem sortedPair_sorted (a b : H) : (sortedPair a b).Pairwise (· < ·) := by
  unfold sortedPair
  split
  next => exact List.pairwise_singleton _ _
  next hNe =>
    split
    next hLt => exact List.pairwise_pair.mpr hLt
    next hNot => exact List.pairwise_pair.mpr (lt_of_le_of_ne (not_lt.mp hNot) (Ne.symm hNe))

theorem mem_sortedPair {a b h : H} (hMem : h ∈ sortedPair a b) : h = a ∨ h = b := by
  unfold sortedPair at hMem
  split at hMem
  next => exact .inl (List.mem_singleton.mp hMem)
  next =>
    split at hMem
    next => simpa using hMem
    next => simpa [or_comm] using hMem

/-- The I/O gates of handles in order, above a floor below all of them. -/
theorem increasing_returnEach {fhs : List H} (hSorted : fhs.Pairwise (· < ·))
    (hMem : ∀ fh ∈ fhs, fh ∈ hs) (hFloor : ∀ fh ∈ fhs, floor < (MountLock.io fh).level hs)
    (hLow : floor < 2 * hs.length + 3)
    (hBody : body.Increasing (MountLock.level hs) (2 * hs.length + 2)) :
    (returnEach w body fhs).Increasing (MountLock.level hs) floor := by
  induction fhs generalizing floor with
  | nil => exact hBody.mono (by omega)
  | cons fh rest ih =>
      obtain ⟨hFirst, hRest⟩ := List.pairwise_cons.mp hSorted
      have hHigh := (level_io hs fh).2
      refine ⟨hFloor fh List.mem_cons_self, increasing_layoutreturnFile fh hHigh, ?_⟩
      refine ih hRest (fun g hg => hMem g (List.mem_cons_of_mem _ hg)) (fun g hg => ?_) hHigh
      have hRank := rank_lt (hMem fh List.mem_cons_self) (hFirst g hg)
      simp only [MountLock.level]
      omega

/-- The barriers of handles in order, around a body above all barriers. -/
theorem increasing_barriers {fhs : List H} (hSorted : fhs.Pairwise (· < ·))
    (hMem : ∀ fh ∈ fhs, fh ∈ hs) (hFloor : ∀ fh ∈ fhs, floor < (MountLock.barrier fh).level hs)
    (hLow : floor ≤ hs.length + 1) (hBody : body.Increasing (MountLock.level hs) (hs.length + 1)) :
    (barriers body fhs).Increasing (MountLock.level hs) floor := by
  induction fhs generalizing floor with
  | nil => exact hBody.mono hLow
  | cons fh rest ih =>
      obtain ⟨hFirst, hRest⟩ := List.pairwise_cons.mp hSorted
      refine ⟨hFloor fh List.mem_cons_self, ?_⟩
      refine ih hRest (fun g hg => hMem g (List.mem_cons_of_mem _ hg)) (fun g hg => ?_)
        (level_barrier hs fh).2
      have hRank := rank_lt (hMem fh List.mem_cons_self) (hFirst g hg)
      simp only [MountLock.level]
      omega

/-- Every operation takes its locks in the order of the levels. -/
theorem MountOp.increasing (op : MountOp H) (hHandles : ∀ fh ∈ op.handles, fh ∈ hs) :
    (op.program w).Increasing (MountLock.level hs) 0 := by
  have hCompound : ∀ {floor : Nat}, floor < 2 * hs.length + 7 →
      (compound w.sessions).Increasing (MountLock.level hs) floor :=
    increasing_compound w.sessions
  cases op with
  | read fh => exact ⟨increasing_withRefresh fh (Nat.zero_le _), hCompound (by omega)⟩
  -- the refresh, the WRITE under the shared gate, and the commit of an abandoned WRITE
  | write fh =>
      refine ⟨⟨increasing_barrier trivial, increasing_barrier trivial⟩, increasing_barrier ?_⟩
      exact ⟨increasing_withRefresh fh (Nat.le_refl _),
        increasing_io (Nat.le_refl _) (hCompound (by omega)), trivial,
        increasing_commitWriteBatchInner fh⟩
  | commit fh =>
      exact increasing_barrier (hCompound (by omega))
  | commitWriteBatch fh => exact increasing_barrier (increasing_commitWriteBatchInner fh)
  | truncate fh =>
      refine increasing_io (Nat.zero_le _) ?_
      exact ⟨increasing_flushLayoutcommit fh (by omega), hCompound (by omega)⟩
  | close fh =>
      refine increasing_barrier (increasing_io (Nat.le_refl _) ?_)
      exact ⟨increasing_flushLayoutcommit fh (by omega),
        ⟨trivial, increasing_layoutreturnFile fh (by omega)⟩, hCompound (by omega)⟩
  | exclusive fh =>
      refine increasing_barrier (increasing_io (Nat.le_refl _) ?_)
      exact ⟨⟨increasing_layoutreturnFile fh (by omega),
        increasing_flushLayoutcommit fh (by omega)⟩, hCompound (by omega)⟩
  -- two files: the barriers, and then the I/O gates, in the order of the handles
  | copy source destination =>
      have hMem : ∀ fh ∈ sortedPair source destination, fh ∈ hs := by
        intro fh hfh
        rcases mem_sortedPair hfh with rfl | rfl
        · exact hHandles _ List.mem_cons_self
        · exact hHandles _ (List.mem_cons_of_mem _ List.mem_cons_self)
      have hSorted := sortedPair_sorted source destination
      refine increasing_barriers hSorted hMem (fun fh _ => (level_barrier hs fh).1)
        (Nat.zero_le _) ?_
      exact increasing_returnEach hSorted hMem (fun fh _ => (level_io hs fh).1) (by omega)
        (hCompound (by omega))
  | handleRecalls fhs =>
      refine increasing_sequence fun p hp => ?_
      obtain ⟨fh, -, rfl⟩ := List.mem_map.mp hp
      exact increasing_io (Nat.zero_le _) (hCompound (by omega))
  | returnAll fhs =>
      refine increasing_sequence fun p hp => ?_
      obtain ⟨fh, -, rfl⟩ := List.mem_map.mp hp
      exact increasing_io (Nat.zero_le _) (increasing_layoutreturnFile fh (by omega))
  | metadata => exact hCompound (by omega)

end Order

/-! ## No wait cycle -/

/-- An operation under way: what it meets, and where it is. -/
structure Running (H : Type*) where
  op : MountOp H
  way : Way
  party : Party (LockPoint (MountLock H))

/-- Every operation is at a point of its program. -/
def Configuration [LinearOrder H] (running : List (Running H)) : Prop :=
  ∀ r ∈ running, r.party.point ∈ (r.op.program r.way).points

/-- **No wait cycle.** Operations at any points of their programs, in any number and on any
files, with their tickets in any order, do not wait for each other in a cycle. -/
theorem no_wait_cycle [LinearOrder H] (running : List (Running H)) (h : Configuration running)
    (i : Nat) :
    ¬ Relation.TransGen (WaitsFor (pointUse (MountLock H)) (running.map Running.party)) i i := by
  -- the levels go by the handles of the operations under way
  let hs := running.flatMap fun r => r.op.handles
  refine Scoped.acyclic_of_increasing (MountLock.level hs) (fun P hP => ?_) i
  obtain ⟨r, hr, rfl⟩ := List.mem_map.mp hP
  refine ⟨r.op.program r.way, r.op.increasing fun fh hfh => ?_, h r hr⟩
  exact List.mem_flatMap.mpr ⟨r, hr, hfh⟩

/-- Two reciprocal copies: one holds the barrier of file 1 and waits for that of file 2, the
other waits for the barrier of file 1. -/
def reciprocalCopies : List (Running Nat) :=
  [⟨.copy 1 2, ⟨[1], 1, [], []⟩, ⟨([(.barrier 1, .exclusive)], some (.barrier 2, .exclusive)),
      some 0⟩⟩,
    ⟨.copy 2 1, ⟨[1], 1, [], []⟩, ⟨([], some (.barrier 1, .exclusive)), some 1⟩⟩]

theorem no_wait_cycle_reciprocalCopies :
    ¬ Relation.TransGen (WaitsFor (pointUse (MountLock Nat))
      (reciprocalCopies.map Running.party)) 0 0 := by
  refine no_wait_cycle reciprocalCopies (fun r hr => ?_) 0
  simp only [reciprocalCopies, List.mem_cons, List.not_mem_nil, or_false] at hr
  rcases hr with rfl | rfl
  · exact List.mem_cons_of_mem _ List.mem_cons_self
  · exact List.mem_cons_self

end NfsRs.Nfs41.WaitOrder
