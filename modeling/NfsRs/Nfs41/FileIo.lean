import NfsRs.Lib.Machine
import NfsRs.Nfs41.Layout

/-!
# NfsRs — the pNFS life of one file

Every operation that touches the receipts, the dirty range or the layout of one file, as one
labelled machine: pNFS writes that register a receipt, `commit_pending_writes` with its
rewrite after a verifier change, `flush_layoutcommit`, `layoutreturn_file`, `close_file_inner`,
`refresh_rejected_layout`, the teardown's `layoutreturn_all`, the layout recalls, the SEQUENCE
status flags, and the session recovery that moves the manager to the next generation.

Locks decide what can interleave. The file I/O gate is shared by writes and ordinary commits
and exclusive for everything that ends a layout (`owner`); the commit gate admits one
`commit_pending_writes` at a time (`commit`). Status flags and recovery take neither. A label
is one stretch of code between two awaits, with what the environment answers at its start;
`run` and `commitRun` go on where nothing is awaited from a server.

What the machine records besides the program's own state: the data a rewrite stores
(`stores`), each LAYOUTRETURN sent (`returns`), what `close` and `commit_pending_writes`
returned (`closes`, `commits`), the writes reported as successful (`reported`), the receipts
whose commit marked the dirty range (`marked`), and everything dropped by `LayoutManager::clear`
and by the cleanup of `transition_to`: receipts that are not committed (`lost`), and dirty ranges,
each by its receipts (`lostDirty`).
-/

namespace NfsRs.Nfs41

/-- The mount's part in the errors built here. -/
structure MountInfo where
  protocol : NFSVersion
  /-- Session id by generation. -/
  sessionId : Nat → Nat

/-! ## Program points -/

/-- Where `commit_pending_writes` stands. -/
inductive CommitPhase where
  /-- The COMMITs of the plan are out. -/
  | committing
  /-- Replies are written again in order: `finished` entries have their new replies, `fresh`
  are those of the head of `todo`, whose remaining replies are still the old ones. -/
  | rewriting (finished : List BatchEntry) (fresh : List DsWriteReply) (todo : List BatchEntry)
  /-- The range is marked dirty, LAYOUTCOMMIT comes next. -/
  | marked
  /-- LAYOUTCOMMIT of the snapshot is out. -/
  | layoutCommit (snapshot : DirtyRange)

structure CommitTask where
  /-- The receipts to settle: those not done when the commit gate was taken. -/
  ids : List Nat
  attempt : Nat
  generation : Nat
  batch : List BatchEntry
  phase : CommitPhase

/-- The operations under the exclusive file gate. -/
inductive ExclusiveOp where
  /-- `close_file_inner`. -/
  | close (terminal : Bool)
  /-- One file of `layoutreturn_all`. -/
  | layoutReturnAll
  /-- A flush before the file is truncated, sought or read by extent. -/
  | flush
  | refresh (rejected : Layout)
  /-- CB_LAYOUTRECALL of the file, or of all files. -/
  | layoutRecall
  deriving DecidableEq

inductive ExclusivePhase where
  /-- `flush_layoutcommit` comes next. -/
  | flush
  /-- Inside `commit_pending_writes`. -/
  | committing
  | committed (result : Except NfsError Unit)
  /-- The flush's own LAYOUTCOMMIT is out. -/
  | dirtyCommit (snapshot : DirtyRange)
  | flushed (result : Except NfsError Unit)
  /-- LAYOUTRETURN is out. -/
  | returning
  | returned (result : Except NfsError Unit)
  /-- The last reference is given up, CLOSE is out. -/
  | closing
  /-- The recall's COMPOUND is out, with LAYOUTCOMMIT of the range ahead of LAYOUTRETURN. -/
  | recalling (dirty : Option DirtyRange)

structure Exclusive where
  op : ExclusiveOp
  /-- The flush belongs to `layoutreturn_file`. -/
  inReturn : Bool
  failure : Option NfsError
  phase : ExclusivePhase

/-! ## State -/

/-- Bytes that a rewrite stored on a data server, and how many receipts existed then. -/
structure Store where
  id : Nat
  dsAddr : SocketAddr
  dsFh : FileHandle
  start : Nat
  length : Nat
  seen : Nat
  deriving DecidableEq, Repr

def Store.Covers (st : Store) (l : Location) : Prop :=
  st.dsAddr = l.dsAddr ∧ st.dsFh = l.dsFh ∧ st.start ≤ l.position ∧
    l.position < st.start + st.length

/-- A LAYOUTRETURN as it is sent: the registered receipts not committed, the dirty range, and
the range of a LAYOUTCOMMIT ahead of it in the same COMPOUND. -/
structure LayoutReturn where
  uncommitted : List Nat
  dirty : Option DirtyRange
  ahead : Option DirtyRange
  deriving DecidableEq, Repr

/-- What `close` returned: whether it is `Ok`, and the writes reported as successful in the
generation of that moment that are not committed. -/
structure CloseReturn where
  ok : Bool
  uncommitted : List Nat
  deriving DecidableEq, Repr

/-- What `commit_pending_writes` returned: whether it is `Ok`, whether one of its receipts belongs
to another generation than the active one, and whether one had been dropped. -/
structure CommitReturn where
  ok : Bool
  outdated : Bool
  lost : Bool
  deriving DecidableEq, Repr

structure FileIo where
  mgr : LayoutManager
  /-- Generation of the published session. -/
  session : Nat
  /-- A recovery has published the fence and not yet emptied the caches. -/
  sweeping : Bool
  /-- Every receipt ever registered, in order. -/
  writes : List PendingWrite
  /-- pNFS writes under way, each with the shared file gate. -/
  writers : Nat
  commit : Option CommitTask
  owner : Option Exclusive
  reported : List Nat
  stores : List Store
  returns : List LayoutReturn
  closes : List CloseReturn
  commits : List CommitReturn
  marked : List Nat
  lost : List Nat
  lostDirty : List (List Nat)

/-- A mounted file system with the file untouched; the first session has generation 1. -/
def FileIo.initial : FileIo where
  mgr := { activeGeneration := 1, layout := none, dirty := none, pendingWrites := [] }
  session := 1
  sweeping := false
  writes := []
  writers := 0
  commit := none
  owner := none
  reported := []
  stores := []
  returns := []
  closes := []
  commits := []
  marked := []
  lost := []
  lostDirty := []

namespace FileIo

def isDone (writes : List PendingWrite) (id : Nat) : Bool := writes[id]?.any (·.done)

/-- The receipt exists and is not committed. -/
def undone (writes : List PendingWrite) (id : Nat) : Bool := writes[id]?.any fun w => !w.done

def ofGeneration (writes : List PendingWrite) (generation id : Nat) : Bool :=
  writes[id]?.any fun w => w.generation == generation

def markDone (ids : List Nat) (writes : List PendingWrite) : List PendingWrite :=
  writes.mapIdx fun i w => if i ∈ ids then { w with done := true } else w

/-- `PendingCommitGuard`: a commit that ends unsettled leaves its receipts failed. -/
def markFailed (ids : List Nat) (writes : List PendingWrite) : List PendingWrite :=
  writes.mapIdx fun i w => if i ∈ ids ∧ !w.done then { w with failed := true } else w

def entriesOf (writes : List PendingWrite) (ids : List Nat) : List BatchEntry :=
  ids.filterMap fun id => writes[id]?.map fun w => { id := id, write := w, replies := w.replies }

variable (info : MountInfo) (s : FileIo)

/-! ## `commit_pending_writes` -/

def uncertainAfterDsWrite (source : NfsError) : NfsError :=
  uncertainPnfsWrite
    { operation := "pnfs_write"
      protocol := info.protocol
      requestId := some (.nfs41Session (info.sessionId s.session) 0 0) } source

/-- The call returns. An `Ok` marks the receipts done and prunes the registry, an error marks
them failed; a flush goes on with the result. -/
def commitReturns (pending : List Nat) (result : Except NfsError Unit) : FileIo :=
  let writes := match result with
    | .ok _ => markDone pending s.writes
    | .error _ => markFailed pending s.writes
  let mgr := match result with
    | .ok _ => s.mgr.pruneCompletedWrites (isDone writes)
    | .error _ => s.mgr
  { s with
    writes := writes
    mgr := mgr
    commit := none
    owner := s.owner.map fun o => { o with phase := .committed result }
    commits := s.commits ++ [{
      ok := result.isOk
      outdated := pending.any fun id => !ofGeneration s.writes s.mgr.activeGeneration id
      lost := pending.any (· ∈ s.lost) }] }

/-- The commit gate is taken: receipts of another generation are refused. -/
def startCommit (ids : List Nat) : FileIo :=
  let pending := ids.filter (undone s.writes)
  if pending = [] then
    { s with owner := s.owner.map fun o => { o with phase := .committed (.ok ()) } }
  else if pending.all (ofGeneration s.writes s.mgr.activeGeneration) then
    { s with commit := some {
        ids := pending
        attempt := 0
        generation := s.mgr.activeGeneration
        batch := entriesOf s.writes pending
        phase := .committing } }
  else
    s.commitReturns pending
      (.error (s.uncertainAfterDsWrite info (.rpc "pNFS commit crossed layout generation")))

/-- All data and metadata are committed. -/
def commitSucceeded (t : CommitTask) : FileIo :=
  if t.generation ≠ s.mgr.activeGeneration then
    s.commitReturns t.ids
      (.error (s.uncertainAfterDsWrite info (.rpc "pNFS generation changed during commit")))
  else s.commitReturns t.ids (.ok ())

/-- A verifier change is answered by a rewrite, twice at most. -/
def commitFailed (t : CommitTask) (e : NfsError) : FileIo :=
  if t.attempt < 2 ∧ changesVerifier e then
    { s with commit := some { t with phase := .rewriting [] [] t.batch } }
  else s.commitReturns t.ids (.error (s.uncertainAfterDsWrite info e))

/-- The COMMITs are answered. -/
def commitAnswered (t : CommitTask) (answers : CommitAnswers) : FileIo :=
  match executeCommits info.protocol (planCommitBatch t.batch) answers with
  | .error e => s.commitFailed info t e
  | .ok _ =>
      match (planCommitBatch t.batch).layout with
      | none => s.commitSucceeded info t
      | some (start, stop) =>
          { s with
            mgr := s.mgr.markDirtyAt t.generation start stop
            marked := if s.mgr.dirty.isSome then s.marked ++ t.ids else t.ids
            commit := some { t with phase := .marked } }

def noLayoutError : NfsError := .rpc "cannot LAYOUTCOMMIT dirty range without an active layout"

/-- `layoutcommit_dirty` inside the commit, up to its COMPOUND. -/
def commitMarked (t : CommitTask) : FileIo :=
  match s.mgr.snapshotDirty with
  | none => s.commitSucceeded info t
  | some snapshot =>
      match s.mgr.getLayout with
      | none => s.commitFailed info t noLayoutError
      | some _ => { s with commit := some { t with phase := .layoutCommit snapshot } }

/-- The LAYOUTCOMMIT of the commit is answered; whether the range was unchanged does not
matter to it. -/
def layoutCommitAnswered (t : CommitTask) (snapshot : DirtyRange)
    (result : Except NfsError Unit) : FileIo :=
  match result with
  | .error e => s.commitFailed info t e
  | .ok _ => { s with mgr := (s.mgr.acknowledgeDirty snapshot).2 }.commitSucceeded info t

/-- One `write_ds_complete` of the rewrite returned. -/
def rewriteAnswered (t : CommitTask) (finished : List BatchEntry) (fresh : List DsWriteReply)
    (e : BatchEntry) (r : DsWriteReply) (replies : List DsWriteReply) (rest : List BatchEntry)
    (result : Except NfsError (WriteCommitted × Verifier)) : FileIo :=
  match result with
  | .ok (committed, verifier) =>
      { s with commit := some { t with
          phase := .rewriting finished
            (fresh ++ [{ r with committed := committed, verifier := verifier }])
            ({ e with replies := replies } :: rest) } }
  | .error error =>
      s.commitReturns t.ids (.error (uncertainPnfsWrite
        { operation := "pnfs_commit", protocol := info.protocol, requestId := none } error))

/-- The loops of the rewrite go on: to the next receipt, or back to the COMMITs. -/
def rewriteNext (t : CommitTask) (finished : List BatchEntry) (fresh : List DsWriteReply) :
    List BatchEntry → Option FileIo
  | [] =>
      some { s with commit := some { t with
        attempt := t.attempt + 1, batch := finished, phase := .committing } }
  | ⟨id, write, []⟩ :: rest =>
      some { s with commit := some { t with
        phase := .rewriting (finished ++ [⟨id, write, fresh⟩]) [] rest } }
  | _ :: _ => none

/-! ## The operations under the exclusive gate -/

def closeReturns (ok : Bool) : FileIo :=
  { s with
    owner := none
    closes := s.closes ++ [{
      ok := ok
      uncommitted := s.reported.filter fun id =>
        undone s.writes id && ofGeneration s.writes s.mgr.activeGeneration id }] }

/-- `close_file_inner` after its flush or its LAYOUTRETURN failed. -/
def closeFailed (o : Exclusive) (terminal : Bool) (e : NfsError) : FileIo :=
  if terminal then { s with owner := some { o with failure := some e, phase := .closing } }
  else s.closeReturns false

/-- LAYOUTRETURN goes out, behind `ahead` in its COMPOUND. -/
def sendLayoutReturn (o : Exclusive) (phase : ExclusivePhase) (ahead : Option DirtyRange) :
    FileIo :=
  { s with
    owner := some { o with phase := phase }
    returns := s.returns ++ [{
      uncommitted := s.mgr.pendingWrites.filter (undone s.writes)
      dirty := s.mgr.snapshotDirty
      ahead := ahead }] }

/-- `flush_layoutcommit` after `commit_pending_writes`: the range that is still dirty. -/
def flushCommitted (o : Exclusive) : FileIo :=
  match s.mgr.snapshotDirty with
  | none => { s with owner := some { o with phase := .flushed (.ok ()) } }
  | some snapshot =>
      match s.mgr.getLayout with
      | none => { s with owner := some { o with phase := .flushed (.error noLayoutError) } }
      | some _ => { s with owner := some { o with phase := .dirtyCommit snapshot } }

/-- The flush of `layoutreturn_file` succeeded: a held layout is returned. -/
def returnFlushed (o : Exclusive) : FileIo :=
  match s.mgr.getLayout with
  | none => { s with owner := some { o with phase := .returned (.ok ()) } }
  | some _ => s.sendLayoutReturn o .returning none

/-- The flush of `close_file_inner` succeeded. -/
def closeFlushed (o : Exclusive) : FileIo :=
  if s.mgr.getLayout.any (·.returnOnClose) then
    { s with owner := some { o with inReturn := true, phase := .flush } }
  else { s with owner := some { o with phase := .closing } }

/-- The flush returned to its caller. -/
def flushed (o : Exclusive) (result : Except NfsError Unit) : FileIo :=
  match o.inReturn, result, o.op with
  | true, .ok _, _ => s.returnFlushed o
  | true, .error e, _ => { s with owner := some { o with phase := .returned (.error e) } }
  | false, .ok _, .close _ => s.closeFlushed o
  | false, .error e, .close terminal => s.closeFailed o terminal e
  | false, _, _ => { s with owner := none }

/-- `layoutreturn_file` returned to its caller. -/
def layoutReturned (o : Exclusive) (result : Except NfsError Unit) : FileIo :=
  match o.op, result with
  | .close _, .ok _ => { s with owner := some { o with phase := .closing } }
  | .close terminal, .error e => s.closeFailed o terminal e
  | _, _ => { s with owner := none }

/-- The exclusive operation goes on from a point where it awaits no server. -/
def run (o : Exclusive) : Option FileIo :=
  match o.phase with
  | .flush =>
      some ({ s with owner := some { o with phase := .committing } }.startCommit info
        s.mgr.pendingWrites)
  | .committed (.ok _) => some (s.flushCommitted o)
  | .committed (.error e) =>
      some { s with owner := some { o with phase := .flushed (.error e) } }
  | .flushed result => some (s.flushed o result)
  | .returned result => some (s.layoutReturned o result)
  | _ => none

def dirtyChangedError : NfsError :=
  .rpc "pNFS dirty range changed during LAYOUTCOMMIT; retry before CLOSE"

/-- The flush's own LAYOUTCOMMIT is answered: it must have covered all that is dirty. -/
def dirtyCommitAnswered (o : Exclusive) (snapshot : DirtyRange)
    (result : Except NfsError Unit) : FileIo :=
  match result with
  | .error e => { s with owner := some { o with phase := .flushed (.error e) } }
  | .ok _ =>
      let answer := s.mgr.acknowledgeDirty snapshot
      { s with
        mgr := answer.2
        owner := some { o with
          phase := .flushed (if answer.1 then .ok () else .error dirtyChangedError) } }

def returnAnswered (o : Exclusive) (result : Except NfsError Unit) : FileIo :=
  match result with
  | .error e => { s with owner := some { o with phase := .returned (.error e) } }
  | .ok _ =>
      { s with
        mgr := s.mgr.removeLayout
        owner := some { o with phase := .returned (.ok ()) } }

/-- The recall's COMPOUND succeeded or not; only then are the range and the layout dropped. -/
def recallAnswered (dirty : Option DirtyRange) (returned : Bool) : FileIo :=
  let answer := match dirty with
    | some range => if returned then s.mgr.acknowledgeDirty range else (false, s.mgr)
    | none => (returned, s.mgr)
  { s with
    mgr := if returned && answer.1 then answer.2.removeLayout else answer.2
    owner := none }

/-- The exclusive gate is taken. -/
def beginExclusive (op : ExclusiveOp) : FileIo :=
  let o : Exclusive := { op := op, inReturn := false, failure := none, phase := .flush }
  match op with
  | .close _ | .flush => { s with owner := some o }
  | .layoutReturnAll => { s with owner := some { o with inReturn := true } }
  | .refresh rejected =>
      -- a layout replaced in the meantime, or of another generation, is left alone
      if rejected.generation = s.mgr.activeGeneration ∧
          s.mgr.getLayout.any (·.stateid == rejected.stateid) then
        { s with owner := some o }
      else s
  | .layoutRecall => s.sendLayoutReturn o (.recalling s.mgr.snapshotDirty) s.mgr.snapshotDirty

/-! ## Status flags and recovery -/

def seq4StatusRestartReclaimNeeded : Nat := 0x100
def seq4StatusDevidChanged : Nat := 0x800
def seq4StatusDevidDeleted : Nat := 0x1000

/-- The flags on which `handle_seq_status` empties the layout manager. -/
def clearsLayouts (flags : Nat) : Bool :=
  flags &&& (seq4StatusDevidChanged ||| seq4StatusDevidDeleted) != 0 ||
    flags &&& seq4StatusRestartReclaimNeeded != 0

/-- `LayoutManager::clear`, and what goes with it. -/
def cleared : FileIo :=
  { s with
    mgr := s.mgr.clear
    lost := s.lost ++ s.mgr.pendingWrites.filter (undone s.writes)
    lostDirty := if s.mgr.dirty.isSome then s.lostDirty ++ [s.marked] else s.lostDirty }

/-- `handle_seq_status`, as far as layouts go. -/
def handleSeqStatus (flags : Nat) : FileIo := if clearsLayouts flags then s.cleared else s

/-! ## The machine -/

/-- pNFS writes are refused behind a receipt whose commit failed. -/
def writeRefused : Bool :=
  s.mgr.pendingWrites.any fun id => s.writes[id]?.any fun w => w.failed && !w.done

/-- `register_write` at the end of a pNFS write: all stripes acknowledged, or only some of
them (`failed`), which is reported as an uncertain outcome. -/
def register (w : PendingWrite) : FileIo :=
  { s with
    writers := s.writers - 1
    writes := s.writes ++ [w]
    mgr := s.mgr.registerWrite s.writes.length
    reported := if w.failed then s.reported else s.reported ++ [s.writes.length] }

end FileIo

/-- What happens to the file next. -/
inductive FileEvent where
  /-- A LAYOUTGET is answered. -/
  | layoutGranted (layout : Layout)
  /-- A pNFS write takes the shared gate. -/
  | admitWrite
  /-- A pNFS write ends without a receipt. -/
  | endWrite
  | register (write : PendingWrite)
  /-- A caller commits its own receipts: `commit_write_batch`. -/
  | beginCommit (ids : List Nat)
  | commitAnswered (answers : CommitAnswers)
  /-- The data server executes a WRITE of the rewrite: `length` bytes of the current reply's
  data, from `start` on. -/
  | rewriteStore (start length : Nat)
  | rewriteAnswered (result : Except NfsError (WriteCommitted × Verifier))
  | rewriteNext
  | commitRun
  | layoutCommitAnswered (result : Except NfsError Unit)
  | beginExclusive (op : ExclusiveOp)
  | run
  | dirtyCommitAnswered (result : Except NfsError Unit)
  | returnAnswered (result : Except NfsError Unit)
  | recallAnswered (returned : Bool)
  | closeAnswered (result : Except NfsError Unit)
  /-- The task of the commit or of the exclusive operation is dropped. -/
  | cancel
  | seqStatus (flags : Nat)
  /-- Session recovery: the fence of the next generation, the cleanup behind it, and the new
  session's publication. -/
  | fence
  | sweep
  | publish

namespace FileIo

/-- An error of LAYOUTCOMMIT names its own COMPOUND, never the verifier check. -/
def namesCompound : Except NfsError Unit → Bool
  | .error e => !changesVerifier e
  | .ok _ => true

/-- A label of the commit under way. -/
def commitStep (info : MountInfo) (s : FileIo) (t : CommitTask) : FileEvent → Option FileIo
  | .commitAnswered answers =>
      match t.phase with
      | .committing => some (s.commitAnswered info t answers)
      | _ => none
  | .rewriteStore start length =>
      match t.phase with
      | .rewriting _ _ (⟨id, _, r :: _⟩ :: _) =>
          if 0 < length ∧ start + length ≤ r.data.length then
            some { s with stores := s.stores ++ [{
              id := id, dsAddr := r.dsAddr, dsFh := r.dsFh, start := r.dsOffset + start,
              length := length, seen := s.writes.length }] }
          else none
      | _ => none
  | .rewriteAnswered result =>
      match t.phase with
      | .rewriting finished fresh (⟨id, w, r :: replies⟩ :: rest) =>
          some (s.rewriteAnswered info t finished fresh ⟨id, w, r :: replies⟩ r replies rest result)
      | _ => none
  | .rewriteNext =>
      match t.phase with
      | .rewriting finished fresh todo => s.rewriteNext t finished fresh todo
      | _ => none
  | .commitRun =>
      match t.phase with
      | .marked => some (s.commitMarked info t)
      | _ => none
  | .layoutCommitAnswered result =>
      match t.phase with
      | .layoutCommit snapshot =>
          if namesCompound result then some (s.layoutCommitAnswered info t snapshot result)
          else none
      | _ => none
  | _ => none

/-- A label of the operation under the exclusive gate, outside its commit. -/
def exclusiveStep (info : MountInfo) (s : FileIo) (o : Exclusive) : FileEvent → Option FileIo
  | .run => s.run info o
  | .dirtyCommitAnswered result =>
      match o.phase with
      | .dirtyCommit snapshot => some (s.dirtyCommitAnswered o snapshot result)
      | _ => none
  | .returnAnswered result =>
      match o.phase with
      | .returning => some (s.returnAnswered o result)
      | _ => none
  | .recallAnswered returned =>
      match o.phase with
      | .recalling dirty => some (s.recallAnswered dirty returned)
      | _ => none
  | .closeAnswered result =>
      match o.phase with
      | .closing => some (s.closeReturns (result.isOk && o.failure.isNone))
      | _ => none
  | _ => none

/-- A label that needs no running operation. -/
def freeStep (info : MountInfo) (s : FileIo) : FileEvent → Option FileIo
  | .layoutGranted layout =>
      if layout.generation ≤ s.session then some { s with mgr := s.mgr.mergeLayout layout }
      else none
  | .admitWrite =>
      if s.owner.isNone ∧ !s.writeRefused then some { s with writers := s.writers + 1 } else none
  | .endWrite => if 0 < s.writers then some { s with writers := s.writers - 1 } else none
  | .register w =>
      if 0 < s.writers ∧ !w.done ∧ w.generation ≤ s.session then some (s.register w) else none
  | .beginCommit ids =>
      if s.owner.isNone ∧ s.commit.isNone ∧ ids.all (· ∈ s.reported) then
        some (s.startCommit info ids)
      else none
  | .beginExclusive op =>
      if s.owner.isNone ∧ s.commit.isNone ∧ s.writers = 0 then some (s.beginExclusive op) else none
  | .cancel =>
      some { s with
        owner := none
        commit := none
        writes := markFailed (s.commit.elim [] (·.ids)) s.writes }
  | .seqStatus flags => some (s.handleSeqStatus flags)
  | .fence => some { s with mgr := s.mgr.fence (s.session + 1), sweeping := true }
  | .sweep => if s.sweeping then some { s.cleared with sweeping := false } else none
  | .publish =>
      if !s.sweeping ∧ s.mgr.activeGeneration = s.session + 1 then
        some { s with session := s.session + 1 }
      else none
  | _ => none

/-- One label: of the commit while one runs, else of the exclusive operation, else a free
one. -/
def step (info : MountInfo) (s : FileIo) (ev : FileEvent) : Option FileIo :=
  match s.freeStep info ev with
  | some s' => some s'
  | none =>
      match s.commit, s.owner with
      | some t, _ => s.commitStep info t ev
      | none, some o => s.exclusiveStep info o ev
      | none, none => none

end FileIo

/-- The machine of one file. -/
def fileMachine (info : MountInfo) : Lib.Machine FileIo FileEvent where
  init := .initial
  step := FileIo.step info

/-! ## What a label does -/

/-- The moves of the machine: each label with its guards and the state it leads to. -/
inductive FileMove (info : MountInfo) (s : FileIo) : FileEvent → FileIo → Prop
  | layoutGranted (layout : Layout) (hGen : layout.generation ≤ s.session) :
      FileMove info s (.layoutGranted layout) { s with mgr := s.mgr.mergeLayout layout }
  | admitWrite (hOwner : s.owner = none) :
      FileMove info s .admitWrite { s with writers := s.writers + 1 }
  | endWrite : FileMove info s .endWrite { s with writers := s.writers - 1 }
  | register (w : PendingWrite) (hWriters : 0 < s.writers) (hDone : w.done = false)
      (hGen : w.generation ≤ s.session) :
      FileMove info s (.register w) (s.register w)
  | beginCommit (ids : List Nat) (hOwner : s.owner = none) (hCommit : s.commit = none) :
      FileMove info s (.beginCommit ids) (s.startCommit info ids)
  | beginExclusive (op : ExclusiveOp) (hOwner : s.owner = none) (hCommit : s.commit = none)
      (hWriters : s.writers = 0) :
      FileMove info s (.beginExclusive op) (s.beginExclusive op)
  | cancel :
      FileMove info s .cancel { s with
        owner := none
        commit := none
        writes := FileIo.markFailed (s.commit.elim [] (·.ids)) s.writes }
  | seqStatus (flags : Nat) : FileMove info s (.seqStatus flags) (s.handleSeqStatus flags)
  | fence : FileMove info s .fence
      { s with mgr := s.mgr.fence (s.session + 1), sweeping := true }
  | sweep (hSweeping : s.sweeping = true) :
      FileMove info s .sweep { s.cleared with sweeping := false }
  | publish (hSwept : s.sweeping = false)
      (hNext : s.mgr.activeGeneration = s.session + 1) :
      FileMove info s .publish { s with session := s.session + 1 }
  | commitAnswered (answers : CommitAnswers) (t : CommitTask) (hCommit : s.commit = some t)
      (hPhase : t.phase = .committing) :
      FileMove info s (.commitAnswered answers) (s.commitAnswered info t answers)
  | rewriteStore (start length : Nat) (t : CommitTask) (finished : List BatchEntry)
      (fresh : List DsWriteReply) (id : Nat) (w : PendingWrite) (r : DsWriteReply)
      (replies : List DsWriteReply) (rest : List BatchEntry) (hCommit : s.commit = some t)
      (hPhase : t.phase = .rewriting finished fresh (⟨id, w, r :: replies⟩ :: rest))
      (hLen : start + length ≤ r.data.length) :
      FileMove info s (.rewriteStore start length) { s with stores := s.stores ++ [{
        id := id, dsAddr := r.dsAddr, dsFh := r.dsFh, start := r.dsOffset + start,
        length := length, seen := s.writes.length }] }
  | rewriteAnswered (result : Except NfsError (WriteCommitted × Verifier)) (t : CommitTask)
      (finished : List BatchEntry) (fresh : List DsWriteReply) (id : Nat) (w : PendingWrite)
      (r : DsWriteReply) (replies : List DsWriteReply) (rest : List BatchEntry)
      (hCommit : s.commit = some t)
      (hPhase : t.phase = .rewriting finished fresh (⟨id, w, r :: replies⟩ :: rest)) :
      FileMove info s (.rewriteAnswered result)
        (s.rewriteAnswered info t finished fresh ⟨id, w, r :: replies⟩ r replies rest result)
  | rewriteNext (t : CommitTask) (finished : List BatchEntry) (fresh : List DsWriteReply)
      (todo : List BatchEntry) (s' : FileIo) (hCommit : s.commit = some t)
      (hPhase : t.phase = .rewriting finished fresh todo)
      (hNext : s.rewriteNext t finished fresh todo = some s') :
      FileMove info s .rewriteNext s'
  | commitMarked (t : CommitTask) (hCommit : s.commit = some t) (hPhase : t.phase = .marked) :
      FileMove info s .commitRun (s.commitMarked info t)
  | layoutCommitAnswered (result : Except NfsError Unit) (t : CommitTask)
      (snapshot : DirtyRange) (hCommit : s.commit = some t)
      (hPhase : t.phase = .layoutCommit snapshot) (hNames : FileIo.namesCompound result = true) :
      FileMove info s (.layoutCommitAnswered result)
        (s.layoutCommitAnswered info t snapshot result)
  | run (o : Exclusive) (s' : FileIo) (hCommit : s.commit = none) (hOwner : s.owner = some o)
      (hRun : s.run info o = some s') :
      FileMove info s .run s'
  | dirtyCommitAnswered (result : Except NfsError Unit) (o : Exclusive)
      (snapshot : DirtyRange) (hCommit : s.commit = none) (hOwner : s.owner = some o)
      (hPhase : o.phase = .dirtyCommit snapshot) :
      FileMove info s (.dirtyCommitAnswered result) (s.dirtyCommitAnswered o snapshot result)
  | returnAnswered (result : Except NfsError Unit) (o : Exclusive) (hCommit : s.commit = none)
      (hOwner : s.owner = some o) (hPhase : o.phase = .returning) :
      FileMove info s (.returnAnswered result) (s.returnAnswered o result)
  | recallAnswered (returned : Bool) (o : Exclusive) (dirty : Option DirtyRange)
      (hCommit : s.commit = none) (hOwner : s.owner = some o)
      (hPhase : o.phase = .recalling dirty) :
      FileMove info s (.recallAnswered returned) (s.recallAnswered dirty returned)
  | closeAnswered (result : Except NfsError Unit) (o : Exclusive) (hCommit : s.commit = none)
      (hOwner : s.owner = some o) (hPhase : o.phase = .closing) :
      FileMove info s (.closeAnswered result)
        (s.closeReturns (result.isOk && o.failure.isNone))

section moves

variable {info : MountInfo} {s s' : FileIo} {ev : FileEvent}

/-- **Inversion** of the other steps. -/
theorem fileMove_of_freeStep (h : s.freeStep info ev = some s') : FileMove info s ev s' := by
  unfold FileIo.freeStep at h
  split at h
  all_goals try split at h
  all_goals try cases h
  · exact .layoutGranted _ ‹_›
  · rename_i hGuard
    exact .admitWrite (Option.isNone_iff_eq_none.mp hGuard.1)
  · exact .endWrite
  · rename_i hGuard
    exact .register _ hGuard.1 (by simpa using hGuard.2.1) hGuard.2.2
  · rename_i hGuard
    exact .beginCommit _ (Option.isNone_iff_eq_none.mp hGuard.1)
      (Option.isNone_iff_eq_none.mp hGuard.2.1)
  · rename_i hGuard
    exact .beginExclusive _ (Option.isNone_iff_eq_none.mp hGuard.1)
      (Option.isNone_iff_eq_none.mp hGuard.2.1) hGuard.2.2
  · exact .cancel
  · exact .seqStatus _
  · exact .fence
  · exact .sweep ‹_›
  · rename_i hGuard
    exact .publish (by simpa using hGuard.1) hGuard.2

/-- **Inversion** of the steps of a commit. -/
theorem fileMove_of_commitStep {t : CommitTask} (hCommit : s.commit = some t)
    (h : s.commitStep info t ev = some s') : FileMove info s ev s' := by
  unfold FileIo.commitStep at h
  split at h
  · -- commitAnswered
    split at h
    · cases h
      exact .commitAnswered _ t hCommit ‹_›
    · cases h
  · -- rewriteStore
    split at h
    · rename_i hPhase
      split at h
      · rename_i hGuard
        cases h
        exact .rewriteStore _ _ t _ _ _ _ _ _ _ hCommit hPhase hGuard.2
      · cases h
    · cases h
  · -- rewriteAnswered
    split at h
    · cases h
      exact .rewriteAnswered _ t _ _ _ _ _ _ _ hCommit ‹_›
    · cases h
  · -- rewriteNext
    split at h
    · exact .rewriteNext t _ _ _ _ hCommit ‹_› h
    · cases h
  · -- commitRun
    split at h
    · cases h
      exact .commitMarked t hCommit ‹_›
    · cases h
  · -- layoutCommitAnswered
    split at h
    · rename_i hPhase
      split at h
      · cases h
        exact .layoutCommitAnswered _ t _ hCommit hPhase ‹_›
      · cases h
    · cases h
  · cases h

/-- **Inversion** of the steps of an exclusive operation. -/
theorem fileMove_of_exclusiveStep {o : Exclusive} (hCommit : s.commit = none)
    (hOwner : s.owner = some o) (h : s.exclusiveStep info o ev = some s') :
    FileMove info s ev s' := by
  unfold FileIo.exclusiveStep at h
  split at h
  · exact .run o s' hCommit hOwner h
  · -- dirtyCommitAnswered
    split at h
    · cases h
      exact .dirtyCommitAnswered _ o _ hCommit hOwner ‹_›
    · cases h
  · -- returnAnswered
    split at h
    · cases h
      exact .returnAnswered _ o hCommit hOwner ‹_›
    · cases h
  · -- recallAnswered
    split at h
    · cases h
      exact .recallAnswered _ o _ hCommit hOwner ‹_›
    · cases h
  · -- closeAnswered
    split at h
    · cases h
      exact .closeAnswered _ o hCommit hOwner ‹_›
    · cases h
  · cases h

/-- **Inversion.** Every step of the machine is one of the moves. -/
theorem fileMove_of_step (h : (fileMachine info).step s ev = some s') :
    FileMove info s ev s' := by
  change s.step info ev = some s' at h
  unfold FileIo.step at h
  split at h
  · rename_i s₁ hFree
    cases h
    exact fileMove_of_freeStep hFree
  · split at h
    · rename_i hCommit
      exact fileMove_of_commitStep hCommit h
    · rename_i hCommit hOwner
      exact fileMove_of_exclusiveStep hCommit hOwner h
    · cases h

end moves

/-! ## What the operations under the exclusive gate leave alone -/

/-- Outside its commit, an exclusive operation moves itself, the manager's layout and dirty
range, and the records of what it sends and returns. -/
structure OwnerFrame (s s' : FileIo) : Prop where
  writes : s'.writes = s.writes
  reported : s'.reported = s.reported
  stores : s'.stores = s.stores
  commit : s'.commit = s.commit
  session : s'.session = s.session
  sweeping : s'.sweeping = s.sweeping
  writers : s'.writers = s.writers
  lost : s'.lost = s.lost
  lostDirty : s'.lostDirty = s.lostDirty
  commits : s'.commits = s.commits

section frames

variable (s : FileIo) (o : Exclusive)

theorem ownerFrame_owner (owner : Option Exclusive) : OwnerFrame s { s with owner := owner } :=
  ⟨rfl, rfl, rfl, rfl, rfl, rfl, rfl, rfl, rfl, rfl⟩

theorem ownerFrame_closeReturns (ok : Bool) : OwnerFrame s (s.closeReturns ok) :=
  ⟨rfl, rfl, rfl, rfl, rfl, rfl, rfl, rfl, rfl, rfl⟩

theorem ownerFrame_sendLayoutReturn (phase : ExclusivePhase) (ahead : Option DirtyRange) :
    OwnerFrame s (s.sendLayoutReturn o phase ahead) :=
  ⟨rfl, rfl, rfl, rfl, rfl, rfl, rfl, rfl, rfl, rfl⟩

theorem ownerFrame_closeFailed (terminal : Bool) (e : NfsError) :
    OwnerFrame s (s.closeFailed o terminal e) := by
  unfold FileIo.closeFailed
  split
  · exact ownerFrame_owner s _
  · exact ownerFrame_closeReturns s false

theorem ownerFrame_flushCommitted : OwnerFrame s (s.flushCommitted o) := by
  unfold FileIo.flushCommitted
  split
  · exact ownerFrame_owner s _
  · split
    · exact ownerFrame_owner s _
    · exact ownerFrame_owner s _

theorem ownerFrame_flushed (result : Except NfsError Unit) :
    OwnerFrame s (s.flushed o result) := by
  unfold FileIo.flushed
  split
  · unfold FileIo.returnFlushed
    split
    · exact ownerFrame_owner s _
    · exact ownerFrame_sendLayoutReturn s o _ _
  · exact ownerFrame_owner s _
  · unfold FileIo.closeFlushed
    split
    · exact ownerFrame_owner s _
    · exact ownerFrame_owner s _
  · exact ownerFrame_closeFailed s o _ _
  · exact ownerFrame_owner s _

theorem ownerFrame_layoutReturned (result : Except NfsError Unit) :
    OwnerFrame s (s.layoutReturned o result) := by
  unfold FileIo.layoutReturned
  split
  · exact ownerFrame_owner s _
  · exact ownerFrame_closeFailed s o _ _
  · exact ownerFrame_owner s _

theorem ownerFrame_dirtyCommitAnswered (snapshot : DirtyRange)
    (result : Except NfsError Unit) : OwnerFrame s (s.dirtyCommitAnswered o snapshot result) := by
  cases result with
  | ok _ => exact ⟨rfl, rfl, rfl, rfl, rfl, rfl, rfl, rfl, rfl, rfl⟩
  | error e => exact ownerFrame_owner s _

theorem ownerFrame_returnAnswered (result : Except NfsError Unit) :
    OwnerFrame s (s.returnAnswered o result) := by
  cases result with
  | ok _ => exact ⟨rfl, rfl, rfl, rfl, rfl, rfl, rfl, rfl, rfl, rfl⟩
  | error e => exact ownerFrame_owner s _

theorem ownerFrame_recallAnswered (dirty : Option DirtyRange) (returned : Bool) :
    OwnerFrame s (s.recallAnswered dirty returned) :=
  ⟨rfl, rfl, rfl, rfl, rfl, rfl, rfl, rfl, rfl, rfl⟩

theorem ownerFrame_beginExclusive (op : ExclusiveOp) : OwnerFrame s (s.beginExclusive op) := by
  cases op with
  | close terminal => exact ownerFrame_owner s _
  | layoutReturnAll => exact ownerFrame_owner s _
  | flush => exact ownerFrame_owner s _
  | refresh rejected =>
    unfold FileIo.beginExclusive
    dsimp only
    split
    · exact ownerFrame_owner s _
    · exact ownerFrame_owner s s.owner
  | layoutRecall => exact ownerFrame_sendLayoutReturn s _ _ _

end frames

/-- `run` begins the commit of a flush, or moves only the operation itself. -/
theorem run_cases {info : MountInfo} {s s' : FileIo} {o : Exclusive}
    (h : s.run info o = some s') :
    (o.phase = .flush ∧ s' = ({ s with
        owner := some { o with phase := .committing } } : FileIo).startCommit info
          s.mgr.pendingWrites) ∨
      (OwnerFrame s s' ∧
        ((o.phase = .committed (.ok ()) ∧ s' = s.flushCommitted o) ∨
          (∃ e, o.phase = .committed (.error e) ∧
            s' = { s with owner := some { o with phase := .flushed (.error e) } }) ∨
          (∃ result, o.phase = .flushed result ∧ s' = s.flushed o result) ∨
          ∃ result, o.phase = .returned result ∧ s' = s.layoutReturned o result)) := by
  unfold FileIo.run at h
  split at h
  · rename_i hPhase
    cases h
    exact .inl ⟨hPhase, rfl⟩
  · rename_i hPhase
    cases h
    exact .inr ⟨ownerFrame_flushCommitted s o, .inl ⟨hPhase, rfl⟩⟩
  · rename_i e hPhase
    cases h
    exact .inr ⟨ownerFrame_owner s _, .inr (.inl ⟨e, hPhase, rfl⟩)⟩
  · rename_i result hPhase
    cases h
    exact .inr ⟨ownerFrame_flushed s o result, .inr (.inr (.inl ⟨result, hPhase, rfl⟩))⟩
  · rename_i result hPhase
    cases h
    exact .inr ⟨ownerFrame_layoutReturned s o result,
      .inr (.inr (.inr ⟨result, hPhase, rfl⟩))⟩
  · cases h

/-! ## The flags of receipts -/

/-- An update by position that each element's view `g` does not see leaves the view of the
list. -/
theorem map_mapIdx_of_eq {α β : Type*} {f : Nat → α → α} {g : α → β}
    (hf : ∀ i a, g (f i a) = g a) (l : List α) : (l.mapIdx f).map g = l.map g := by
  apply List.ext_getElem?
  intro i
  simp [hf, Function.comp_def]

section Flags

variable {β : Type*} (ids : List Nat) (writes : List PendingWrite)

/-- Marking receipts done changes nothing of them but that flag. -/
theorem FileIo.map_markDone (g : PendingWrite → β) (hg : ∀ w, g { w with done := true } = g w) :
    (markDone ids writes).map g = writes.map g := by
  refine map_mapIdx_of_eq (fun i w => ?_) writes
  split
  · exact hg w
  · rfl

/-- Marking receipts failed changes nothing of them but that flag. -/
theorem FileIo.map_markFailed (g : PendingWrite → β)
    (hg : ∀ w, g { w with failed := true } = g w) :
    (markFailed ids writes).map g = writes.map g := by
  refine map_mapIdx_of_eq (fun i w => ?_) writes
  split
  · exact hg w
  · rfl

end Flags

/-! ## Values for concrete runs -/

def sampleMount : MountInfo := { protocol := .nfsV4p1, sessionId := id }

/-- Two bytes written to one data server under verifier 1. -/
def twoBytes (value : UInt8) : PendingWrite where
  offset := 0
  count := 2
  generation := 1
  commitThruMds := false
  replies := [{ fileOffset := 0, committed := .unstable, data := [value, value], verifier := 1
                dsAddr := 7, dsFh := [1], dsOffset := 0 }]
  done := false
  failed := false

def answeredWith (verifier : Verifier) : CommitAnswers where
  mds := .ok verifier
  ds _ _ := .ok verifier

def sampleLayout : Layout := { generation := 1, stateid := 5, returnOnClose := false }

end NfsRs.Nfs41
