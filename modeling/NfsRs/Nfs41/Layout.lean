import NfsRs.Error

/-!
# NfsRs — write receipts and the layout manager of one file

A pNFS write leaves a *receipt* (`PendingWrite`): what each data server acknowledged, with
the verifier it answered and the data itself, kept until data and metadata are committed.
This module has the receipts, the plan of a batch COMMIT over them (`planCommitBatch`,
`executeCommits`), and the part of `LayoutManager` that belongs to one file: its layout, its
dirty range and its registry of receipts, each under the session generation that is active.

Receipts are shared between the caller and the registry (an `Arc` in the source). Here they
are numbered in the order of registration, and the registry holds numbers.
-/

namespace NfsRs.Nfs41

/-- A data server's address; it is only compared. -/
abbrev SocketAddr := Nat

abbrev FileHandle := List UInt8

/-- The eight opaque bytes by which a server tells one boot from the next. -/
abbrev Verifier := BitVec 64

/-- `stable_how4` as answered, in the order of its wire values. -/
inductive WriteCommitted where
  | unstable | dataSync | fileSync
  deriving DecidableEq, Repr

/-- One data server's WRITE reply plus what a COMMIT or a rewrite needs. A reply is built
once every byte of `data` is acknowledged, so its count is the length of the data. -/
structure DsWriteReply where
  fileOffset : Nat
  committed : WriteCommitted
  data : List UInt8
  verifier : Verifier
  dsAddr : SocketAddr
  dsFh : FileHandle
  dsOffset : Nat
  deriving DecidableEq, Repr

def DsWriteReply.written (r : DsWriteReply) : Nat := r.data.length

/-- Retained by both the caller and the layout manager until data and metadata are
committed. -/
structure PendingWrite where
  offset : Nat
  count : Nat
  generation : Nat
  commitThruMds : Bool
  replies : List DsWriteReply
  done : Bool
  failed : Bool
  deriving DecidableEq, Repr

/-- A byte as a data server stores it. -/
structure Location where
  dsAddr : SocketAddr
  dsFh : FileHandle
  position : Nat
  deriving DecidableEq, Repr

/-- The reply acknowledges the byte. -/
def DsWriteReply.Covers (r : DsWriteReply) (l : Location) : Prop :=
  r.dsAddr = l.dsAddr ∧ r.dsFh = l.dsFh ∧
    r.dsOffset ≤ l.position ∧ l.position < r.dsOffset + r.written

instance (r : DsWriteReply) (l : Location) : Decidable (r.Covers l) :=
  inferInstanceAs (Decidable (_ ∧ _))

def PendingWrite.Covers (w : PendingWrite) (l : Location) : Prop :=
  ∃ r ∈ w.replies, r.Covers l

instance (w : PendingWrite) (l : Location) : Decidable (w.Covers l) :=
  inferInstanceAs (Decidable (∃ r ∈ w.replies, r.Covers l))

/-! ## The plan of a batch COMMIT -/

structure CommitTarget where
  offset : Nat
  count : Nat
  expected : List Verifier

structure CommitPlan where
  mds : Option CommitTarget
  ds : List (SocketAddr × FileHandle × CommitTarget)
  layout : Option (Nat × Nat)

/-- A receipt of the batch with the replies that stand for it now: its own at first, the
rewritten ones after a verifier change. -/
structure BatchEntry where
  id : Nat
  write : PendingWrite
  replies : List DsWriteReply

/-- A range too long for the wire commits the whole file. -/
def wireCommitRange (start stop : Nat) : Nat × Nat :=
  if stop - start < 2 ^ 32 then (start, stop - start) else (0, 0)

/-- Order of the map keys of the plan: address first, then the handle's bytes. -/
def dsKeyOrder (a b : SocketAddr × FileHandle) : Ordering :=
  (compare a.1 b.1).then (List.compareLex compare a.2 b.2)

/-- `entry(key).or_default().push(reply)` on a map kept in key order. -/
def pushGroup (key : SocketAddr × FileHandle) (reply : DsWriteReply) :
    List ((SocketAddr × FileHandle) × List DsWriteReply) →
      List ((SocketAddr × FileHandle) × List DsWriteReply)
  | [] => [(key, [reply])]
  | (k, group) :: rest =>
      match dsKeyOrder key k with
      | .lt => (key, [reply]) :: (k, group) :: rest
      | .eq => (k, group ++ [reply]) :: rest
      | .gt => (k, group) :: pushGroup key reply rest

/-- What the loop over the batch collects. -/
structure PlanState where
  mdsExpected : List Verifier := []
  mdsStart : Nat := 2 ^ 64 - 1
  mdsEnd : Nat := 0
  dsGroups : List ((SocketAddr × FileHandle) × List DsWriteReply) := []
  layoutNeeded : Bool := false

def planStep (p : PlanState) (e : BatchEntry) : PlanState :=
  if e.write.commitThruMds then
    { p with
      mdsExpected := p.mdsExpected ++
        (e.replies.filter fun r => r.committed != .fileSync).map (·.verifier)
      mdsStart := min p.mdsStart e.write.offset
      mdsEnd := max p.mdsEnd (e.write.offset + e.write.count) }
  else
    { p with
      layoutNeeded := p.layoutNeeded || e.replies.any fun r => r.committed != .fileSync
      dsGroups := (e.replies.filter fun r => r.committed == .unstable).foldl
        (fun groups r => pushGroup (r.dsAddr, r.dsFh) r groups) p.dsGroups }

def dsTarget (group : List DsWriteReply) : CommitTarget :=
  let start := ((group.map (·.dsOffset)).min?).getD 0
  let stop := ((group.map fun r => r.dsOffset + r.written).max?).getD 0
  let range := wireCommitRange start stop
  { offset := range.1, count := range.2, expected := group.map (·.verifier) }

def planCommitBatch (batch : List BatchEntry) : CommitPlan :=
  let p := batch.foldl planStep {}
  { mds :=
      if p.mdsExpected.isEmpty then none
      else
        let range := wireCommitRange p.mdsStart p.mdsEnd
        some { offset := range.1, count := range.2, expected := p.mdsExpected }
    ds := p.dsGroups.map fun g => (g.1.1, g.1.2, dsTarget g.2)
    layout :=
      if p.layoutNeeded then
        some (((batch.map (·.write.offset)).min?).getD 0,
          ((batch.map fun e => e.write.offset + e.write.count).max?).getD 0)
      else none }

/-- The mutation may have reached the servers: only file-level verification tells. -/
def uncertainPnfsWrite (context : RequestContext) (source : NfsError) : NfsError :=
  .outcomeError .uncertain .replaySensitive .verifyThenResume context source

/-- A COMMIT answered another verifier than a WRITE it covers. -/
def writeVerifierChanged (protocol : NFSVersion) : NfsError :=
  .outcomeError .uncertain .replaySensitive .verifyThenResume
    { operation := "write_verifier", protocol := protocol, requestId := none }
    (.rpc "WRITE verifier changed before COMMIT")

/-- The outcome names a verifier change: the data may be written again from the receipt. -/
def changesVerifier (e : NfsError) : Bool :=
  e.outcomeContext?.any fun c => c.operation == "write_verifier"

def checkCommitVerifier (protocol : NFSVersion) (written : List Verifier)
    (committed : Verifier) : Except NfsError Unit :=
  if written.any (· != committed) then .error (writeVerifierChanged protocol) else .ok ()

/-- What the metadata server and the data servers answer to the COMMITs of one plan. -/
structure CommitAnswers where
  mds : Except NfsError Verifier
  ds : SocketAddr → FileHandle → Except NfsError Verifier

/-- The COMMITs of `execute_commit_plan`, in order; its LAYOUTCOMMIT follows when they all
answer the expected verifiers. -/
def executeCommits (protocol : NFSVersion) (plan : CommitPlan) (answers : CommitAnswers) :
    Except NfsError Unit := do
  match plan.mds with
  | none => pure ()
  | some target =>
      let actual ← answers.mds
      checkCommitVerifier protocol target.expected actual
  plan.ds.forM fun target => do
    let actual ← answers.ds target.1 target.2.1
    checkCommitVerifier protocol target.2.2.expected actual

/-! ## The layout manager of one file -/

structure DirtyRange where
  generation : Nat
  start : Nat
  stop : Nat
  revision : Nat
  deriving DecidableEq, Repr

structure Layout where
  generation : Nat
  stateid : Nat
  returnOnClose : Bool
  deriving DecidableEq, Repr

/-- The entries of `LayoutManager` under one file handle, and its active generation. -/
structure LayoutManager where
  activeGeneration : Nat
  layout : Option Layout
  dirty : Option DirtyRange
  pendingWrites : List Nat
  deriving DecidableEq, Repr

namespace LayoutManager

variable (m : LayoutManager)

/-- The fence of `transition_to`, published before anything is cleaned up. -/
def fence (generation : Nat) : LayoutManager := { m with activeGeneration := generation }

/-- Drop layouts, dirty ranges and receipts: the body of `clear`, and the cleanup of
`transition_to`. -/
def clear : LayoutManager := { m with layout := none, dirty := none, pendingWrites := [] }

def registerWrite (id : Nat) : LayoutManager :=
  { m with pendingWrites := m.pendingWrites ++ [id] }

def pruneCompletedWrites (isDone : Nat → Bool) : LayoutManager :=
  { m with pendingWrites := m.pendingWrites.filter fun id => !isDone id }

def getLayout : Option Layout :=
  m.layout.filter fun l => l.generation == m.activeGeneration

/-- A granted layout joins the one held; the newest stateid stands for both. -/
def mergeLayout (update : Layout) : LayoutManager :=
  if update.generation ≠ m.activeGeneration then m
  else match m.layout with
    | none => { m with layout := some update }
    | some current =>
        { m with layout := some { current with
            stateid := update.stateid
            returnOnClose := current.returnOnClose || update.returnOnClose } }

def removeLayout : LayoutManager := { m with layout := none }

def markDirtyAt (generation start stop : Nat) : LayoutManager :=
  if generation ≠ m.activeGeneration then m
  else match m.dirty with
    | none => { m with dirty := some ⟨generation, start, stop, 0⟩ }
    | some range =>
        { m with dirty := some { range with
            start := min range.start start
            stop := max range.stop stop
            revision := (range.revision + 1) % 2 ^ 64 } }

def snapshotDirty : Option DirtyRange :=
  m.dirty.filter fun range => range.generation == m.activeGeneration

/-- The range goes only when it is still the one that was committed. -/
def acknowledgeDirty (committed : DirtyRange) : Bool × LayoutManager :=
  if m.dirty = some committed ∧ committed.generation = m.activeGeneration then
    (true, { m with dirty := none })
  else (false, m)

end LayoutManager

end NfsRs.Nfs41
