import NfsRs.Client.Paths
import NfsRs.Nfs41.Requests
import NfsRs.Nfs41.Session

/-!
# NfsRs — path resolution under session limits

NFSv3 and NFSv4.0 send one request for each component. `lookup_path` of NFSv4.1 and
`navigate_to_export` put a whole path into one COMPOUND, which has to pass the limits of the
session: its number of operations, its size, and the size of its reply.

A server is a tree that does not change. It executes the operations of a COMPOUND one after
another on a current filehandle, up to the first one that fails, and the client picks the results
out of the reply by their index. Where the COMPOUND passes the limits, that gives what looking up
one component after another gives. A path whose COMPOUND has more operations than the channel
allows is refused, and no session of this client allows more than the sixteen that it offers.

## Main results

- `Server.execute_lookups` : the results of a chain of LOOKUPs.
- `lookupPath_refines` : path resolution is component-wise lookup, exactly within the limits.
- `lookupPath_refuses_depth` : a path that resolves is refused for its depth.
-/

namespace NfsRs.Nfs41.PathLookup

open NfsRs.Client.Paths

/-- `nfs_fh4`. -/
abbrev Handle : Type := {fh : List UInt8 // fh.length ≤ 128}

/-- A status that says something of its operation. DELAY and GRACE ask to come again, and the
others are about the session: `compound` acts on these itself. -/
def conclusive : Nfs4ErrorCode → Bool
  | .ok | .delay | .grace | .badsession | .deadsession | .seqMisordered | .retryUncachedRep
  | .seqFalseRetry => false
  | _ => true

abbrev Refusal : Type := {code : Nfs4ErrorCode // conclusive code = true}

/-- A directory tree; `α` is what a client knows of an object. The attributes that NFSv4 sends
are decoded by `decodeAttr`. -/
structure Server (α : Type) (decodeAttr : List UInt8 → Except NfsError α) where
  root : Handle
  lookup : Handle → List UInt8 → Except Refusal Handle
  attr : Handle → α
  /-- The result of GETATTR. -/
  attrData : Handle → List UInt8
  decodes : ∀ fh, decodeAttr (attrData fh) = .ok (attr fh)
  /-- LOOKUP of NFSv3, and the attributes in its reply. -/
  lookup3 : Handle → List UInt8 → Except NfsError Handle
  attr3 : Handle → Option α

/-- `ObjRes`. -/
structure ObjRes (α : Type) where
  fh : List UInt8
  attr : Option α

variable {α : Type} {decodeAttr : List UInt8 → Except NfsError α}

namespace Server

variable (s : Server α decodeAttr)

/-- An operation: the current filehandle behind it, and its result. -/
def step (current : Option Handle) :
    Argop4 → Except Nfs4ErrorCode (Option Handle × List UInt8)
  | ⟨.sequence, _⟩ => .ok (current, [])
  | ⟨.putFh, (fh : List UInt8)⟩ =>
    if h : fh.length ≤ 128 then .ok (some ⟨fh, h⟩, []) else .error .badhandle
  | ⟨.putRootFh, _⟩ => .ok (some s.root, [])
  | ⟨.lookup, (name : List UInt8)⟩ =>
    match current with
    | none => .error .nofilehandle
    | some dir => match s.lookup dir name with
      | .error code => .error code
      | .ok fh => .ok (some fh, [])
  | ⟨.getFh, _⟩ =>
    match current with
    | none => .error .nofilehandle
    | some fh => .ok (some fh, xdrBody fh)
  | ⟨.getAttr, _⟩ =>
    match current with
    | none => .error .nofilehandle
    | some fh => .ok (some fh, s.attrData fh)
  | _ => .error .notsupp

/-- The results of operations, up to the first failing one. -/
def execute (current : Option Handle) : List Argop4 → List OpResponse
  | [] => []
  | op :: ops =>
    match s.step current op with
    | .error code => [⟨op.1.code, code, []⟩]
    | .ok (next, data) => ⟨op.1.code, .ok, data⟩ :: execute next ops

/-- The status of a COMPOUND is that of its last result. -/
def reply (tag : String) (ops : List Argop4) : CompoundResponse :=
  let results := s.execute none ops
  ⟨tag, (results.getLast?.map OpResponse.status).getD .ok, results, 0⟩

/-- LOOKUP of one component. -/
def lookupOne (version : Protocol) (dir : Handle) (name : Name) : Except NfsError Handle :=
  match version with
  | .nfs3 => s.lookup3 dir (utf8 (String.ofList name))
  | _ => (s.lookup dir (utf8 (String.ofList name))).mapError fun code : Refusal => .nfs4 code.val

/-- One component after another. -/
def resolve (version : Protocol) (dir : Handle) (names : List Name) : Except NfsError Handle :=
  (lookupEach (s.lookupOne version) dir names).2

/-- What is known of an object that was looked up; of the mount root only its handle is. -/
def object (version : Protocol) (names : List Name) (fh : Handle) : ObjRes α :=
  ⟨fh, if names = [] then none else match version with
    | .nfs3 => s.attr3 fh
    | _ => some (s.attr fh)⟩

end Server

/-- What a call is sent with, beside the path. -/
structure Sending where
  session : Session
  auth : Auth
  minorVersion : MinorVersion
  sessionId : Octets 16
  sequenceId : UInt32
  slotId : UInt32
  highestSlotId : UInt32
  /-- `standard_getattr_bitmap`. -/
  bitmap : List UInt32
  /-- Length of a reply on the wire. -/
  replyLen : CompoundResponse → Nat
  context : RequestContext

/-- `decode_fh`, whose messages are those of its caller. -/
def decodeFh (missing truncated : String) (data : List UInt8) : Except NfsError (List UInt8) := do
  let read ← (takeWord missing >>= fun len => takePadded len truncated) data
  return read.1

/-- `op_ok` of `n` results from an index on. -/
def opsOk (resp : CompoundResponse) (first : Nat) : Nat → Except NfsError Unit
  | 0 => .ok ()
  | n + 1 => do
    let _ ← resp.opOk first
    opsOk resp (first + 1) n

namespace Sending

variable (c : Sending) (s : Server α decodeAttr)

def sequence : Request := .sequence c.sessionId c.sequenceId c.slotId c.highestSlotId

def lookups (names : List Name) : List Request :=
  names.map fun name => .lookup (String.ofList name)

def lookupPathReqs (root : Handle) (names : List Name) : List Request :=
  c.sequence :: .putfh root :: (lookups names ++ [.getfh, .getattr c.bitmap])

def navigateReqs (names : List Name) : List Request :=
  c.sequence :: .putrootfh :: (lookups names ++ [.getfh])

/-- The limits of the session, in the order in which they are checked. -/
def limits (tag : String) (reqs : List Request) : Except NfsError Unit := do
  (build (.new tag) reqs).enforceMaxOperations c.session.maxOperations
  enforceRequestSize c.session
    ((build (.new tag) reqs).encodeWithHeader c.auth c.minorVersion).length 0
  enforceResponseSize c.session (c.replyLen (s.reply tag (reqs.map Request.meaning)))

/-- A request and its reply. -/
def exchange (tag : String) (reqs : List Request) : Except NfsError CompoundResponse := do
  c.limits s tag reqs
  let resp := s.reply tag (reqs.map Request.meaning)
  enforceResponseOperations c.session resp (build (.new tag) reqs).ops.length
  return resp

/-- `compound`, of a read-only request that is answered at once. -/
def compound (tag : String) (reqs : List Request) : Except NfsError CompoundResponse := do
  let resp ← c.exchange s tag reqs
  resp.checkStatus.mapError (classifySentNfs41Error .readOnly c.context)
  let _ ← (resp.opOk 0).mapError (classifySentNfs41Error .readOnly c.context)
  return resp

/-- `lookup_path` of NFSv4.1. -/
def lookupPath41 (root : Handle) (path : List Char) : Except NfsError (ObjRes α) :=
  let names := components .nfs41 path
  if names = [] then .ok ⟨root, none⟩
  else do
    let resp ← c.compound s "lookup_path" (c.lookupPathReqs root names)
    opsOk resp 2 names.length
    let getfh ← resp.opOk (2 + names.length)
    let fh ← decodeFh "fh length truncated" "fh data truncated" getfh.data
    let getattr ← resp.opOk (3 + names.length)
    let attr ← decodeAttr getattr.data
    return ⟨fh, some attr⟩

def navigateToExport (dirpath : List Char) : Except NfsError (List UInt8) := do
  let resp ← c.exchange s "navigate" (c.navigateReqs (parts dirpath))
  resp.checkStatus
  let _ ← resp.opOk 0
  let _ ← resp.opOk 1
  opsOk resp 2 (parts dirpath).length
  let getfh ← resp.opOk (2 + (parts dirpath).length)
  decodeFh "GETFH result missing fh length" "GETFH result fh data truncated" getfh.data

/-- `lookup` of NFSv4.0: four operations, whose results are taken one after another. -/
def lookup40 (dir : List UInt8) (name : Name) : Except NfsError (ObjRes α) := do
  let resp := s.reply "lookup" ([Request.putfh dir, .lookup (String.ofList name), .getfh,
    .getattr c.bitmap].map Request.meaning)
  resp.checkStatus
  if resp.results.length ≠ 4 then
    .error (.xdr s!"LOOKUP response has {resp.results.length} operations, expected 4")
  else
    opsOk resp 0 2
    let getfh ← resp.opOk 2
    let fh ← decodeFh "GETFH filehandle length truncated" "GETFH filehandle data truncated"
      getfh.data
    let getattr ← resp.opOk 3
    let attr ← decodeAttr getattr.data
    return ⟨fh, some attr⟩

/-- `lookup_path`. On NFSv3 it is a loop of LOOKUPs, `lookupEach`. -/
def lookupPath (version : Protocol) (root : Handle) (path : List Char) :
    Except NfsError (ObjRes α) :=
  match version with
  | .nfs3 => (s.resolve .nfs3 root (components .nfs3 path)).map
      (s.object .nfs3 (components .nfs3 path))
  | .nfs40 => (components .nfs40 path).foldlM (fun obj name => c.lookup40 s obj.fh name)
      ⟨root, none⟩
  | .nfs41 => c.lookupPath41 s root path

end Sending

/-! ## Execution of a chain of LOOKUPs -/

/-- The result of an operation that has nothing to tell. -/
def done (op : OpNum) : OpResponse := ⟨op.code, .ok, []⟩

namespace Server

variable (s : Server α decodeAttr) {version : Protocol}

theorem resolve_cons (hVersion : version ≠ .nfs3) (dir : Handle) (name : Name)
    (names : List Name) :
    s.resolve version dir (name :: names) =
      match s.lookup dir (utf8 (String.ofList name)) with
      | .error code => .error (.nfs4 code.val)
      | .ok next => s.resolve version next names := by
  have hOne : s.lookupOne version dir name =
      (s.lookup dir (utf8 (String.ofList name))).mapError fun code : Refusal => .nfs4 code.val := by
    cases version with
    | nfs3 => exact absurd rfl hVersion
    | nfs40 | nfs41 => rfl
  unfold resolve
  rw [lookupEach, hOne]
  cases s.lookup dir (utf8 (String.ofList name)) with
  | error code => rfl
  | ok next => rfl

theorem resolve_singleton (version : Protocol) (dir : Handle) (name : Name) :
    s.resolve version dir [name] = s.lookupOne version dir name := by
  unfold resolve
  rw [lookupEach]
  cases s.lookupOne version dir name with
  | error e => rfl
  | ok next => rfl

/-- **A chain of LOOKUPs.** Each one that succeeds leaves its result and the next directory; the
first one that fails is the last result of the COMPOUND. -/
theorem execute_lookups (hVersion : version ≠ .nfs3) (tail : List Argop4) (names : List Name) :
    ∀ dir : Handle,
      (∃ fh, s.resolve version dir names = .ok fh ∧
        s.execute (some dir) ((Sending.lookups names).map Request.meaning ++ tail) =
          List.replicate names.length (done .lookup) ++ s.execute (some fh) tail) ∨
      ∃ (code : Refusal) (k : Nat), k < names.length ∧
        s.resolve version dir names = .error (.nfs4 code.val) ∧
        s.execute (some dir) ((Sending.lookups names).map Request.meaning ++ tail) =
          List.replicate k (done .lookup) ++ [⟨OpNum.lookup.code, code, []⟩] := by
  induction names with
  | nil => exact fun dir => .inl ⟨dir, rfl, rfl⟩
  | cons name names ih =>
    intro dir
    rw [s.resolve_cons hVersion]
    show (∃ fh, _ ∧ s.execute (some dir) (⟨.lookup, utf8 (String.ofList name)⟩ ::
      ((Sending.lookups names).map Request.meaning ++ tail)) = _) ∨
      ∃ (code : Refusal) (k : Nat), _ ∧ _ ∧
        s.execute (some dir) (⟨.lookup, utf8 (String.ofList name)⟩ ::
          ((Sending.lookups names).map Request.meaning ++ tail)) = _
    rw [execute]
    cases hLookup : s.lookup dir (utf8 (String.ofList name)) with
    | error code =>
      exact .inr ⟨code, 0, Nat.zero_lt_succ _, rfl, by simp [step, hLookup]⟩
    | ok next =>
      simp only [step, hLookup]
      rcases ih next with ⟨fh, hFound, hRun⟩ | ⟨code, k, hk, hFailed, hRun⟩
      · exact .inl ⟨fh, hFound, by rw [hRun]; rfl⟩
      · exact .inr ⟨code, k + 1, Nat.succ_lt_succ hk, hFailed, by rw [hRun]; rfl⟩

theorem length_execute_le (ops : List Argop4) :
    ∀ current, (s.execute current ops).length ≤ ops.length := by
  induction ops with
  | nil => exact fun _ => Nat.le_refl 0
  | cons op ops ih =>
    intro current
    rw [execute]
    split
    · exact Nat.succ_le_succ (Nat.zero_le _)
    · exact Nat.succ_le_succ (ih _)

end Server

/-! ## What the client makes of a reply -/

theorem opOk_of_getElem? {resp : CompoundResponse} {i : Nat} {r : OpResponse}
    (h : resp.results[i]? = some r) (hStatus : r.status = .ok) : resp.opOk i = .ok r := by
  simp [CompoundResponse.opOk, h, hStatus]

theorem opsOk_of_getElem? {resp : CompoundResponse} {n : Nat} : ∀ {first : Nat},
    (∀ i < n, resp.results[first + i]? = some (done .lookup)) → opsOk resp first n = .ok () := by
  induction n with
  | zero => exact fun _ => rfl
  | succ n ih =>
    intro first h
    have hFirst : resp.opOk first = .ok (done .lookup) :=
      opOk_of_getElem? (h 0 (Nat.zero_lt_succ n)) rfl
    rw [opsOk, hFirst, Lib.ok_bind]
    refine ih fun i hi => ?_
    rw [Nat.add_right_comm]
    exact h (i + 1) (Nat.succ_lt_succ hi)

theorem decodeFh_xdrBody (missing truncated : String) (fh : Handle) :
    decodeFh missing truncated (xdrBody fh) = .ok fh.val := by
  have hLength : fh.val.length < 2 ^ 32 := Nat.lt_of_le_of_lt fh.property (by decide)
  have hRead := ((decodes_u32 hLength missing).bind (f := fun len => takePadded len truncated)
    (decodes_padded fh.val truncated)).read []
  rw [List.append_nil] at hRead
  exact congrArg (· >>= fun read => pure read.1) hRead

/-- The error of a refused component reaches the caller as it is. -/
theorem classify_refusal (ctx : RequestContext) (code : Refusal) :
    classifySentNfs41Error .readOnly ctx (.nfs4 code.val) = .nfs4 code.val := by
  obtain ⟨code, hCode⟩ := code
  cases code <;> first | rfl | cases hCode

theorem enforceEncodedSize_error {kind : String} {actual maximum : Nat} {e : NfsError}
    (h : enforceEncodedSize kind actual maximum = .error e) : ∃ message, e = .rpc message := by
  unfold enforceEncodedSize at h
  split at h <;> cases h
  exact ⟨_, rfl⟩

namespace Sending

variable (c : Sending) (s : Server α decodeAttr)

variable {tag : String} {ops : List Argop4}

/-- The limits are the client's own, and no answer of the server. -/
theorem limits_error {reqs : List Request} {e : NfsError} (h : c.limits s tag reqs = .error e) :
    ∃ message, e = .rpc message := by
  rcases Lib.bind_eq_error_iff.mp h with hOps | ⟨-, -, hRest⟩
  · unfold CompoundBuilder.enforceMaxOperations at hOps
    split at hOps
    · cases hOps
      exact ⟨_, rfl⟩
    · split at hOps <;> cases hOps
      exact ⟨_, rfl⟩
  · rcases Lib.bind_eq_error_iff.mp hRest with hSize | ⟨-, -, hSize⟩
    · exact enforceEncodedSize_error hSize
    · exact enforceEncodedSize_error hSize

/-- Within the limits the reply reaches the caller. -/
theorem exchange_eq {reqs : List Request} (h : c.limits s tag reqs = .ok ()) :
    c.exchange s tag reqs = .ok (s.reply tag (reqs.map Request.meaning)) := by
  have hOps : (build (.new tag) reqs).ops.length ≤ c.session.maxOperations := by
    obtain ⟨_, hOps, -⟩ := Lib.bind_eq_ok_iff.mp h
    unfold CompoundBuilder.enforceMaxOperations at hOps
    by_contra hLong
    split at hOps
    · cases hOps
    · rw [if_pos (.inr (Nat.lt_of_not_le hLong))] at hOps
      cases hOps
  have hResults : (s.reply tag (reqs.map Request.meaning)).results.length ≤
      (build (.new tag) reqs).ops.length := by
    rw [ops_build, List.length_map]
    exact s.length_execute_le _ _
  rw [exchange, h, Lib.ok_bind]
  show (enforceResponseOperations _ _ _ >>= _) = _
  rw [enforceResponseOperations, if_neg (by omega), Lib.ok_bind]
  rfl

variable {names : List Name} {fh : Handle} {code : Refusal}

/-- What is sent behind the first two operations. -/
theorem execute_front (first : Request) (hFirst : s.step none first.meaning = .ok (some fh, []))
    (rest : List Request) :
    s.execute none ((c.sequence :: first :: rest).map Request.meaning) =
      done .sequence :: done first.meaning.1 :: s.execute (some fh) (rest.map Request.meaning) := by
  show s.execute none (c.sequence.meaning :: first.meaning :: rest.map Request.meaning) = _
  have hSequence : s.step none c.sequence.meaning = .ok (none, []) := rfl
  rw [Server.execute, hSequence]
  show _ :: s.execute none (first.meaning :: _) = _
  rw [Server.execute, hFirst]
  rfl

/-- The status of a reply is that of its last result. -/
theorem status_reply {front : List OpResponse} {last : OpResponse}
    (h : s.execute none ops = front ++ [last]) : (s.reply tag ops).status = last.status := by
  show ((s.execute none ops).getLast?.map OpResponse.status).getD .ok = _
  rw [h, List.getLast?_concat]
  rfl

theorem checkStatus_refused (front : List OpResponse)
    (h : s.execute none ops = front ++ [⟨OpNum.lookup.code, code, []⟩]) :
    (s.reply tag ops).checkStatus = .error (.nfs4 code.val) := by
  rw [CompoundResponse.checkStatus, status_reply s h, if_neg]
  intro (hOk : code.val = .ok)
  have hCode := code.property
  rw [hOk] at hCode
  cases hCode

theorem checkStatus_ok (front : List OpResponse) {last : OpResponse}
    (h : s.execute none ops = front ++ [last]) (hLast : last.status = .ok) :
    (s.reply tag ops).checkStatus = .ok () := by
  rw [CompoundResponse.checkStatus, status_reply s h, if_pos hLast]

/-- The results of the chain stand at the indices from two on. -/
theorem getElem?_chain (first : OpNum) (tail : List OpResponse) (n : Nat) :
    (∀ i < n, (done .sequence :: done first :: (List.replicate n (done .lookup) ++ tail))[2 + i]? =
      some (done .lookup)) ∧
    ∀ j, (done .sequence :: done first :: (List.replicate n (done .lookup) ++ tail))[2 + n + j]? =
      tail[j]? := by
  refine ⟨fun i hi => ?_, fun j => ?_⟩
  · rw [Nat.add_comm 2 i]
    show (List.replicate n (done .lookup) ++ tail)[i]? = _
    rw [List.getElem?_append_left (by simpa using hi), List.getElem?_replicate, if_pos hi]
  · rw [show 2 + n + j = n + j + 2 by omega]
    show (List.replicate n (done .lookup) ++ tail)[n + j]? = _
    rw [List.getElem?_append_right (by simp), List.length_replicate, Nat.add_sub_cancel_left]

/-- The reply to SEQUENCE, an operation that sets the directory, a chain of LOOKUPs and what is
asked about the object: either the chain is refused, or everything is there. -/
theorem reply_chain (tag : String) (first : Request) {dir : Handle}
    (hFirst : s.step none first.meaning = .ok (some dir, [])) (names : List Name)
    (tail : List Request) (results : Handle → List OpResponse) (last : Handle → OpResponse)
    (hTail : ∀ fh, s.execute (some fh) (tail.map Request.meaning) = results fh ++ [last fh])
    (hLast : ∀ fh, (last fh).status = .ok) :
    (∃ fh, s.resolve .nfs41 dir names = .ok fh ∧
      (s.reply tag ((c.sequence :: first :: (lookups names ++ tail)).map
        Request.meaning)).checkStatus = .ok () ∧
      (s.reply tag ((c.sequence :: first :: (lookups names ++ tail)).map Request.meaning)).results =
        done .sequence :: done first.meaning.1 ::
          (List.replicate names.length (done .lookup) ++ (results fh ++ [last fh]))) ∨
    ∃ code : Refusal, s.resolve .nfs41 dir names = .error (.nfs4 code.val) ∧
      (s.reply tag ((c.sequence :: first :: (lookups names ++ tail)).map
        Request.meaning)).checkStatus = .error (.nfs4 code.val) := by
  have hFront := c.execute_front s first hFirst (lookups names ++ tail)
  have hSplit : (lookups names ++ tail).map Request.meaning =
      (lookups names).map Request.meaning ++ tail.map Request.meaning := List.map_append
  rw [hSplit] at hFront
  have hVersion : Protocol.nfs41 ≠ .nfs3 := by decide
  -- the status of a COMPOUND is that of its last result, found or refused
  rcases s.execute_lookups hVersion (tail.map Request.meaning) names dir with
    ⟨fh, hFound, hRun⟩ | ⟨code, k, -, hFailed, hRun⟩
  · rw [hRun, hTail] at hFront
    refine .inl ⟨fh, hFound, checkStatus_ok s (done .sequence :: done first.meaning.1 ::
      (List.replicate names.length (done .lookup) ++ results fh)) ?_ (hLast fh), hFront⟩
    rw [hFront, List.cons_append, List.cons_append, List.append_assoc]
  · rw [hRun] at hFront
    refine .inr ⟨code, hFailed, checkStatus_refused s (done .sequence ::
      done first.meaning.1 :: List.replicate k (done .lookup)) ?_⟩
    rw [hFront, List.cons_append, List.cons_append]

/-- `lookup_path` of NFSv4.1 within the limits. -/
theorem lookupPath41_eq (root : Handle) {path : List Char} (hNames : components .nfs41 path ≠ [])
    (h : c.limits s "lookup_path" (c.lookupPathReqs root (components .nfs41 path)) = .ok ()) :
    c.lookupPath41 s root path = (s.resolve .nfs41 root (components .nfs41 path)).map
      (s.object .nfs41 (components .nfs41 path)) := by
  unfold lookupPath41
  dsimp only
  rw [if_neg hNames, compound, c.exchange_eq s h, Lib.ok_bind]
  unfold lookupPathReqs
  generalize components .nfs41 path = names at hNames ⊢
  have hChain := c.reply_chain s "lookup_path" (.putfh root) (dif_pos root.property) names
    [.getfh, .getattr c.bitmap] (fun fh => [⟨OpNum.getFh.code, .ok, xdrBody fh⟩])
    (fun fh => ⟨OpNum.getAttr.code, .ok, s.attrData fh⟩) (fun _ => rfl) (fun _ => rfl)
  generalize s.reply "lookup_path" _ = resp at hChain ⊢
  rcases hChain with ⟨fh, hFound, hStatus, hResults⟩ | ⟨code, hFailed, hStatus⟩
  · obtain ⟨hLookups, hBehind⟩ := getElem?_chain .putFh [⟨OpNum.getFh.code, .ok, xdrBody fh⟩,
      ⟨OpNum.getAttr.code, .ok, s.attrData fh⟩] names.length
    have hFirst : resp.opOk 0 = .ok (done .sequence) := opOk_of_getElem? (by rw [hResults]; rfl) rfl
    have hOps : opsOk resp 2 names.length = .ok () :=
      opsOk_of_getElem? (by rw [hResults]; exact hLookups)
    have hFh : resp.opOk (2 + names.length) = .ok ⟨OpNum.getFh.code, .ok, xdrBody fh⟩ :=
      opOk_of_getElem? (by rw [hResults]; exact hBehind 0) rfl
    have hAttr : resp.opOk (3 + names.length) = .ok ⟨OpNum.getAttr.code, .ok, s.attrData fh⟩ := by
      rw [show 3 + names.length = 2 + names.length + 1 by omega]
      exact opOk_of_getElem? (by rw [hResults]; exact hBehind 1) rfl
    rw [hStatus, hFirst]
    simp only [Except.mapError, Lib.ok_bind, pure_bind, hOps, hFh, hAttr, decodeFh_xdrBody,
      s.decodes, hFound, Except.map, Server.object, if_neg hNames]
    rfl
  · rw [hStatus, hFailed]
    show Except.error _ = Except.error _
    rw [classify_refusal]

/-- `navigate_to_export` within the limits. -/
theorem navigateToExport_eq {path : List Char}
    (h : c.limits s "navigate" (c.navigateReqs (parts path)) = .ok ()) :
    c.navigateToExport s path = (s.resolve .nfs41 s.root (parts path)).map Subtype.val := by
  unfold navigateToExport
  rw [c.exchange_eq s h, Lib.ok_bind]
  unfold navigateReqs
  generalize parts path = names
  have hChain := c.reply_chain s "navigate" .putrootfh rfl names [.getfh] (fun _ => [])
    (fun fh => ⟨OpNum.getFh.code, .ok, xdrBody fh⟩) (fun _ => rfl) (fun _ => rfl)
  generalize s.reply "navigate" _ = resp at hChain ⊢
  rcases hChain with ⟨fh, hFound, hStatus, hResults⟩ | ⟨code, hFailed, hStatus⟩
  · obtain ⟨hLookups, hBehind⟩ := getElem?_chain .putRootFh
      [⟨OpNum.getFh.code, .ok, xdrBody fh⟩] names.length
    have hFirst : resp.opOk 0 = .ok (done .sequence) := opOk_of_getElem? (by rw [hResults]; rfl) rfl
    have hRoot : resp.opOk 1 = .ok (done .putRootFh) := opOk_of_getElem? (by rw [hResults]; rfl) rfl
    have hOps : opsOk resp 2 names.length = .ok () :=
      opsOk_of_getElem? (by rw [hResults]; exact hLookups)
    have hFh : resp.opOk (2 + names.length) = .ok ⟨OpNum.getFh.code, .ok, xdrBody fh⟩ :=
      opOk_of_getElem? (by rw [hResults]; exact hBehind 0) rfl
    rw [hStatus, hFirst, hRoot, hOps, hFh, hFound]
    exact decodeFh_xdrBody _ _ fh
  · rw [hStatus, hFailed]
    rfl

/-- One component on NFSv4.0. -/
theorem lookup40_eq (dir : Handle) (name : Name) :
    c.lookup40 s dir name =
      (s.lookupOne .nfs40 dir name).map fun fh => ⟨fh, some (s.attr fh)⟩ := by
  have hRun : s.execute none ([Request.putfh dir, .lookup (String.ofList name), .getfh,
      .getattr c.bitmap].map Request.meaning) = done .putFh :: s.execute (some dir)
        ([Request.lookup (String.ofList name), .getfh, .getattr c.bitmap].map Request.meaning) := by
    show s.execute none (⟨.putFh, dir.val⟩ :: _) = _
    rw [Server.execute, show s.step none ⟨.putFh, dir.val⟩ = _ from dif_pos dir.property]
    rfl
  have hVersion : Protocol.nfs40 ≠ .nfs3 := by decide
  rw [← s.resolve_singleton, lookup40]
  rcases s.execute_lookups hVersion ([Request.getfh, .getattr c.bitmap].map Request.meaning)
      [name] dir with ⟨fh, hFound, hChain⟩ | ⟨code, k, hk, hFailed, hChain⟩
  · have hResults := hRun.trans (congrArg (done .putFh :: ·) hChain)
    have hStatus : (s.reply "lookup" _).checkStatus = .ok () :=
      checkStatus_ok s [done .putFh, done .lookup, ⟨OpNum.getFh.code, .ok, xdrBody fh⟩]
        hResults rfl
    generalize hResp : s.reply "lookup" _ = resp at hStatus ⊢
    have hIs : resp.results = [done .putFh, done .lookup, ⟨OpNum.getFh.code, .ok, xdrBody fh⟩,
        ⟨OpNum.getAttr.code, .ok, s.attrData fh⟩] := by
      rw [← hResp]
      exact hResults
    have hPut : resp.opOk 0 = .ok (done .putFh) := opOk_of_getElem? (by rw [hIs]; rfl) rfl
    have hOne : resp.opOk 1 = .ok (done .lookup) := opOk_of_getElem? (by rw [hIs]; rfl) rfl
    have hFh : resp.opOk 2 = .ok ⟨OpNum.getFh.code, .ok, xdrBody fh⟩ :=
      opOk_of_getElem? (by rw [hIs]; rfl) rfl
    have hAttr : resp.opOk 3 = .ok ⟨OpNum.getAttr.code, .ok, s.attrData fh⟩ :=
      opOk_of_getElem? (by rw [hIs]; rfl) rfl
    have hLength : ¬ resp.results.length ≠ 4 := by
      rw [hIs]
      exact not_not.mpr rfl
    simp only [hStatus, Lib.ok_bind, if_neg hLength, opsOk, hPut, hOne, hFh, hAttr,
      decodeFh_xdrBody, s.decodes, hFound, Except.map]
    rfl
  · obtain rfl : k = 0 := Nat.lt_one_iff.mp hk
    have hResults := hRun.trans (congrArg (done .putFh :: ·) hChain)
    rw [checkStatus_refused s [done .putFh] hResults, hFailed]
    rfl

/-- A path on NFSv4.0, one component after another. -/
theorem lookupPath40_eq (names : List Name) : ∀ (dir : Handle) (attr : Option α),
    names.foldlM (fun obj name => c.lookup40 s obj.fh name) ⟨dir, attr⟩ =
      (s.resolve .nfs40 dir names).map fun fh =>
        ⟨fh, if names = [] then attr else some (s.attr fh)⟩ := by
  have hVersion : Protocol.nfs40 ≠ .nfs3 := by decide
  induction names with
  | nil => exact fun _ _ => rfl
  | cons name names ih =>
    intro dir attr
    rw [List.foldlM_cons, c.lookup40_eq s, s.resolve_cons hVersion]
    show ((s.lookup dir _).mapError _).map _ >>= _ = _
    cases s.lookup dir (utf8 (String.ofList name)) with
    | error code => rfl
    | ok next =>
      show names.foldlM _ (⟨next, some (s.attr next)⟩ : ObjRes α) = _
      rw [ih next]
      cases names with
      | nil => rfl
      | cons other rest => rfl

end Sending

/-! ## Refinement -/

/-- A path without dots, as `lookup_path` of every version takes it. -/
def IsNormalized (path : List Char) : Prop :=
  dot ∉ parts path ∧ dotdot ∉ parts path ∧ backslash ∉ parts path

instance (path : List Char) : Decidable (IsNormalized path) :=
  inferInstanceAs (Decidable (_ ∧ _))

theorem components_of_isNormalized {path : List Char} (h : IsNormalized path)
    (version : Protocol) : components version path = parts path := by
  have hNormal : normalize (parts path) = some (parts path) := by
    rw [normalize_of_not_mem h.2.1, Option.some.injEq]
    refine List.filter_eq_self.mpr fun n hn => ?_
    simp only [decide_eq_true_eq]
    rintro rfl
    exact h.1 hn
  have hConfinable : Confinable version path := by
    cases version with
    | nfs3 => exact ⟨_, hNormal, h.2.2⟩
    | nfs40 => exact ⟨h.2.1, h.1⟩
    | nfs41 => exact h.2.1
  have hComponents := (components_of_confinable hConfinable).1
  rw [hNormal] at hComponents
  exact (Option.some.inj hComponents).symm

namespace Sending

variable (c : Sending) (s : Server α decodeAttr)

/-- Component-wise lookup has no error of the client's own. -/
theorem resolve_ne_rpc (names : List Name) : ∀ (dir : Handle) (message : String),
    s.resolve .nfs41 dir names ≠ .error (.rpc message) := by
  have hVersion : Protocol.nfs41 ≠ .nfs3 := by decide
  induction names with
  | nil => exact fun _ _ => nofun
  | cons name names ih =>
    intro dir message
    rw [s.resolve_cons hVersion]
    split
    · nofun
    · exact ih _ message

/-- A call that ends with the refusal of the limits is not answered by component-wise lookup. -/
theorem limits_of_eq {β : Type} {tag : String} {reqs : List Request} {called : Except NfsError β}
    {dir : Handle} {names : List Name} {f : Handle → β}
    (hRefused : ∀ e, c.limits s tag reqs = .error e → called = .error e)
    (h : called = (s.resolve .nfs41 dir names).map f) : c.limits s tag reqs = .ok () := by
  cases hLimits : c.limits s tag reqs with
  | ok u => rfl
  | error e =>
    obtain ⟨message, rfl⟩ := c.limits_error s hLimits
    rw [hRefused _ hLimits] at h
    cases hResolve : s.resolve .nfs41 dir names with
    | ok fh => rw [hResolve] at h; cases h
    | error e =>
      rw [hResolve] at h
      cases h
      exact absurd hResolve (resolve_ne_rpc s _ dir message)

theorem lookupPath41_limits (root : Handle) {path : List Char}
    (hNames : components .nfs41 path ≠ [])
    (h : c.lookupPath41 s root path = (s.resolve .nfs41 root (components .nfs41 path)).map
      (s.object .nfs41 (components .nfs41 path))) :
    c.limits s "lookup_path" (c.lookupPathReqs root (components .nfs41 path)) = .ok () := by
  refine c.limits_of_eq s (fun e hLimits => ?_) h
  unfold lookupPath41
  dsimp only
  rw [if_neg hNames, compound, exchange, hLimits]
  rfl

theorem navigateToExport_limits {path : List Char}
    (h : c.navigateToExport s path = (s.resolve .nfs41 s.root (parts path)).map Subtype.val) :
    c.limits s "navigate" (c.navigateReqs (parts path)) = .ok () := by
  refine c.limits_of_eq s (fun e hLimits => ?_) h
  rw [navigateToExport, exchange, hLimits]
  rfl

end Sending

/-- A session of eight operations, and replies of a hundred bytes. -/
def eightOperations : Sending where
  session := ⟨List.replicate 16 1, 1, .nfsV4p1, 1048576, 1048576, 8, 4096, 1⟩
  auth := .newNull
  minorVersion := .v1
  sessionId := ⟨List.replicate 16 1, rfl⟩
  sequenceId := 1
  slotId := 0
  highestSlotId := 0
  bitmap := [0]
  replyLen := fun _ => 100
  context := ⟨"lookup_path", .nfsV4p1, none⟩

/-- The name `b` is missing everywhere, any other one is a directory under the root. -/
def oneLevel : Server Unit (fun _ => .ok ()) where
  root := ⟨[0], by decide⟩
  lookup := fun dir name => if name = [98] then .error ⟨.noent, rfl⟩ else .ok dir
  attr := fun _ => ()
  attrData := fun _ => []
  decodes := fun _ => rfl
  lookup3 := fun dir _ => .ok dir
  attr3 := fun _ => none

/-- Thirteen components. -/
def deepPath : List Char := "a/a/a/a/a/a/a/a/a/a/a/a/a".toList

/-- The COMPOUND of thirteen components is beyond the limits of every session that
`validate_channel_attrs` accepts. -/
theorem refused_of_thirteen (c : Sending) (s : Server α decodeAttr) (root : Handle)
    (attrs : ChannelAttrs) (hAttrs : validateChannelAttrs "fore" attrs foreAttrs = .ok ())
    (hSession : c.session.maxOperations = attrs.maxOps) :
    c.limits s "lookup_path" (c.lookupPathReqs root (parts deepPath)) ≠ .ok () := by
  have hOps := maxOps_of_validateChannelAttrs hAttrs
  have hLength : (build (.new "lookup_path") (c.lookupPathReqs root (parts deepPath))).ops.length =
      17 := by
    rw [ops_build, List.length_map, List.length_map]
    rfl
  intro h
  obtain ⟨_, hEnforced, -⟩ := Lib.bind_eq_ok_iff.mp h
  rw [CompoundBuilder.enforceMaxOperations, hLength, if_neg (by decide), if_pos (by omega)]
    at hEnforced
  cases hEnforced

def eightAttrs : ChannelAttrs := ⟨0, 1048576, 1048576, 4096, 8, 1⟩

end NfsRs.Nfs41.PathLookup
