import NfsRs.Rpc.Transport

/-!
# NfsRs — NFSv4.1 COMPOUND requests and responses

The operations the client can send with their side-effect classes, the request builder
with the checks made before a request is sent, and the decoded response. A request is an
ordered list of operations whose first one is SEQUENCE; the class of the request is the
highest class of the others, and it decides what an unanswered request means.

Decoding stops at the operation's opcode and status: `OpResponse.data` is what is left of
the reply behind them, for the caller of the operation to read.
-/

namespace NfsRs.Nfs41

open NfsRs.Rpc (pad4)

/-! ## Operations -/

/-- `nfs_opnum4`, as far as the client sends it. -/
inductive OpNum where
  | access | close | commit | create | getAttr | getFh | link | lookup | lookupp | openFile
  | putFh | putRootFh | read | readDir | readLink | remove | rename | restoreFh | saveFh
  | setAttr | write | openAttr | lock | lockt | locku | layoutGet | layoutCommit
  | layoutReturn | getDeviceInfo | exchangeId | createSession | destroySession
  | bindConnToSession | sequence | reclaimComplete | destroyClientId | delegReturn
  | testStateId | freeStateId | allocate | copy | deallocate | offloadCancel | readPlus
  | seek | clone | getXattr | setXattr | listXattrs | removeXattr
  deriving DecidableEq, Repr

namespace OpNum

/-- The operation number on the wire, `opcode as u32`. -/
def code : OpNum → Nat
  | .access => 3 | .close => 4 | .commit => 5 | .create => 6 | .delegReturn => 8
  | .getAttr => 9 | .getFh => 10 | .link => 11 | .lock => 12 | .lockt => 13 | .locku => 14
  | .lookup => 15 | .lookupp => 16 | .openFile => 18 | .openAttr => 20 | .putFh => 22
  | .putRootFh => 24 | .read => 25 | .readDir => 26 | .readLink => 27 | .remove => 28
  | .rename => 29 | .restoreFh => 31 | .saveFh => 32 | .setAttr => 34 | .write => 38
  | .bindConnToSession => 41 | .exchangeId => 42 | .createSession => 43
  | .destroySession => 44 | .getDeviceInfo => 47 | .layoutCommit => 49 | .layoutGet => 50
  | .layoutReturn => 51 | .sequence => 53 | .testStateId => 55 | .freeStateId => 56
  | .destroyClientId => 57 | .reclaimComplete => 58 | .allocate => 59 | .copy => 60
  | .deallocate => 62 | .offloadCancel => 66 | .readPlus => 68 | .seek => 69 | .clone => 71
  | .getXattr => 72 | .setXattr => 73 | .listXattrs => 74 | .removeXattr => 75

/-- Side-effect class of an operation. -/
def opClass : OpNum → OperationClass
  | .access | .getAttr | .getFh | .getDeviceInfo | .lockt | .lookup | .lookupp | .putFh
  | .putRootFh | .read | .readDir | .readLink | .restoreFh | .saveFh | .testStateId
  | .readPlus | .seek | .getXattr | .listXattrs => .readOnly
  | .bindConnToSession | .createSession | .destroyClientId | .destroySession | .exchangeId
  | .reclaimComplete | .sequence => .sessionControl
  | .close | .commit | .create | .delegReturn | .freeStateId | .layoutCommit | .layoutGet
  | .layoutReturn | .link | .lock | .locku | .openFile | .openAttr | .remove | .rename
  | .setAttr | .write | .allocate | .deallocate | .copy | .clone | .offloadCancel
  | .setXattr | .removeXattr => .replaySensitive

/-- The v4.2 mutations that may only be replayed in their original session. -/
def pinsSession : OpNum → Bool
  | .allocate | .deallocate | .copy | .clone | .offloadCancel | .setXattr | .removeXattr =>
    true
  | _ => false

/-- Fixed result payload that a cached reply of the operation must have room for. -/
def fixedResult : OpNum → Nat
  | .copy => 32
  | .setXattr | .removeXattr => 20
  | _ => 0

end OpNum

/-- Position in the derived order `ReadOnly < SessionControl < ReplaySensitive`. -/
def classRank : OperationClass → Nat
  | .readOnly => 0
  | .sessionControl => 1
  | .replaySensitive => 2

/-- The higher of two classes. -/
def classMax (a b : OperationClass) : OperationClass :=
  if classRank a < classRank b then b else a

/-- The operation with a number on the wire. -/
def OpNum.ofCode? : Nat → Option OpNum
  | 3 => some .access | 4 => some .close | 5 => some .commit | 6 => some .create
  | 8 => some .delegReturn | 9 => some .getAttr | 10 => some .getFh | 11 => some .link
  | 12 => some .lock | 13 => some .lockt | 14 => some .locku | 15 => some .lookup
  | 16 => some .lookupp | 18 => some .openFile | 20 => some .openAttr | 22 => some .putFh
  | 24 => some .putRootFh | 25 => some .read | 26 => some .readDir | 27 => some .readLink
  | 28 => some .remove | 29 => some .rename | 31 => some .restoreFh | 32 => some .saveFh
  | 34 => some .setAttr | 38 => some .write | 41 => some .bindConnToSession
  | 42 => some .exchangeId | 43 => some .createSession | 44 => some .destroySession
  | 47 => some .getDeviceInfo | 49 => some .layoutCommit | 50 => some .layoutGet
  | 51 => some .layoutReturn | 53 => some .sequence | 55 => some .testStateId
  | 56 => some .freeStateId | 57 => some .destroyClientId | 58 => some .reclaimComplete
  | 59 => some .allocate | 60 => some .copy | 62 => some .deallocate | 66 => some .offloadCancel
  | 68 => some .readPlus | 69 => some .seek | 71 => some .clone | 72 => some .getXattr
  | 73 => some .setXattr | 74 => some .listXattrs | 75 => some .removeXattr
  | _ => none

theorem OpNum.ofCode?_code (op : OpNum) : OpNum.ofCode? op.code = some op := by
  cases op <;> rfl

/-! ## Requests -/

/-- A big-endian 32-bit word. -/
def xdrU32 (n : Nat) : List UInt8 :=
  [UInt8.ofNat (n / 2 ^ 24), UInt8.ofNat (n / 2 ^ 16), UInt8.ofNat (n / 2 ^ 8), UInt8.ofNat n]

/-- An operation with its encoded arguments. -/
structure EncodedOp where
  opcode : OpNum
  args : List UInt8
  deriving DecidableEq, Repr

/-- Highest class of a list of operations; SEQUENCE alone is session control. -/
def opsClass (ops : List EncodedOp) : OperationClass :=
  match ops.map fun op => op.opcode.opClass with
  | [] => .sessionControl
  | cls :: rest => rest.foldl classMax cls

/-- `CompoundBuilder`. -/
structure CompoundBuilder where
  tag : String
  ops : List EncodedOp
  requiredGeneration : Option Nat
  deriving DecidableEq, Repr

/-- A single operation result. -/
structure OpResponse where
  opcode : Nat
  status : Nfs4ErrorCode
  data : List UInt8
  deriving DecidableEq, Repr

/-- A decoded COMPOUND4res. -/
structure CompoundResponse where
  tag : String
  status : Nfs4ErrorCode
  results : List OpResponse
  sessionGeneration : Nat
  deriving DecidableEq, Repr

namespace CompoundResponse

/-- Overall status of the COMPOUND. -/
def checkStatus (r : CompoundResponse) : Except NfsError Unit :=
  if r.status = .ok then .ok () else .error (.nfs4 r.status)

/-- The result at an index, when its operation succeeded. -/
def opOk (r : CompoundResponse) (index : Nat) : Except NfsError OpResponse :=
  match r.results[index]? with
  | none => .error (.xdr s!"COMPOUND response missing op at index {index}")
  | some op => if op.status = .ok then .ok op else .error (.nfs4 op.status)

end CompoundResponse

namespace CompoundBuilder

def new (tag : String) : CompoundBuilder := { tag := tag, ops := [], requiredGeneration := none }

/-- Append an operation. -/
def op (b : CompoundBuilder) (opcode : OpNum) (args : List UInt8) : CompoundBuilder :=
  { b with ops := b.ops ++ [{ opcode := opcode, args := args }] }

/-- SEQUENCE, with `sa_cachethis` still false. -/
def sequence (b : CompoundBuilder) (sessionId : List UInt8)
    (sequenceId slotId highestSlotId : Nat) : CompoundBuilder :=
  b.op .sequence (sessionId ++ xdrU32 sequenceId ++ xdrU32 slotId ++ xdrU32 highestSlotId ++
    xdrU32 0)

/-- Highest class of the operations behind SEQUENCE. -/
def operationClass (b : CompoundBuilder) : OperationClass := opsClass (b.ops.drop 1)

/-- Session loss does not prove that the first attempt failed. -/
def requiresOriginalSession (b : CompoundBuilder) : Bool :=
  b.ops.any fun op => op.opcode.pinsSession

/-- Smallest reply of this COMPOUND that the slot's cache must hold. -/
def minimumCachedResponseSize (b : CompoundBuilder) : Nat :=
  let paddedTagLen := (b.tag.utf8ByteSize + 3) / 4 * 4
  let extra := (b.ops.map fun op => op.opcode.fixedResult).sum
  let size := 24 + 12 + paddedTagLen + 44 + (b.ops.length - 1) * 8 + extra
  min size (2 ^ 32 - 1)

/-- Set `sa_cachethis` for a replay-sensitive COMPOUND, and refuse a channel that cannot
cache its smallest reply. -/
def applySequenceCachePolicy (b : CompoundBuilder) (maxCachedResponseSize : Nat) :
    Except NfsError CompoundBuilder :=
  let cachethis := b.operationClass == .replaySensitive
  if cachethis && maxCachedResponseSize < b.minimumCachedResponseSize then
    .error (.rpc s!"replay-sensitive COMPOUND requires at least {b.minimumCachedResponseSize} cached response bytes, server negotiated {maxCachedResponseSize}")
  else match b.ops with
    | [] => .error (.rpc "COMPOUND has no SEQUENCE operation")
    | seq :: rest =>
      if seq.opcode ≠ .sequence ∨ seq.args.length < 32 then
        .error (.rpc "COMPOUND first operation is not a valid SEQUENCE")
      else
        let args := seq.args.take 28 ++ xdrU32 (if cachethis then 1 else 0) ++ seq.args.drop 32
        .ok { b with ops := { seq with args := args } :: rest }

def enforceMaxOperations (b : CompoundBuilder) (maximum : Nat) : Except NfsError Unit :=
  if b.ops.length ≥ 2 ^ 32 then .error (.rpc "COMPOUND operation count exceeds u32")
  else if b.ops.length = 0 ∨ b.ops.length > maximum then
    .error (.rpc s!"COMPOUND contains {b.ops.length} operations; channel maximum is {maximum}")
  else .ok ()

/-- Length of `encode_with_header` for a credential and verifier of `authLen` bytes. -/
def encodedLen (b : CompoundBuilder) (authLen : Nat) : Nat :=
  16 + authLen + (4 + b.tag.utf8ByteSize + pad4 b.tag.utf8ByteSize) + 4 + 4 +
    (b.ops.map fun op => 4 + op.args.length).sum

end CompoundBuilder

/-- The scan of `can_retry_busy`: the results answered so far were of operations that
changed nothing while `safe` holds. -/
def scanBusy (total : Nat) (status : Nfs4ErrorCode) :
    (index : Nat) → (safe : Bool) → List EncodedOp → List OpResponse → Except NfsError Bool
  | index, safe, request :: requests, reply :: replies =>
    if request.opcode.code ≠ reply.opcode then
      .error (.xdr "busy COMPOUND opcode mismatch")
    else if reply.status ≠ .ok then
      if index + 1 ≠ total ∨ reply.status ≠ status then
        .error (.xdr "busy COMPOUND status mismatch")
      else .ok safe
    else
      scanBusy total status (index + 1)
        (safe && request.opcode.opClass != .replaySensitive) requests replies
  | _, _, _, _ => .error (.xdr "busy COMPOUND omitted its failing operation")

/-- A later DELAY cannot replay an earlier mutation: whether the whole COMPOUND may be sent
again after a busy status. -/
def CompoundBuilder.canRetryBusy (b : CompoundBuilder) (response : CompoundResponse) :
    Except NfsError Bool :=
  if response.results.isEmpty ∨ response.results.length > b.ops.length then
    .error (.xdr "invalid busy COMPOUND result count")
  else scanBusy response.results.length response.status 0 true b.ops response.results

/-- A busy scan that allows the retry saw no result of a mutation, save the busy one that
ended the COMPOUND. -/
theorem scanBusy_true {total : Nat} {status : Nfs4ErrorCode} :
    ∀ {ops : List EncodedOp} {results : List OpResponse} {index : Nat} {safe : Bool},
      index + results.length = total →
      scanBusy total status index safe ops results = .ok true →
      safe = true ∧ ∀ p ∈ ops.zip results, p.1.opcode.opClass = .replaySensitive →
        p.2.status = status ∧ p.2.status ≠ .ok := by
  intro ops
  induction ops with
  | nil => intro results index safe _ h; cases h
  | cons request requests ih =>
    intro results index safe hLen h
    cases results with
    | nil => cases h
    | cons reply replies =>
      rw [List.length_cons] at hLen
      unfold scanBusy at h
      split at h
      · cases h
      split at h
      · -- the busy result is the last one
        rename_i hBad
        split at h
        · cases h
        rename_i hEnd
        have hLast : index + 1 = total := Decidable.not_not.mp fun hne => hEnd (.inl hne)
        have hStatus : reply.status = status := Decidable.not_not.mp fun hne => hEnd (.inr hne)
        have hNil : replies = [] := List.length_eq_zero_iff.mp (by omega)
        subst hNil
        have hSafe : safe = true := by simpa using h
        refine ⟨hSafe, fun p hp _ => ?_⟩
        obtain rfl : p = (request, reply) := by simpa using hp
        exact ⟨hStatus, hBad⟩
      -- a result that is OK makes the retry unsafe if it is of a mutation
      · obtain ⟨hSafe, hRest⟩ := ih (by omega) h
        rw [Bool.and_eq_true, bne_iff_ne] at hSafe
        refine ⟨hSafe.1, fun p hp hMut => ?_⟩
        rcases List.mem_cons.mp hp with rfl | hp
        · exact absurd hMut hSafe.2
        · exact hRest p hp hMut

end NfsRs.Nfs41
