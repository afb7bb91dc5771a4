import NfsRs.Nfs41.Session

/-!
# NfsRs — the senders of COMPOUND requests

Five places of the client acquire a slot and send a COMPOUND on it: ordinary requests
(`Mount41::compound_budgeted`), data-server requests (`compound_ds_budgeted`), the lease
renewal, the return of a recalled layout or delegation (`send_recall_return`) and the
RECLAIM_COMPLETE behind a server restart. They differ in what they do with the slot for a
given reply, and this file is the table of that: for each sender, a *verdict* on a decoded
response says whether the sequence id is advanced, how the slot is dropped, and whether
the request is over, sent again, or restarted.

A reply that cannot be decoded, exceeds the channel's limits, or never comes has no
verdict: every sender then drops its slot as it stands.
-/

namespace NfsRs.Nfs41

/-! ## Verdicts -/

/-- What a sender does to the disposition of its slot. -/
inductive SlotAction where
  | keep | resolve | fence
  deriving DecidableEq, Repr

def SlotAction.apply : SlotAction → SlotDisposition → SlotDisposition
  | .keep, d => d
  | .resolve, _ => .release
  | .fence, _ => .fence

/-- The slot operations of a verdict; `target` is the slot limit of an accepted SEQUENCE
result, which goes with an advance. -/
structure Settlement where
  advance : Bool
  target : Option Nat
  action : SlotAction
  deriving DecidableEq, Repr

/-- Verdict of a sender on a decoded response. -/
inductive Verdict where
  /-- SEQUENCE itself was answered busy: resolve the slot, back off, and send the same
  frame again. -/
  | busySequence (error : NfsError)
  /-- The request is over; SEQ4 status flags are handled before the slot is resolved. -/
  | finish (settle : Settlement) (statusFlags : Option Nat)
      (result : Except NfsError CompoundResponse)
  /-- Drop the slot, back off, and start over on the current session. -/
  | retryBusy (settle : Settlement) (error : NfsError)
  /-- Drop the slot, recover the session, and start over. -/
  | recover (settle : Settlement) (error : NfsError)

/-- `sent_error`. -/
def sentError (cls : OperationClass) (context : RequestContext) (error : NfsError) : NfsError :=
  classifySentNfs41Error cls context error

/-- Where a request is sent: the session, and the slot with its sequence id. -/
structure SlotContext where
  session : Session
  slotId : Nat
  sequenceId : Nat
  deriving DecidableEq, Repr

namespace CompoundResponse

/-- The whole reply is a busy status on SEQUENCE. -/
def sequenceBusy (resp : CompoundResponse) : Bool :=
  match resp.results with
  | [op] =>
    op.opcode == OpNum.sequence.code && (op.status == .delay || op.status == .grace) &&
      resp.status == op.status
  | _ => false

def isBusy (resp : CompoundResponse) : Bool := resp.status == .delay || resp.status == .grace

/-- The statuses on which an ordinary request re-establishes the session. -/
def isSessionLoss (resp : CompoundResponse) : Bool :=
  resp.status == .badsession || resp.status == .deadsession || resp.status == .seqMisordered

end CompoundResponse

/-- What a caller of `compound` and its variants asks for: the operations that `build_ops`
appends behind SEQUENCE, and the payload of a WRITE. -/
structure CompoundRequest where
  tag : String
  ops : List EncodedOp
  requiredGeneration : Option Nat
  progressIndex : Option Nat
  dataLen : Nat
  deriving DecidableEq, Repr

namespace CompoundRequest

/-- The class of the request, the same on every slot. -/
def operationClass (r : CompoundRequest) : OperationClass := opsClass r.ops

/-- The COMPOUND for a slot, `build_ops` applied to SEQUENCE. -/
def builder (r : CompoundRequest) (ctx : SlotContext) (highestSlotId : Nat) :
    CompoundBuilder :=
  let sequenced := (CompoundBuilder.new r.tag).sequence ctx.session.id ctx.sequenceId
    ctx.slotId highestSlotId
  { sequenced with
    ops := sequenced.ops ++ r.ops
    requiredGeneration := r.requiredGeneration }

end CompoundRequest

/-- Check a SEQUENCE result and its slot limits; both come before any slot operation. -/
def settleSequence (ctx : SlotContext) (op : OpResponse) :
    Except NfsError (SequenceResult × Nat) := do
  let sequence ← validateSequenceResult op ctx.session.id ctx.sequenceId ctx.slotId
  let target ← checkSlotLimits ctx.session.maxRequests sequence.highestSlotId
    sequence.targetHighestSlotId
  .ok (sequence, target)

/-- `DELAY_RETRY_MAX`. -/
def delayRetryMax : Nat := 16

/-! ## Ordinary and data-server requests -/

/-- The SEQUENCE result of an ordinary response, when it has a successful one. -/
def acceptedSequence (ctx : SlotContext) (resp : CompoundResponse) :
    Except NfsError (Option (SequenceResult × Nat)) :=
  match resp.results with
  | [] => .ok none
  | op :: _ =>
    if op.opcode = OpNum.sequence.code ∧ op.status = .ok then
      (settleSequence ctx op).map some
    else .ok none

/-- An uncertain mutation: it is not repeated. -/
def uncertainOutcome (b : CompoundBuilder) (context : RequestContext) (error : NfsError) :
    NfsError :=
  .outcomeError .uncertain b.operationClass .verifyThenResume context error

/-- The exit of an error with a server's answer: the slot is resolved unless the error is
no authoritative answer. -/
def finishError (b : CompoundBuilder) (context : RequestContext)
    (accepted : Option (SequenceResult × Nat)) (error : NfsError) : Verdict :=
  let error := sentError b.operationClass context error
  .finish
    { advance := accepted.isSome, target := accepted.map (·.2)
      action := if error.outcome?.isNone then .resolve else .keep }
    none (.error error)

/-- The exit of a busy status on an operation behind SEQUENCE. -/
def finishBusy (b : CompoundBuilder) (context : RequestContext)
    (accepted : Option (SequenceResult × Nat)) (resp : CompoundResponse) : Verdict :=
  let settle : Settlement :=
    { advance := accepted.isSome, target := accepted.map (·.2), action := .resolve }
  match b.canRetryBusy resp with
  | .error e => .finish settle none (.error (sentError b.operationClass context e))
  | .ok false =>
    .finish settle none (.error (uncertainOutcome b context (.nfs4 resp.status)))
  | .ok true => .retryBusy settle (.nfs4 resp.status)

/-- `compound_budgeted` behind the SEQUENCE result. -/
def compoundOutcome (b : CompoundBuilder) (progressIndex : Option Nat) (ctx : SlotContext)
    (attempt : Nat) (accepted : Option (SequenceResult × Nat)) (resp : CompoundResponse) :
    Verdict :=
  let context := requestContext b.tag ctx.session ctx.slotId ctx.sequenceId
  let settle (action : SlotAction) : Settlement :=
    { advance := accepted.isSome, target := accepted.map (·.2), action := action }
  let flags := accepted.map (·.1.statusFlags)
  let answered := { resp with sessionGeneration := ctx.session.generation }
  -- a partial response is kept once the progress operation has succeeded
  if progressIndex.any (fun index => (resp.opOk index).toBool) && accepted.isSome then
    .finish (settle .resolve) flags (.ok answered)
  else if resp.status = .ok then
    match resp.opOk 0 with
    | .error e => .finish (settle .keep) none (.error (sentError b.operationClass context e))
    | .ok _ => .finish (settle .resolve) flags (.ok answered)
  else if resp.isBusy then finishBusy b context accepted resp
  else if resp.isSessionLoss && b.requiresOriginalSession then
    .finish (settle .keep) none (.error (uncertainOutcome b context (.nfs4 resp.status)))
  else if resp.isSessionLoss && attempt < delayRetryMax then
    .recover (settle .resolve) (.nfs4 resp.status)
  else finishError b context accepted (.nfs4 resp.status)

/-- `Mount41::compound_budgeted` on a decoded response, in iteration `attempt` of its
session recoveries. -/
def compoundVerdict (b : CompoundBuilder) (progressIndex : Option Nat) (ctx : SlotContext)
    (attempt : Nat) (resp : CompoundResponse) : Verdict :=
  if resp.sequenceBusy then .busySequence (.nfs4 resp.status)
  else match acceptedSequence ctx resp with
    | .error e =>
      .finish { advance := false, target := none, action := .fence } none
        (.error (sentError b.operationClass
          (requestContext b.tag ctx.session ctx.slotId ctx.sequenceId) e))
    | .ok accepted => compoundOutcome b progressIndex ctx attempt accepted resp

/-- `Mount41::compound_ds_budgeted` on a decoded response. -/
def compoundDsVerdict (b : CompoundBuilder) (ctx : SlotContext) (resp : CompoundResponse) :
    Verdict :=
  let context := requestContext b.tag ctx.session ctx.slotId ctx.sequenceId
  if resp.sequenceBusy then .busySequence (.nfs4 resp.status)
  else match resp.opOk 0 with
    | .error e => finishError b context none e
    | .ok op =>
      match settleSequence ctx op with
      | .error e =>
        .finish { advance := false, target := none, action := .fence } none
          (.error (sentError b.operationClass context e))
      | .ok accepted =>
        if resp.status = .ok then
          .finish { advance := true, target := some accepted.2, action := .resolve } none
            (.ok { resp with sessionGeneration := ctx.session.generation })
        else if resp.isBusy then finishBusy b context (some accepted) resp
        else finishError b context (some accepted) (.nfs4 resp.status)

/-! ## Background senders -/

/-- `validate_renewal_response`. -/
def validateRenewalResponse (ctx : SlotContext) (resp : CompoundResponse) :
    Except NfsError SequenceResult := do
  resp.checkStatus
  if resp.tag ≠ "renew" then .error (.xdr "renewal tag mismatch")
  else if resp.results.length ≠ 1 then
    .error (.xdr s!"renewal response has {resp.results.length} operations, expected 1")
  else
    let sequence ← resp.opOk 0
    if sequence.opcode ≠ OpNum.sequence.code then
      .error (.xdr s!"renewal result 0 opcode mismatch: got {sequence.opcode}, expected 53")
    else if sequence.data.length ≠ 36 then
      .error (.xdr s!"renewal SEQUENCE result length {sequence.data.length}, expected 36")
    else validateSequenceResult sequence ctx.session.id ctx.sequenceId ctx.slotId

def NfsError.isNfs4 : NfsError → Bool
  | .nfs4 _ => true
  | _ => false

/-- One round of `LeaseRenewal::start` on a decoded response. -/
def renewVerdict (ctx : SlotContext) (resp : CompoundResponse) : Verdict :=
  match validateRenewalResponse ctx resp with
  | .error e =>
    .finish { advance := false, target := none
              action := if NfsError.isNfs4 e then .resolve else .keep } none (.error e)
  | .ok sequence =>
    match checkSlotLimits ctx.session.maxRequests sequence.highestSlotId
        sequence.targetHighestSlotId with
    | .error e => .finish { advance := false, target := none, action := .keep } none (.error e)
    | .ok target =>
      .finish { advance := true, target := some target, action := .resolve } none (.ok resp)

/-- `send_recall_return` on a decoded response. -/
def recallReturnVerdict (b : CompoundBuilder) (ctx : SlotContext) (resp : CompoundResponse) :
    Verdict :=
  let context := requestContext "recall_return" ctx.session ctx.slotId ctx.sequenceId
  let sequence := resp.opOk 0 >>= settleSequence ctx
  if resp.results.length = b.ops.length ∧ (resp.opOk 0).toBool = true ∧ resp.status = .ok then
    match sequence with
    | .error e => .finish { advance := false, target := none, action := .keep } none (.error e)
    | .ok accepted =>
      .finish { advance := true, target := some accepted.2, action := .resolve } none (.ok resp)
  else
    let error := sentError b.operationClass context
      (if resp.status = .ok then .xdr "recall return missing valid SEQUENCE"
        else .nfs4 resp.status)
    .finish
      { advance := sequence.toBool, target := sequence.toOption.map (·.2)
        action := if error.outcome?.isNone then .resolve else .keep }
      none (.error error)

/-- The RECLAIM_COMPLETE task of `handle_seq_status` on a decoded response. It advances on
any successful first result, without comparing its identity. -/
def reclaimCompleteVerdict (resp : CompoundResponse) : Verdict :=
  let sequenceOk := (resp.opOk 0).toBool
  if sequenceOk = true ∧ resp.status = .ok then
    .finish { advance := true, target := none, action := .resolve } none (.ok resp)
  else
    let error : NfsError :=
      if resp.status = .ok then .xdr "RECLAIM_COMPLETE missing valid SEQUENCE"
      else .nfs4 resp.status
    .finish
      { advance := sequenceOk, target := none
        action := if error.isReplayProtocolError then .keep else .resolve }
      none (.error error)

/-! ## All senders -/

/-- The senders, with what each sends behind SEQUENCE. -/
inductive Sender where
  | compound (request : CompoundRequest)
  | dataServer (request : CompoundRequest)
  | renew
  | recallReturn (ops : List EncodedOp)
  | reclaimComplete
  deriving DecidableEq, Repr

namespace Sender

/-- The request of a sender; the background senders build theirs in place. -/
def request : Sender → CompoundRequest
  | .compound r => r
  | .dataServer r => r
  | .renew =>
    { tag := "renew", ops := [], requiredGeneration := none, progressIndex := none
      dataLen := 0 }
  | .recallReturn ops =>
    { tag := "recall_return", ops := ops, requiredGeneration := none, progressIndex := none
      dataLen := 0 }
  | .reclaimComplete =>
    { tag := "reclaim_complete", ops := [{ opcode := .reclaimComplete, args := xdrU32 0 }]
      requiredGeneration := none, progressIndex := none, dataLen := 0 }

/-- Whether the sender arms `fence_on_drop` before its first frame. A read-only request is
not fenced; the background senders always are. -/
def fences : Sender → Bool
  | .compound r => r.operationClass != .readOnly
  | .dataServer r => r.operationClass != .readOnly
  | .renew | .recallReturn _ | .reclaimComplete => true

/-- Verdict of a sender on a decoded response. -/
def verdict (sender : Sender) (ctx : SlotContext) (highestSlotId attempt : Nat)
    (resp : CompoundResponse) : Verdict :=
  let b := sender.request.builder ctx highestSlotId
  match sender with
  | .compound r => compoundVerdict b r.progressIndex ctx attempt resp
  | .dataServer _ => compoundDsVerdict b ctx resp
  | .renew => renewVerdict ctx resp
  | .recallReturn _ => recallReturnVerdict b ctx resp
  | .reclaimComplete => reclaimCompleteVerdict resp

end Sender

/-! ## Replies of a conforming server -/

/-- The server accepted the request: SEQUENCE succeeded and echoes the identity and slot
limits of the channel, and the overall status is that of the last operation evaluated. -/
structure Accepting (ctx : SlotContext) (opCount : Nat) (resp : CompoundResponse) : Prop where
  sequence : ∃ op rest settled, resp.results = op :: rest ∧ op.opcode = OpNum.sequence.code ∧
    op.status = .ok ∧ settleSequence ctx op = .ok settled
  length_le : resp.results.length ≤ opCount
  status : ∀ op, resp.results.getLast? = some op → resp.status = op.status

/-- The server refused the request at SEQUENCE, so that nothing was executed for it. -/
def Refusal (resp : CompoundResponse) : Prop :=
  resp.status ≠ .ok ∧
    (resp.results = [] ∨
      ∃ op, resp.results = [op] ∧ op.opcode = OpNum.sequence.code ∧ op.status = resp.status)

instance (resp : CompoundResponse) : Decidable (Refusal resp) :=
  match h : resp.results with
  | [] => decidable_of_iff (resp.status ≠ .ok) (by simp [Refusal, h])
  | [op] =>
    decidable_of_iff (resp.status ≠ .ok ∧ op.opcode = OpNum.sequence.code ∧
      op.status = resp.status) (by simp [Refusal, h])
  | _ :: _ :: _ => .isFalse (by simp [Refusal, h])

/-- `Accepting` as a test. -/
def accepts (ctx : SlotContext) (opCount : Nat) (resp : CompoundResponse) : Bool :=
  match resp.results with
  | [] => false
  | op :: rest =>
    op.opcode == OpNum.sequence.code && op.status == .ok && (settleSequence ctx op).toBool &&
      decide (rest.length + 1 ≤ opCount) &&
      resp.status == ((op :: rest).getLast (List.cons_ne_nil op rest)).status

variable {resp : CompoundResponse} {ctx : SlotContext}

/-- The test on a reply, and what it says. -/
theorem accepts_iff {opCount : Nat} :
    accepts ctx opCount resp = true ↔ Accepting ctx opCount resp := by
  unfold accepts
  cases hRes : resp.results with
  | nil =>
    refine iff_of_false nofun fun h => ?_
    obtain ⟨op, rest, -, hCons, -⟩ := h.sequence
    rw [hRes] at hCons
    cases hCons
  | cons op rest =>
    simp only [Bool.and_eq_true, beq_iff_eq, decide_eq_true_eq]
    constructor
    · rintro ⟨⟨⟨⟨hCode, hOk⟩, hSettle⟩, hLen⟩, hStatus⟩
      cases hs : settleSequence ctx op with
      | error e =>
        rw [hs] at hSettle
        cases hSettle
      | ok settled =>
        refine ⟨⟨op, rest, settled, hRes, hCode, hOk, hs⟩, by rw [hRes]; exact hLen, ?_⟩
        intro last hLast
        rw [hRes, List.getLast?_eq_some_getLast (List.cons_ne_nil op rest)] at hLast
        cases hLast
        exact hStatus
    · intro h
      obtain ⟨op', rest', settled, hCons, hCode, hOk, hSettle⟩ := h.sequence
      rw [hRes] at hCons
      obtain ⟨rfl, rfl⟩ := List.cons.inj hCons
      have hLen := h.length_le
      rw [hRes] at hLen
      refine ⟨⟨⟨⟨hCode, hOk⟩, by rw [hSettle]; rfl⟩, hLen⟩, h.status _ ?_⟩
      rw [hRes]
      exact List.getLast?_eq_some_getLast (List.cons_ne_nil op rest)

instance (ctx : SlotContext) (opCount : Nat) (resp : CompoundResponse) :
    Decidable (Accepting ctx opCount resp) := decidable_of_iff _ accepts_iff

/-- The slot operations of a verdict; the busy loop on SEQUENCE resolves and keeps the
slot. -/
def Verdict.settlement : Verdict → Settlement
  | .busySequence _ => { advance := false, target := none, action := .resolve }
  | .finish settle _ _ | .retryBusy settle _ | .recover settle _ => settle

@[simp] theorem finishError_advance (b : CompoundBuilder) (context : RequestContext)
    (accepted : Option (SequenceResult × Nat)) (e : NfsError) :
    (finishError b context accepted e).settlement.advance = accepted.isSome := rfl

@[simp] theorem finishBusy_advance (b : CompoundBuilder) (context : RequestContext)
    (accepted : Option (SequenceResult × Nat)) (resp : CompoundResponse) :
    (finishBusy b context accepted resp).settlement.advance = accepted.isSome := by
  unfold finishBusy
  dsimp only
  split <;> rfl

/-- Behind SEQUENCE, an ordinary request advances exactly on an accepted result. -/
@[simp] theorem compoundOutcome_advance (b : CompoundBuilder) (progressIndex : Option Nat)
    (ctx : SlotContext) (attempt : Nat) (accepted : Option (SequenceResult × Nat))
    (resp : CompoundResponse) :
    (compoundOutcome b progressIndex ctx attempt accepted resp).settlement.advance =
      accepted.isSome := by
  unfold compoundOutcome
  dsimp only
  split
  · rfl
  split
  · split <;> rfl
  split
  · exact finishBusy_advance b _ accepted resp
  split
  · rfl
  split
  · rfl
  · rfl

/-- The verdict hands SEQ4 status flags on before the slot is resolved. -/
def Verdict.flagged : Verdict → Bool
  | .finish _ (some _) _ => true
  | _ => false

theorem finishBusy_flagged (b : CompoundBuilder) (context : RequestContext)
    (accepted : Option (SequenceResult × Nat)) (resp : CompoundResponse) :
    (finishBusy b context accepted resp).flagged = false := by
  unfold finishBusy
  dsimp only
  split <;> rfl

/-- Status flags come with an accepted SEQUENCE result. -/
theorem compoundOutcome_flagged {b : CompoundBuilder} {progressIndex : Option Nat} {attempt : Nat}
    {accepted : Option (SequenceResult × Nat)}
    (h : (compoundOutcome b progressIndex ctx attempt accepted resp).flagged = true) :
    accepted.isSome = true := by
  have hMap : ∀ settle result,
      (Verdict.finish settle (accepted.map (·.1.statusFlags)) result).flagged = true →
        accepted.isSome = true := by
    intro settle result hFlag
    cases accepted with
    | none => cases hFlag
    | some settled => rfl
  unfold compoundOutcome at h
  dsimp only at h
  split at h
  · exact hMap _ _ h
  split at h
  · split at h
    · cases h
    · exact hMap _ _ h
  split at h
  · rw [finishBusy_flagged] at h
    cases h
  split at h
  · cases h
  split at h
  · cases h
  · cases h

/-- Only an advanced slot waits for status flags to be handled. -/
theorem Sender.verdict_flagged {sender : Sender} {highestSlotId attempt : Nat}
    (h : (sender.verdict ctx highestSlotId attempt resp).flagged = true) :
    (sender.verdict ctx highestSlotId attempt resp).settlement.advance = true := by
  cases sender with
  | compound r =>
    simp only [Sender.verdict, compoundVerdict] at h ⊢
    split at h
    · cases h
    rw [if_neg ‹_›]
    split at h
    · cases h
    · rw [compoundOutcome_advance]
      exact compoundOutcome_flagged h
  | dataServer r =>
    simp only [Sender.verdict, compoundDsVerdict] at h
    repeat' split at h
    all_goals first | cases h | (rw [finishBusy_flagged] at h; cases h)
  | renew =>
    simp only [Sender.verdict, renewVerdict] at h
    repeat' split at h
    all_goals cases h
  | recallReturn ops =>
    simp only [Sender.verdict, recallReturnVerdict] at h
    repeat' split at h
    all_goals cases h
  | reclaimComplete =>
    simp only [Sender.verdict, reclaimCompleteVerdict] at h
    repeat' split at h
    all_goals cases h

theorem Refusal.opOk_zero (h : Refusal resp) : ∃ e, resp.opOk 0 = .error e := by
  obtain ⟨hStatus, hNil | ⟨op, hOne, -, hOp⟩⟩ := h
  · exact ⟨_, by rw [CompoundResponse.opOk, hNil]; rfl⟩
  · refine ⟨.nfs4 op.status, ?_⟩
    rw [CompoundResponse.opOk, hOne]
    exact if_neg (by rw [hOp]; exact hStatus)

theorem Refusal.acceptedSequence (h : Refusal resp) (ctx : SlotContext) :
    acceptedSequence ctx resp = .ok none := by
  obtain ⟨hStatus, hNil | ⟨op, hOne, -, hOp⟩⟩ := h
  · rw [Nfs41.acceptedSequence, hNil]
  · rw [Nfs41.acceptedSequence, hOne]
    exact if_neg fun hOk => hStatus (hOp.symm.trans hOk.2)

/-- **A refused request keeps its sequence id**, whoever sent it. -/
theorem Refusal.not_advance (h : Refusal resp) (sender : Sender) (ctx : SlotContext)
    (highestSlotId attempt : Nat) :
    (sender.verdict ctx highestSlotId attempt resp).settlement.advance = false := by
  -- no sender gets a SEQUENCE result out of a refusal
  obtain ⟨e, hOp⟩ := h.opOk_zero
  cases sender with
  | compound r =>
    simp only [Sender.verdict, compoundVerdict, h.acceptedSequence ctx]
    split
    · rfl
    · rw [compoundOutcome_advance]
      rfl
  | dataServer r =>
    simp only [Sender.verdict, compoundDsVerdict, hOp]
    split
    · rfl
    · exact finishError_advance _ _ _ _
  | renew =>
    have hErr : validateRenewalResponse ctx resp = .error (.nfs4 resp.status) := by
      unfold validateRenewalResponse CompoundResponse.checkStatus
      rw [if_neg h.1]
      rfl
    simp only [Sender.verdict, renewVerdict, hErr]
    rfl
  | recallReturn ops =>
    simp only [Sender.verdict, recallReturnVerdict, hOp]
    rw [if_neg fun hOk => h.1 hOk.2.2]
    rfl
  | reclaimComplete =>
    simp only [Sender.verdict, reclaimCompleteVerdict, hOp]
    rw [if_neg fun hOk => h.1 hOk.2]
    rfl

/-- Behind a good status and a good first result, renewal validation fails only with errors
of its own. -/
theorem renewal_error_not_nfs4 {op : OpResponse} {e : NfsError} (hStatus : resp.status = .ok)
    (hOp : resp.opOk 0 = .ok op) (h : validateRenewalResponse ctx resp = .error e) :
    NfsError.isNfs4 e = false := by
  unfold validateRenewalResponse CompoundResponse.checkStatus at h
  rw [if_pos hStatus] at h
  rcases Lib.bind_eq_error_iff.mp h with h | ⟨-, -, h⟩
  · cases h
  split at h
  · cases h; rfl
  split at h
  · cases h; rfl
  rw [hOp] at h
  rcases Lib.bind_eq_error_iff.mp h with h | ⟨op', -, h⟩
  · cases h
  split at h
  · cases h; rfl
  split at h
  · cases h; rfl
  · unfold validateSequenceResult at h
    split at h
    · cases h; rfl
    split at h
    · cases h; rfl
    split at h
    · cases h; rfl
    · cases h

namespace Accepting

variable {ctx : SlotContext} {opCount : Nat} {resp : CompoundResponse}

theorem sequenceBusy_eq_false (h : Accepting ctx opCount resp) : resp.sequenceBusy = false := by
  obtain ⟨op, rest, -, hRes, -, hOk, -⟩ := h.sequence
  unfold CompoundResponse.sequenceBusy
  rw [hRes]
  cases rest with
  | nil => simp [hOk]
  | cons _ _ => rfl

theorem opOk_zero (h : Accepting ctx opCount resp) :
    ∃ op settled, resp.opOk 0 = .ok op ∧ settleSequence ctx op = .ok settled := by
  obtain ⟨op, rest, settled, hRes, -, hOk, hSettle⟩ := h.sequence
  refine ⟨op, settled, ?_, hSettle⟩
  rw [CompoundResponse.opOk, hRes]
  exact if_pos hOk

theorem acceptedSequence (h : Accepting ctx opCount resp) :
    ∃ settled, acceptedSequence ctx resp = .ok (some settled) := by
  obtain ⟨op, rest, settled, hRes, hCode, hOk, hSettle⟩ := h.sequence
  refine ⟨settled, ?_⟩
  rw [Nfs41.acceptedSequence, hRes]
  dsimp only
  rw [if_pos ⟨hCode, hOk⟩, hSettle]
  rfl

/-- The reply to SEQUENCE alone carries the status of SEQUENCE. -/
theorem status_of_one (h : Accepting ctx 1 resp) : resp.status = .ok := by
  obtain ⟨op, rest, -, hRes, -, hOk, -⟩ := h.sequence
  have hLen := h.length_le
  rw [hRes, List.length_cons] at hLen
  have hRest : rest = [] := List.length_eq_zero_iff.mp (by omega)
  rw [h.status op (by rw [hRes, hRest]; rfl), hOk]

/-- **An accepted request is never released with its sequence id unused**: the sender
advances, or leaves its slot fenced. -/
theorem advance_or_unresolved (sender : Sender) (highestSlotId attempt : Nat)
    (h : Accepting ctx (sender.request.ops.length + 1) resp) :
    (sender.verdict ctx highestSlotId attempt resp).settlement.advance = true ∨
      (sender.verdict ctx highestSlotId attempt resp).settlement.action ≠ .resolve := by
  obtain ⟨op, settled, hOp, hSettle⟩ := h.opOk_zero
  cases sender with
  | compound r =>
    -- behind an accepted SEQUENCE the rest of the reply does not matter
    obtain ⟨settled', hAcc⟩ := h.acceptedSequence
    left
    simp only [Sender.verdict, compoundVerdict, hAcc, h.sequenceBusy_eq_false]
    exact compoundOutcome_advance _ _ _ _ _ _
  | dataServer r =>
    left
    simp only [Sender.verdict, compoundDsVerdict, hOp, hSettle, h.sequenceBusy_eq_false]
    rw [if_neg (by simp)]
    split
    · rfl
    split
    · exact finishBusy_advance _ _ _ _
    · exact finishError_advance _ _ _ _
  | renew =>
    simp only [Sender.verdict, renewVerdict]
    split
    · -- the status is OK, so the error is no NFS status and the fence stays
      rename_i e hErr
      have hNot : NfsError.isNfs4 e = false := renewal_error_not_nfs4 h.status_of_one hOp hErr
      right
      simp [Verdict.settlement, hNot]
    · split
      · exact .inr nofun
      · exact .inl rfl
  | recallReturn ops =>
    left
    have hSeq : (resp.opOk 0 >>= settleSequence ctx) = .ok settled := by rw [hOp]; exact hSettle
    simp only [Sender.verdict, recallReturnVerdict, hSeq]
    split
    · rfl
    · rfl
  | reclaimComplete =>
    left
    simp only [Sender.verdict, reclaimCompleteVerdict, hOp]
    split
    · rfl
    · rfl

end Accepting

end NfsRs.Nfs41
