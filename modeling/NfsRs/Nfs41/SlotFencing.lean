import NfsRs.Nfs41.ValidatedAdvance

/-!
# NfsRs — why a slot is fenced

A fenced slot is lost for the session, so a slot should be fenced only when a request with its
current sequence id may have been written and no SEQUENCE result came back for it. The senders
arm `fence_on_drop` before they call the transport, and disarm it on an answer; a call that
fails with evidence that nothing was sent, or a future dropped before the frame is handed
over, leaves the slot armed and therefore fenced. So does a request that is cancelled while
the status flags of its accepted SEQUENCE result are handled.

With those apart, and under replies that go with their SEQUENCE result, every fence is
justified, and a request that ended unsent leaves its slot free with the sequence id unused.

## Main results

- `judge_releases` : no sender leaves a slot armed behind a reply in order.
- `fencing_justified` : every fence has its reason.
- `unsent_fenced` : an unsent request, and an answered one, whose slots are fenced.
-/

namespace NfsRs.Nfs41

variable {session : Session} {ctx : SlotContext} {resp : CompoundResponse} {op : OpResponse}

/-! ## Replies in order -/

/-- The statuses that only SEQUENCE returns. -/
def sessionLevel (status : Nfs4ErrorCode) : Bool :=
  status == .badsession || status == .deadsession || status == .seqMisordered ||
    status == .retryUncachedRep || status == .seqFalseRetry

/-- The reply behind an accepted SEQUENCE is the one to the request of the sender. -/
structure WellShaped (sender : Sender) (resp : CompoundResponse) : Prop where
  tag : resp.tag = sender.request.tag
  status : sessionLevel resp.status = false
  length_le : resp.results.length ≤ sender.request.ops.length + 1
  complete : resp.status = .ok → resp.results.length = sender.request.ops.length + 1
  last : ∀ op, resp.results.getLast? = some op → resp.status = op.status
  sequence : ∀ op, resp.opOk 0 = .ok op → op.data.length = 36

/-- **A reply in order.** A SEQUENCE result with the identity of the request has slot limits of
the session and comes with the reply to the request; to the background RECLAIM_COMPLETE no
other successful first result comes. -/
structure ReplyInOrder (owner : SlotOwner) (ctx : SlotContext) (resp : CompoundResponse) :
    Prop where
  limits : sequenceValid ctx resp = true →
    ∃ op accepted, resp.opOk 0 = .ok op ∧ settleSequence ctx op = .ok accepted
  shape : sequenceValid ctx resp = true → ∀ sender, owner = .sender sender →
    WellShaped sender resp
  identity : owner.unchecking = true → (resp.opOk 0).toBool = true →
    sequenceValid ctx resp = true

theorem outcome_sentError_nfs4 (cls : OperationClass) (context : RequestContext)
    {status : Nfs4ErrorCode} (h : sessionLevel status = false) :
    (sentError cls context (.nfs4 status)).outcome? = none := by
  have hReplay : NfsError.isReplayProtocolError (.nfs4 status) = false := by
    simp only [sessionLevel, Bool.or_eq_false_iff] at h
    simp [NfsError.isReplayProtocolError, h]
  rw [sentError, classifySentNfs41Error_nfs4 cls context hReplay]
  rfl

theorem isSessionLoss_of_sessionLevel (h : sessionLevel resp.status = false) :
    resp.isSessionLoss = false := by
  simp only [sessionLevel, Bool.or_eq_false_iff] at h
  simp [CompoundResponse.isSessionLoss, h]

theorem finishBusy_action (b : CompoundBuilder) (context : RequestContext)
    (accepted : Option (SequenceResult × Nat)) (resp : CompoundResponse) :
    (finishBusy b context accepted resp).settlement.action = .resolve := by
  unfold finishBusy
  dsimp only
  split <;> rfl

theorem finishError_action (b : CompoundBuilder) (context : RequestContext)
    (accepted : Option (SequenceResult × Nat)) {status : Nfs4ErrorCode}
    (h : sessionLevel status = false) :
    (finishError b context accepted (.nfs4 status)).settlement.action = .resolve := by
  simp [finishError, Verdict.settlement, outcome_sentError_nfs4 _ _ h]

/-! ## No sender leaves its slot armed behind a reply in order -/

theorem compoundOutcome_action (b : CompoundBuilder) (progressIndex : Option Nat) (attempt : Nat)
    (accepted : Option (SequenceResult × Nat)) (hOp : resp.opOk 0 = .ok op)
    (hStatus : sessionLevel resp.status = false) :
    (compoundOutcome b progressIndex ctx attempt accepted resp).settlement.action = .resolve := by
  unfold compoundOutcome
  dsimp only
  rw [hOp, isSessionLoss_of_sessionLevel hStatus]
  split
  · rfl
  split
  · rfl
  split
  · exact finishBusy_action _ _ _ _
  · exact finishError_action _ _ _ hStatus

theorem sequenceBusy_of_opOk (hOp : resp.opOk 0 = .ok op) : resp.sequenceBusy = false := by
  unfold CompoundResponse.sequenceBusy
  split
  next first hRes =>
    have hFirst : first.status = .ok := by
      by_contra hNot
      simp [CompoundResponse.opOk, hRes, hNot] at hOp
    simp [hFirst]
  next => rfl

/-- A good first result. -/
theorem results_of_opOk (hOp : resp.opOk 0 = .ok op) :
    ∃ rest, resp.results = op :: rest ∧ op.status = .ok := by
  unfold CompoundResponse.opOk at hOp
  cases hRes : resp.results with
  | nil =>
    rw [hRes] at hOp
    cases hOp
  | cons first rest =>
    simp only [hRes, List.getElem?_cons_zero] at hOp
    split at hOp
    next hStatus =>
      cases hOp
      exact ⟨rest, rfl, hStatus⟩
    next => cases hOp

variable {attempt highestSlotId : Nat} {owner : SlotOwner} {accepted : SequenceResult × Nat}

/-- A settled SEQUENCE result, with its parts. -/
theorem settleSequence_ok (h : settleSequence ctx op = .ok accepted) :
    op.opcode = OpNum.sequence.code ∧
    validateSequenceResult op ctx.session.id ctx.sequenceId ctx.slotId = .ok accepted.1 ∧
    checkSlotLimits ctx.session.maxRequests accepted.1.highestSlotId
      accepted.1.targetHighestSlotId = .ok accepted.2 := by
  obtain ⟨sequence, hValidate, hRest⟩ := Lib.bind_eq_ok_iff.mp h
  obtain ⟨target, hLimits, hEq⟩ := Lib.bind_eq_ok_iff.mp hRest
  cases hEq
  refine ⟨?_, hValidate, hLimits⟩
  by_contra hNot
  simp [validateSequenceResult, hNot] at hValidate

theorem acceptedSequence_of_settle (hOp : resp.opOk 0 = .ok op)
    (hSettle : settleSequence ctx op = .ok accepted) :
    acceptedSequence ctx resp = .ok (some accepted) := by
  obtain ⟨rest, hRes, hStatus⟩ := results_of_opOk hOp
  simp [acceptedSequence, hRes, hStatus, (settleSequence_ok hSettle).1, hSettle, Except.map]

/-- A renewal whose SEQUENCE was accepted disarms its slot. -/
theorem renewVerdict_action (hOp : resp.opOk 0 = .ok op)
    (hSettle : settleSequence ctx op = .ok accepted) (hShape : WellShaped .renew resp) :
    (renewVerdict ctx resp).settlement.action = .resolve := by
  obtain ⟨rest, hRes, hOk⟩ := results_of_opOk hOp
  obtain ⟨hCode, hValidate, hLimits⟩ := settleSequence_ok hSettle
  have hLen : resp.results.length = 1 := by
    have hLe := hShape.length_le
    simp only [hRes, List.length_cons, Sender.request, List.length_nil] at hLe ⊢
    omega
  have hStatus : resp.status = .ok := by
    rw [hRes, List.length_cons] at hLen
    have hNil : rest = [] := List.length_eq_zero_iff.mp (by omega)
    rw [hShape.last op (by rw [hRes, hNil]; rfl), hOk]
  have hTag : resp.tag = "renew" := hShape.tag
  have hRenewal : validateRenewalResponse ctx resp = .ok accepted.1 := by
    simp [validateRenewalResponse, CompoundResponse.checkStatus, hStatus, hTag, hLen, hOp, hCode,
      hShape.sequence op hOp, hValidate, bind, Except.bind]
  simp [renewVerdict, hRenewal, hLimits, Verdict.settlement]

theorem recallReturnVerdict_action {ops : List EncodedOp} (hOp : resp.opOk 0 = .ok op)
    (hSettle : settleSequence ctx op = .ok accepted)
    (hShape : WellShaped (.recallReturn ops) resp) :
    (recallReturnVerdict ((Sender.recallReturn ops).request.builder ctx highestSlotId) ctx
      resp).settlement.action = .resolve := by
  by_cases hStatus : resp.status = .ok
  · have hLen : resp.results.length = ops.length + 1 := hShape.complete hStatus
    simp [recallReturnVerdict, CompoundRequest.builder, CompoundBuilder.sequence,
      CompoundBuilder.op, CompoundBuilder.new, Sender.request, hSettle, hStatus, hLen, hOp,
      Except.toBool, Verdict.settlement, bind, Except.bind]
  · simp [recallReturnVerdict, hStatus, Verdict.settlement,
      outcome_sentError_nfs4 _ _ hShape.status]

theorem reclaimCompleteVerdict_action (hOp : resp.opOk 0 = .ok op)
    (hStatus : sessionLevel resp.status = false) :
    (reclaimCompleteVerdict resp).settlement.action = .resolve := by
  simp only [sessionLevel, Bool.or_eq_false_iff] at hStatus
  by_cases hOk : resp.status = .ok
  · simp [reclaimCompleteVerdict, hOp, hOk, Except.toBool, Verdict.settlement]
  · simp [reclaimCompleteVerdict, hOp, hOk, Except.toBool, Verdict.settlement,
      NfsError.isReplayProtocolError, hStatus]

theorem establishOutcome_action (accepted : Option (SequenceResult × Nat))
    (resp : CompoundResponse) : (establishOutcome accepted resp).settle.action = .keep := by
  unfold establishOutcome
  dsimp only
  split
  · rfl
  split <;> rfl

theorem lookVerdict_action (rest : Except NfsError Unit) (hOp : resp.opOk 0 = .ok op)
    (hSettle : settleSequence ctx op = .ok accepted) :
    (lookVerdict ctx resp rest).settle.action = .keep := by
  unfold lookVerdict
  split
  · rfl
  next first hBoth =>
    obtain ⟨-, -, hFirst⟩ := Lib.bind_eq_ok_iff.mp hBoth
    cases hOp.symm.trans hFirst
    rw [hSettle]
    dsimp only
    split <;> rfl

/-- The requests that only look are not sent again, and leave no flags. -/
theorem lookVerdict_next (rest : Except NfsError Unit) {next : ReplyEnd}
    (h : ∀ result, next ≠ .done result) : (lookVerdict ctx resp rest).next ≠ next := by
  unfold lookVerdict
  repeat' split
  all_goals exact (h _).symm

/-- **Behind a reply in order every sender disarms its slot**; those of the mount's setup never
arm it. -/
theorem judge_releases (hOrder : ReplyInOrder owner ctx resp)
    (hValid : sequenceValid ctx resp = true) :
    (owner.judge ctx highestSlotId attempt resp).settle.action = .resolve ∨
    ((∃ b, owner = .bootstrap b) ∧
      (owner.judge ctx highestSlotId attempt resp).settle.action = .keep) := by
  obtain ⟨op, accepted, hOp, hSettle⟩ := hOrder.limits hValid
  cases owner with
  | sender sender =>
    left
    have hShape := hOrder.shape hValid sender rfl
    cases sender with
    | compound r =>
      simp only [SlotOwner.judge, Sender.verdict, compoundVerdict, sequenceBusy_of_opOk hOp,
        acceptedSequence_of_settle hOp hSettle]
      exact compoundOutcome_action _ _ _ _ hOp hShape.status
    | dataServer r =>
      simp only [SlotOwner.judge, Sender.verdict, compoundDsVerdict, sequenceBusy_of_opOk hOp, hOp,
        hSettle]
      rw [if_neg (by exact Bool.false_ne_true)]
      split
      · rfl
      split
      · exact finishBusy_action _ _ _ _
      · exact finishError_action _ _ _ hShape.status
    | renew => exact renewVerdict_action hOp hSettle hShape
    | recallReturn ops => exact recallReturnVerdict_action hOp hSettle hShape
    | reclaimComplete => exact reclaimCompleteVerdict_action hOp hShape.status
  | bootstrap sender =>
    refine .inr ⟨⟨sender, rfl⟩, ?_⟩
    cases sender with
    | reclaimComplete =>
      simp only [SlotOwner.judge, BootstrapSender.verdict, establishVerdict, hOp, hSettle]
      exact establishOutcome_action _ _
    | navigate components => exact lookVerdict_action _ hOp hSettle
    | fsLimits => exact lookVerdict_action _ hOp hSettle

/-- Without the SEQUENCE result of the request no sender advances. -/
theorem judge_not_advance (hOrder : ReplyInOrder owner ctx resp)
    (hInvalid : sequenceValid ctx resp = false) :
    (owner.judge ctx highestSlotId attempt resp).settle.advance = false := by
  by_contra hNot
  have hAdvance := Bool.eq_true_of_not_eq_false hNot
  cases hOwner : owner.unchecking with
  | false =>
    have hValid := judge_advance hOwner hAdvance
    rw [hInvalid] at hValid
    cases hValid
  | true =>
    have hReclaim : owner = .sender .reclaimComplete := by
      unfold SlotOwner.unchecking at hOwner
      split at hOwner
      next => rfl
      next => cases hOwner
    subst hReclaim
    have hOk : (resp.opOk 0).toBool = true := by
      simp only [SlotOwner.judge, Sender.verdict, reclaimCompleteVerdict] at hAdvance
      split at hAdvance
      next hBoth => exact hBoth.1
      next => exact hAdvance
    rw [hOrder.identity rfl hOk] at hInvalid
    cases hInvalid

/-- A sender that sends again has disarmed its slot, or never armed it. -/
theorem judge_resend (h : (owner.judge ctx highestSlotId attempt resp).next = .resend) :
    (owner.judge ctx highestSlotId attempt resp).settle.action = .resolve ∨
    ((∃ b, owner = .bootstrap b) ∧
      (owner.judge ctx highestSlotId attempt resp).settle.action = .keep) := by
  cases owner with
  | sender sender =>
    left
    show (sender.verdict ctx highestSlotId attempt resp).settlement.action = .resolve
    replace h : (sender.verdict ctx highestSlotId attempt resp).next = .resend := h
    cases hVerdict : sender.verdict ctx highestSlotId attempt resp with
    | busySequence e => rfl
    -- no other verdict is followed by the same frame
    | finish settle flags result =>
      rw [hVerdict] at h
      cases flags <;> cases h
    | retryBusy settle e =>
      rw [hVerdict] at h
      cases h
    | recover settle e =>
      rw [hVerdict] at h
      cases h
  | bootstrap sender =>
    refine .inr ⟨⟨sender, rfl⟩, ?_⟩
    cases sender with
    | reclaimComplete =>
      simp only [SlotOwner.judge, BootstrapSender.verdict, establishVerdict] at h ⊢
      split
      · exact establishOutcome_action _ _
      split
      · rfl
      · exact establishOutcome_action _ _
    | navigate components | fsLimits => exact absurd h (lookVerdict_next _ nofun)

/-- Status flags are handled behind an advance of an ordinary sender only. -/
theorem judge_flags {result : Except NfsError CompoundResponse}
    (h : (owner.judge ctx highestSlotId attempt resp).next = .flags result) :
    (owner.judge ctx highestSlotId attempt resp).settle.advance = true ∧
      ∃ sender, owner = .sender sender := by
  cases owner with
  | sender sender =>
    refine ⟨Sender.verdict_flagged ?_, sender, rfl⟩
    replace h : (sender.verdict ctx highestSlotId attempt resp).next = .flags result := h
    cases hVerdict : sender.verdict ctx highestSlotId attempt resp with
    | finish settle flags result =>
      cases flags with
      | some flags => rfl
      | none =>
        rw [hVerdict] at h
        cases h
    | busySequence e | retryBusy settle e | recover settle e =>
      rw [hVerdict] at h
      cases h
  | bootstrap sender =>
    cases sender with
    | reclaimComplete =>
      simp only [SlotOwner.judge, BootstrapSender.verdict, establishVerdict, establishOutcome] at h
      repeat' split at h
      all_goals cases h
    | navigate components | fsLimits => exact absurd h (lookVerdict_next _ nofun)

theorem Verdict.busy_of_resend {v : Verdict} (h : v.next = .resend) :
    ∃ e, v = .busySequence e := by
  cases v with
  | busySequence e => exact ⟨e, rfl⟩
  | finish settle flags result => cases flags <;> cases h
  | retryBusy settle e | recover settle e => cases h

/-- A running mount sends the same frame again behind a busy SEQUENCE only. -/
theorem Sender.verdict_resend {sender : Sender}
    (h : (sender.verdict ctx highestSlotId attempt resp).next = .resend) :
    resp.sequenceBusy = true := by
  obtain ⟨e, hBusy⟩ := Verdict.busy_of_resend h
  cases sender with
  | compound r =>
    have hGoesOn := compoundVerdict_goesOn ((Sender.compound r).request.builder ctx highestSlotId)
      r.progressIndex ctx attempt resp
    simp only [Sender.verdict] at hBusy
    rwa [hBusy] at hGoesOn
  | dataServer r =>
    simp only [Sender.verdict, compoundDsVerdict, finishBusy] at hBusy
    repeat' split at hBusy
    all_goals first | assumption | cases hBusy
  | renew =>
    simp only [Sender.verdict, renewVerdict] at hBusy
    repeat' split at hBusy
    all_goals cases hBusy
  | recallReturn ops =>
    simp only [Sender.verdict, recallReturnVerdict] at hBusy
    repeat' split at hBusy
    all_goals cases hBusy
  | reclaimComplete =>
    simp only [Sender.verdict, reclaimCompleteVerdict] at hBusy
    repeat' split at hBusy
    all_goals cases hBusy

/-- A sender that sends again behind its own SEQUENCE result has advanced. -/
theorem judge_resend_advance (hOrder : ReplyInOrder owner ctx resp)
    (h : (owner.judge ctx highestSlotId attempt resp).next = .resend)
    (hValid : sequenceValid ctx resp = true) :
    (owner.judge ctx highestSlotId attempt resp).settle.advance = true := by
  obtain ⟨op, accepted, hOp, hSettle⟩ := hOrder.limits hValid
  cases owner with
  | sender sender =>
    have hBusy := Sender.verdict_resend h
    rw [sequenceBusy_of_opOk hOp] at hBusy
    cases hBusy
  | bootstrap sender =>
    cases sender with
    | reclaimComplete =>
      simp only [SlotOwner.judge, BootstrapSender.verdict, establishVerdict, hOp, hSettle,
        establishOutcome]
      split
      · rfl
      split <;> rfl
    | navigate components | fsLimits => exact absurd h (lookVerdict_next _ nofun)

/-- What a judgement on a reply in order does to the slot. -/
structure JudgedInOrder (owner : SlotOwner) (valid : Bool) (j : Judgement) : Prop where
  releases : valid = true →
    j.settle.action = .resolve ∨ (∃ b, owner = .bootstrap b) ∧ j.settle.action = .keep
  stays : valid = false → j.settle.advance = false
  resend : j.next = .resend →
    j.settle.action = .resolve ∨ (∃ b, owner = .bootstrap b) ∧ j.settle.action = .keep
  resendAdvance : j.next = .resend → valid = true → j.settle.advance = true
  flags : ∀ result, j.next = .flags result → j.settle.action = .resolve

theorem judge_inOrder (highestSlotId attempt : Nat) (hOrder : ReplyInOrder owner ctx resp) :
    JudgedInOrder owner (sequenceValid ctx resp)
      (owner.judge ctx highestSlotId attempt resp) where
  releases := judge_releases hOrder
  stays := judge_not_advance hOrder
  resend := judge_resend
  resendAdvance := judge_resend_advance hOrder
  flags result hNext := by
    obtain ⟨hAdvance, sender, hOwner⟩ := judge_flags hNext
    have hValid : sequenceValid ctx resp = true := by
      by_contra hNot
      have hStay : (owner.judge ctx highestSlotId attempt resp).settle.advance = false :=
        judge_not_advance hOrder (Bool.eq_false_of_not_eq_true hNot)
      cases hStay.symm.trans hAdvance
    rcases judge_releases hOrder hValid with hResolve | ⟨⟨b, hBootstrap⟩, -⟩
    · exact hResolve
    · cases hOwner.symm.trans hBootstrap

/-! ## Runs -/

/-- A fence with its reason: a request with the slot's current sequence id may have been
written, and its SEQUENCE result has not come. -/
structure Fence.Justified (f : Fence) : Prop where
  written : f.turn.written = true
  current : f.turn.count = f.current
  unanswered : f.turn.validated = false

/-- What a holder's phase says of its slot. -/
def PhaseOk (advances : Nat) (turn : SlotTurn) : TurnPhase → Prop
  | .acquired => turn.disposition = .release ∧ turn.count = advances ∧ turn.validated = false
  | .calling => turn.count = advances ∧ turn.validated = false
  | .backoff => turn.disposition = .release ∧ turn.written = true ∧
    (turn.count = advances → turn.validated = false)
  | .settling action _ _ => action = .resolve ∧ turn.written = true

structure TurnOk (advances : Nat) (turn : SlotTurn) : Prop where
  bootstrap : ∀ b, turn.owner = .bootstrap b → turn.disposition = .release
  phase : PhaseOk advances turn turn.phase

structure FencingInv (s : SlotRecords) : Prop where
  fences : ∀ f ∈ s.fences, f.Justified
  turns : ∀ slot turn, s.held slot = some turn → TurnOk (s.table.advances slot) turn

/-- **What fencing relies on.** Replies are in order, and no armed slot is given up before a
frame is handed over, or while status flags are handled. -/
def FencingInOrder (session : Session) (s : SlotRecords) : SlotReplyEvent → Prop
  | .reply slot _ resp => ∀ turn, s.held slot = some turn →
    ReplyInOrder turn.owner (turn.context session slot) resp
  | .abandon slot _ => ∀ turn, s.held slot = some turn → turn.disposition = .fence →
    turn.written = true ∧ turn.phase.isSettling = false
  | _ => True

namespace FencingInv

variable {s s' : SlotRecords} {slot : Nat} {turn : SlotTurn}

theorem initial : FencingInv (.initial session) where
  fences _ hf := nomatch hf
  turns _ _ hHeld := nomatch hHeld

theorem advances_dropSlot (t : SlotTable) (slot : Nat) (d : SlotDisposition) :
    (t.dropSlot slot d).advances = t.advances := by
  cases d <;> rfl

/-- The invariant but for the holder of one slot. -/
structure But (s : SlotRecords) (slot : Nat) : Prop where
  fences : ∀ f ∈ s.fences, f.Justified
  turns : ∀ slot' turn, slot' ≠ slot → s.held slot' = some turn →
    TurnOk (s.table.advances slot') turn

theorem but (h : FencingInv s) (slot : Nat) : But s slot where
  fences := h.fences
  turns slot' turn _ hHeld := h.turns slot' turn hHeld

theorem But.setTurn (h : But s slot) (hTurn : TurnOk (s.table.advances slot) turn) :
    FencingInv (s.setTurn slot turn) where
  fences := h.fences
  turns slot' turn' hHeld := by
    by_cases hSlot : slot' = slot
    · subst hSlot
      cases (SlotRecords.held_setTurn s turn).symm.trans hHeld
      exact hTurn
    · rw [SlotRecords.held_setTurn_of_ne s turn hSlot] at hHeld
      exact h.turns slot' turn' hSlot hHeld

theorem But.dropTurn (h : But s slot)
    (hFence : turn.disposition = .fence →
      Fence.Justified { slot := slot, turn := turn, current := s.table.advances slot }) :
    FencingInv (s.dropTurn slot turn) where
  fences := by
    simp only [SlotRecords.dropTurn]
    split
    next hDisposition => exact List.forall_mem_cons.mpr ⟨hFence hDisposition, h.fences⟩
    next => exact h.fences
  turns slot' turn' hHeld := by
    by_cases hSlot : slot' = slot
    · subst hSlot
      cases (SlotRecords.held_dropTurn s turn).symm.trans hHeld
    · rw [SlotRecords.held_dropTurn_of_ne s turn hSlot] at hHeld
      have hOk := h.turns slot' turn' hSlot hHeld
      simpa [SlotRecords.dropTurn, advances_dropSlot] using hOk

variable {answer : SlotAnswer}

theorem But.finish (h : But s slot) {result : Option (Except NfsError CompoundResponse)}
    (hFence : turn.disposition = .fence →
      Fence.Justified { slot := slot, turn := turn, current := s.table.advances slot }) :
    FencingInv (s.finish slot turn answer result) := by
  unfold SlotRecords.finish
  dsimp only
  split
  next => exact ⟨(h.dropTurn hFence).fences, (h.dropTurn hFence).turns⟩
  next => exact h.dropTurn hFence

/-- The slot operations of a judgement touch one slot. -/
theorem But.settle (h : But s slot) (answer : SlotAnswer) (settle : Settlement) :
    But (s.settle slot answer settle) slot where
  fences := h.fences
  turns slot' turn' hSlot hHeld := by
    have hOk := h.turns slot' turn' hSlot hHeld
    have hSame : (s.settle slot answer settle).table.advances slot' = s.table.advances slot' := by
      cases hTarget : settle.target <;> cases hAdvance : settle.advance <;>
        simp [SlotRecords.settle, hTarget, hAdvance, SlotTable.advance, SlotTable.setTarget,
          Function.update_of_ne hSlot]
    rw [hSame]
    exact hOk

theorem advances_settle_of_not {settle : Settlement} (hAdvance : settle.advance = false) :
    (s.settle slot answer settle).table.advances = s.table.advances := by
  cases hTarget : settle.target <;>
    simp [SlotRecords.settle, hTarget, hAdvance, SlotTable.setTarget]

theorem advances_settle_of_advance {settle : Settlement} (hAdvance : settle.advance = true) :
    (s.settle slot answer settle).table.advances slot = s.table.advances slot + 1 := by
  cases hTarget : settle.target <;>
    simp [SlotRecords.settle, hTarget, hAdvance, SlotTable.advance, SlotTable.setTarget]

/-- The disposition that a sender leaves behind a reply with its SEQUENCE result. -/
theorem apply_release {action : SlotAction} {owner : SlotOwner}
    (h : action = .resolve ∨ (∃ b, owner = .bootstrap b) ∧ action = .keep)
    {d : SlotDisposition} (hBootstrap : ∀ b, owner = .bootstrap b → d = .release) :
    action.apply d = .release := by
  rcases h with rfl | ⟨⟨b, hOwner⟩, rfl⟩
  · rfl
  · exact hBootstrap b hOwner

/-- A reply in order validates the request, or leaves its slot armed and unanswered. -/
theorem conclude {attempt : Nat} {resp : CompoundResponse} (h : FencingInv s)
    (hHeld : s.held slot = some turn) (hPhase : turn.phase = .calling)
    (hWritten : turn.written = true)
    (hOrder : ReplyInOrder turn.owner (turn.context session slot) resp) :
    FencingInv (s.conclude session slot turn attempt resp) := by
  have hOk := h.turns slot turn hHeld
  have hCalling := hOk.phase
  rw [hPhase] at hCalling
  obtain ⟨hCount, hUnvalidated⟩ := hCalling
  have hJudged := judge_inOrder s.table.highestSlotId attempt hOrder
  unfold SlotRecords.conclude
  dsimp only
  generalize turn.owner.judge (turn.context session slot) s.table.highestSlotId attempt resp = j
    at hJudged ⊢
  have hBut := (h.but slot).settle
    { owner := turn.owner, ctx := turn.context session slot, resp := resp } j.settle
  split
  next hNext =>
    have hRelease := apply_release (hJudged.resend hNext) hOk.bootstrap
    refine hBut.setTurn ⟨fun _ _ => hRelease, hRelease, hWritten, fun hSame => ?_⟩
    show (turn.validated || sequenceValid _ resp) = false
    rw [hUnvalidated, Bool.false_or]
    by_contra hNot
    have hAdvance := hJudged.resendAdvance hNext (Bool.eq_true_of_not_eq_false hNot)
    rw [advances_settle_of_advance hAdvance] at hSame
    have hNow : turn.count = s.table.advances slot + 1 := hSame
    omega
  next result hNext =>
    exact hBut.setTurn ⟨hOk.bootstrap, hJudged.flags result hNext, hWritten⟩
  next result hNext =>
    refine hBut.finish fun hFence => ?_
    cases hValid : sequenceValid (turn.context session slot) resp with
    | true =>
      -- the slot of an answered request is not armed
      have hRelease := apply_release (hJudged.releases hValid) hOk.bootstrap
      cases hRelease.symm.trans hFence
    | false =>
      refine ⟨hWritten, ?_, by simp [hUnvalidated]⟩
      rw [advances_settle_of_not (hJudged.stays hValid)]
      exact hCount

/-- **One step.** A slot is fenced only for a frame that was handed over and has no answer that
was validated. -/
theorem step {e : SlotReplyEvent} (h : FencingInv s) (hInOrder : FencingInOrder session s e)
    (hMove : ReplyMove session s e s') : FencingInv s' := by
  cases hMove with
  | @acquire owner slot table hAcquire =>
    have hTable : But { s with table := table } slot :=
      ⟨h.fences, fun slot' turn _ hHeld => by
        have hOk := h.turns slot' turn hHeld
        rw [SlotTable.advances_acquire hAcquire]
        exact hOk⟩
    refine hTable.setTurn ⟨fun _ _ => rfl, rfl, ?_, rfl⟩
    rw [SlotTable.advances_acquire hAcquire]
  | @start slot turn hHeld hPhase =>
    have hOk := h.turns slot turn hHeld
    have hAcquired := hOk.phase
    rw [hPhase] at hAcquired
    refine (h.but slot).setTurn ⟨fun b hOwner => ?_, hAcquired.2⟩
    have hFences : turn.owner.fences = false := by
      rw [show turn.owner = .bootstrap b from hOwner]
      rfl
    rw [hFences]
    exact hOk.bootstrap b hOwner
  | @transmit slot turn hHeld hPhase =>
    have hOk := h.turns slot turn hHeld
    refine (h.but slot).setTurn ⟨hOk.bootstrap, ?_⟩
    have hCalling := hOk.phase
    rw [hPhase] at hCalling
    rw [hPhase]
    exact hCalling
  | reply hHeld hPhase hWritten =>
    exact h.conclude hHeld hPhase hWritten (hInOrder _ hHeld)
  | @resend slot turn hHeld hPhase =>
    have hOk := h.turns slot turn hHeld
    have hBackoff := hOk.phase
    rw [hPhase] at hBackoff
    refine (h.but slot).setTurn ⟨fun b hOwner => ?_, rfl, ?_⟩
    · have hFences : turn.owner.fences = false := by
        rw [show turn.owner = .bootstrap b from hOwner]
        rfl
      rw [hFences]
      exact hOk.bootstrap b hOwner
    · by_cases hSame : turn.count = s.table.advances slot
      · simp [hBackoff.2.2 hSame]
      · simp [hSame]
  | @settled slot turn action resp result hHeld hPhase =>
    have hSettling := (h.turns slot turn hHeld).phase
    rw [hPhase] at hSettling
    refine (h.but slot).finish fun hFence => ?_
    rw [hSettling.1] at hFence
    cases hFence
  | @abandon slot reason turn hHeld hPossible =>
    have hOk := h.turns slot turn hHeld
    refine (h.but slot).dropTurn fun hFence => ?_
    obtain ⟨hWritten, hNotSettling⟩ := hInOrder turn hHeld hFence
    have hPhaseOk := hOk.phase
    -- only a call under way can drop an armed slot: before it, and in a backoff, none is armed
    cases hPhase : turn.phase with
    | acquired =>
      rw [hPhase] at hPhaseOk
      cases hPhaseOk.1.symm.trans hFence
    | calling =>
      rw [hPhase] at hPhaseOk
      exact ⟨hWritten, hPhaseOk.1, hPhaseOk.2⟩
    | backoff =>
      rw [hPhase] at hPhaseOk
      cases hPhaseOk.1.symm.trans hFence
    | settling action resp result =>
      rw [hPhase] at hNotSettling
      cases hNotSettling

/-- A request that ended without a frame handed over leaves its slot free, with the sequence id
that it would have used. -/
theorem unsent {reason : Abandonment} (h : FencingInv s)
    (hInOrder : FencingInOrder session s (.abandon slot reason))
    (hHeld : s.held slot = some turn) (hUnsent : turn.written = false) :
    slot ∈ (s.dropTurn slot turn).table.freePool ∧
      (s.dropTurn slot turn).table.advances slot = turn.count := by
  have hRelease : turn.disposition = .release := by
    cases hDisposition : turn.disposition with
    | release => rfl
    | fence =>
      have hWritten := (hInOrder turn hHeld hDisposition).1
      cases hUnsent.symm.trans hWritten
  have hPhaseOk := (h.turns slot turn hHeld).phase
  refine ⟨by simp [SlotRecords.dropTurn, hRelease, SlotTable.dropSlot], ?_⟩
  show (s.table.dropSlot slot turn.disposition).advances slot = turn.count
  rw [advances_dropSlot]
  cases hPhase : turn.phase with
  | acquired =>
    rw [hPhase] at hPhaseOk
    exact hPhaseOk.2.1.symm
  | calling =>
    rw [hPhase] at hPhaseOk
    exact hPhaseOk.1.symm
  | backoff =>
    rw [hPhase] at hPhaseOk
    cases hUnsent.symm.trans hPhaseOk.2.1
  | settling action resp result =>
    rw [hPhase] at hPhaseOk
    cases hUnsent.symm.trans hPhaseOk.2

end FencingInv

theorem fencingInv_of_reachable {s : SlotRecords}
    (hs : (replyMachine session).ReachableIf (FencingInOrder session) s) : FencingInv s := by
  refine Lib.Machine.ReachableIf.invariant hs .initial ?_
  intro s s' e _ hInOrder hStep h
  exact h.step hInOrder (replyMove_of_step hStep)

/-- **Fencing is justified.** In runs in order a slot is fenced only if a request with its
current sequence id may have been written and no SEQUENCE result of it came, and a request
that ends unsent leaves its slot free with the same sequence id. -/
theorem fencing_justified {s : SlotRecords}
    (hs : (replyMachine session).ReachableIf (FencingInOrder session) s) :
    (∀ f ∈ s.fences, f.Justified) ∧
    ∀ slot turn reason s', s.held slot = some turn → turn.written = false →
      FencingInOrder session s (.abandon slot reason) →
      replyStep session s (.abandon slot reason) = some s' →
        slot ∈ s'.table.freePool ∧ s'.table.advances slot = turn.count := by
  have h := fencingInv_of_reachable hs
  refine ⟨h.fences, fun slot turn reason s' hHeld hUnsent hInOrder hStep => ?_⟩
  cases replyMove_of_step hStep with
  | abandon hHeld' hPossible =>
    cases hHeld.symm.trans hHeld'
    exact h.unsent hInOrder hHeld hUnsent

/-- A request to remove a name. -/
def removeOwner : SlotOwner :=
  .sender (.compound
    { tag := "remove", ops := [{ opcode := .remove, args := [] }], requiredGeneration := none
      progressIndex := none, dataLen := 0 })

/-- A REMOVE is written and its call fails: the slot is fenced, with its reason. -/
theorem fencing_justified_lost :
    ∃ s, (replyMachine (sessionOf 1)).ReachableIf (FencingInOrder (sessionOf 1)) s ∧
      s.fences.length = 1 ∧ ∀ f ∈ s.fences, f.Justified := by
  have hSent : ∃ s, (replyMachine (sessionOf 1)).ReachableIf (FencingInOrder (sessionOf 1)) s ∧
      (replyMachine (sessionOf 1)).runFrom (replyMachine (sessionOf 1)).init
        [.acquire removeOwner, .start 0, .transmit 0] = some s :=
    ⟨_, .step (.step (.step .init (a := .acquire removeOwner) trivial rfl) (a := .start 0) trivial
      rfl) (a := .transmit 0) trivial rfl, rfl⟩
  obtain ⟨s, hReach, hRun⟩ := hSent
  have hInOrder : FencingInOrder (sessionOf 1) s (.abandon 0 (.callFailed false)) := by
    cases hRun
    intro turn hTurn _
    cases hTurn
    exact ⟨rfl, rfl⟩
  have hAbandon : ∃ s', replyStep (sessionOf 1) s (.abandon 0 (.callFailed false)) = some s' ∧
      s'.fences.length = 1 := by
    cases hRun
    exact ⟨_, rfl, rfl⟩
  obtain ⟨s', hStep, hLen⟩ := hAbandon
  have hs := hReach.step hInOrder hStep
  exact ⟨s', hs, hLen, (fencing_justified hs).1⟩

/-- The call of a REMOVE fails with evidence that nothing was sent, and its slot is fenced.
Another one is answered and cancelled while the status flags are handled, and its slot is
fenced behind the advance. -/
theorem unsent_fenced :
    (∃ s, (replyMachine (sessionOf 1)).Reachable s ∧
      ∃ f ∈ s.fences, f.turn.written = false ∧ s.table.freePool = []) ∧
    ∃ s, (replyMachine (sessionOf 1)).Reachable s ∧
      ∃ f ∈ s.fences, f.turn.validated = true ∧ f.current = f.turn.count + 1 := by
  constructor
  · have hs := Lib.Machine.reachable_of_runFrom (m := replyMachine (sessionOf 1))
      [.acquire removeOwner, .start 0, .abandon 0 (.callFailed true)] rfl
    exact ⟨_, hs, _, List.mem_cons_self, rfl, rfl⟩
  · have hs := Lib.Machine.reachable_of_runFrom (m := replyMachine (sessionOf 1))
      (answeredBy removeOwner (replyOf [sequenceOk 1, { opcode := 28, status := .ok, data := [] }])
        ++ [.abandon 0 .cancelled]) rfl
    exact ⟨_, hs, _, List.mem_cons_self, by decide +kernel, by decide +kernel⟩

end NfsRs.Nfs41
