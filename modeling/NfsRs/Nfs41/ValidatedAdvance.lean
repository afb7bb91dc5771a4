import NfsRs.Nfs41.CompoundCall
import NfsRs.Nfs41.SlotReplies

/-!
# NfsRs — an advance behind a checked identity

A sequence id may be advanced only on the SEQUENCE result of the request that used it, which
the session id, the slot id and the sequence id in the result tell. Every sender makes that
check before it advances, with one exception: the RECLAIM_COMPLETE that the mount sends in the
background behind a status flag takes any successful first result.

A slot must not go back as that of a successful request on somebody else's reply either. Here
an ordinary request is a second exception: a successful reply whose first result is not
SEQUENCE at all passes without any check.

## Main results

- `advance_validated` : the identity behind every advance and every success.
- `reclaimComplete_foreign` : the two exceptions, on replies with a foreign identity.
-/

namespace NfsRs.Nfs41

variable {session : Session} {ctx : SlotContext} {resp : CompoundResponse} {op : OpResponse}

/-! ## The check of each sender -/

theorem sequenceValid_of_settle {accepted : SequenceResult × Nat} (hOp : resp.opOk 0 = .ok op)
    (h : settleSequence ctx op = .ok accepted) : sequenceValid ctx resp = true := by
  obtain ⟨sequence, hValidate, -⟩ := Lib.bind_eq_ok_iff.mp h
  simp [sequenceValid, hOp, hValidate, Except.toBool]

/-- An ordinary sender accepts only the SEQUENCE result of its request. -/
theorem sequenceValid_of_accepted {accepted : Option (SequenceResult × Nat)}
    (h : acceptedSequence ctx resp = .ok accepted) (hSome : accepted.isSome = true) :
    sequenceValid ctx resp = true := by
  unfold acceptedSequence at h
  split at h
  next =>
    cases h
    cases hSome
  next first rest hRes =>
    split at h
    next hFirst =>
      have hOp : resp.opOk 0 = .ok first := by simp [CompoundResponse.opOk, hRes, hFirst.2]
      cases hSettle : settleSequence ctx first with
      | error e =>
        rw [hSettle] at h
        cases h
      | ok settled => exact sequenceValid_of_settle hOp hSettle
    next =>
      cases h
      cases hSome

/-- A reply with the request's own identity is no foreign one. -/
theorem foreignIdentity_of_valid (h : sequenceValid ctx resp = true) :
    foreignIdentity ctx resp = false := by
  simp [foreignIdentity, h]

/-- The request is over with a response for its caller. -/
def ReplyEnd.succeeds : ReplyEnd → Bool
  | .flags result => result.toBool
  | .done result => result.any fun r => r.toBool
  | .resend => false

/-- The first result of the reply is a success of another operation than SEQUENCE. -/
def startsElsewhere (resp : CompoundResponse) : Bool :=
  match resp.opOk 0 with
  | .error _ => false
  | .ok op => op.opcode != OpNum.sequence.code

/-- What a sender owes a reply: to advance only on its own SEQUENCE result, and to succeed on
no foreign one. -/
structure Judgement.Checked (j : Judgement) (ctx : SlotContext) (resp : CompoundResponse) :
    Prop where
  advance : j.settle.advance = true → sequenceValid ctx resp = true
  success : j.next.succeeds = true → foreignIdentity ctx resp = false

/-- The judgement of a verdict. -/
def Verdict.judgement (v : Verdict) : Judgement := { settle := v.settlement, next := v.next }

namespace Judgement.Checked

/-- Any judgement is checked once the reply is. -/
theorem of_valid {j : Judgement} (h : sequenceValid ctx resp = true) : j.Checked ctx resp where
  advance _ := h
  success _ := foreignIdentity_of_valid h

/-- A request that fails without advancing. -/
theorem of_error {j : Judgement} (hAdvance : j.settle.advance = false)
    (hNext : j.next.succeeds = false) : j.Checked ctx resp where
  advance h := by simp [hAdvance] at h
  success h := by simp [hNext] at h

end Judgement.Checked

theorem finishBusy_succeeds (b : CompoundBuilder) (context : RequestContext)
    (accepted : Option (SequenceResult × Nat)) (resp : CompoundResponse) :
    (finishBusy b context accepted resp).next.succeeds = false := by
  unfold finishBusy
  dsimp only
  split <;> rfl

/-- Behind SEQUENCE, a response for the caller comes with an accepted result or a good first
one. -/
theorem compoundOutcome_succeeds {b : CompoundBuilder} {progressIndex : Option Nat}
    {attempt : Nat} {accepted : Option (SequenceResult × Nat)}
    (h : (compoundOutcome b progressIndex ctx attempt accepted resp).next.succeeds = true) :
    accepted.isSome = true ∨ (resp.opOk 0).toBool = true := by
  unfold compoundOutcome at h
  dsimp only at h
  split at h
  next hProgress => exact .inl (Bool.and_eq_true_iff.mp hProgress).2
  split at h
  · split at h
    next => cases h
    next op hOp => exact .inr (by rw [hOp]; rfl)
  split at h
  · rw [finishBusy_succeeds] at h
    cases h
  split at h
  · cases h
  split at h
  · cases h
  · cases h

theorem startsAccepted_of_opOk (hOk : (resp.opOk 0).toBool = true)
    (hStart : startsElsewhere resp = false) : resp.startsAccepted = true := by
  unfold startsElsewhere CompoundResponse.opOk at hStart
  unfold CompoundResponse.opOk at hOk
  cases hRes : resp.results with
  | nil =>
    rw [hRes] at hOk
    cases hOk
  | cons first rest =>
    by_cases hFirst : first.status = .ok
    · simpa [CompoundResponse.startsAccepted, hRes, hFirst] using hStart
    · simp [hRes, hFirst, Except.toBool] at hOk

theorem compoundVerdict_checked (b : CompoundBuilder) (progressIndex : Option Nat)
    (attempt : Nat) (hStart : startsElsewhere resp = false) :
    (compoundVerdict b progressIndex ctx attempt resp).judgement.Checked ctx resp := by
  unfold compoundVerdict
  split
  · exact .of_error rfl rfl
  split
  · exact .of_error rfl rfl
  next accepted hAccepted =>
    refine ⟨fun hAdvance => ?_, fun hSuccess => ?_⟩
    · exact sequenceValid_of_accepted hAccepted
        ((compoundOutcome_advance _ _ _ _ _ _).symm.trans hAdvance)
    · refine foreignIdentity_of_valid (sequenceValid_of_accepted hAccepted ?_)
      rcases compoundOutcome_succeeds hSuccess with hSome | hOk
      · exact hSome
      · -- the good first result is SEQUENCE, so that it was looked at
        exact acceptedSequence_some (startsAccepted_of_opOk hOk hStart) hAccepted

theorem compoundVerdict_advance {b : CompoundBuilder} {progressIndex : Option Nat} {attempt : Nat}
    (h : (compoundVerdict b progressIndex ctx attempt resp).settlement.advance = true) :
    sequenceValid ctx resp = true := by
  unfold compoundVerdict at h
  split at h
  · cases h
  split at h
  · cases h
  next accepted hAccepted =>
    rw [compoundOutcome_advance] at h
    exact sequenceValid_of_accepted hAccepted h

theorem compoundDsVerdict_checked (b : CompoundBuilder) :
    (compoundDsVerdict b ctx resp).judgement.Checked ctx resp := by
  unfold compoundDsVerdict
  dsimp only
  split
  · exact .of_error rfl rfl
  split
  · exact .of_error rfl rfl
  next op hOp =>
    split
    · exact .of_error rfl rfl
    next accepted hSettle => exact .of_valid (sequenceValid_of_settle hOp hSettle)

theorem validateRenewalResponse_ok {sequence : SequenceResult}
    (h : validateRenewalResponse ctx resp = .ok sequence) : sequenceValid ctx resp = true := by
  unfold validateRenewalResponse at h
  obtain ⟨-, -, h⟩ := Lib.bind_eq_ok_iff.mp h
  split at h
  · cases h
  split at h
  · cases h
  obtain ⟨op, hOp, h⟩ := Lib.bind_eq_ok_iff.mp h
  split at h
  · cases h
  split at h
  · cases h
  · simp [sequenceValid, hOp, h, Except.toBool]

theorem renewVerdict_checked : (renewVerdict ctx resp).judgement.Checked ctx resp := by
  unfold renewVerdict
  split
  · exact .of_error rfl rfl
  next sequence hValidate => exact .of_valid (validateRenewalResponse_ok hValidate)

theorem recallReturnVerdict_checked (b : CompoundBuilder) :
    (recallReturnVerdict b ctx resp).judgement.Checked ctx resp := by
  cases hSequence : resp.opOk 0 >>= settleSequence ctx with
  | ok accepted =>
    obtain ⟨op, hOp, hSettle⟩ := Lib.bind_eq_ok_iff.mp hSequence
    exact .of_valid (sequenceValid_of_settle hOp hSettle)
  | error e =>
    unfold recallReturnVerdict
    dsimp only
    rw [hSequence]
    split
    · exact .of_error rfl rfl
    · exact .of_error rfl rfl

theorem establishVerdict_checked : (establishVerdict ctx resp).Checked ctx resp := by
  unfold establishVerdict
  split
  next e hOp =>
    -- no advance, and no first result that could be foreign
    refine ⟨fun hAdvance => ?_, fun _ => by simp [foreignIdentity, hOp, Except.toBool]⟩
    unfold establishOutcome at hAdvance
    dsimp only at hAdvance
    split at hAdvance
    · cases hAdvance
    split at hAdvance <;> cases hAdvance
  next op hOp =>
    split
    · exact .of_error rfl rfl
    next accepted hSettle => exact .of_valid (sequenceValid_of_settle hOp hSettle)

theorem lookVerdict_checked (rest : Except NfsError Unit) :
    (lookVerdict ctx resp rest).Checked ctx resp := by
  unfold lookVerdict
  split
  · exact .of_error rfl rfl
  next op hBoth =>
    obtain ⟨-, -, hOp⟩ := Lib.bind_eq_ok_iff.mp hBoth
    split
    · exact .of_error rfl rfl
    next accepted hSettle => exact .of_valid (sequenceValid_of_settle hOp hSettle)

/-- The background RECLAIM_COMPLETE. -/
def SlotOwner.unchecking : SlotOwner → Bool
  | .sender .reclaimComplete => true
  | _ => false

def SlotOwner.isCompound : SlotOwner → Bool
  | .sender (.compound _) => true
  | _ => false

/-- **Every sender but one advances on its own SEQUENCE result only.** -/
theorem judge_advance {owner : SlotOwner} {highestSlotId attempt : Nat}
    (hOwner : owner.unchecking = false)
    (h : (owner.judge ctx highestSlotId attempt resp).settle.advance = true) :
    sequenceValid ctx resp = true := by
  cases owner with
  | sender sender =>
    cases sender with
    | compound r => exact compoundVerdict_advance h
    | dataServer r => exact (compoundDsVerdict_checked _).advance h
    | renew => exact renewVerdict_checked.advance h
    | recallReturn ops => exact (recallReturnVerdict_checked _).advance h
    | reclaimComplete => cases hOwner
  | bootstrap sender =>
    cases sender with
    | reclaimComplete => exact establishVerdict_checked.advance h
    | navigate components => exact (lookVerdict_checked _).advance h
    | fsLimits => exact (lookVerdict_checked _).advance h

/-- **No other sender succeeds on a foreign reply**, an ordinary request unless the reply
starts with another operation. -/
theorem judge_success {owner : SlotOwner} {highestSlotId attempt : Nat}
    (hOwner : owner.unchecking = false)
    (hStart : owner.isCompound = true → startsElsewhere resp = false)
    (h : (owner.judge ctx highestSlotId attempt resp).next.succeeds = true) :
    foreignIdentity ctx resp = false := by
  cases owner with
  | sender sender =>
    cases sender with
    | compound r => exact (compoundVerdict_checked _ _ _ (hStart rfl)).success h
    | dataServer r => exact (compoundDsVerdict_checked _).success h
    | renew => exact renewVerdict_checked.success h
    | recallReturn ops => exact (recallReturnVerdict_checked _).success h
    | reclaimComplete => cases hOwner
  | bootstrap sender =>
    cases sender with
    | reclaimComplete => exact establishVerdict_checked.success h
    | navigate components => exact (lookVerdict_checked _).success h
    | fsLimits => exact (lookVerdict_checked _).success h

/-! ## Runs -/

/-- What a record of a success owes. -/
def SlotAnswer.SuccessChecked (a : SlotAnswer) : Prop :=
  a.owner.unchecking = false → (a.owner.isCompound = true → startsElsewhere a.resp = false) →
    foreignIdentity a.ctx a.resp = false

/-- The records of a session's slots, and the replies that wait for their status flags. -/
structure RecordsChecked (session : Session) (s : SlotRecords) : Prop where
  advances : ∀ a ∈ s.advances, a.owner.unchecking = false → sequenceValid a.ctx a.resp = true
  successes : ∀ a ∈ s.successes, a.SuccessChecked
  settling : ∀ slot turn action resp result, s.held slot = some turn →
    turn.phase = .settling action resp result → result.toBool = true →
      SlotAnswer.SuccessChecked
        { owner := turn.owner, ctx := turn.context session slot, resp := resp }

namespace RecordsChecked

variable {s : SlotRecords} {slot : Nat} {turn : SlotTurn}

theorem initial : RecordsChecked session (.initial session) where
  advances _ ha := nomatch ha
  successes _ ha := nomatch ha
  settling _ _ _ _ _ hHeld := nomatch hHeld

theorem setTurn (h : RecordsChecked session s)
    (hTurn : ∀ action resp result, turn.phase = .settling action resp result →
      result.toBool = true → SlotAnswer.SuccessChecked
        { owner := turn.owner, ctx := turn.context session slot, resp := resp }) :
    RecordsChecked session (s.setTurn slot turn) where
  advances := h.advances
  successes := h.successes
  settling slot' turn' action resp result hHeld hPhase hOk := by
    by_cases hSlot : slot' = slot
    · subst hSlot
      cases (SlotRecords.held_setTurn s turn).symm.trans hHeld
      exact hTurn action resp result hPhase hOk
    · rw [SlotRecords.held_setTurn_of_ne s turn hSlot] at hHeld
      exact h.settling slot' turn' action resp result hHeld hPhase hOk

/-- A holder that waits for no status flags. -/
theorem setTurn_busy (h : RecordsChecked session s)
    (hTurn : turn.phase.isSettling = false) : RecordsChecked session (s.setTurn slot turn) := by
  refine h.setTurn fun action resp result hPhase => ?_
  rw [hPhase] at hTurn
  cases hTurn

theorem dropTurn (h : RecordsChecked session s) (slot : Nat) (turn : SlotTurn) :
    RecordsChecked session (s.dropTurn slot turn) where
  advances := h.advances
  successes := h.successes
  settling slot' turn' action resp result hHeld hPhase hOk := by
    by_cases hSlot : slot' = slot
    · subst hSlot
      cases (SlotRecords.held_dropTurn s turn).symm.trans hHeld
    · rw [SlotRecords.held_dropTurn_of_ne s turn hSlot] at hHeld
      exact h.settling slot' turn' action resp result hHeld hPhase hOk

theorem finish {answer : SlotAnswer} {result : Option (Except NfsError CompoundResponse)}
    (h : RecordsChecked session s)
    (hAnswer : (result.any fun r => r.toBool) = true → answer.SuccessChecked) :
    RecordsChecked session (s.finish slot turn answer result) := by
  unfold SlotRecords.finish
  dsimp only
  split
  next hSuccess =>
    refine ⟨h.advances, List.forall_mem_cons.mpr ⟨hAnswer hSuccess.2, h.successes⟩, ?_⟩
    exact (h.dropTurn slot turn).settling
  next => exact h.dropTurn slot turn

/-- A judgement advances with its reply on record. -/
theorem settle (h : RecordsChecked session s) (slot : Nat) (answer : SlotAnswer)
    (settle : Settlement)
    (hAnswer : settle.advance = true → answer.owner.unchecking = false →
      sequenceValid answer.ctx answer.resp = true) :
    RecordsChecked session (s.settle slot answer settle) := by
  refine ⟨?_, h.successes, h.settling⟩
  simp only [SlotRecords.settle]
  split
  next hAdvance => exact List.forall_mem_cons.mpr ⟨hAnswer hAdvance, h.advances⟩
  next => exact h.advances

/-- What a judged reply owes as a success. -/
theorem successChecked_of_judge (turn : SlotTurn) {highestSlotId attempt : Nat}
    {resp : CompoundResponse}
    (hSuccess : (turn.owner.judge (turn.context session slot) highestSlotId attempt
      resp).next.succeeds = true) :
    SlotAnswer.SuccessChecked
      { owner := turn.owner, ctx := turn.context session slot, resp := resp } :=
  fun hOwner hStart => judge_success hOwner hStart hSuccess

theorem conclude {attempt : Nat} {resp : CompoundResponse} (h : RecordsChecked session s) :
    RecordsChecked session (s.conclude session slot turn attempt resp) := by
  unfold SlotRecords.conclude
  dsimp only
  have hSettled := h.settle slot
    { owner := turn.owner, ctx := turn.context session slot, resp := resp }
    (turn.owner.judge (turn.context session slot) s.table.highestSlotId attempt resp).settle
    fun hAdvance hOwner => judge_advance hOwner hAdvance
  split
  next => exact hSettled.setTurn_busy rfl
  next result hNext =>
    refine hSettled.setTurn fun action resp' result' hPhase hOk => ?_
    cases hPhase
    exact successChecked_of_judge turn (by rw [hNext]; exact hOk)
  next result hNext =>
    exact hSettled.finish fun hOk => successChecked_of_judge turn (by rw [hNext]; exact hOk)

theorem step {s' : SlotRecords} {e : SlotReplyEvent} (h : RecordsChecked session s)
    (hMove : ReplyMove session s e s') : RecordsChecked session s' := by
  cases hMove with
  | @acquire owner slot table hAcquire =>
    have hTable : RecordsChecked session { s with table := table } :=
      ⟨h.advances, h.successes, h.settling⟩
    exact hTable.setTurn_busy rfl
  | start hHeld hPhase => exact h.setTurn_busy rfl
  | transmit hHeld hPhase =>
    refine h.setTurn_busy ?_
    rw [hPhase]
    rfl
  | reply hHeld hPhase hWritten => exact h.conclude
  | resend hHeld hPhase => exact h.setTurn_busy rfl
  | @settled slot turn action resp result hHeld hPhase =>
    exact h.finish fun hOk => h.settling slot turn action resp result hHeld hPhase hOk
  | abandon hHeld hPossible => exact h.dropTurn _ _

end RecordsChecked

/-- **Advances and successes are of checked replies.** In every state of a session, under any
replies: each sequence id was advanced on a SEQUENCE result with the session, slot and sequence
id of the request, the background RECLAIM_COMPLETE apart; and no slot went back as that of a
successful request on a reply with a foreign identity, those of the RECLAIM_COMPLETE and of
ordinary requests answered by another first operation apart. -/
theorem advance_validated {s : SlotRecords} (hs : (replyMachine session).Reachable s) :
    (∀ a ∈ s.advances, a.owner ≠ .sender .reclaimComplete →
      ∃ op sequence, a.resp.opOk 0 = .ok op ∧
        validateSequenceResult op a.ctx.session.id a.ctx.sequenceId a.ctx.slotId =
          .ok sequence) ∧
    (∀ a ∈ s.successes, a.owner ≠ .sender .reclaimComplete →
      (∀ r, a.owner = .sender (.compound r) → startsElsewhere a.resp = false) →
        foreignIdentity a.ctx a.resp = false) := by
  have h : RecordsChecked session s := by
    refine Lib.Machine.ReachableIf.invariant hs .initial ?_
    intro s s' e _ _ hStep h
    exact h.step (replyMove_of_step hStep)
  -- the background RECLAIM_COMPLETE is the one sender that does not check
  have hOwner : ∀ owner : SlotOwner, owner ≠ .sender .reclaimComplete →
      owner.unchecking = false := by
    intro owner hNe
    unfold SlotOwner.unchecking
    split
    next => exact absurd rfl hNe
    next => rfl
  refine ⟨fun a ha hNe => ?_, fun a ha hNe hStart => ?_⟩
  · have hValid := h.advances a ha (hOwner _ hNe)
    unfold sequenceValid at hValid
    split at hValid
    next => cases hValid
    next op hOp =>
      cases hResult : validateSequenceResult op a.ctx.session.id a.ctx.sequenceId a.ctx.slotId with
      | ok sequence => exact ⟨op, sequence, hOp, hResult⟩
      | error e =>
        rw [hResult] at hValid
        cases hValid
  · refine h.successes a ha (hOwner _ hNe) fun hCompound => ?_
    unfold SlotOwner.isCompound at hCompound
    split at hCompound
    next r hEq => exact hStart r hEq
    next => cases hCompound

/-- A request of one owner that is sent and answered on slot 0. -/
def answeredBy (owner : SlotOwner) (resp : CompoundResponse) : List SlotReplyEvent :=
  [.acquire owner, .start 0, .transmit 0, .reply 0 0 resp]

/-- A successful response with these results. -/
def replyOf (results : List OpResponse) : CompoundResponse :=
  { tag := "reclaim_complete", status := .ok, results := results, sessionGeneration := 0 }

/-- An ordinary request for attributes. -/
def getattrOwner : SlotOwner :=
  .sender (.compound
    { tag := "getattr", ops := [{ opcode := .getAttr, args := [] }], requiredGeneration := none
      progressIndex := none, dataLen := 0 })

/-- The records on a renewal that is answered by its own session. -/
theorem advance_validated_renewal :
    ∃ s, (replyMachine (sessionOf 1)).Reachable s ∧ s.advances.length = 1 ∧
      ∀ a ∈ s.advances, a.owner ≠ .sender .reclaimComplete →
        ∃ op sequence, a.resp.opOk 0 = .ok op ∧
          validateSequenceResult op a.ctx.session.id a.ctx.sequenceId a.ctx.slotId =
            .ok sequence := by
  have hs := Lib.Machine.reachable_of_runFrom (m := replyMachine (sessionOf 1))
    (answeredBy (.sender .renew) { replyOf [sequenceOk 1] with tag := "renew" }) rfl
  exact ⟨_, hs, by decide +kernel, (advance_validated hs).1⟩

/-- The background RECLAIM_COMPLETE of session 1 advances and succeeds on the SEQUENCE result of
session 2, and a request for attributes succeeds on a reply that starts with PUTFH. -/
theorem reclaimComplete_foreign :
    (∃ s, (replyMachine (sessionOf 1)).Reachable s ∧
      ∃ a ∈ s.advances, a.owner = .sender .reclaimComplete ∧
        foreignIdentity a.ctx a.resp = true ∧ s.table.advances 0 = 1 ∧ 0 ∈ s.table.freePool) ∧
    ∃ s, (replyMachine (sessionOf 1)).Reachable s ∧
      ∃ a ∈ s.successes, a.owner = getattrOwner ∧ foreignIdentity a.ctx a.resp = true := by
  constructor
  · have hs := Lib.Machine.reachable_of_runFrom (m := replyMachine (sessionOf 1))
      (answeredBy (.sender .reclaimComplete) (replyOf [sequenceOk 2])) rfl
    exact ⟨_, hs, _, List.mem_cons_self, rfl, by decide +kernel, by decide +kernel,
      by decide +kernel⟩
  · have hs := Lib.Machine.reachable_of_runFrom (m := replyMachine (sessionOf 1))
      (answeredBy getattrOwner (replyOf [{ opcode := 22, status := .ok, data := [] }])) rfl
    exact ⟨_, hs, _, List.mem_cons_self, rfl, by decide +kernel⟩

end NfsRs.Nfs41
