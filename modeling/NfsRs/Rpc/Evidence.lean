import NfsRs.Rpc.Transport

/-!
# NfsRs — send evidence of a failed RPC

A caller decides from the error of a failed RPC whether the request can have reached the
server. The evidence is sound when an error that says `notSent` is only returned if no
attempt handed a byte of the request to the socket. This file finds the schedules on which
`call_with_data_inner` keeps the evidence sound.

The loop folds each attempt's evidence into `logical_transmission`, and every failure past
the send boundary carries `sent` but one: a reader that stops on a malformed record fails
its waiters with a bare RPC error. Behind an earlier disconnect that was not sent, that
error only breaks the loop, and the recorded disconnect is returned with its `notSent`.

## Main results

- `sendAndReceiveInner_spec` : what each class of attempt returns and writes.
- `callWithDataInner_evidenceKept_iff` : the evidence is sound exactly when the schedule is
  not an unsent connection loss (with only unsent failures around it) followed by a
  malformed reply record.
-/

namespace NfsRs.Rpc

/-! ## Classes of attempts -/

/-- How an attempt that honours readiness ends, read off its environment. -/
inductive AttemptClass where
  /-- The connection is known to be unusable before anything is sent. -/
  | unsentLoss
  /-- The attempt's timeout fires before the send boundary. -/
  | unsentTimeout
  /-- A poisoned lock, before the send boundary. -/
  | unsentOther
  /-- A failure past the send boundary that says so. -/
  | sentFailure
  /-- The frame is written, then the reader stops on a malformed record. -/
  | malformedReply
  | replied
  deriving DecidableEq, Repr

def AttemptEnv.classify (env : AttemptEnv) : AttemptClass :=
  match env.readyWait with
  | .failed => .unsentLoss
  | .pending => .unsentTimeout
  | .ready =>
    if env.pendingPoisoned then .unsentOther
    else if env.readerStopped then .unsentLoss
    else if !env.writerLocked then .unsentTimeout
    else match env.write, env.reply with
      | .complete, .record _ => .replied
      | .complete, .readerRpc _ => .malformedReply
      | _, _ => .sentFailure

/-- What an attempt of each class returns and writes. -/
def AttemptSpec (frameLen : Nat) : AttemptClass → Attempt → Prop
  | .unsentLoss, a => a.written = 0 ∧ ∃ e, a.result = .error e ∧
      e.requestTransmission = some .notSent ∧ e.isConnectionLost = true
  | .unsentTimeout, a => a.written = 0 ∧ ∃ e, a.result = .error e ∧
      e.requestTransmission = some .notSent ∧ e.isConnectionLost = false ∧ e.kind = .timedOut
  | .unsentOther, a => a.written = 0 ∧ ∃ e, a.result = .error e ∧
      e.requestTransmission = some .notSent ∧ e.isConnectionLost = false ∧ e.kind = .other
  | .sentFailure, a => ∃ e, a.result = .error e ∧ e.requestTransmission = some .sent
  | .malformedReply, a => a.written = frameLen ∧ ∃ m, a.result = .error (.rpc m)
  | .replied, a => ∃ data, a.result = .ok data

/-- **One attempt.** Every class of attempt meets its specification. -/
theorem sendAndReceiveInner_spec (frameLen : Nat) (env : AttemptEnv) :
    AttemptSpec frameLen env.classify (sendAndReceiveInner frameLen false env) := by
  obtain ⟨readyWait, poisoned, stopped, locked, write, reply⟩ := env
  cases readyWait with
  | failed => exact ⟨rfl, _, rfl, rfl, rfl⟩
  | pending => exact ⟨rfl, _, rfl, rfl, rfl, rfl⟩
  | ready =>
    cases poisoned with
    | true => exact ⟨rfl, _, rfl, rfl, rfl, rfl⟩
    | false =>
      cases stopped with
      | true => exact ⟨rfl, _, rfl, rfl, rfl⟩
      | false =>
        cases locked with
        | false => exact ⟨rfl, _, rfl, rfl, rfl, rfl⟩
        | true =>
          cases write with
          | failed kind message written => exact ⟨_, rfl, rfl⟩
          | timedOut written => exact ⟨_, rfl, rfl⟩
          | complete =>
            cases reply with
            | record data => exact ⟨data, rfl⟩
            | readerRpc message => exact ⟨rfl, message, rfl⟩
            | readerIo kind message => exact ⟨_, rfl, rfl⟩
            | senderDropped => exact ⟨_, rfl, rfl⟩
            | responseTimeout => exact ⟨_, rfl, rfl⟩
            | attemptTimeout => exact ⟨_, rfl, rfl⟩

variable {st : CallState} {e : NfsError} {attempt frameLen remaining : Nat} {bypass last : Bool}
    {env : Nat → IterEnv}

/-- An attempt that bypasses readiness says `notSent` only if it wrote nothing. -/
theorem sendAndReceiveInner_bypass_notSent {env : AttemptEnv}
    (h : (sendAndReceiveInner frameLen true env).result = .error e)
    (hEv : e.requestTransmission = some .notSent) :
    (sendAndReceiveInner frameLen true env).written = 0 := by
  obtain ⟨readyWait, poisoned, stopped, locked, write, reply⟩ := env
  cases poisoned with
  | true => rfl
  | false =>
    cases locked with
    | false => rfl
    | true =>
      cases write with
      | failed kind message written => cases h; cases hEv
      | timedOut written => cases h; cases hEv
      | complete => cases reply <;> cases h <;> cases hEv

/-! ## Sound evidence -/

/-- The evidence of a failed call is sound: once a byte of the request has been handed to
the socket, the error neither says `notSent` nor is classified as a failure before the
send, whatever the operation's class and context. -/
def EvidenceKept (r : CallResult) : Prop :=
  0 < r.written → ∀ e, r.result = .error e →
    e.requestTransmission ≠ some .notSent ∧
    ∀ (cls : OperationClass) (ctx : RequestContext) (replay : Bool),
      (classifyNonAuthoritativeError cls ctx e replay).requestTransmission ≠ some .notSent

theorem evidenceKept_iff (r : CallResult) :
    EvidenceKept r ↔
      (0 < r.written → ∀ e, r.result = .error e → e.requestTransmission ≠ some .notSent) := by
  constructor
  · intro h hw e he
    exact (h hw e he).1
  · intro h hw e he
    refine ⟨h hw e he, fun cls ctx replay => ?_⟩
    rw [Ne, classify_notSent_iff]
    exact h hw e he

/-- Nothing written, nothing to misreport. -/
theorem evidenceKept_of_written_eq_zero {r : CallResult} (h : r.written = 0) :
    EvidenceKept r := by
  intro hw
  omega

/-- An error without `notSent` evidence is sound however much was written. -/
theorem evidenceKept_of_error {n : Nat} (h : e.requestTransmission ≠ some .notSent) :
    EvidenceKept { result := .error e, written := n } := by
  rw [evidenceKept_iff]
  rintro - e' he
  cases he
  exact h

theorem evidenceKept_of_reply (data : List UInt8) (xid n : Nat) :
    EvidenceKept { result := parseRpcResponse data xid, written := n } := by
  rw [evidenceKept_iff]
  intro _ e he
  rcases parseRpcResponse_error he with ⟨m, rfl⟩ | ⟨m, rfl⟩
  · exact nofun
  · exact nofun

/-- Both exits of a loop body at once: what holds of a returned result, and of the state
the loop goes on with. -/
def LoopStep.All (P : CallResult → Prop) (Q : CallState → Prop) : LoopStep → Prop
  | .finish result => P result
  | .again st => Q st

theorem callLoop_finish {r : CallResult}
    (h : callStep frameLen bypass (env attempt) (remaining = 0) st = .finish r) :
    callLoop frameLen bypass env (remaining + 1) attempt st = r := by
  unfold callLoop
  rw [h]

theorem callLoop_again {st' : CallState}
    (h : callStep frameLen bypass (env attempt) (remaining = 0) st = .again st') :
    callLoop frameLen bypass env (remaining + 1) attempt st =
      callLoop frameLen bypass env remaining (attempt + 1) st' := by
  rw [callLoop, h]

/-- **Loop rule.** A property of results holds of the loop when its first pass either
returns such a result or leaves a state from which the rest of the loop does. -/
theorem callLoop_of_step {P : CallResult → Prop} {Q : CallState → Prop}
    (hStep : (callStep frameLen bypass (env attempt) (remaining = 0) st).All P Q)
    (hAgain : ∀ st', Q st' → P (callLoop frameLen bypass env remaining (attempt + 1) st')) :
    P (callLoop frameLen bypass env (remaining + 1) attempt st) := by
  cases hs : callStep frameLen bypass (env attempt) (remaining = 0) st with
  | finish result =>
    rw [hs] at hStep
    rw [callLoop_finish hs]
    exact hStep
  | again st' =>
    rw [hs] at hStep
    rw [callLoop_again hs]
    exact hAgain st' hStep

/-! ## Behind the first sent failure -/

/-- Some attempt is known to have been sent, and what the loop would return is not an
error from before. -/
structure SentState (st : CallState) : Prop where
  sent : st.logicalTransmission = .sent
  last : st.disconnect = none → ∀ e ∈ st.lastError, e.requestTransmission ≠ some .notSent

/-- A recorded disconnect is returned with the logical request's evidence. -/
theorem failure_sent (recovery : DisconnectRecovery) :
    (recovery.failure .sent).requestTransmission = some .sent := by
  unfold DisconnectRecovery.failure
  by_cases h : recovery.first.requestTransmission = some .sent
  · simp [h]
  · simp [h]

theorem giveUp_sent_of_disconnect (hSent : st.logicalTransmission = .sent)
    (hDisc : st.disconnect.isSome) : EvidenceKept st.giveUp := by
  obtain ⟨recovery, hr⟩ := Option.isSome_iff_exists.mp hDisc
  unfold CallState.giveUp
  rw [hr, hSent]
  refine evidenceKept_of_error ?_
  simp [failure_sent]

theorem giveUp_sent (h : SentState st) : EvidenceKept st.giveUp := by
  cases hd : st.disconnect with
  | some recovery => exact giveUp_sent_of_disconnect h.sent (by simp [hd])
  | none =>
    unfold CallState.giveUp
    rw [hd]
    refine evidenceKept_of_error ?_
    cases hl : st.lastError with
    | none => exact nofun
    | some e => exact h.last hd e (by simp [hl])

/-- A failure known to be sent either ends the call soundly or leaves a sent state. -/
theorem afterFailure_sent {reconnect : ReconnectEvent} (hSent : st.logicalTransmission = .sent)
    (he : e.requestTransmission = some .sent) :
    (afterFailure reconnect last e st).All EvidenceKept SentState := by
  unfold afterFailure
  split
  · -- a lost connection: the disconnect is recorded before anything is returned
    dsimp only
    split
    · exact giveUp_sent_of_disconnect hSent rfl
    · split
      · exact giveUp_sent_of_disconnect hSent rfl
      · split
        · exact ⟨hSent, nofun⟩
        · exact giveUp_sent_of_disconnect hSent rfl
  · split
    · refine ⟨hSent, fun _ e' he' => ?_⟩
      obtain rfl : e = e' := by simpa using he'
      simp [he]
    · split
      · exact giveUp_sent_of_disconnect hSent ‹_›
      · exact evidenceKept_of_error (by simp [he])

/-- Once the logical request is sent, every noted failure says so. -/
theorem noteFailure_sent (st : CallState) (e : NfsError)
    (h : st.logicalTransmission = .sent ∨ e.requestTransmission = some .sent) :
    (st.noteFailure e).1.requestTransmission = some .sent ∧
      (st.noteFailure e).2.logicalTransmission = .sent := by
  unfold CallState.noteFailure
  by_cases he : e.requestTransmission = some .sent
  · simp [he]
  · have hs : st.logicalTransmission = .sent := h.resolve_right he
    simp [he, hs]

/-- **Sent stays sent.** From a sent state the loop never loses the evidence. -/
theorem callLoop_sent (frameLen : Nat) (env : Nat → IterEnv) (remaining : Nat) :
    ∀ (attempt : Nat) (st : CallState), SentState st →
      EvidenceKept (callLoop frameLen false env remaining attempt st) := by
  induction remaining with
  | zero => exact fun _ _ h => giveUp_sent h
  | succ remaining ih =>
    intro attempt st h
    refine callLoop_of_step (Q := SentState) ?_ (ih (attempt + 1))
    unfold callStep
    split
    · exact giveUp_sent h
    · dsimp only
      split
      · exact evidenceKept_of_reply _ _ _
      · obtain ⟨hErr, hSent⟩ := noteFailure_sent { st with written := st.written + _ } _
          (.inl h.sent)
        exact afterFailure_sent hSent hErr

/-! ## Before anything is sent -/

/-- The schedule that loses the evidence, from attempt number `attempt` on and behind
`losses` recorded connection losses: only attempts that fail unsent, each loss recovered
within the reconnect budget, at least one loss, and then an attempt whose frame is written
and whose reader stops on a malformed record. -/
def malformedAfterUnsentLoss (env : Nat → IterEnv) :
    (remaining attempt losses : Nat) → Bool
  | 0, _, _ => false
  | remaining + 1, attempt, losses =>
    !(env attempt).expired &&
      match (env attempt).attempt.classify with
      | .malformedReply => decide (0 < losses)
      | .unsentLoss =>
        decide (losses < DisconnectRecovery.maxReconnects) &&
          ((env attempt).reconnect.keepsTrying &&
            malformedAfterUnsentLoss env remaining (attempt + 1) (losses + 1))
      | .unsentTimeout => malformedAfterUnsentLoss env remaining (attempt + 1) losses
      | _ => false

/-- Nothing has been sent so far, and the recorded disconnect, if any, says so. -/
structure UnsentState (losses : Nat) (st : CallState) : Prop where
  unsent : st.logicalTransmission = .notSent
  written : st.written = 0
  disconnect : (st.disconnect = none ∧ losses = 0) ∨
    ∃ first, st.disconnect = some ⟨first, losses⟩ ∧ 0 < losses ∧
      first.requestTransmission = some .notSent

theorem unsentState_initial : UnsentState 0 .initial :=
  ⟨rfl, rfl, .inl ⟨rfl, rfl⟩⟩

/-- A failure that says `notSent` is noted as it is. -/
theorem noteFailure_unsent (hst : st.logicalTransmission = .notSent)
    (he : e.requestTransmission ≠ some .sent) : st.noteFailure e = (e, st) := by
  unfold CallState.noteFailure
  rw [if_neg he, if_neg (by simp [hst])]

/-- The loop body on a failed attempt. -/
theorem callStep_error {env : IterEnv} (hExp : env.expired = false)
    (hRes : (sendAndReceiveInner frameLen false env.attempt).result = .error e) :
    callStep frameLen false env last st =
      afterFailure env.reconnect last
        ({ st with written := st.written +
            (sendAndReceiveInner frameLen false env.attempt).written }.noteFailure e).1
        ({ st with written := st.written +
            (sendAndReceiveInner frameLen false env.attempt).written }.noteFailure e).2 := by
  unfold callStep
  rw [if_neg (by simp [hExp])]
  dsimp only
  rw [hRes]
  rfl

/-- An attempt that fails unsent leaves the state as it was. -/
theorem callStep_unsent {env : IterEnv} (last : Bool) (hst : st.logicalTransmission = .notSent)
    (hExp : env.expired = false)
    (hRes : (sendAndReceiveInner frameLen false env.attempt).result = .error e)
    (hWritten : (sendAndReceiveInner frameLen false env.attempt).written = 0)
    (he : e.requestTransmission = some .notSent) :
    callStep frameLen false env last st = afterFailure env.reconnect last e st := by
  rw [callStep_error hExp hRes, hWritten]
  change afterFailure _ _ (st.noteFailure e).1 (st.noteFailure e).2 = _
  rw [noteFailure_unsent hst (by simp [he])]

/-- An unsent connection loss goes on within the reconnect budget, and returns with
nothing written otherwise. -/
theorem afterFailure_unsentLoss (reconnect : ReconnectEvent) (last : Bool) {losses : Nat}
    (h : UnsentState losses st) (he : e.requestTransmission = some .notSent)
    (hLost : e.isConnectionLost = true) :
    (∃ r, afterFailure reconnect last e st = .finish r ∧ r.written = 0 ∧
      (last = true ∨ DisconnectRecovery.maxReconnects ≤ losses ∨
        reconnect.keepsTrying = false)) ∨
    (∃ st', afterFailure reconnect last e st = .again st' ∧ UnsentState (losses + 1) st' ∧
      losses < DisconnectRecovery.maxReconnects ∧ reconnect.keepsTrying = true) := by
  -- the first loss is this one, or one before that was not sent either
  obtain ⟨first, hFirst, hFirstEv⟩ : ∃ first,
      st.disconnect.getD { first := e, reconnects := 0 } = ⟨first, losses⟩ ∧
        first.requestTransmission = some .notSent := by
    rcases h.disconnect with ⟨hd, hl⟩ | ⟨first, hd, -, hev⟩
    · exact ⟨e, by simp [hd, hl], he⟩
    · exact ⟨first, by simp [hd], hev⟩
  unfold afterFailure
  rw [if_pos hLost]
  dsimp only
  rw [hFirst]
  cases hlast : last with
  | true => exact .inl ⟨_, rfl, h.written, .inl rfl⟩
  | false =>
    by_cases hBudget : DisconnectRecovery.maxReconnects ≤ losses
    · have hNext : DisconnectRecovery.nextDelay ⟨first, losses⟩ = none := if_pos hBudget
      simp only [hNext]
      exact .inl ⟨_, rfl, h.written, .inr (.inl hBudget)⟩
    · have hlt : losses < DisconnectRecovery.maxReconnects := by omega
      have hNext : DisconnectRecovery.nextDelay ⟨first, losses⟩ = some ⟨first, losses + 1⟩ :=
        if_neg hBudget
      simp only [hNext]
      cases hk : reconnect.keepsTrying with
      | false => exact .inl ⟨_, rfl, h.written, .inr (.inr rfl)⟩
      | true =>
        exact .inr ⟨_, rfl, ⟨h.unsent, h.written, .inr ⟨first, rfl, by omega, hFirstEv⟩⟩,
          hlt, rfl⟩

/-- The bare RPC error of a malformed record: behind a recorded disconnect it only ends the
loop, otherwise it is returned. -/
theorem callStep_malformed {env : IterEnv} (last : Bool) {m : String}
    (hst : st.logicalTransmission = .notSent) (hExp : env.expired = false)
    (hRes : (sendAndReceiveInner frameLen false env.attempt).result = .error (.rpc m))
    (hWritten : (sendAndReceiveInner frameLen false env.attempt).written = frameLen) :
    callStep frameLen false env last st =
      if st.disconnect.isSome then
        .finish { st with written := st.written + frameLen }.giveUp
      else .finish { result := .error (.rpc m), written := st.written + frameLen } := by
  have hNote : { st with written := st.written + frameLen }.noteFailure (.rpc m) =
      (.rpc m, { st with written := st.written + frameLen }) :=
    noteFailure_unsent hst (by simp [NfsError.requestTransmission])
  rw [callStep_error hExp hRes, hWritten, hNote]
  rfl

/-- From an unsent state the loop keeps the evidence exactly when the rest of the schedule
is not the one that loses it. -/
theorem callLoop_unsent_iff (hFrame : 0 < frameLen) (env : Nat → IterEnv) (remaining : Nat) :
    ∀ (attempt losses : Nat) (st : CallState), UnsentState losses st →
      (EvidenceKept (callLoop frameLen false env remaining attempt st) ↔
        malformedAfterUnsentLoss env remaining attempt losses = false) := by
  -- on the attempts left; `losses` counts the unsent connection losses of the attempts before
  induction remaining with
  | zero =>
    intro attempt losses st h
    exact iff_of_true (evidenceKept_of_written_eq_zero h.written) rfl
  | succ remaining ih =>
    intro attempt losses st h
    unfold malformedAfterUnsentLoss
    cases hExp : (env attempt).expired with
    | true =>
      have hStep : callStep frameLen false (env attempt) (remaining = 0) st =
          .finish st.giveUp := if_pos hExp
      rw [callLoop_finish hStep]
      exact iff_of_true (evidenceKept_of_written_eq_zero h.written) rfl
    | false =>
      have hSpec := sendAndReceiveInner_spec frameLen (env attempt).attempt
      cases hc : (env attempt).attempt.classify with
      | unsentLoss =>
        rw [hc] at hSpec
        obtain ⟨hWritten, e, hRes, hEv, hLost⟩ := hSpec
        have hStep := callStep_unsent (remaining = 0) h.unsent hExp hRes hWritten hEv
        rcases afterFailure_unsentLoss (env attempt).reconnect (remaining = 0) h hEv hLost with
          ⟨r, hr, hr0, hWhy⟩ | ⟨st', hst', hUnsent, hBudget, hKeep⟩
        · -- the budget is used up: nothing was written, and no later attempt is made
          rw [callLoop_finish (hStep.trans hr)]
          refine iff_of_true (evidenceKept_of_written_eq_zero hr0) ?_
          rcases hWhy with hLast | hBudget | hKeep
          · have hZero : remaining = 0 := by simpa using hLast
            subst hZero
            simp [malformedAfterUnsentLoss]
          · simp [Nat.not_lt.mpr hBudget]
          · simp [hKeep]
        · rw [callLoop_again (hStep.trans hst'), ih (attempt + 1) (losses + 1) st' hUnsent]
          simp [hBudget, hKeep]
      | unsentTimeout =>
        rw [hc] at hSpec
        obtain ⟨hWritten, e, hRes, hEv, hLost, hKind⟩ := hSpec
        have hStep := callStep_unsent (remaining = 0) h.unsent hExp hRes hWritten hEv
        have hAfter : afterFailure (env attempt).reconnect (remaining = 0) e st =
            .again { st with lastError := some e } := by
          unfold afterFailure
          rw [if_neg (by simp [hLost]), if_pos hKind]
        rw [callLoop_again (hStep.trans hAfter)]
        exact ih (attempt + 1) losses _ ⟨h.unsent, h.written, h.disconnect⟩
      | unsentOther =>
        rw [hc] at hSpec
        obtain ⟨hWritten, e, hRes, hEv, hLost, hKind⟩ := hSpec
        have hStep := callStep_unsent (remaining = 0) h.unsent hExp hRes hWritten hEv
        refine iff_of_true ?_ rfl
        unfold afterFailure at hStep
        rw [if_neg (by simp [hLost]), if_neg (by simp [hKind])] at hStep
        split at hStep
        · rw [callLoop_finish hStep]
          exact evidenceKept_of_written_eq_zero h.written
        · rw [callLoop_finish hStep]
          exact evidenceKept_of_written_eq_zero h.written
      -- from here on the state is a sent one, and every later result says so
      | sentFailure =>
        rw [hc] at hSpec
        obtain ⟨e, hRes, hEv⟩ := hSpec
        refine iff_of_true ?_ rfl
        refine callLoop_of_step (Q := SentState) ?_
          (callLoop_sent frameLen env remaining (attempt + 1))
        rw [callStep_error hExp hRes]
        obtain ⟨hErr, hSent⟩ := noteFailure_sent _ e (.inr hEv)
        exact afterFailure_sent hSent hErr
      | malformedReply =>
        rw [hc] at hSpec
        obtain ⟨hWritten, m, hRes⟩ := hSpec
        have hStep := callStep_malformed (remaining = 0) h.unsent hExp hRes hWritten
        rcases h.disconnect with ⟨hd, hl⟩ | ⟨first, hd, hl, hFirstEv⟩
        · rw [if_neg (by simp [hd])] at hStep
          rw [callLoop_finish hStep]
          exact iff_of_true (evidenceKept_of_error nofun) (by simp [hl])
        · -- the recorded disconnect is returned although the frame was written
          rw [if_pos (by simp [hd])] at hStep
          rw [callLoop_finish hStep]
          refine iff_of_false (fun hKept => ?_) (by simp [hl])
          refine (hKept ?_ first ?_).1 hFirstEv
          · simp only [CallState.giveUp]
            omega
          · simp [CallState.giveUp, hd, h.unsent, DisconnectRecovery.failure]
      | replied =>
        rw [hc] at hSpec
        obtain ⟨data, hRes⟩ := hSpec
        refine iff_of_true ?_ rfl
        refine callLoop_of_step (Q := fun _ => False) ?_ nofun
        unfold callStep
        rw [if_neg (by simp [hExp])]
        dsimp only
        rw [hRes]
        exact evidenceKept_of_reply _ _ _

/-! ## Errors of a call -/

/-- No error that the loop holds is a classified outcome. -/
structure Unclassified (st : CallState) : Prop where
  disconnect : ∀ recovery ∈ st.disconnect, recovery.first.outcome? = none
  last : ∀ e ∈ st.lastError, e.outcome? = none

theorem unclassified_initial : Unclassified .initial := by
  constructor
  · intro recovery hRec
    cases hRec
  · intro e he
    cases he

/-- The call fails with an error that is no classified outcome. -/
def FailsUnclassified (r : CallResult) : Prop := ∀ e, r.result = .error e → e.outcome? = none

/-- The error at the end of the loop has no outcome either. -/
theorem failsUnclassified_giveUp (h : Unclassified st) : FailsUnclassified st.giveUp := by
  intro e he
  cases hd : st.disconnect with
  | some recovery =>
    have hFirst := h.disconnect recovery (by simp [hd])
    simp only [CallState.giveUp, hd, DisconnectRecovery.failure] at he
    split at he
    · cases he
      rfl
    · cases he
      exact hFirst
  | none =>
    simp only [CallState.giveUp, hd] at he
    cases hl : st.lastError with
    | none =>
      rw [hl] at he
      cases he
      rfl
    | some e' =>
      rw [hl] at he
      cases he
      exact h.last e' (by simp [hl])

theorem unclassified_noteFailure (h : Unclassified st) (he : e.outcome? = none) :
    (st.noteFailure e).1.outcome? = none ∧ Unclassified (st.noteFailure e).2 := by
  unfold CallState.noteFailure
  split
  · exact ⟨he, h.disconnect, h.last⟩
  split
  · exact ⟨rfl, h⟩
  · exact ⟨he, h⟩

/-- Behind a failure without an outcome the call still has none. -/
theorem unclassified_afterFailure {reconnect : ReconnectEvent} (h : Unclassified st)
    (he : e.outcome? = none) :
    (afterFailure reconnect last e st).All FailsUnclassified Unclassified := by
  -- the error that is returned in the end is the first of the losses
  have hFirst : (st.disconnect.getD { first := e, reconnects := 0 }).first.outcome? = none := by
    cases hd : st.disconnect with
    | none => exact he
    | some recovery => exact h.disconnect recovery (by simp [hd])
  have hLost : ∀ recovery : DisconnectRecovery, recovery.first.outcome? = none →
      Unclassified { st with disconnect := some recovery } := by
    intro recovery hRec
    refine ⟨fun recovery' hr => ?_, h.last⟩
    cases hr
    exact hRec
  unfold afterFailure
  split
  · dsimp only
    split
    · exact failsUnclassified_giveUp (hLost _ hFirst)
    · unfold DisconnectRecovery.nextDelay
      split
      · exact failsUnclassified_giveUp (hLost _ hFirst)
      · rename_i recovery hNext
        split at hNext
        · cases hNext
        · cases hNext
          split
          · exact hLost _ hFirst
          · exact failsUnclassified_giveUp (hLost _ hFirst)
  split
  · refine ⟨h.disconnect, fun e' he' => ?_⟩
    cases he'
    exact he
  split
  · exact failsUnclassified_giveUp h
  · intro e' he'
    cases he'
    exact he

/-- An attempt fails with transport errors and RPC errors only. -/
theorem sendAndReceiveInner_unclassified {env : AttemptEnv}
    (h : (sendAndReceiveInner frameLen false env).result = .error e) : e.outcome? = none := by
  obtain ⟨readyWait, poisoned, stopped, locked, write, reply⟩ := env
  simp only [sendAndReceiveInner] at h
  repeat' split at h
  all_goals first | (cases h; rfl) | skip
  cases reply <;> cases h <;> rfl

/-- **The error of a call is raw**: whatever the schedule, classification is left to the
caller. -/
theorem callLoop_unclassified (frameLen : Nat) (env : Nat → IterEnv) (remaining : Nat) :
    ∀ (attempt : Nat) (st : CallState), Unclassified st →
      FailsUnclassified (callLoop frameLen false env remaining attempt st) := by
  induction remaining with
  | zero => exact fun _ _ h => failsUnclassified_giveUp h
  | succ remaining ih =>
    intro attempt st h
    refine callLoop_of_step (Q := Unclassified) ?_ (ih (attempt + 1))
    unfold callStep
    split
    · exact failsUnclassified_giveUp h
    · dsimp only
      split
      · intro e he
        rcases parseRpcResponse_error he with ⟨m, rfl⟩ | ⟨m, rfl⟩
        · rfl
        · rfl
      · rename_i e hRes
        have hSt : Unclassified { st with written := st.written +
            (sendAndReceiveInner frameLen false (env attempt).attempt).written } :=
          ⟨h.disconnect, h.last⟩
        obtain ⟨hErr, hNoted⟩ :=
          unclassified_noteFailure hSt (sendAndReceiveInner_unclassified hRes)
        exact unclassified_afterFailure hNoted hErr

/-! ## The whole call -/

/-- A call that bypasses readiness returns its only attempt's own evidence. -/
theorem callLoop_bypass (frameLen : Nat) (env : Nat → IterEnv) (maxAttempts : Nat) :
    EvidenceKept (callLoop frameLen true env maxAttempts 0 .initial) := by
  cases maxAttempts with
  | zero => exact evidenceKept_of_written_eq_zero rfl
  | succ remaining =>
    refine callLoop_of_step (Q := fun _ => False) ?_ nofun
    unfold callStep
    split
    · exact evidenceKept_of_written_eq_zero rfl
    · dsimp only
      split
      · exact evidenceKept_of_reply _ _ _
      · rename_i e hRes
        by_cases hEv : e.requestTransmission = some .notSent
        · refine evidenceKept_of_written_eq_zero ?_
          rw [noteFailure_unsent rfl (by simp [hEv])]
          simp [CallState.initial, sendAndReceiveInner_bypass_notSent hRes hEv]
        · refine evidenceKept_of_error ?_
          by_cases hSent : e.requestTransmission = some .sent
          · simp [(noteFailure_sent _ e (.inr hSent)).1]
          · rw [noteFailure_unsent rfl hSent]
            exact hEv

/-- **Send evidence of a logical RPC.** For every request, replay policy and schedule of
attempts, the error of the call keeps the send evidence exactly when the call bypasses
readiness, has no connection for its program, or its schedule is not an unsent connection
loss followed, before anything else is sent, by a malformed reply record. -/
theorem callWithDataInner_evidenceKept_iff (msgBody data : List UInt8) (maxAttempts : Nat)
    (bypassReadiness : Bool) (env : Nat → IterEnv) :
    EvidenceKept (callWithDataInner msgBody data maxAttempts bypassReadiness env) ↔
      bypassReadiness = true ∨ getMux (rpcProgram msgBody) ≠ .ok () ∨
        malformedAfterUnsentLoss env maxAttempts 0 0 = false := by
  unfold callWithDataInner
  cases hMux : getMux (rpcProgram msgBody) with
  | error e =>
    exact iff_of_true (evidenceKept_of_written_eq_zero rfl) (.inr (.inl nofun))
  | ok u =>
    cases bypassReadiness with
    | true => exact iff_of_true (callLoop_bypass _ _ _) (.inl rfl)
    | false =>
      have hFrame : 0 < 12 + msgBody.length + data.length + pad4 data.length := by omega
      have hIff := callLoop_unsent_iff hFrame env maxAttempts 0 0 .initial unsentState_initial
      simpa using hIff

/-- An NFSv4.1 request body: RPC version 2, program 100003, version 4, COMPOUND, and empty
credential and verifier. -/
def compoundCallBody : List UInt8 :=
  [0, 0, 0, 2, 0, 1, 134, 163, 0, 0, 0, 4, 0, 0, 0, 1,
   0, 0, 0, 0, 0, 0, 0, 0, 0, 0, 0, 0, 0, 0, 0, 0]

/-- The first attempt finds the rebind failed; after a successful reconnect the frame is
written and the reader stops on a malformed record. -/
def rebindFailedThenMalformed : Nat → IterEnv
  | 0 =>
    { expired := false, xid := 1, reconnect := .ok
      attempt := { readyWait := .failed, pendingPoisoned := false, readerStopped := false,
                   writerLocked := true, write := .complete, reply := .responseTimeout } }
  | _ =>
    { expired := false, xid := 2, reconnect := .ok
      attempt := { readyWait := .ready, pendingPoisoned := false, readerStopped := false,
                   writerLocked := true, write := .complete,
                   reply := .readerRpc "RPC record size 3 is shorter than XID" } }

/-- The frame of the second attempt is on the wire, and the call says `notSent`. -/
theorem notSent_after_malformed_record :
    ¬ EvidenceKept (callWithDataInner compoundCallBody [] 10 false
        rebindFailedThenMalformed) := by
  intro h
  refine (h ?_ (.transport .notSent (.io .notConnected
    "NFSv4.1 connection rebind failed; connection is not ready")) rfl).1 rfl
  decide

end NfsRs.Rpc
