import NfsRs.Nfs41.CompoundCall

/-!
# NfsRs — at most one execution of a mutation

Within one session the reply cache of the slot makes a retransmitted request execute once.
Across sessions nothing does: when a session is lost, `compound_budgeted` re-establishes it
and sends the COMPOUND again under a fresh identity. Only the v4.2 mutations are pinned to
their session; a request bound to a generation is rejected locally on the new session. For
all others an execution whose reply was lost is followed by a second one.

## Main results

- `compound_executes_once` : in every run in which no session loss is reported to the call
  after an execution (of a request neither pinned nor bound), the server executes the
  request at most once.
- `remove_executed_twice` : REMOVE is executed, its reply lost with the session, and the
  call returns the NOENT of a second execution.
-/

namespace NfsRs.Nfs41

open CompoundCall

/-! ## The property and its condition -/

/-- The server executes the request at most once, or the call says that it cannot know. -/
def AtMostOnce (s : CompoundCall) : Prop :=
  s.executions ≤ 1 ∨ ∃ e, s.phase = .done (.error e) ∧ e.containsUncertainOutcome = true

/-- The call does not start over, on a fresh session, behind an execution: it is not told of
a session loss then, it has no recovery left, the request is pinned to its session, or the
request is bound to a generation. -/
def NoLossAfterExecution (req : CompoundRequest) (s : CompoundCall) : CompoundEvent → Prop
  | .call x => ∀ resp, x.decoded = .ok resp → resp.isSessionLoss = true →
      s.attempt < delayRetryMax → req.requiresOriginalSession = true ∨
        req.requiredGeneration ≠ none ∨
        ∀ r, x.served.or s.accepted = some r → evaluates req.ops r = false
  | _ => True

/-! ## The invariant -/

/-- Executions under the current identity. -/
def executionsNow (req : CompoundRequest) (s : CompoundCall) : Nat :=
  if s.accepted.any (evaluates req.ops) then 1 else 0

/-- No identity is in use. -/
structure Idle (s : CompoundCall) : Prop where
  outstanding : s.outstanding = 0
  accepted : s.accepted = none

/-- The request is on the wire under this identity. -/
structure OnWire (req : CompoundRequest) (s : CompoundCall) (ctx : SlotContext)
    (b : CompoundBuilder) : Prop where
  executions : s.executions = executionsNow req s
  built : BuiltFrom req ctx b
  generation : ctx.session.generation ≤ s.generation

/-- What holds in each phase. An execution under an identity that was given up is one of a
request whose generation is past, or the session of which is being replaced. -/
def OncePhase (req : CompoundRequest) (s : CompoundCall) : CallPhase → Prop
  | .head | .backoffBehind _ _ =>
    Idle s ∧ (s.executions = 0 ∨
      s.executions ≤ 1 ∧ ∃ g, req.requiredGeneration = some g ∧ g < s.generation)
  | .calling ctx b | .backoff ctx b _ => OnWire req s ctx b
  | .recovering expected | .establishing expected =>
    Idle s ∧ expected ≤ s.generation ∧ (s.executions = 0 ∨
      s.executions ≤ 1 ∧ req.requiredGeneration = some expected)
  | .done _ => s.executions ≤ 1 ∧ (s.accepted = none → 0 < s.outstanding → s.executions = 0)

def OnceInv (req : CompoundRequest) (s : CompoundCall) : Prop := OncePhase req s s.phase

variable {req : CompoundRequest} {s s' t : CompoundCall} {ctx : SlotContext}
  {b : CompoundBuilder}

theorem executionsNow_le (req : CompoundRequest) (s : CompoundCall) :
    executionsNow req s ≤ 1 := by
  unfold executionsNow
  split <;> omega

theorem executionsNow_none (h : s.accepted = none) : executionsNow req s = 0 := by
  simp [executionsNow, h]

/-- The server's part: one execution for each identity. -/
theorem onWire_serve {sent : Nat} {served : Option CompoundResponse} (h : OnWire req s ctx b)
    (hServe : s.serve req sent served = some t) :
    OnWire req t ctx b ∧ t.accepted = served.or s.accepted ∧ t.attempt = s.attempt := by
  rcases serve_cases hServe with ⟨rfl, rfl⟩ | ⟨resp, rfl, hNone, -, -, rfl⟩
  · exact ⟨h, rfl, rfl⟩
  · refine ⟨⟨?_, h.built, h.generation⟩, rfl, rfl⟩
    have hZero : s.executions = 0 := h.executions.trans (executionsNow_none hNone)
    simp [execute, executionsNow, hZero]

/-! ## The return of an RPC -/

/-- The call returns: it has executed what it has under the current identity. -/
theorem onceInv_finish (h : OnWire req s ctx b) (settled : Bool)
    (result : Except NfsError CompoundResponse) : OnceInv req (s.finish settled result) := by
  show s.executions ≤ 1 ∧ (s.accepted = none → _ → s.executions = 0)
  rw [h.executions]
  exact ⟨executionsNow_le req s, fun hNone _ => executionsNow_none hNone⟩

theorem executions_eq_zero (h : OnWire req s ctx b)
    (hAcc : ∀ r, s.accepted = some r → evaluates req.ops r = false) : s.executions = 0 := by
  rw [h.executions, executionsNow]
  cases hr : s.accepted with
  | none => rfl
  | some r => simp [hAcc r hr]

variable {authLen : Nat} {resp : CompoundResponse}

/-- A reply of the server leads on to a phase whose invariant holds. -/
theorem onceInv_conclude (h : OnWire req s ctx b) (hAns : s.answers resp)
    (hLoss : resp.isSessionLoss = true → s.attempt < delayRetryMax →
      req.requiresOriginalSession = true ∨ req.requiredGeneration ≠ none ∨
        ∀ r, s.accepted = some r → evaluates req.ops r = false) :
    OnceInv req (s.conclude ctx b
      (compoundVerdict b req.progressIndex ctx s.attempt resp)) := by
  have hGoes := compoundVerdict_goesOn b req.progressIndex ctx s.attempt resp
  revert hGoes
  cases compoundVerdict b req.progressIndex ctx s.attempt resp with
  | busySequence e => exact fun _ => ⟨h.executions, h.built, h.generation⟩
  | finish settle flags result => exact fun _ => onceInv_finish h settle.advance result
  | retryBusy settle e =>
    rintro ⟨hSeq, hBusy, hCan, -⟩
    obtain ⟨hStart, hEval⟩ := retryBusy_evaluates h.built hSeq hBusy hCan
    -- a refusal has no accepted SEQUENCE, so the reply is that of the execution
    have hAcc : s.accepted = some resp := by
      rcases hAns with hAcc | ⟨hStatus, hNil | ⟨op, hOne, -, hOp⟩⟩
      · exact hAcc
      · simp [CompoundResponse.startsAccepted, hNil] at hStart
      · simp [CompoundResponse.startsAccepted, hOne, hOp, hStatus] at hStart
    have hZero : s.executions = 0 := by
      refine executions_eq_zero h fun r hr => ?_
      rw [hAcc] at hr
      cases hr
      exact hEval
    exact ⟨⟨rfl, rfl⟩, .inl hZero⟩
  | recover settle e =>
    rintro ⟨hIs, hPin, hAttempt, -⟩
    refine ⟨⟨rfl, rfl⟩, h.generation, ?_⟩
    rcases hLoss hIs hAttempt with hPinned | hBound | hNot
    · rw [← h.built.requiresOriginalSession, hPin] at hPinned
      cases hPinned
    · obtain ⟨g, hg⟩ := Option.ne_none_iff_exists'.mp hBound
      refine .inr ⟨?_, ?_⟩
      · show s.executions ≤ 1
        rw [h.executions]
        exact executionsNow_le req s
      · rw [hg, h.built.generation g hg]
    · have hZero : s.executions = 0 := executions_eq_zero h hNot
      exact .inl hZero

theorem reply_decoded {x : Exchange} {session : Session}
    (h : x.reply req authLen b session = .ok resp) : x.decoded = .ok resp := by
  obtain ⟨payload, -, h⟩ := Lib.bind_eq_ok_iff.mp h
  obtain ⟨-, -, h⟩ := Lib.bind_eq_ok_iff.mp h
  obtain ⟨resp', hDec, h⟩ := Lib.bind_eq_ok_iff.mp h
  obtain ⟨-, -, h⟩ := Lib.bind_eq_ok_iff.mp h
  cases h
  exact Lib.mapError_eq_ok_iff.mp hDec

theorem onceInv_call {x : Exchange} (h : OnWire req s ctx b)
    (hok : NoLossAfterExecution req s (.call x))
    (hstep : s.callReturns req authLen ctx b x = some s') : OnceInv req s' := by
  obtain ⟨t, hServe, hCases⟩ := callReturns_cases hstep
  obtain ⟨hWire, hAcc, hAttempt⟩ := onWire_serve h hServe
  have hWire' : OnWire req (t.addOutstanding (x.unanswered req authLen b)) ctx b :=
    ⟨hWire.executions, hWire.built, hWire.generation⟩
  rcases hCases with ⟨e, -, rfl⟩ | ⟨resp, hReply, hAns, rfl⟩
  · exact onceInv_finish hWire' false _
  · refine onceInv_conclude hWire' hAns fun hIs hLt => ?_
    change t.attempt < delayRetryMax at hLt
    change _ ∨ _ ∨ ∀ r, t.accepted = some r → _
    rw [hAttempt] at hLt
    rw [hAcc]
    exact hok resp (reply_decoded hReply) hIs hLt

/-! ## Every run -/

/-- An unanswered frame executed late counts for its identity only. -/
theorem onceInv_lateAccept (h : OnceInv req s)
    (hstep : s.serve req s.outstanding (some resp) = some s') : OnceInv req s' := by
  rcases serve_cases hstep with ⟨hNone, -⟩ | ⟨resp', hSome, hNone, hSent, hStart, rfl⟩
  · cases hNone
  cases hSome
  have hIdle : ¬ Idle s := fun hIdle => by
    have := hIdle.outstanding
    omega
  have hWire : ∀ {ctx b}, OnWire req s ctx b → OnWire req (s.execute req resp) ctx b :=
    fun hOn => (onWire_serve hOn hstep).1
  unfold OnceInv at h
  show OncePhase req (s.execute req resp) s.phase
  revert h
  cases s.phase with
  | head => exact fun h => absurd h.1 hIdle
  | backoffBehind context e => exact fun h => absurd h.1 hIdle
  | recovering expected => exact fun h => absurd h.1 hIdle
  | establishing expected => exact fun h => absurd h.1 hIdle
  | calling ctx b => exact fun h => hWire h
  | backoff ctx b e => exact fun h => hWire h
  | done result =>
    intro h
    have hZero := h.2 hNone hSent
    refine ⟨?_, nofun⟩
    simp only [execute, hZero]
    split <;> omega

/-- A new generation in the holder only makes old ones older. -/
theorem onceInv_otherRecovery (h : OnceInv req s) :
    OnceInv req { s with generation := s.generation + 1 } := by
  unfold OnceInv at h
  show OncePhase req { s with generation := s.generation + 1 } s.phase
  revert h
  have hOld : (s.executions = 0 ∨
      s.executions ≤ 1 ∧ ∃ g, req.requiredGeneration = some g ∧ g < s.generation) →
      s.executions = 0 ∨
        s.executions ≤ 1 ∧ ∃ g, req.requiredGeneration = some g ∧ g < s.generation + 1 := by
    rintro (hZero | ⟨hOne, g, hReq, hLt⟩)
    · exact .inl hZero
    · exact .inr ⟨hOne, g, hReq, by omega⟩
  cases s.phase with
  | head => exact fun h => ⟨⟨h.1.outstanding, h.1.accepted⟩, hOld h.2⟩
  | backoffBehind context e => exact fun h => ⟨⟨h.1.outstanding, h.1.accepted⟩, hOld h.2⟩
  | recovering expected =>
    exact fun h => ⟨⟨h.1.outstanding, h.1.accepted⟩, Nat.le_succ_of_le h.2.1, h.2.2⟩
  | establishing expected =>
    exact fun h => ⟨⟨h.1.outstanding, h.1.accepted⟩, Nat.le_succ_of_le h.2.1, h.2.2⟩
  | calling ctx b => exact fun h => ⟨h.executions, h.built, Nat.le_succ_of_le h.generation⟩
  | backoff ctx b e => exact fun h => ⟨h.executions, h.built, Nat.le_succ_of_le h.generation⟩
  | done result => exact fun h => h

/-- The call ends with no identity in use. -/
theorem onceInv_done (hIdle : Idle s) (hOnce : s.executions ≤ 1)
    (result : Except NfsError CompoundResponse) :
    OnceInv req { s with phase := .done result } := by
  refine ⟨hOnce, fun _ hSent => ?_⟩
  have hZero : s.outstanding = 0 := hIdle.outstanding
  change 0 < s.outstanding at hSent
  omega

theorem once_of_or {p : Prop} (h : s.executions = 0 ∨ s.executions ≤ 1 ∧ p) :
    s.executions ≤ 1 := by
  rcases h with h | h
  · omega
  · exact h.1

/-- A request bound to a past generation does not get past its checks. -/
theorem onceInv_begin {highestSlotId : Nat} (hIdle : Idle s) (hOld : s.executions = 0 ∨
      s.executions ≤ 1 ∧ ∃ g, req.requiredGeneration = some g ∧ g < s.generation)
    (hGen : ctx.session.generation = s.generation)
    (hb : req.preflight authLen ctx highestSlotId = .ok b) :
    OnceInv req { s with phase := .calling ctx b } := by
  have hBuilt := preflight_ok hb
  refine ⟨?_, hBuilt, hGen.le⟩
  show s.executions = executionsNow req s
  rw [executionsNow_none hIdle.accepted]
  rcases hOld with hZero | ⟨-, g, hReq, hLt⟩
  · exact hZero
  · have hEq := hBuilt.generation g hReq
    omega

theorem OnceInv.between (h : OnceInv req s) (hPhase : s.phase.between = true) :
    Idle s ∧ s.executions ≤ 1 := by
  unfold OnceInv at h
  revert h hPhase
  cases s.phase with
  | head => exact fun h _ => ⟨h.1, once_of_or h.2⟩
  | backoffBehind context e => exact fun h _ => ⟨h.1, once_of_or h.2⟩
  | recovering expected => exact fun h _ => ⟨h.1, once_of_or h.2.2⟩
  | establishing expected => exact fun h _ => ⟨h.1, once_of_or h.2.2⟩
  | calling ctx b => exact fun _ hFalse => nomatch hFalse
  | backoff ctx b e => exact fun _ hFalse => nomatch hFalse
  | done result => exact fun _ hFalse => nomatch hFalse

/-- **Step.** Under the condition every step keeps the invariant. -/
theorem onceInv_step {a : CompoundEvent} (h : OnceInv req s) (hok : NoLossAfterExecution req s a)
    (hstep : compoundStep req authLen s a = some s') : OnceInv req s' := by
  cases callMove_of_step hstep with
  | start hPhase hGen hb =>
    rw [OnceInv, hPhase] at h
    exact onceInv_begin h.1 h.2 hGen hb
  | giveUp e hPhase =>
    obtain ⟨hIdle, hOnce⟩ := h.between hPhase
    exact onceInv_done hIdle hOnce _
  | call hPhase hReturn =>
    rw [OnceInv, hPhase] at h
    exact onceInv_call h hok hReturn
  | lateAccept hServe => exact onceInv_lateAccept h hServe
  | exhaust e hPhase =>
    rw [OnceInv, hPhase] at h
    exact onceInv_finish h false _
  | resend hPhase =>
    rw [OnceInv, hPhase] at h
    exact ⟨h.executions, h.built, h.generation⟩
  | restart hPhase =>
    rw [OnceInv, hPhase] at h
    exact ⟨⟨h.1.outstanding, h.1.accepted⟩, h.2⟩
  | otherRecovery => exact onceInv_otherRecovery h
  | @recovered expected hPhase hGen =>
    rw [OnceInv, hPhase] at h
    obtain ⟨hIdle, hLe, hOld⟩ := h
    -- an execution of before the recovery is now one on an older session
    have hLt : expected < s.generation := by omega
    exact ⟨⟨hIdle.outstanding, hIdle.accepted⟩,
      hOld.imp_right fun ⟨hOne, hReq⟩ => ⟨hOne, expected, hReq, hLt⟩⟩
  | locked hPhase =>
    rw [OnceInv, hPhase] at h
    obtain ⟨hIdle, hLe, hOld⟩ := h
    exact ⟨⟨hIdle.outstanding, hIdle.accepted⟩, hLe, hOld⟩
  | @established expected hPhase =>
    rw [OnceInv, hPhase] at h
    obtain ⟨hIdle, hLe, hOld⟩ := h
    exact ⟨⟨hIdle.outstanding, hIdle.accepted⟩,
      hOld.imp_right fun ⟨hOne, hReq⟩ => ⟨hOne, expected, hReq, Nat.lt_succ_self expected⟩⟩

theorem OnceInv.atMostOnce (h : OnceInv req s) : AtMostOnce s := by
  left
  unfold OnceInv at h
  revert h
  cases s.phase with
  | head => exact fun h => once_of_or h.2
  | backoffBehind context e => exact fun h => once_of_or h.2
  | recovering expected => exact fun h => once_of_or h.2.2
  | establishing expected => exact fun h => once_of_or h.2.2
  | calling ctx b => exact fun h => h.executions ▸ executionsNow_le req s
  | backoff ctx b e => exact fun h => h.executions ▸ executionsNow_le req s
  | done result => exact fun h => h.1

/-- **At most one execution.** For every request and every schedule of lost replies,
retransmissions, busy retries, session losses and re-establishments in which the call is
told of no session loss behind an execution, the server executes the request at most
once. -/
theorem compound_executes_once (req : CompoundRequest) (authLen generation : Nat)
    (h : (compoundMachine req authLen generation).ReachableIf (NoLossAfterExecution req) s) :
    AtMostOnce s := by
  have hInit : OnceInv req (.initial generation) := ⟨⟨rfl, rfl⟩, .inl rfl⟩
  have hInv : OnceInv req s := h.invariant hInit fun _ _ _ _ hok hstep hInv =>
    onceInv_step hInv hok hstep
  exact hInv.atMostOnce

/-! ## A second execution -/

/-- REMOVE of a name, bound to no generation. -/
def removeRequest : CompoundRequest :=
  { tag := "remove"
    ops := [{ opcode := .putFh, args := [] }, { opcode := .remove, args := [] }]
    requiredGeneration := none, progressIndex := none, dataLen := 0 }

/-- REMOVE evaluated with a status. -/
def removeReply (generation : Nat) (status : Nfs4ErrorCode) : CompoundResponse :=
  { tag := "remove", status := status, sessionGeneration := 0
    results := [sequenceOk generation, { opcode := 22, status := .ok, data := [] },
      { opcode := 28, status := status, data := [] }] }

/-- REMOVE is executed, its reply lost, and the retransmission answered from the cache. -/
def replayedFromCache : List CompoundEvent :=
  [.begin (sessionOf 1) 0 1 0,
   .call { transport := answeredSecond, decoded := .ok (removeReply 1 .ok)
           served := some (removeReply 1 .ok) }]

/-- The lost reply of one session is replayed, and REMOVE is executed once. -/
theorem compound_executes_once_replayed :
    ∃ s, (compoundMachine removeRequest 16 1).runFrom (.initial 1) replayedFromCache = some s ∧
      s.executions = 1 ∧ AtMostOnce s := by
  refine ⟨_, rfl, rfl, compound_executes_once removeRequest 16 1 ?_⟩
  refine Lib.Machine.reachableIf_of_runFrom replayedFromCache .init ?_ rfl
  refine ⟨trivial, fun s₁ _ => ⟨fun resp hDec hLoss => ?_, fun _ _ => trivial⟩⟩
  cases hDec
  cases hLoss

/-- REMOVE is executed and its reply lost, the retransmission is told of the session loss,
and the request runs again on the new session. -/
def lossBehindExecution : List CompoundEvent :=
  [.begin (sessionOf 1) 0 1 0,
   .call { transport := answeredSecond, decoded := .ok (refusedWith .badsession)
           served := some (removeReply 1 .ok) },
   .lock, .establish .established, .begin (sessionOf 2) 0 1 0,
   .call { transport := answeredFirst, decoded := .ok (removeReply 2 .noent)
           served := some (removeReply 2 .noent) }]

/-- The call returns the NOENT of the second execution. -/
theorem remove_executed_twice :
    ∃ s, (compoundMachine removeRequest 16 1).Reachable s ∧
      s.phase = .done (.error (.nfs4 .noent)) ∧ s.executions = 2 ∧ ¬ AtMostOnce s := by
  refine ⟨_, Lib.Machine.reachable_of_runFrom (m := compoundMachine removeRequest 16 1)
    lossBehindExecution rfl, rfl, rfl, ?_⟩
  rintro (hOne | ⟨e, hDone, hUncertain⟩)
  · exact absurd hOne (by decide)
  · cases hDone
    cases hUncertain

end NfsRs.Nfs41
