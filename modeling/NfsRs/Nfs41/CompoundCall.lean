import NfsRs.Lib.Machine
import NfsRs.Nfs41.Senders
import NfsRs.Rpc.Evidence

/-!
# NfsRs — one COMPOUND call

The machine of one call of `Mount41::compound_budgeted`: its loop over sessions, slots and
busy retries, with each inner RPC run by the transport model on a schedule of its own.
Around it stand the other requests, which may re-establish the session at any time, and
the server, which accepts a frame of the request at most once for each identity
(session, slot, sequence id) and answers with the cached reply from then on, or refuses a
frame at SEQUENCE.

Replies are given decoded. Beside the call's own locals the state counts what the call
does not see: the request bytes handed to the socket whose result is unknown, the reply of
the execution under the current identity, and the number of executions.
-/

namespace NfsRs.Nfs41

open NfsRs.Rpc (pad4 IterEnv CallResult callLoop)

/-! ## The request on the wire -/

/-- `NFS_RETRIES`. -/
def nfsRetries : Nat := 10

/-- Bytes of a frame: the record prefix, the encoded COMPOUND, and the padded payload. -/
def frameLen (authLen : Nat) (b : CompoundBuilder) (dataLen : Nat) : Nat :=
  12 + b.encodedLen authLen + dataLen + pad4 dataLen

theorem frameLen_pos (authLen : Nat) (b : CompoundBuilder) (dataLen : Nat) :
    0 < frameLen authLen b dataLen := by
  unfold frameLen
  omega

/-- `Client::call_with_data` under the replay policy of NFS; the program of a COMPOUND has
a connection. -/
def rpcCall (frameLen : Nat) (transport : Nat → IterEnv) : CallResult :=
  callLoop frameLen false transport nfsRetries 0 .initial

/-- Request bytes of a call beside the frame that was answered. -/
def unansweredBytes (frameLen : Nat) (r : CallResult) : Nat :=
  match r.result with
  | .ok _ => r.written - frameLen
  | .error _ => r.written

namespace CompoundRequest

/-- The mutations that are not repeated on another session. -/
def requiresOriginalSession (r : CompoundRequest) : Bool :=
  r.ops.any fun op => op.opcode.pinsSession

/-- The local rejection of state from another session. -/
def staleGeneration (r : CompoundRequest) (ctx : SlotContext) (required : Nat) : NfsError :=
  .outcomeError .definiteFailure r.operationClass .reopen
    (requestContext r.tag ctx.session ctx.slotId ctx.sequenceId)
    (.rpc s!"stale session generation {required}, active {ctx.session.generation}")

/-- The checks between acquiring a slot and the first frame. -/
def preflight (r : CompoundRequest) (authLen : Nat) (ctx : SlotContext) (highestSlotId : Nat) :
    Except NfsError CompoundBuilder :=
  match r.requiredGeneration.filter (· ≠ ctx.session.generation) with
  | some required => .error (r.staleGeneration ctx required)
  | none => do
    let b ← (r.builder ctx highestSlotId).applySequenceCachePolicy
      ctx.session.maxCachedResponseSize
    b.enforceMaxOperations ctx.session.maxOperations
    enforceRequestSize ctx.session (b.encodedLen authLen) r.dataLen
    .ok b

end CompoundRequest

/-- The checks on a reply before it is looked at. -/
def checkedReply (session : Session) (requestOps : Nat) (decoded : Except String CompoundResponse)
    (payload : List UInt8) : Except NfsError CompoundResponse := do
  enforceResponseSize session payload.length
  let resp ← decoded.mapError .xdr
  enforceResponseOperations session resp requestOps
  .ok resp

/-! ## State -/

inductive CallPhase where
  /-- Head of the loop. -/
  | head
  /-- Inside the RPC for a slot. -/
  | calling (ctx : SlotContext) (b : CompoundBuilder)
  /-- Backing off behind a busy SEQUENCE; the same frame follows. -/
  | backoff (ctx : SlotContext) (b : CompoundBuilder) (error : NfsError)
  /-- Backing off behind a busy operation; the loop starts over. -/
  | backoffBehind (context : RequestContext) (error : NfsError)
  /-- Waiting for the recovery lock behind a lost session of this generation. -/
  | recovering (expected : Nat)
  /-- `Session::establish` under the lock. -/
  | establishing (expected : Nat)
  | done (result : Except NfsError CompoundResponse)

structure CompoundCall where
  phase : CallPhase
  /-- Session recoveries so far. -/
  attempt : Nat
  /-- Generation in the session holder. It fits 64 bits as long as there are fewer
  recoveries. -/
  generation : Nat
  /-- Bytes of unanswered frames under the current identity. -/
  outstanding : Nat
  /-- Bytes under identities given up with their result unknown. -/
  abandoned : Nat
  /-- The server's reply to its execution under the current identity. -/
  accepted : Option CompoundResponse
  executions : Nat

/-- The server evaluated a replay-sensitive operation: one has a result that is not
busy. `ops` are the operations behind SEQUENCE. -/
def evaluates (ops : List EncodedOp) (resp : CompoundResponse) : Bool :=
  (ops.zip (resp.results.drop 1)).any fun p =>
    p.1.opcode.opClass == .replaySensitive && p.2.status != .delay && p.2.status != .grace

/-- The first result is a successful SEQUENCE. -/
def CompoundResponse.startsAccepted (resp : CompoundResponse) : Bool :=
  resp.results.head?.any fun op => op.opcode == OpNum.sequence.code && op.status == .ok

/-- What one RPC of the call meets: the transport's schedule, what the reply decodes to,
and the server's execution of the request during the RPC, if it executes it. -/
structure Exchange where
  transport : Nat → IterEnv
  decoded : Except String CompoundResponse
  served : Option CompoundResponse

namespace Exchange

variable (x : Exchange) (req : CompoundRequest) (authLen : Nat) (b : CompoundBuilder)

/-- The RPC of the frame. -/
def rpc : CallResult := rpcCall (frameLen authLen b req.dataLen) x.transport

/-- Request bytes that the RPC leaves without an answer. -/
def unanswered : Nat := unansweredBytes (frameLen authLen b req.dataLen) (x.rpc req authLen b)

/-- What the loop sees of the RPC. -/
def reply (session : Session) : Except NfsError CompoundResponse :=
  (x.rpc req authLen b).result >>= checkedReply session b.ops.length x.decoded

end Exchange

/-- How `Budget::backoff` ends. -/
inductive BackoffEnd where
  | slept
  | exhausted (retries : Nat) (reason : RetryExhaustion)
  /-- The waiter of a read was dropped. -/
  | cancelled
  deriving DecidableEq, Repr

def BackoffEnd.error? (context : RequestContext) (source : NfsError) :
    BackoffEnd → Option NfsError
  | .slept => none
  | .exhausted retries reason => some (.serverBusy context retries reason source)
  | .cancelled =>
    some (.transport .notSent
      (.io .interrupted "read waiter cancelled during server-busy backoff"))

/-- How the recovery under the lock ends. -/
inductive EstablishEnd where
  | established
  | failed (message : String)
  /-- The backchannel refuses the new session. -/
  | callbackRefused (message : String)
  deriving DecidableEq, Repr

inductive CompoundEvent where
  /-- A slot of the current session is acquired, and the request is checked. -/
  | begin (session : Session) (slotId sequenceId highestSlotId : Nat)
  | acquireFails (message : String)
  | call (x : Exchange)
  /-- The server executes an unanswered frame while no RPC is running. -/
  | lateAccept (resp : CompoundResponse)
  | backoffEnds (outcome : BackoffEnd)
  /-- Another request re-establishes the session. -/
  | otherRecovery
  | lock
  | establish (outcome : EstablishEnd)

namespace CompoundCall

def initial (generation : Nat) : CompoundCall :=
  { phase := .head, attempt := 0, generation := generation, outstanding := 0, abandoned := 0
    accepted := none, executions := 0 }

/-! ## Steps -/

/-- The server executes the request under the current identity. -/
def execute (req : CompoundRequest) (s : CompoundCall) (resp : CompoundResponse) :
    CompoundCall :=
  { s with
    accepted := some resp
    executions := s.executions + if evaluates req.ops resp then 1 else 0 }

/-- It does so once for each identity, on a frame that was handed to the socket. -/
def serve (req : CompoundRequest) (s : CompoundCall) (sent : Nat) :
    Option CompoundResponse → Option CompoundCall
  | none => some s
  | some resp =>
    if s.accepted = none ∧ 0 < sent ∧ resp.startsAccepted = true then some (s.execute req resp)
    else none

/-- A reply the server can give: the one of its execution, or a refusal. -/
def answers (s : CompoundCall) (resp : CompoundResponse) : Prop :=
  s.accepted = some resp ∨ Refusal resp

instance (s : CompoundCall) (resp : CompoundResponse) : Decidable (s.answers resp) :=
  inferInstanceAs (Decidable (_ ∨ _))

/-- Leave the current identity. An accepted SEQUENCE settles all its frames: the cached
reply is theirs too. -/
def leaveIdentity (s : CompoundCall) (settled : Bool) : CompoundCall :=
  { s with
    abandoned := s.abandoned + if settled then 0 else s.outstanding
    outstanding := 0
    accepted := none }

/-- The call returns; an accepted SEQUENCE settles the frames of the identity. -/
def finish (s : CompoundCall) (settled : Bool) (result : Except NfsError CompoundResponse) :
    CompoundCall :=
  { s with phase := .done result, outstanding := if settled then 0 else s.outstanding }

/-- The loop behind a verdict. -/
def conclude (s : CompoundCall) (ctx : SlotContext) (b : CompoundBuilder) :
    Verdict → CompoundCall
  | .busySequence e => { s with phase := .backoff ctx b e }
  | .finish settle _ result => s.finish settle.advance result
  | .retryBusy settle e =>
    { s.leaveIdentity settle.advance with
      phase := .backoffBehind (requestContext b.tag ctx.session ctx.slotId ctx.sequenceId) e }
  | .recover settle _ =>
    { s.leaveIdentity settle.advance with
      phase := .recovering ctx.session.generation, attempt := s.attempt + 1 }

/-- The frames that the RPC left unanswered. -/
def addOutstanding (s : CompoundCall) (n : Nat) : CompoundCall :=
  { s with outstanding := s.outstanding + n }

/-- The return of the RPC. -/
def callReturns (req : CompoundRequest) (authLen : Nat) (s : CompoundCall) (ctx : SlotContext)
    (b : CompoundBuilder) (x : Exchange) : Option CompoundCall :=
  (s.serve req (s.outstanding + (x.rpc req authLen b).written) x.served).bind fun s =>
    let s := s.addOutstanding (x.unanswered req authLen b)
    match x.reply req authLen b ctx.session with
    | .error e =>
      some (s.finish false (.error (sentError b.operationClass
        (requestContext b.tag ctx.session ctx.slotId ctx.sequenceId) e)))
    | .ok resp =>
      if s.answers resp then
        some (s.conclude ctx b (compoundVerdict b req.progressIndex ctx s.attempt resp))
      else none

end CompoundCall

open CompoundCall in
/-- The steps of the call, the other requests and the server. -/
def compoundStep (req : CompoundRequest) (authLen : Nat) (s : CompoundCall) :
    CompoundEvent → Option CompoundCall
  | .begin session slotId sequenceId highestSlotId =>
    match s.phase with
    | .head =>
      if session.generation = s.generation then
        let ctx := { session := session, slotId := slotId, sequenceId := sequenceId }
        match req.preflight authLen ctx highestSlotId with
        | .error e => some { s with phase := .done (.error e) }
        | .ok b => some { s with phase := .calling ctx b }
      else none
    | _ => none
  | .acquireFails message =>
    match s.phase with
    | .head => some { s with phase := .done (.error (.rpc message)) }
    | _ => none
  | .call x =>
    match s.phase with
    | .calling ctx b => s.callReturns req authLen ctx b x
    | _ => none
  | .lateAccept resp => s.serve req s.outstanding (some resp)
  | .backoffEnds outcome =>
    match s.phase with
    | .backoff ctx b e =>
      match outcome.error? (requestContext b.tag ctx.session ctx.slotId ctx.sequenceId) e with
      | some error => some { s with phase := .done (.error error) }
      | none => some { s with phase := .calling ctx b }
    | .backoffBehind context e =>
      match outcome.error? context e with
      | some error => some { s with phase := .done (.error error) }
      | none => some { s with phase := .head }
    | _ => none
  | .otherRecovery => some { s with generation := s.generation + 1 }
  | .lock =>
    match s.phase with
    | .recovering expected =>
      -- the session was recovered by another request
      if s.generation ≠ expected then some { s with phase := .head }
      else some { s with phase := .establishing expected }
    | _ => none
  | .establish outcome =>
    match s.phase with
    | .establishing expected =>
      match outcome with
      | .failed message =>
        some { s with phase := .done (.error (.rpc
          s!"session re-establishment failed: {message}")) }
      | .callbackRefused message =>
        if s.generation = expected then some { s with phase := .done (.error (.rpc message)) }
        else none
      | .established =>
        if s.generation = expected then
          some { s with phase := .head, generation := expected + 1 }
        else
          some { s with phase := .done (.error (.rpc
            "session generation changed during recovery publication")) }
    | _ => none

/-- The machine of one call, from a session holder of some generation. -/
def compoundMachine (req : CompoundRequest) (authLen generation : Nat) :
    Lib.Machine CompoundCall CompoundEvent where
  init := .initial generation
  step := compoundStep req authLen

/-! ## What a checked request and a verdict say -/

/-- The builder of a request that is on the wire. -/
structure BuiltFrom (req : CompoundRequest) (ctx : SlotContext) (b : CompoundBuilder) :
    Prop where
  ops : ∃ seq : EncodedOp, seq.opcode = .sequence ∧ b.ops = seq :: req.ops
  generation : ∀ g, req.requiredGeneration = some g → ctx.session.generation = g

variable {b : CompoundBuilder} {ctx : SlotContext} {req : CompoundRequest} {resp : CompoundResponse}
    {e : NfsError} {authLen : Nat} {s : CompoundCall}

theorem applySequenceCachePolicy_ops {b' : CompoundBuilder} {n : Nat}
    (h : b.applySequenceCachePolicy n = .ok b') :
    ∃ seq : EncodedOp, seq.opcode = .sequence ∧ b'.ops = seq :: b.ops.drop 1 := by
  unfold CompoundBuilder.applySequenceCachePolicy at h
  dsimp only at h
  split at h
  · cases h
  split at h
  · cases h
  · rename_i seq rest hOps
    split at h
    · cases h
    · rename_i hSeq
      cases h
      refine ⟨_, ?_, by rw [hOps]; rfl⟩
      by_contra hne
      exact hSeq (.inl hne)

theorem preflight_ok {highestSlotId : Nat} (h : req.preflight authLen ctx highestSlotId = .ok b) :
    BuiltFrom req ctx b := by
  unfold CompoundRequest.preflight at h
  split at h
  · cases h
  · rename_i hGen
    -- the builder of the cache policy passes the limits unchanged
    obtain ⟨b', hPol, hLimits⟩ := Lib.bind_eq_ok_iff.mp h
    obtain ⟨_, -, hSize⟩ := Lib.bind_eq_ok_iff.mp hLimits
    obtain ⟨_, -, hb⟩ := Lib.bind_eq_ok_iff.mp hSize
    cases hb
    refine ⟨applySequenceCachePolicy_ops hPol, fun g hg => ?_⟩
    rw [hg] at hGen
    by_contra hne
    simp [Option.filter, Ne.symm hne] at hGen

theorem BuiltFrom.requiresOriginalSession (h : BuiltFrom req ctx b) :
    b.requiresOriginalSession = req.requiresOriginalSession := by
  obtain ⟨seq, hSeq, hOps⟩ := h.ops
  simp [CompoundBuilder.requiresOriginalSession, CompoundRequest.requiresOriginalSession, hOps,
    hSeq, OpNum.pinsSession]

/-- Why a verdict goes on. -/
def GoesOn (b : CompoundBuilder) (attempt : Nat) (resp : CompoundResponse) : Verdict → Prop
  | .busySequence _ => resp.sequenceBusy = true
  | .finish _ _ _ => True
  | .retryBusy settle _ =>
    resp.sequenceBusy = false ∧ resp.isBusy = true ∧ b.canRetryBusy resp = .ok true ∧
      (resp.startsAccepted = true → settle.advance = true)
  | .recover settle _ =>
    resp.isSessionLoss = true ∧ b.requiresOriginalSession = false ∧ attempt < delayRetryMax ∧
      (resp.startsAccepted = true → settle.advance = true)

/-- A reply that starts with an accepted SEQUENCE is taken for one. -/
theorem acceptedSequence_some {accepted : Option (SequenceResult × Nat)}
    (hStart : resp.startsAccepted = true) (h : acceptedSequence ctx resp = .ok accepted) :
    accepted.isSome = true := by
  unfold CompoundResponse.startsAccepted at hStart
  unfold acceptedSequence at h
  cases hRes : resp.results with
  | nil => simp [hRes] at hStart
  | cons op rest =>
    rw [hRes] at h hStart
    simp only [List.head?_cons, Option.any_some, Bool.and_eq_true, beq_iff_eq] at hStart
    simp only [hStart, and_self, if_true] at h
    cases hSettle : settleSequence ctx op with
    | error e =>
      rw [hSettle] at h
      cases h
    | ok settled =>
      rw [hSettle] at h
      cases h
      rfl

theorem goesOn_finishBusy {context : RequestContext} {accepted : Option (SequenceResult × Nat)}
    {attempt : Nat} (hSeq : resp.sequenceBusy = false) (hBusy : resp.isBusy = true)
    (hAcc : resp.startsAccepted = true → accepted.isSome = true) :
    GoesOn b attempt resp (finishBusy b context accepted resp) := by
  unfold finishBusy
  dsimp only
  split
  · trivial
  · trivial
  · rename_i hCan
    exact ⟨hSeq, hBusy, hCan, hAcc⟩

/-- **Why the loop goes on**: a busy SEQUENCE, a busy operation that may be retried, or the
loss of a session that the request is not pinned to. -/
theorem compoundVerdict_goesOn (b : CompoundBuilder) (progressIndex : Option Nat)
    (ctx : SlotContext) (attempt : Nat) (resp : CompoundResponse) :
    GoesOn b attempt resp (compoundVerdict b progressIndex ctx attempt resp) := by
  unfold compoundVerdict
  split
  · assumption
  rename_i hSeq
  split
  · trivial
  rename_i accepted hAcc
  unfold compoundOutcome
  dsimp only
  split
  · trivial
  split
  · split <;> trivial
  split
  · rename_i hBusy
    exact goesOn_finishBusy (by simpa using hSeq) hBusy fun h => acceptedSequence_some h hAcc
  split
  · trivial
  rename_i hPin
  split
  · rename_i hLoss
    rw [Bool.and_eq_true, decide_eq_true_eq] at hLoss
    refine ⟨hLoss.1, ?_, hLoss.2, fun h => acceptedSequence_some h hAcc⟩
    simpa [hLoss.1] using hPin
  · trivial

/-- A busy retry behind SEQUENCE is of an accepted request that evaluated no mutation. -/
theorem retryBusy_evaluates (hb : BuiltFrom req ctx b) (hSeq : resp.sequenceBusy = false)
    (hBusy : resp.isBusy = true) (hCan : b.canRetryBusy resp = .ok true) :
    resp.startsAccepted = true ∧ evaluates req.ops resp = false := by
  obtain ⟨seq, hSeqOp, hOps⟩ := hb.ops
  unfold CompoundBuilder.canRetryBusy at hCan
  split at hCan
  · cases hCan
  obtain ⟨-, hScan⟩ := scanBusy_true (by omega) hCan
  rw [hOps] at hCan hScan
  cases hRes : resp.results with
  | nil =>
    rw [hRes] at hCan
    cases hCan
  | cons first rest =>
    rw [hRes] at hCan hScan
    unfold scanBusy at hCan
    split at hCan
    · cases hCan
    rename_i hCode
    have hOp : first.opcode = OpNum.sequence.code := by
      rw [← hSeqOp]
      exact (Decidable.not_not.mp hCode).symm
    split at hCan
    · -- SEQUENCE itself would be the busy operation
      rename_i hBad
      split at hCan
      · cases hCan
      rename_i hEnd
      have hLen : rest = [] := by
        have hOne : 0 + 1 = (first :: rest).length :=
          Decidable.not_not.mp fun hne => hEnd (.inl hne)
        exact List.length_eq_zero_iff.mp (by simpa using hOne.symm)
      have hStatus : first.status = resp.status := Decidable.not_not.mp fun hne => hEnd (.inr hne)
      unfold CompoundResponse.sequenceBusy at hSeq
      unfold CompoundResponse.isBusy at hBusy
      rw [hRes, hLen] at hSeq
      simp [hOp, hStatus, hBusy] at hSeq
    · rename_i hOk
      have hOk : first.status = .ok := Decidable.not_not.mp hOk
      refine ⟨by simp [CompoundResponse.startsAccepted, hRes, hOp, hOk], ?_⟩
      unfold evaluates
      rw [List.any_eq_false]
      intro p hp
      rw [hRes] at hp
      by_cases hMut : p.1.opcode.opClass = .replaySensitive
      · obtain ⟨hStatus, -⟩ := hScan p (List.mem_cons_of_mem _ hp) hMut
        unfold CompoundResponse.isBusy at hBusy
        rw [hStatus]
        simpa [hMut, Decidable.or_iff_not_imp_left] using hBusy
      · simp [hMut]

/-- The return of the RPC: the call fails on what came back, or a reply of the server is
judged. -/
theorem callReturns_cases {s' : CompoundCall} {x : Exchange}
    (h : s.callReturns req authLen ctx b x = some s') :
    ∃ t, s.serve req (s.outstanding + (x.rpc req authLen b).written) x.served = some t ∧
      ((∃ e, x.reply req authLen b ctx.session = .error e ∧
        s' = (t.addOutstanding (x.unanswered req authLen b)).finish false
          (.error (sentError b.operationClass
            (requestContext b.tag ctx.session ctx.slotId ctx.sequenceId) e))) ∨
      ∃ resp, x.reply req authLen b ctx.session = .ok resp ∧ t.answers resp ∧
        s' = (t.addOutstanding (x.unanswered req authLen b)).conclude ctx b
          (compoundVerdict b req.progressIndex ctx t.attempt resp)) := by
  unfold CompoundCall.callReturns at h
  obtain ⟨t, hServe, h⟩ := Option.bind_eq_some_iff.mp h
  refine ⟨t, hServe, ?_⟩
  dsimp only at h
  split at h
  · rename_i e hErr
    cases h
    exact .inl ⟨e, hErr, rfl⟩
  · rename_i resp hOk
    split at h
    · rename_i hAns
      cases h
      exact .inr ⟨resp, hOk, hAns, rfl⟩
    · cases h

/-- The server's part of a step. -/
theorem serve_cases {t : CompoundCall} {sent : Nat} {served : Option CompoundResponse}
    (h : s.serve req sent served = some t) :
    (served = none ∧ t = s) ∨ ∃ resp, served = some resp ∧ s.accepted = none ∧ 0 < sent ∧
      resp.startsAccepted = true ∧ t = s.execute req resp := by
  unfold CompoundCall.serve at h
  split at h
  · exact .inl ⟨rfl, (Option.some.inj h).symm⟩
  · rename_i resp
    split at h
    · rename_i hWhen
      exact .inr ⟨resp, rfl, hWhen.1, hWhen.2.1, hWhen.2.2, (Option.some.inj h).symm⟩
    · cases h

/-! ## What a step can do -/

/-- No identity is in use: between two iterations, or in recovery. -/
def CallPhase.between : CallPhase → Bool
  | .head | .backoffBehind _ _ | .recovering _ | .establishing _ => true
  | _ => false

/-- The moves of the machine, one for each thing that a step can do. -/
inductive CallMove (req : CompoundRequest) (authLen : Nat) (s : CompoundCall) :
    CompoundEvent → CompoundCall → Prop
  | start {session : Session} {slotId sequenceId highestSlotId : Nat} {b : CompoundBuilder}
      (hPhase : s.phase = .head) (hGen : session.generation = s.generation)
      (hb : req.preflight authLen { session, slotId, sequenceId } highestSlotId = .ok b) :
      CallMove req authLen s (.begin session slotId sequenceId highestSlotId)
        { s with phase := .calling { session, slotId, sequenceId } b }
  | giveUp {a : CompoundEvent} (e : NfsError) (hPhase : s.phase.between = true) :
      CallMove req authLen s a { s with phase := .done (.error e) }
  | call {x : Exchange} {ctx : SlotContext} {b : CompoundBuilder} {s' : CompoundCall}
      (hPhase : s.phase = .calling ctx b)
      (hReturn : s.callReturns req authLen ctx b x = some s') :
      CallMove req authLen s (.call x) s'
  | lateAccept {resp : CompoundResponse} {s' : CompoundCall}
      (hServe : s.serve req s.outstanding (some resp) = some s') :
      CallMove req authLen s (.lateAccept resp) s'
  | exhaust {a : CompoundEvent} {ctx : SlotContext} {b : CompoundBuilder} {source : NfsError}
      (e : NfsError) (hPhase : s.phase = .backoff ctx b source) :
      CallMove req authLen s a { s with phase := .done (.error e) }
  | resend {a : CompoundEvent} {ctx : SlotContext} {b : CompoundBuilder} {source : NfsError}
      (hPhase : s.phase = .backoff ctx b source) :
      CallMove req authLen s a { s with phase := .calling ctx b }
  | restart {a : CompoundEvent} {context : RequestContext} {source : NfsError}
      (hPhase : s.phase = .backoffBehind context source) :
      CallMove req authLen s a { s with phase := .head }
  | otherRecovery :
      CallMove req authLen s .otherRecovery { s with generation := s.generation + 1 }
  | recovered {expected : Nat} (hPhase : s.phase = .recovering expected)
      (hGen : s.generation ≠ expected) : CallMove req authLen s .lock { s with phase := .head }
  | locked {expected : Nat} (hPhase : s.phase = .recovering expected) :
      CallMove req authLen s .lock { s with phase := .establishing expected }
  | established {expected : Nat} (hPhase : s.phase = .establishing expected) :
      CallMove req authLen s (.establish .established)
        { s with phase := .head, generation := expected + 1 }

/-- **Inversion.** Every step of the machine is one of the moves. -/
theorem callMove_of_step {s' : CompoundCall} {a : CompoundEvent}
    (hstep : compoundStep req authLen s a = some s') : CallMove req authLen s a s' := by
  cases a with
  | lateAccept resp => exact .lateAccept hstep
  | otherRecovery =>
    cases hstep
    exact .otherRecovery
  | call x =>
    simp only [compoundStep] at hstep
    split at hstep
    · exact .call ‹_› hstep
    · cases hstep
  | begin session slotId sequenceId highestSlotId =>
    simp only [compoundStep] at hstep
    split at hstep
    · rename_i hPhase
      split at hstep
      · split at hstep
        · cases hstep
          exact .giveUp _ (by rw [hPhase]; rfl)
        · cases hstep
          exact .start hPhase ‹_› ‹_›
      · cases hstep
    · cases hstep
  | acquireFails message =>
    simp only [compoundStep] at hstep
    split at hstep
    · rename_i hPhase
      cases hstep
      exact .giveUp _ (by rw [hPhase]; rfl)
    · cases hstep
  -- a busy SEQUENCE keeps its slot and frame; behind a busy operation the loop starts over
  | backoffEnds outcome =>
    simp only [compoundStep] at hstep
    split at hstep
    · split at hstep
      · cases hstep
        exact .exhaust _ ‹_›
      · cases hstep
        exact .resend ‹_›
    · rename_i context e hPhase
      split at hstep
      · cases hstep
        exact .giveUp _ (by rw [hPhase]; rfl)
      · cases hstep
        exact .restart hPhase
    · cases hstep
  -- another caller may have replaced the session while this one waited for the lock
  | lock =>
    simp only [compoundStep] at hstep
    split at hstep
    · split at hstep
      · cases hstep
        exact .recovered ‹_› ‹_›
      · cases hstep
        exact .locked ‹_›
    · cases hstep
  | establish outcome =>
    simp only [compoundStep] at hstep
    split at hstep
    · rename_i expected hPhase
      have hBetween : s.phase.between = true := by rw [hPhase]; rfl
      split at hstep
      · cases hstep
        exact .giveUp _ hBetween
      · split at hstep
        · cases hstep
          exact .giveUp _ hBetween
        · cases hstep
      · split at hstep
        · cases hstep
          exact .established hPhase
        · cases hstep
          exact .giveUp _ hBetween
    · cases hstep

/-! ## Replies that make no sense -/

theorem settleSequence_error {op : OpResponse} (h : settleSequence ctx op = .error e) :
    e.Malformed := by
  rcases Lib.bind_eq_error_iff.mp h with h | ⟨sequence, -, h⟩
  · unfold validateSequenceResult at h
    repeat' split at h
    all_goals cases h
    all_goals exact ⟨⟨rfl, rfl⟩, rfl⟩
  rcases Lib.bind_eq_error_iff.mp h with h | ⟨target, -, h⟩
  · unfold checkSlotLimits at h
    dsimp only at h
    repeat' split at h
    all_goals cases h
    all_goals exact ⟨⟨rfl, rfl⟩, rfl⟩
  · cases h

theorem acceptedSequence_error (h : acceptedSequence ctx resp = .error e) : e.Malformed := by
  unfold acceptedSequence at h
  split at h
  · cases h
  split at h
  · rename_i op rest _ _
    cases hs : settleSequence ctx op with
    | error e' =>
      rw [hs] at h
      cases h
      exact settleSequence_error hs
    | ok settled =>
      rw [hs] at h
      cases h
  · cases h

/-- The errors of the scan are those of a malformed reply. -/
theorem scanBusy_error {total : Nat} {status : Nfs4ErrorCode} :
    ∀ {ops : List EncodedOp} {results : List OpResponse} {index : Nat} {safe : Bool},
      scanBusy total status index safe ops results = .error e → e.Malformed := by
  intro ops
  induction ops with
  | nil =>
    intro results index safe h
    cases h
    exact ⟨⟨rfl, rfl⟩, rfl⟩
  | cons request requests ih =>
    intro results index safe h
    cases results with
    | nil =>
      cases h
      exact ⟨⟨rfl, rfl⟩, rfl⟩
    | cons reply replies =>
      unfold scanBusy at h
      split at h
      · cases h
        exact ⟨⟨rfl, rfl⟩, rfl⟩
      split at h
      · split at h
        · cases h
          exact ⟨⟨rfl, rfl⟩, rfl⟩
        · cases h
      · exact ih h

theorem canRetryBusy_error (h : b.canRetryBusy resp = .error e) : e.Malformed := by
  unfold CompoundBuilder.canRetryBusy at h
  split at h
  · cases h
    exact ⟨⟨rfl, rfl⟩, rfl⟩
  · exact scanBusy_error h

/-- A reply that fails its checks is malformed. -/
theorem checkedReply_error {session : Session} {requestOps : Nat}
    {decoded : Except String CompoundResponse} {payload : List UInt8}
    (h : checkedReply session requestOps decoded payload = .error e) : e.Malformed := by
  rcases Lib.bind_eq_error_iff.mp h with h | ⟨-, -, h⟩
  · unfold enforceResponseSize enforceEncodedSize at h
    split at h
    · cases h
      exact ⟨⟨rfl, rfl⟩, rfl⟩
    · cases h
  rcases Lib.bind_eq_error_iff.mp h with h | ⟨resp, -, h⟩
  · cases decoded with
    | error m =>
      cases h
      exact ⟨⟨rfl, rfl⟩, rfl⟩
    | ok resp => cases h
  rcases Lib.bind_eq_error_iff.mp h with h | ⟨-, -, h⟩
  · unfold enforceResponseOperations at h
    split at h
    · cases h
      exact ⟨⟨rfl, rfl⟩, rfl⟩
    · cases h
  · cases h

/-! ## Sample exchanges -/

/-- A session of a generation. -/
def sessionOf (generation : Nat) : Session :=
  { id := List.replicate 16 (UInt8.ofNat generation), generation := generation
    protocol := .nfsV4p1, maxRequestSize := 4096, maxResponseSize := 4096, maxOperations := 16
    maxCachedResponseSize := 512, maxRequests := 1 }

/-- A reply record with an empty payload. -/
def replyRecord (xid : UInt8) : List UInt8 :=
  [0, 0, 0, xid, 0, 0, 0, 1, 0, 0, 0, 0, 0, 0, 0, 0, 0, 0, 0, 0, 0, 0, 0, 0]

/-- An attempt that writes its frame. -/
def writtenAttempt (xid : Nat) (reply : Rpc.ReplyEvent) : Rpc.IterEnv :=
  { expired := false, xid := xid, reconnect := .ok
    attempt := { readyWait := .ready, pendingPoisoned := false, readerStopped := false
                 writerLocked := true, write := .complete, reply := reply } }

/-- The first frame times out, the second is answered. -/
def answeredSecond : Nat → Rpc.IterEnv
  | 0 => writtenAttempt 1 .responseTimeout
  | _ => writtenAttempt 2 (.record (replyRecord 2))

/-- The first frame is answered. -/
def answeredFirst : Nat → Rpc.IterEnv := fun _ => writtenAttempt 3 (.record (replyRecord 3))

/-- A successful SEQUENCE result for slot 0 and sequence id 1 of a session. -/
def sequenceOk (generation : Nat) : OpResponse :=
  { opcode := 53, status := .ok
    data := List.replicate 16 (UInt8.ofNat generation) ++
      [0, 0, 0, 1, 0, 0, 0, 0, 0, 0, 0, 0, 0, 0, 0, 0, 0, 0, 0, 0] }

/-- SEQUENCE refused with a status. -/
def refusedWith (status : Nfs4ErrorCode) : CompoundResponse :=
  { tag := "remove", status := status, sessionGeneration := 0
    results := [{ opcode := 53, status := status, data := [] }] }

end NfsRs.Nfs41
