import NfsRs.Status

/-!
# NfsRs — structured errors and outcome classification

The error type of the crate and the functions that decide what an error says about the
request it ends: whether bytes crossed the send boundary (`requestTransmission`), whether
the connection is lost, and how an error that is no authoritative answer is classified
for its operation class (`classifyNonAuthoritativeError`).

`std::io::Error` is a kind with a payload. The payloads that the source inspects are kept
apart as constructors: a plain message, a `TransportFailure` carrying send-boundary
evidence, and a shared `NfsError`.
-/

namespace NfsRs

/-- Retry safety of an operation without an authoritative result. -/
inductive OperationOutcome where
  /-- The request is known not to have taken effect. -/
  | definiteFailure
  /-- Repeating is safe: the operation is read-only or idempotent. -/
  | safeToRetry
  /-- The request may have taken effect. -/
  | uncertain
  deriving DecidableEq, Repr

/-- Side-effect class of an operation. -/
inductive OperationClass where
  | readOnly | sessionControl | replaySensitive
  deriving DecidableEq, Repr

inductive RecoveryAction where
  | retry | reopen | remount | verifyThenResume | doNotRetry
  deriving DecidableEq, Repr

/-- The bound that ended automatic server-busy retries. -/
inductive RetryExhaustion where
  | retryLimit | deadline
  deriving DecidableEq, Repr

/-- Whether the request crossed the transport send boundary. -/
inductive RequestTransmission where
  | notSent | sent
  deriving DecidableEq, Repr

inductive NFSVersion where
  | unknown | nfsV3 | nfsV4p0 | nfsV4 | nfsV4p1 | nfsV4p2
  deriving DecidableEq, Repr

/-- The kinds of `std::io::Error` that the crate builds or inspects; a kind reported by
the operating system that the crate never names is `other`. -/
inductive ErrorKind where
  | brokenPipe | connectionReset | connectionAborted | unexpectedEof | notConnected
  | connectionRefused | timedOut | wouldBlock | interrupted | unsupported | invalidInput
  | invalidData | permissionDenied | other
  deriving DecidableEq, Repr

/-- Opaque request identity. -/
inductive RequestId where
  | nfs40Owner (owner sequenceId : Nat)
  | nfs41Session (sessionId : Nat) (slotId sequenceId : Nat)
  deriving DecidableEq, Repr

structure RequestContext where
  operation : String
  protocol : NFSVersion
  requestId : Option RequestId
  deriving DecidableEq, Repr

/-- The crate's error type. `io`, `transportFailure` and `sharedIo` are the three payloads
of `NfsError::Io`; `operationOutcome` and `serverBusy` carry the fields of their boxed
structures. -/
inductive NfsError where
  | serverBusy (context : RequestContext) (retries : Nat) (reason : RetryExhaustion)
      (source : NfsError)
  | io (kind : ErrorKind) (message : String)
  | transportFailure (kind : ErrorKind) (transmission : RequestTransmission)
      (source : NfsError)
  | sharedIo (error : NfsError)
  | nfs3 (code : Nfs3ErrorCode)
  | nfs4 (code : Nfs4ErrorCode)
  | lockDenied (lockType offset length : Nat) (owner : List UInt8)
  | mount (code : MountErrorCode)
  | rpc (message : String)
  | xdr (message : String)
  | unsupported (message : String)
  | invalidInput (message : String)
  | closedResource (message : String)
  | modeViolation (message : String)
  | clientClosed (message : String)
  | positionUncertain (message : String)
  | lostOpenState (message : String)
  | fileClose (failures : List (String × NfsError))
  | rdattrError (code : Nat)
  | operationOutcome (outcome : OperationOutcome) (operationClass : OperationClass)
      (transmission : RequestTransmission) (recovery : RecoveryAction)
      (completedBytes : Option Nat) (context : RequestContext) (source : NfsError)

/-- The kinds by which the transport reports an unusable connection. -/
def ErrorKind.isConnectionLost : ErrorKind → Bool
  | .brokenPipe | .connectionReset | .connectionAborted | .unexpectedEof | .notConnected
  | .connectionRefused => true
  | _ => false

namespace NfsError

/-- The `std::io::ErrorKind` of an error. -/
def kind : NfsError → ErrorKind
  | serverBusy .. => .wouldBlock
  | io kind _ => kind
  | transportFailure kind _ _ => kind
  | sharedIo _ => .other
  | lockDenied .. => .wouldBlock
  | unsupported _ => .unsupported
  | invalidInput _ => .invalidInput
  | closedResource _ => .notConnected
  | modeViolation _ => .permissionDenied
  | clientClosed _ => .notConnected
  | _ => .other

/-- The original transport kind, also through an outcome wrapper. -/
def transportErrorKind : NfsError → Option ErrorKind
  | io kind _ => some kind
  | transportFailure kind _ _ => some kind
  | sharedIo _ => some .other
  | operationOutcome _ _ _ _ _ _ source => transportErrorKind source
  | _ => none

/-- A response timeout alone does not establish connection loss. -/
def isConnectionLost (e : NfsError) : Bool :=
  e.transportErrorKind.any ErrorKind.isConnectionLost

mutual

/-- Whether some wrapped failure is an uncertain mutation. -/
def containsUncertainOutcome : NfsError → Bool
  | operationOutcome outcome _ _ _ _ _ source =>
      outcome == .uncertain || containsUncertainOutcome source
  | fileClose failures => anyUncertainOutcome failures
  | serverBusy _ _ _ source => containsUncertainOutcome source
  | _ => false

def anyUncertainOutcome : List (String × NfsError) → Bool
  | [] => false
  | failure :: rest => containsUncertainOutcome failure.2 || anyUncertainOutcome rest

end

mutual

/-- Server-busy backpressure; an uncertain mutation takes precedence over its status. -/
def isServerBusy (e : NfsError) : Bool :=
  if containsUncertainOutcome e then false
  else match e with
    | serverBusy .. => true
    | nfs3 code => code == .jukebox
    | nfs4 code => code == .delay || code == .grace
    | operationOutcome outcome _ _ _ _ _ source =>
        outcome != .uncertain && isServerBusy source
    | fileClose failures => anyServerBusy failures
    | _ => false

def anyServerBusy : List (String × NfsError) → Bool
  | [] => false
  | failure :: rest => isServerBusy failure.2 || anyServerBusy rest

end

/-- Attach send-boundary evidence, keeping the source's kind. -/
def transport (transmission : RequestTransmission) (source : NfsError) : NfsError :=
  transportFailure source.kind transmission source

/-- Send-boundary evidence, where an error has it. -/
def requestTransmission : NfsError → Option RequestTransmission
  | transportFailure _ transmission _ => some transmission
  | operationOutcome _ _ transmission _ _ _ _ => some transmission
  | _ => none

/-- `OperationOutcomeError::new`: sent, no completed bytes. -/
def outcomeError (outcome : OperationOutcome) (operationClass : OperationClass)
    (recovery : RecoveryAction) (context : RequestContext) (source : NfsError) : NfsError :=
  operationOutcome outcome operationClass .sent recovery none context source

/-- The current request is proved not to have crossed the send boundary. -/
def beforeSendFailure (operationClass : OperationClass) (context : RequestContext)
    (completedBytes : Option Nat) (source : NfsError) : NfsError :=
  operationOutcome .definiteFailure operationClass .notSent .retry completedBytes context source

@[simp] theorem requestTransmission_transport (t : RequestTransmission) (e : NfsError) :
    (transport t e).requestTransmission = some t := rfl

@[simp] theorem requestTransmission_outcomeError (o : OperationOutcome) (cls : OperationClass)
    (r : RecoveryAction) (ctx : RequestContext) (e : NfsError) :
    (outcomeError o cls r ctx e).requestTransmission = some .sent := rfl

@[simp] theorem requestTransmission_beforeSendFailure (cls : OperationClass)
    (ctx : RequestContext) (n : Option Nat) (e : NfsError) :
    (beforeSendFailure cls ctx n e).requestTransmission = some .notSent := rfl

mutual

/-- Outcome and recovery guidance of the first structured outcome inside an error. -/
def outcome? : NfsError → Option (OperationOutcome × RequestTransmission × RecoveryAction)
  | operationOutcome outcome _ transmission recovery _ _ _ =>
      some (outcome, transmission, recovery)
  | fileClose failures => firstOutcome? failures
  | _ => none

def firstOutcome? :
    List (String × NfsError) → Option (OperationOutcome × RequestTransmission × RecoveryAction)
  | [] => none
  | failure :: rest => (outcome? failure.2).orElse fun _ => firstOutcome? rest

end

mutual

/-- Request context of the first structured outcome inside an error. -/
def outcomeContext? : NfsError → Option RequestContext
  | operationOutcome _ _ _ _ _ context _ => some context
  | fileClose failures => firstOutcomeContext? failures
  | _ => none

def firstOutcomeContext? : List (String × NfsError) → Option RequestContext
  | [] => none
  | failure :: rest => (outcomeContext? failure.2).orElse fun _ => firstOutcomeContext? rest

end

mutual

/-- Source of the first structured outcome inside an error. -/
def outcomeSource? : NfsError → Option NfsError
  | operationOutcome _ _ _ _ _ _ source => some source
  | fileClose failures => firstOutcomeSource? failures
  | _ => none

def firstOutcomeSource? : List (String × NfsError) → Option NfsError
  | [] => none
  | failure :: rest => (outcomeSource? failure.2).orElse fun _ => firstOutcomeSource? rest

end

/-- Errors that are no server answer even without transport evidence. -/
def lacksAnswer : NfsError → Bool
  | io .. | transportFailure .. | sharedIo _ | rpc _ | xdr _ => true
  | _ => false

/-- The error says that the outcome is uncertain. -/
def isUncertain (e : NfsError) : Bool := e.outcome?.any fun outcome => outcome.1 == .uncertain

end NfsError

/-- Outcome and recovery of an unanswered operation, by class. -/
def OperationClass.unanswered : OperationClass → OperationOutcome × RecoveryAction
  | .readOnly => (.safeToRetry, .retry)
  | .sessionControl => (.uncertain, .remount)
  | .replaySensitive => (.uncertain, .verifyThenResume)

/-- Classify an error that may not be an authoritative answer. -/
def classifyNonAuthoritativeError (operationClass : OperationClass) (context : RequestContext)
    (source : NfsError) (replayProtocolError : Bool) : NfsError :=
  if source.requestTransmission = some .notSent then
    .beforeSendFailure operationClass context none source
  else if replayProtocolError || source.requestTransmission == some .sent ||
      source.lacksAnswer then
    .outcomeError operationClass.unanswered.1 operationClass operationClass.unanswered.2
      context source
  else source

/-- Classification keeps `notSent` evidence and adds none. -/
theorem classify_notSent_iff (cls : OperationClass) (ctx : RequestContext) (e : NfsError)
    (replay : Bool) :
    (classifyNonAuthoritativeError cls ctx e replay).requestTransmission = some .notSent ↔
      e.requestTransmission = some .notSent := by
  unfold classifyNonAuthoritativeError
  by_cases h : e.requestTransmission = some .notSent
  · rw [if_pos h]
    simp [h]
  · rw [if_neg h]
    split
    · simp [h]
    · rfl

/-- NFSv4.1 replay errors are no answer to the request: the reply that matters was not
cached, or the slot holds another request's reply. -/
def NfsError.isReplayProtocolError : NfsError → Bool
  | .nfs4 code => code == .retryUncachedRep || code == .seqFalseRetry
  | _ => false

def classifySentNfs41Error (operationClass : OperationClass) (context : RequestContext)
    (source : NfsError) : NfsError :=
  classifyNonAuthoritativeError operationClass context source source.isReplayProtocolError

/-- Any other status is an answer, and passes as it is. -/
theorem classifySentNfs41Error_nfs4 (cls : OperationClass) (ctx : RequestContext)
    {status : Nfs4ErrorCode} (h : NfsError.isReplayProtocolError (.nfs4 status) = false) :
    classifySentNfs41Error cls ctx (.nfs4 status) = .nfs4 status := by
  simp [classifySentNfs41Error, classifyNonAuthoritativeError, h, NfsError.requestTransmission,
    NfsError.lacksAnswer]

/-! ## Errors that deny any effect -/

/-- The error tells the caller that the request had no effect: a definite failure, a request
that was not sent, or state to be opened again without an uncertain outcome. -/
def NfsError.SaysNoEffect (e : NfsError) : Prop :=
  e.requestTransmission = some .notSent ∨
    ∃ outcome transmission recovery, e.outcome? = some (outcome, transmission, recovery) ∧
      (outcome = .definiteFailure ∨ (recovery = .reopen ∧ outcome ≠ .uncertain))

/-- No evidence about the send boundary and no classified outcome. -/
structure NfsError.Raw (e : NfsError) : Prop where
  transmission : e.requestTransmission = none
  outcome : e.outcome? = none

/-- What the client raises itself on a reply that it cannot make sense of. -/
structure NfsError.Malformed (e : NfsError) : Prop extends NfsError.Raw e where
  lacks : e.lacksAnswer = true

/-- An uncertain outcome denies nothing. -/
theorem not_saysNoEffect_uncertain (cls : OperationClass) (recovery : RecoveryAction)
    (ctx : RequestContext) (source : NfsError) :
    ¬ (NfsError.outcomeError .uncertain cls recovery ctx source).SaysNoEffect := by
  rintro (hSent | ⟨o, t, r, hOut, hWhy⟩)
  · cases hSent
  · cases hOut
    rcases hWhy with hDef | ⟨-, hNe⟩
    · cases hDef
    · exact hNe rfl

/-- Classification of a raw error denies an effect only on evidence of the transport. -/
theorem classify_saysNoEffect {cls : OperationClass} {ctx : RequestContext} {e : NfsError}
    (hOut : e.outcome? = none) (h : (classifySentNfs41Error cls ctx e).SaysNoEffect) :
    e.requestTransmission = some .notSent := by
  apply Decidable.byContradiction
  intro hSent
  unfold classifySentNfs41Error classifyNonAuthoritativeError at h
  rw [if_neg hSent] at h
  split at h
  · rcases h with hNot | ⟨o, t, r, hOut', hWhy⟩
    · cases hNot
    · cases hOut'
      -- an unanswered request of any class is retried or uncertain
      rcases hWhy with hDef | ⟨hRec, -⟩
      · cases cls <;> cases hDef
      · cases cls <;> cases hRec
  · rcases h with hNot | ⟨o, t, r, hOut', -⟩
    · exact hSent hNot
    · rw [hOut] at hOut'
      cases hOut'

theorem classify_raw {cls : OperationClass} {ctx : RequestContext} {e : NfsError}
    (h : e.Raw) : ¬ (classifySentNfs41Error cls ctx e).SaysNoEffect := by
  intro hSays
  have hNot := classify_saysNoEffect h.outcome hSays
  rw [h.transmission] at hNot
  cases hNot

end NfsRs
