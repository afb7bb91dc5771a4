import NfsRs.Nfs41.CompoundCall

/-!
# NfsRs — soundness of definite failures

A caller repeats or gives up a mutation when the error says that it had no effect. The
error is sound when no frame of the request was handed to the socket with its result
unknown. `compound_budgeted` keeps no record of its earlier iterations: a frame without an
answer, a refusal of its retransmission at SEQUENCE, and then a local rejection (another
generation, an unsent frame, a cancelled backoff) end in an error that denies any effect.

## Main results

- `compound_definite_sound` : in every run in which the call does not go on behind a
  refusal that leaves a frame unanswered, and no RPC loses its send evidence, a denied
  effect means that every frame of the request is accounted for.
- `stale_generation_behind_lost_write` : a WRITE is sent and its reply lost with the session; the
  call returns the definite failure of the next iteration.
-/

namespace NfsRs.Nfs41

open CompoundCall

/-! ## The property and its condition -/

/-- An error that denies any effect is returned only when no byte of the request was handed
to the socket with its result unknown. -/
def DefiniteSound (s : CompoundCall) : Prop :=
  ∀ e, s.phase = .done (.error e) → e.SaysNoEffect → s.abandoned + s.outstanding = 0

/-- The call goes on behind this answer: SEQUENCE is busy, or the session is lost and the
request not pinned to it. -/
def Resumes (req : CompoundRequest) (attempt : Nat) (resp : CompoundResponse) : Prop :=
  resp.sequenceBusy = true ∨
    (resp.isSessionLoss = true ∧ req.requiresOriginalSession = false ∧ attempt < delayRetryMax)

/-- No refusal that the call goes on behind leaves a frame unanswered, and no RPC writes a
frame behind an unsent connection loss only to meet a malformed reply record. -/
def NoRefusalBehindFrame (req : CompoundRequest) (authLen : Nat) (s : CompoundCall) :
    CompoundEvent → Prop
  | .call x => Rpc.malformedAfterUnsentLoss x.transport nfsRetries 0 0 = false ∧
      ∀ ctx b resp, s.phase = .calling ctx b → x.reply req authLen b ctx.session = .ok resp →
        resp.startsAccepted = false → Resumes req s.attempt resp →
          x.unanswered req authLen b = 0
  | _ => True

/-! ## Raw errors -/

variable {x : Exchange} {e : NfsError}

theorem opOk_error {resp : CompoundResponse} {index : Nat} (h : resp.opOk index = .error e) :
    e.Raw := by
  unfold CompoundResponse.opOk at h
  split at h
  · cases h
    exact ⟨rfl, rfl⟩
  split at h
  · cases h
  · cases h
    exact ⟨rfl, rfl⟩

/-! ## Errors behind a reply -/

/-- A verdict that ends the call with an error denies no effect. -/
def Verdict.DeniesNothing : Verdict → Prop
  | .finish _ _ (.error e) => ¬ e.SaysNoEffect
  | _ => True

theorem finishError_deniesNothing (b : CompoundBuilder) (context : RequestContext)
    (accepted : Option (SequenceResult × Nat)) (status : Nfs4ErrorCode) :
    (finishError b context accepted (.nfs4 status)).DeniesNothing :=
  classify_raw ⟨rfl, rfl⟩

theorem finishBusy_deniesNothing (b : CompoundBuilder) (context : RequestContext)
    (accepted : Option (SequenceResult × Nat)) (resp : CompoundResponse) :
    (finishBusy b context accepted resp).DeniesNothing := by
  unfold finishBusy
  dsimp only
  split
  · rename_i e hErr
    exact classify_raw (canRetryBusy_error hErr).toRaw
  · exact not_saysNoEffect_uncertain _ _ _ _
  · trivial

/-- **A reply denies nothing**: whatever the server answers, an error of the call behind it
is a status of the server, or an outcome that is retried or uncertain. -/
theorem compoundVerdict_deniesNothing (b : CompoundBuilder) (progressIndex : Option Nat)
    (ctx : SlotContext) (attempt : Nat) (resp : CompoundResponse) :
    (compoundVerdict b progressIndex ctx attempt resp).DeniesNothing := by
  unfold compoundVerdict
  split
  · trivial
  split
  · rename_i e hErr
    exact classify_raw (acceptedSequence_error hErr).toRaw
  unfold compoundOutcome
  dsimp only
  split
  · trivial
  split
  · split
    · rename_i e hErr
      exact classify_raw (opOk_error hErr)
    · trivial
  split
  · exact finishBusy_deniesNothing _ _ _ _
  split
  · exact not_saysNoEffect_uncertain _ _ _ _
  split
  · trivial
  · exact finishError_deniesNothing _ _ _ _

/-! ## The invariant -/

/-- Every byte handed to the socket is accounted for. -/
structure Settled (s : CompoundCall) : Prop where
  abandoned : s.abandoned = 0
  outstanding : s.outstanding = 0

/-- Every frame is accounted for while the call runs, and at its end if it denies an
effect. -/
def SettledPhase (req : CompoundRequest) (s : CompoundCall) : CallPhase → Prop
  | .calling ctx b | .backoff ctx b _ => Settled s ∧ BuiltFrom req ctx b
  | .done (.error e) => e.SaysNoEffect → s.abandoned + s.outstanding = 0
  | .done (.ok _) => True
  | _ => Settled s

def SettledInv (req : CompoundRequest) (s : CompoundCall) : Prop := SettledPhase req s s.phase

variable {req : CompoundRequest} {authLen : Nat} {s s' t : CompoundCall} {ctx : SlotContext}
  {b : CompoundBuilder}

/-- A call that returns with all frames accounted for may say what it wants. -/
theorem Settled.done (h : Settled s) (result : Except NfsError CompoundResponse) :
    SettledInv req { s with phase := .done result } := by
  cases result with
  | ok resp => trivial
  | error e =>
    intro _
    have hAb := h.abandoned
    have hOut := h.outstanding
    show s.abandoned + s.outstanding = 0
    omega

theorem serve_bytes {sent : Nat} {served : Option CompoundResponse}
    (h : s.serve req sent served = some t) :
    t.abandoned = s.abandoned ∧ t.outstanding = s.outstanding ∧ t.attempt = s.attempt ∧
      t.phase = s.phase := by
  rcases serve_cases h with ⟨-, rfl⟩ | ⟨resp, -, -, -, -, rfl⟩
  · exact ⟨rfl, rfl, rfl, rfl⟩
  · exact ⟨rfl, rfl, rfl, rfl⟩

/-- An RPC error that denies sending is right, when the RPC does not lose its evidence. -/
theorem rpc_notSent (hSafe : Rpc.malformedAfterUnsentLoss x.transport nfsRetries 0 0 = false)
    (hErr : (x.rpc req authLen b).result = .error e)
    (hNot : e.requestTransmission = some .notSent) : x.unanswered req authLen b = 0 := by
  have hKept := (Rpc.callLoop_unsent_iff (frameLen_pos authLen b req.dataLen) x.transport
    nfsRetries 0 0 .initial Rpc.unsentState_initial).mpr hSafe
  have hZero : (x.rpc req authLen b).written = 0 := by
    by_contra hne
    exact (hKept (Nat.pos_of_ne_zero hne) e hErr).1 hNot
  unfold Exchange.unanswered unansweredBytes
  rw [hErr]
  exact hZero

/-- The call fails on what the RPC brought back. -/
theorem settledInv_error (h : Settled t)
    (hSafe : Rpc.malformedAfterUnsentLoss x.transport nfsRetries 0 0 = false)
    (hErr : x.reply req authLen b ctx.session = .error e) (context : RequestContext) :
    SettledInv req ((t.addOutstanding (x.unanswered req authLen b)).finish false
      (.error (sentError b.operationClass context e))) := by
  intro hSays
  show t.abandoned + (t.outstanding + x.unanswered req authLen b) = 0
  rcases Lib.bind_eq_error_iff.mp hErr with hRpc | ⟨payload, -, hReply⟩
  · have hOut : e.outcome? = none :=
      Rpc.callLoop_unclassified _ _ _ _ _ Rpc.unclassified_initial e hRpc
    have hZero := rpc_notSent hSafe hRpc (classify_saysNoEffect hOut hSays)
    have hAb := h.abandoned
    have hOutst := h.outstanding
    omega
  · exact absurd hSays (classify_raw (checkedReply_error hReply).toRaw)

/-- A reply of the server leads on with every frame accounted for, or denies nothing. -/
theorem settledInv_conclude {resp : CompoundResponse} (h : Settled t) (hb : BuiltFrom req ctx b)
    (hRefused : resp.startsAccepted = false → Resumes req t.attempt resp →
      x.unanswered req authLen b = 0) :
    SettledInv req ((t.addOutstanding (x.unanswered req authLen b)).conclude ctx b
      (compoundVerdict b req.progressIndex ctx t.attempt resp)) := by
  have hGoes := compoundVerdict_goesOn b req.progressIndex ctx t.attempt resp
  have hDenies := compoundVerdict_deniesNothing b req.progressIndex ctx t.attempt resp
  revert hGoes hDenies
  cases compoundVerdict b req.progressIndex ctx t.attempt resp with
  | busySequence e =>
    intro hBusy _
    have hStart : resp.startsAccepted = false := by
      change resp.sequenceBusy = true at hBusy
      unfold CompoundResponse.sequenceBusy at hBusy
      split at hBusy
      · rename_i op hOne
        simp only [Bool.and_eq_true, Bool.or_eq_true, beq_iff_eq] at hBusy
        rcases hBusy.1.2 with hSt | hSt <;> simp [CompoundResponse.startsAccepted, hOne, hSt]
      · cases hBusy
    have hZero := hRefused hStart (.inl hBusy)
    refine ⟨⟨h.abandoned, ?_⟩, hb⟩
    show t.outstanding + x.unanswered req authLen b = 0
    rw [h.outstanding, hZero]
  | finish settle flags result =>
    intro _ hDenies
    cases result with
    | ok resp' => trivial
    | error e => exact fun hSays => absurd hSays hDenies
  -- the SEQUENCE was accepted, so the slot advances and no frame is left behind
  | retryBusy settle e =>
    rintro ⟨hSeq, hBusy, hCan, hAdv⟩ _
    have hTrue := hAdv (retryBusy_evaluates hb hSeq hBusy hCan).1
    refine ⟨?_, rfl⟩
    show t.abandoned + (if settle.advance then 0 else _) = 0
    rw [h.abandoned, hTrue]
    rfl
  | recover settle e =>
    rintro ⟨hIs, hPin, hLt, hAdv⟩ _
    refine ⟨?_, rfl⟩
    show t.abandoned + (if settle.advance then 0
      else t.outstanding + x.unanswered req authLen b) = 0
    rw [h.abandoned, h.outstanding]
    -- a refused SEQUENCE resumes only with no frame unanswered
    by_cases hStart : resp.startsAccepted = true
    · rw [hAdv hStart]
      rfl
    · rw [hb.requiresOriginalSession] at hPin
      rw [hRefused (by simpa using hStart) (.inr ⟨hIs, hPin, hLt⟩)]
      split <;> rfl

theorem settledInv_call (h : Settled s) (hb : BuiltFrom req ctx b)
    (hPhase : s.phase = .calling ctx b) (hok : NoRefusalBehindFrame req authLen s (.call x))
    (hstep : s.callReturns req authLen ctx b x = some s') : SettledInv req s' := by
  obtain ⟨t, hServe, hCases⟩ := callReturns_cases hstep
  obtain ⟨hAb, hOut, hAtt, -⟩ := serve_bytes hServe
  have hSettled : Settled t := ⟨hAb.trans h.abandoned, hOut.trans h.outstanding⟩
  rcases hCases with ⟨e, hErr, rfl⟩ | ⟨resp, hReply, -, rfl⟩
  · exact settledInv_error hSettled hok.1 hErr _
  · refine settledInv_conclude hSettled hb fun hStart hRes => ?_
    exact hok.2 ctx b resp hPhase hReply hStart (hAtt ▸ hRes)

/-- A step of the server or of another request moves no byte. -/
theorem settledInv_frame (h : SettledInv req s) (hPhase : s'.phase = s.phase)
    (hAb : s'.abandoned = s.abandoned) (hOut : s'.outstanding = s.outstanding) :
    SettledInv req s' := by
  have hSettled : Settled s → Settled s' := fun hs =>
    ⟨hAb.trans hs.abandoned, hOut.trans hs.outstanding⟩
  unfold SettledInv at h ⊢
  rw [hPhase]
  revert h
  cases s.phase with
  | head => exact hSettled
  | backoffBehind context e => exact hSettled
  | recovering expected => exact hSettled
  | establishing expected => exact hSettled
  | calling ctx b => exact fun h => ⟨hSettled h.1, h.2⟩
  | backoff ctx b e => exact fun h => ⟨hSettled h.1, h.2⟩
  | done result =>
    cases result with
    | ok resp => exact id
    | error e =>
      intro h hSays
      rw [hAb, hOut]
      exact h hSays

theorem SettledInv.between (h : SettledInv req s) (hPhase : s.phase.between = true) :
    Settled s := by
  unfold SettledInv at h
  revert h hPhase
  cases s.phase with
  | head => exact fun h _ => h
  | backoffBehind context e => exact fun h _ => h
  | recovering expected => exact fun h _ => h
  | establishing expected => exact fun h _ => h
  | calling ctx b => exact fun _ hFalse => nomatch hFalse
  | backoff ctx b e => exact fun _ hFalse => nomatch hFalse
  | done result => exact fun _ hFalse => nomatch hFalse

/-- **Step.** Under the condition every step keeps the frames accounted for. -/
theorem settledInv_step {a : CompoundEvent} (h : SettledInv req s)
    (hok : NoRefusalBehindFrame req authLen s a)
    (hstep : compoundStep req authLen s a = some s') : SettledInv req s' := by
  cases callMove_of_step hstep with
  | start hPhase hGen hb =>
    rw [SettledInv, hPhase] at h
    exact ⟨⟨h.abandoned, h.outstanding⟩, preflight_ok hb⟩
  | giveUp e hPhase => exact (h.between hPhase).done _
  | call hPhase hReturn =>
    rw [SettledInv, hPhase] at h
    exact settledInv_call h.1 h.2 hPhase hok hReturn
  | lateAccept hServe =>
    obtain ⟨hAb, hOut, -, hPhase⟩ := serve_bytes hServe
    exact settledInv_frame h hPhase hAb hOut
  | exhaust e hPhase =>
    rw [SettledInv, hPhase] at h
    exact h.1.done _
  | resend hPhase =>
    rw [SettledInv, hPhase] at h
    exact ⟨⟨h.1.abandoned, h.1.outstanding⟩, h.2⟩
  | restart hPhase =>
    rw [SettledInv, hPhase] at h
    exact ⟨h.abandoned, h.outstanding⟩
  | otherRecovery => exact settledInv_frame h rfl rfl rfl
  | recovered hPhase hGen =>
    rw [SettledInv, hPhase] at h
    exact ⟨h.abandoned, h.outstanding⟩
  | locked hPhase =>
    rw [SettledInv, hPhase] at h
    exact ⟨h.abandoned, h.outstanding⟩
  | established hPhase =>
    rw [SettledInv, hPhase] at h
    exact ⟨h.abandoned, h.outstanding⟩

/-- **Definite failures are sound.** For every request and every sequence of outcomes of its
iterations that meets the condition, an error that denies any effect of the request leaves
no frame of it with an unknown result. -/
theorem compound_definite_sound (req : CompoundRequest) (authLen generation : Nat)
    (h : (compoundMachine req authLen generation).ReachableIf
      (NoRefusalBehindFrame req authLen) s) : DefiniteSound s := by
  have hInit : SettledInv req (.initial generation) := ⟨rfl, rfl⟩
  have hInv : SettledInv req s := h.invariant hInit fun _ _ _ _ hok hstep hInv =>
    settledInv_step hInv hok hstep
  intro e hPhase
  rw [SettledInv, hPhase] at hInv
  exact hInv

/-! ## A definite failure of an executed WRITE -/

/-- WRITE with the stateid of an OPEN of generation 1. -/
def boundWrite : CompoundRequest :=
  { tag := "write"
    ops := [{ opcode := .putFh, args := [] }, { opcode := .write, args := [] }]
    requiredGeneration := some 1, progressIndex := none, dataLen := 4 }

def writeReply : CompoundResponse :=
  { tag := "write", status := .ok, sessionGeneration := 0
    results := [sequenceOk 1, { opcode := 22, status := .ok, data := [] },
      { opcode := 38, status := .ok, data := [] }] }

/-- The session is lost on a WRITE, re-established, and the next iteration rejects the
stateid. -/
def rejectedOnNewSession (x : Exchange) : List CompoundEvent :=
  [.begin (sessionOf 1) 0 1 0, .call x, .lock, .establish .established,
   .begin (sessionOf 2) 0 1 0]

/-- The only frame is refused. -/
def refusedFrame : Exchange :=
  { transport := answeredFirst, decoded := .ok (refusedWith .badsession), served := none }

/-- Here the definite failure is right: the only frame of the WRITE was refused. -/
theorem compound_definite_sound_refusedFrame :
    ∃ s, (compoundMachine boundWrite 16 1).runFrom (.initial 1)
        (rejectedOnNewSession refusedFrame) = some s ∧
      (∃ e, s.phase = .done (.error e) ∧ e.SaysNoEffect) ∧ DefiniteSound s := by
  refine ⟨_, rfl, ⟨_, rfl, .inr ⟨_, _, _, rfl, .inl rfl⟩⟩,
    compound_definite_sound boundWrite 16 1 ?_⟩
  refine Lib.Machine.reachableIf_of_runFrom (rejectedOnNewSession refusedFrame) .init ?_ rfl
  refine ⟨trivial, fun s₁ h₁ => ⟨⟨rfl, fun ctx b resp hPhase _ _ _ => ?_⟩, fun _ _ => ⟨trivial,
    fun _ _ => ⟨trivial, fun _ _ => ⟨trivial, fun _ _ => trivial⟩⟩⟩⟩⟩
  cases h₁
  cases hPhase
  rfl

/-- The first frame of the WRITE is executed and its reply lost with the session. -/
def lostFrame : Exchange :=
  { transport := answeredSecond, decoded := .ok (refusedWith .badsession)
    served := some writeReply }

/-- The WRITE was executed, and the call returns a definite failure. -/
theorem stale_generation_behind_lost_write :
    ∃ s e, (compoundMachine boundWrite 16 1).Reachable s ∧ s.phase = .done (.error e) ∧
      e.SaysNoEffect ∧ s.executions = 1 ∧ ¬ DefiniteSound s := by
  refine ⟨_, _, Lib.Machine.reachable_of_runFrom (m := compoundMachine boundWrite 16 1)
    (rejectedOnNewSession lostFrame) rfl, rfl, .inr ⟨_, _, _, rfl, .inl rfl⟩, rfl, ?_⟩
  intro hSound
  exact absurd (hSound _ rfl (.inr ⟨_, _, _, rfl, .inl rfl⟩)) (by decide)

end NfsRs.Nfs41
