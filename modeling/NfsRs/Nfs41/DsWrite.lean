import NfsRs.Nfs41.CompoundCall
import NfsRs.Nfs41.Layout

/-!
# NfsRs — the WRITEs of one stripe

A pNFS write sends each stripe to its data server: `ds_write_chunk` for the bytes that are
left, again for what a short WRITE left over (`write_ds_attempt`), and from the start when
the server's verifier changes in between (`write_ds_complete`). This module models the three,
down to the loop of `compound_ds` over slots, busy answers and RPCs.

What the servers and the network do is an input: the reply of every RPC, its transport, the
slots, the connections. Beside its result every function says what the code does not see:
whether a WRITE of the stripe was answered OK, or left request bytes at a server with their
result unknown. Data that was *touched* so must not be written again elsewhere.

## Main results

- `writeDsComplete_rejected` : a stripe ends in a plain rejection (stale handle, or busy to
  the end of the budget) exactly when its first WRITE is rejected so; nothing else of the
  stripe was then touched.
-/

/-! ## Errors -/

namespace NfsRs.NfsError

/-- NFS4ERR_STALE, as it came. -/
def isStale : NfsError → Bool
  | .nfs4 code => code == .stale
  | _ => false

/-- Backpressure to the end of the budget, as it came. -/
def isExhausted : NfsError → Bool
  | .serverBusy .. => true
  | _ => false

/-- The errors that pass for a WRITE rejected before it wrote. -/
def isRejection (e : NfsError) : Bool := e.isStale || e.isExhausted

end NfsRs.NfsError

namespace NfsRs.Nfs41

open NfsRs.Rpc (beNat pad4)

/-- A later rejected WRITE does not undo earlier short WRITE successes. -/
def dsErrorAfterProgress (protocol : NFSVersion) (confirmed : Nat) (e : NfsError) : NfsError :=
  if confirmed > 0 ∧ e.isRejection = true then
    uncertainPnfsWrite { operation := "pnfs_write", protocol := protocol, requestId := none } e
  else e

theorem dsErrorAfterProgress_zero (protocol : NFSVersion) (e : NfsError) :
    dsErrorAfterProgress protocol 0 e = e :=
  if_neg fun h => Nat.lt_irrefl 0 h.1

/-- Behind progress no error is a plain rejection. -/
theorem dsErrorAfterProgress_not_rejection {protocol : NFSVersion} {confirmed : Nat}
    (hPos : 0 < confirmed) (e : NfsError) :
    (dsErrorAfterProgress protocol confirmed e).isRejection = false := by
  unfold dsErrorAfterProgress
  split
  · rfl
  · rename_i hNot
    exact Bool.eq_false_iff.mpr fun hRejection => hNot ⟨hPos, hRejection⟩

/-! ## A COMPOUND to a data server -/

/-- How a WRITE ended: what the caller gets, and the request bytes handed to a socket whose
result stays unknown. -/
structure ChunkAnswer where
  result : Except NfsError CompoundResponse
  unsettled : Nat

/-- The outcome of the WRITE is unknown: bytes of it are, or the sender says so itself. -/
def ChunkAnswer.unknown (a : ChunkAnswer) : Bool :=
  0 < a.unsettled ||
    match a.result with
    | .ok _ => false
    | .error e => e.isUncertain

/-- What one RPC of `compound_ds` makes of it. -/
inductive DsStep where
  | returns (answer : ChunkAnswer)
  /-- Back off behind a busy answer; the slot is held on to when SEQUENCE was refused. -/
  | again (held : Option (SlotContext × CompoundBuilder)) (unsettled : Nat)
      (context : RequestContext) (error : NfsError)

section CompoundDs

variable (req : CompoundRequest) (authLen : Nat)

/-- The RPC of the frame and the verdict on its reply. An accepted SEQUENCE settles the
frames of its identity, a refused one says nothing of those before it. -/
def dsRound (x : Exchange) (ctx : SlotContext) (b : CompoundBuilder) (unsettled : Nat) :
    DsStep :=
  let context := requestContext b.tag ctx.session ctx.slotId ctx.sequenceId
  let unsettled := unsettled + x.unanswered req authLen b
  match x.reply req authLen b ctx.session with
  | .error e => .returns { result := .error (sentError b.operationClass context e), unsettled }
  | .ok resp =>
    match compoundDsVerdict b ctx resp with
    | .busySequence e => .again (some (ctx, b)) unsettled context e
    | .finish settle _ result =>
        .returns { result := result, unsettled := if settle.advance then 0 else unsettled }
    | .retryBusy settle e =>
        .again none (if settle.advance then 0 else unsettled) context e
    -- this sender does not recover a session
    | .recover _ e => .returns { result := .error e, unsettled }

/-- What the loop of `compound_ds` meets: in every round the slot, if it takes one, and the
RPC. A round that has to back off goes on with the next one, the last one finds the budget
exhausted. -/
inductive DsRounds where
  | last (slot : Except String (SlotContext × Nat)) (x : Exchange) (retries : Nat)
      (reason : RetryExhaustion)
  | more (slot : Except String (SlotContext × Nat)) (x : Exchange) (next : DsRounds)

/-- The slot of a round and the COMPOUND built and checked for it. -/
def dsSlot (slot : Except String (SlotContext × Nat)) :
    Option (SlotContext × CompoundBuilder) → Except NfsError (SlotContext × CompoundBuilder)
  | some held => .ok held
  | none => do
    let taken ← slot.mapError .rpc
    let b ← req.preflight authLen taken.1 taken.2
    .ok (taken.1, b)

/-- `compound_ds_budgeted`. -/
def compoundDs : DsRounds → Option (SlotContext × CompoundBuilder) → Nat → ChunkAnswer
  | .last slot x retries reason, held, unsettled =>
    match dsSlot req authLen slot held with
    | .error e => { result := .error e, unsettled }
    | .ok (ctx, b) =>
      match dsRound req authLen x ctx b unsettled with
      | .returns answer => answer
      | .again _ unsettled context e =>
          { result := .error (.serverBusy context retries reason e), unsettled }
  | .more slot x next, held, unsettled =>
    match dsSlot req authLen slot held with
    | .error e => { result := .error e, unsettled }
    | .ok (ctx, b) =>
      match dsRound req authLen x ctx b unsettled with
      | .returns answer => answer
      | .again held unsettled _ _ => compoundDs next held unsettled

end CompoundDs

/-! ## One WRITE -/

/-- The part of a logical write that goes to one data server. The plan cuts at stripes of
32-bit length. -/
structure PlannedDsWrite where
  fileOffset : Nat
  stripeIndex : Nat
  dsFh : FileHandle
  dsAddr : SocketAddr
  dsOffset : Nat
  data : List UInt8
  length_lt : data.length < 2 ^ 32

/-- What the write path reads of the mount and of the logical write. -/
structure PnfsInfo where
  protocol : NFSVersion
  authLen : Nat
  serverAddr : SocketAddr
  /-- The stateid under which the data servers are written. -/
  ioStateid : List UInt8
  /-- How an error is displayed. -/
  display : NfsError → String

/-- A call through the metadata server that has returned. -/
structure MdsEnd where
  call : CompoundCall
  result : Except NfsError CompoundResponse
  returned : call.phase = .done result

/-- What `ds_write_chunk` meets: the call through the metadata server when the data server is
the metadata server, else the connections, each with the size it allows, and the calls. -/
structure ChunkEnv where
  mds : MdsEnd
  connect : Except NfsError Nat
  first : DsRounds
  reconnect : Except NfsError Nat
  second : DsRounds

def xdrU64 (n : Nat) : List UInt8 := xdrU32 (n / 2 ^ 32) ++ xdrU32 n

def xdrVarBytes (bytes : List UInt8) : List UInt8 :=
  xdrU32 bytes.length ++ bytes ++ List.replicate (pad4 bytes.length) 0

/-- PUTFH and the header of an UNSTABLE WRITE; the data goes beside it. -/
def dsWriteRequest (info : PnfsInfo) (dsFh : FileHandle) (dsOffset len : Nat) :
    CompoundRequest :=
  { tag := "ds-write"
    ops := [{ opcode := .putFh, args := xdrVarBytes dsFh },
      { opcode := .write,
        args := info.ioStateid ++ xdrU64 dsOffset ++ xdrU32 0 ++ xdrU32 len }]
    requiredGeneration := none
    progressIndex := none
    dataLen := len }

/-- The statuses on which the session of a data server is built again. -/
def dsSessionLost : Except NfsError CompoundResponse → Bool
  | .error (.nfs4 code) => code == .badsession || code == .deadsession
  | _ => false

/-- WRITE of what is left of the stripe after `done` bytes. -/
def dsWriteChunk (info : PnfsInfo) (write : PlannedDsWrite) (done : Nat) (env : ChunkEnv) :
    ChunkAnswer :=
  let send (len : Nat) (rounds : DsRounds) : ChunkAnswer :=
    compoundDs (dsWriteRequest info write.dsFh (write.dsOffset + done) len) info.authLen rounds
      none 0
  if write.dsAddr = info.serverAddr then
    { result := env.mds.result
      unsettled := env.mds.call.outstanding + env.mds.call.abandoned }
  else
    match env.connect with
    | .error e => { result := .error e, unsettled := 0 }
    | .ok limit =>
      let len := min (write.data.length - done) limit
      let answer := send len env.first
      if dsSessionLost answer.result then
        match env.reconnect with
        | .error e => { result := .error e, unsettled := answer.unsettled }
        | .ok limit =>
          let again := send (min len limit) env.second
          { result := again.result, unsettled := answer.unsettled + again.unsettled }
      else answer

/-- The data of an OK result of WRITE. -/
def ChunkAnswer.writeResult (a : ChunkAnswer) : Except NfsError (List UInt8) := do
  let resp ← a.result
  let _ ← resp.opOk 1
  let op ← resp.opOk 2
  .ok op.data

/-! ## One stripe -/

def WriteCommitted.ofLevel : Nat → Except NfsError WriteCommitted
  | 0 => .ok .unstable
  | 1 => .ok .dataSync
  | 2 => .ok .fileSync
  | value => .error (.xdr s!"invalid WRITE committed value: {value}")

/-- How a stripe ended. `touched` says that a WRITE of it was answered OK or has an unknown
outcome. -/
structure StripeEnd where
  result : Except NfsError DsWriteReply
  touched : Bool

/-- The stripe is written: its receipt. -/
def stripeReply (write : PlannedDsWrite) (level : Nat) (verifier : Option Verifier) :
    Except NfsError DsWriteReply := do
  let committed ← WriteCommitted.ofLevel level
  .ok { fileOffset := write.fileOffset, committed := committed, data := write.data
        verifier := verifier.getD 0, dsAddr := write.dsAddr, dsFh := write.dsFh
        dsOffset := write.dsOffset }

/-- The loop of `write_ds_attempt`, with at most `rounds` more WRITEs: each one that goes on
has written at least a byte. -/
def writeDsAttempt (info : PnfsInfo) (write : PlannedDsWrite) (chunks : Nat → ChunkEnv) :
    (rounds done level : Nat) → Option Verifier → StripeEnd
  | 0, _, level, verifier => { result := stripeReply write level verifier, touched := false }
  | rounds + 1, done, level, verifier =>
    if done < write.data.length then
      let answer := dsWriteChunk info write done (chunks done)
      match answer.writeResult with
      | .error e =>
          { result := .error (dsErrorAfterProgress info.protocol (done % 2 ^ 32) e)
            touched := answer.unknown }
      | .ok data =>
        if data.length < 16 then
          { result := .error (.xdr "DS WRITE result too short"), touched := true }
        else
          let n := wordAt data 0
          let committed := wordAt data 4
          if n = 0 ∨ n > write.data.length - done ∨ committed > 2 then
            { result := .error (.rpc "invalid DS WRITE acknowledgement"), touched := true }
          else
            let current : Verifier := BitVec.ofNat 64 (beNat ((data.drop 8).take 8))
            if verifier.any (· != current) then
              { result := .error (writeVerifierChanged info.protocol), touched := true }
            else
              { writeDsAttempt info write chunks rounds (done + n) (min level committed)
                  (some current) with touched := true }
    else { result := stripeReply write level verifier, touched := false }

/-- A stripe of the plan and what each WRITE of it meets, by attempt and by the bytes written
before it. -/
structure Stripe where
  write : PlannedDsWrite
  chunks : Nat → Nat → ChunkEnv

/-- An attempt from the first byte on. -/
def Stripe.attempt (info : PnfsInfo) (stripe : Stripe) (attempt : Nat) : StripeEnd :=
  writeDsAttempt info stripe.write (stripe.chunks attempt) stripe.write.data.length 0 2 none

/-- The attempt's error asks for the stripe to be written again. -/
def StripeEnd.verifierChanged (ended : StripeEnd) : Bool :=
  match ended.result with
  | .ok _ => false
  | .error e => changesVerifier e

/-- The result of an attempt as the stripe returns it. -/
def StripeEnd.afterAttempt (ended : StripeEnd) (info : PnfsInfo) (attempt : Nat) : StripeEnd :=
  { ended with
    result := ended.result.mapError
      (dsErrorAfterProgress info.protocol (if attempt > 0 then 1 else 0)) }

/-- The loop of `write_ds_complete` from an attempt on, with `retries` more. -/
def writeDsFrom (info : PnfsInfo) (stripe : Stripe) : (retries attempt : Nat) → StripeEnd
  | 0, attempt => (stripe.attempt info attempt).afterAttempt info attempt
  | retries + 1, attempt =>
    let ended := stripe.attempt info attempt
    if ended.verifierChanged then
      let rest := writeDsFrom info stripe retries (attempt + 1)
      { rest with touched := ended.touched || rest.touched }
    else ended.afterAttempt info attempt

/-- `write_ds_complete`: a stripe whose verifier changes is written again, twice at most. -/
def writeDsComplete (info : PnfsInfo) (stripe : Stripe) : StripeEnd :=
  writeDsFrom info stripe 2 0

/-! ## Rejected stripes -/

/-- The first WRITE of a stripe. -/
def Stripe.firstAnswer (info : PnfsInfo) (stripe : Stripe) : ChunkAnswer :=
  dsWriteChunk info stripe.write 0 (stripe.chunks 0 0)

/-- The plain rejection of the first WRITE of a stripe, when it has one. -/
def Stripe.rejection? (info : PnfsInfo) (stripe : Stripe) : Option NfsError :=
  if stripe.write.data = [] then none
  else
    match (stripe.firstAnswer info).writeResult with
    | .ok _ => none
    | .error e => if e.isRejection then some e else none

/-- The result is no plain rejection. -/
def StripeEnd.NotRejected (ended : StripeEnd) : Prop :=
  ∀ e, ended.result = .error e → e.isRejection = false

theorem stripeReply_notRejected {write : PlannedDsWrite} {level : Nat}
    {verifier : Option Verifier} {touched : Bool} :
    StripeEnd.NotRejected { result := stripeReply write level verifier, touched } := by
  intro e he
  have he : stripeReply write level verifier = .error e := he
  unfold stripeReply WriteCommitted.ofLevel at he
  split at he <;> cases he
  rfl

theorem notRejected_of_error {e : NfsError} {touched : Bool} (h : e.isRejection = false) :
    StripeEnd.NotRejected { result := .error e, touched } := by
  intro e' he'
  cases he'
  exact h

section Attempts

variable {info : PnfsInfo} {write : PlannedDsWrite} {chunks : Nat → ChunkEnv}

/-- A WRITE that was answered OK leads to no plain rejection, whatever follows it. -/
theorem writeDsAttempt_ok_notRejected {rounds done level : Nat} {verifier : Option Verifier}
    {data : List UInt8} (hDone : done < write.data.length)
    (hOk : (dsWriteChunk info write done (chunks done)).writeResult = .ok data)
    (hRest : ∀ n level verifier, 0 < n → n ≤ write.data.length - done →
      (writeDsAttempt info write chunks rounds (done + n) level verifier).NotRejected) :
    (writeDsAttempt info write chunks (rounds + 1) done level verifier).NotRejected := by
  rw [writeDsAttempt, if_pos hDone]
  simp only [hOk]
  split
  · exact notRejected_of_error rfl
  · split
    · exact notRejected_of_error rfl
    · rename_i hCount
      split
      · exact notRejected_of_error rfl
      · exact hRest _ _ _ (by omega) (by omega)

/-- Behind written bytes an attempt returns no plain rejection. -/
theorem writeDsAttempt_progress_notRejected (rounds : Nat) :
    ∀ done level verifier, 0 < done →
      (writeDsAttempt info write chunks rounds done level verifier).NotRejected := by
  induction rounds with
  | zero =>
    intro done level verifier _
    exact stripeReply_notRejected
  | succ rounds ih =>
    intro done level verifier hPos
    by_cases hDone : done < write.data.length
    · cases hAnswer : (dsWriteChunk info write done (chunks done)).writeResult with
      | ok data =>
        exact writeDsAttempt_ok_notRejected hDone hAnswer fun n level verifier hn _ =>
          ih (done + n) level verifier (by omega)
      | error e =>
        rw [writeDsAttempt, if_pos hDone]
        simp only [hAnswer]
        -- the count of written bytes fits 32 bits, so it is seen
        have hSmall := write.length_lt
        rw [Nat.mod_eq_of_lt (by omega)]
        exact notRejected_of_error (dsErrorAfterProgress_not_rejection hPos e)
    · rw [writeDsAttempt, if_neg hDone]
      exact stripeReply_notRejected

/-- An attempt whose first WRITE fails returns its error as it came. -/
theorem writeDsAttempt_first_error {rounds level : Nat} {verifier : Option Verifier}
    {e : NfsError} (hDone : 0 < write.data.length)
    (hError : (dsWriteChunk info write 0 (chunks 0)).writeResult = .error e) :
    writeDsAttempt info write chunks (rounds + 1) 0 level verifier =
      { result := .error e, touched := (dsWriteChunk info write 0 (chunks 0)).unknown } := by
  rw [writeDsAttempt, if_pos hDone]
  simp only [hError, Nat.zero_mod, dsErrorAfterProgress_zero]

end Attempts

section Stripes

variable {info : PnfsInfo} {stripe : Stripe}

theorem rejection?_some {e : NfsError} (h : stripe.rejection? info = some e) :
    0 < stripe.write.data.length ∧ (stripe.firstAnswer info).writeResult = .error e ∧
      e.isRejection = true := by
  unfold Stripe.rejection? at h
  split at h
  · cases h
  · rename_i hData
    split at h
    · cases h
    · rename_i e' hError
      split at h
      · rename_i hRejection
        cases h
        exact ⟨List.length_pos_iff.mpr hData, hError, hRejection⟩
      · cases h

theorem changesVerifier_of_isRejection {e : NfsError} (h : e.isRejection = true) :
    changesVerifier e = false := by
  cases e <;> first | rfl | cases h

theorem attempt_rejected {e : NfsError} (h : stripe.rejection? info = some e) :
    stripe.attempt info 0 =
      { result := .error e, touched := (stripe.firstAnswer info).unknown } := by
  obtain ⟨hData, hError, -⟩ := rejection?_some h
  obtain ⟨rounds, hRounds⟩ := Nat.exists_eq_add_one_of_ne_zero (Nat.ne_of_gt hData)
  unfold Stripe.attempt
  rw [hRounds]
  exact writeDsAttempt_first_error hData hError

/-- The first attempt of a stripe that is not rejected. -/
theorem attempt_notRejected (h : stripe.rejection? info = none) :
    (stripe.attempt info 0).NotRejected := by
  unfold Stripe.attempt
  cases hData : stripe.write.data.length with
  | zero => exact stripeReply_notRejected
  | succ rounds =>
    have hPos : 0 < stripe.write.data.length := by omega
    cases hAnswer : (stripe.firstAnswer info).writeResult with
    | ok data =>
      exact writeDsAttempt_ok_notRejected hPos hAnswer fun n level verifier hn _ =>
        writeDsAttempt_progress_notRejected rounds (0 + n) level verifier (by omega)
    | error e =>
      rw [writeDsAttempt_first_error hPos hAnswer]
      have hne : stripe.write.data ≠ [] := List.length_pos_iff.mp hPos
      unfold Stripe.rejection? at h
      rw [if_neg hne, hAnswer] at h
      refine notRejected_of_error (Bool.eq_false_iff.mpr fun hRejection => ?_)
      simp [hRejection] at h

/-- What an attempt returns is wrapped behind an earlier attempt. -/
theorem afterAttempt_notRejected {ended : StripeEnd} {attempt : Nat}
    (h : 0 < attempt ∨ ended.NotRejected) : (ended.afterAttempt info attempt).NotRejected := by
  intro e he
  have he : ended.result.mapError
      (dsErrorAfterProgress info.protocol (if attempt > 0 then 1 else 0)) = .error e := he
  cases hResult : ended.result with
  | ok reply =>
    rw [hResult] at he
    cases he
  | error e' =>
    rw [hResult] at he
    cases he
    by_cases hPos : 0 < attempt
    · rw [if_pos hPos]
      exact dsErrorAfterProgress_not_rejection Nat.zero_lt_one e'
    · rw [if_neg hPos, dsErrorAfterProgress_zero]
      exact h.resolve_left hPos e' hResult

theorem writeDsFrom_later_notRejected (retries : Nat) :
    ∀ attempt, 0 < attempt → (writeDsFrom info stripe retries attempt).NotRejected := by
  induction retries with
  | zero =>
    intro attempt hPos
    exact afterAttempt_notRejected (.inl hPos)
  | succ retries ih =>
    intro attempt hPos
    unfold writeDsFrom
    dsimp only
    split
    · exact ih (attempt + 1) (Nat.succ_pos attempt)
    · exact afterAttempt_notRejected (.inl hPos)

/-- **A rejected stripe.** Its first WRITE is rejected, that is its result, and nothing but
that WRITE can have touched the data. -/
theorem writeDsComplete_rejected {e : NfsError} (h : stripe.rejection? info = some e) :
    writeDsComplete info stripe =
      { result := .error e, touched := (stripe.firstAnswer info).unknown } := by
  have hSame : changesVerifier e = false :=
    changesVerifier_of_isRejection (rejection?_some h).2.2
  unfold writeDsComplete writeDsFrom
  simp only [attempt_rejected h, StripeEnd.verifierChanged, hSame, StripeEnd.afterAttempt,
    Except.mapError]
  rw [if_neg Bool.false_ne_true, if_neg (Nat.lt_irrefl 0), dsErrorAfterProgress_zero]

/-- No other stripe returns a plain rejection. -/
theorem writeDsComplete_notRejected (h : stripe.rejection? info = none) :
    (writeDsComplete info stripe).NotRejected := by
  unfold writeDsComplete writeDsFrom
  dsimp only
  split
  · exact writeDsFrom_later_notRejected 1 1 Nat.zero_lt_one
  · exact afterAttempt_notRejected (.inr (attempt_notRejected h))

end Stripes

end NfsRs.Nfs41
