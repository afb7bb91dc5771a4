import NfsRs.Error
import NfsRs.Lib.Except

/-!
# NfsRs — one logical RPC over the stream transport

`Client::call_with_data_inner` sends one logical request up to `max_attempts` times, each
attempt under a fresh XID, and returns either the server's reply or one error. This file
models a single attempt (`StreamMux::send_and_receive_inner`), the reply envelope
(`parse_rpc_response`) and the attempt loop with its brief connection recovery.

What the network and the other tasks do is the input: an `AttemptEnv` fixes what each
await point of one attempt yields, an `IterEnv` adds the clock test at the head of the
loop and the outcome of the reconnect behind a lost connection. The model also counts the
bytes of the request that were handed to the socket, which the source does not record.
-/

namespace NfsRs.Rpc

/-! ## Reply envelope -/

/-- Big-endian value of a byte string. -/
def beNat (bytes : List UInt8) : Nat :=
  bytes.foldl (fun acc b => acc * 256 + b.toNat) 0

/-- XDR padding behind `len` opaque bytes. -/
def pad4 (len : Nat) : Nat := (4 - len % 4) % 4

/-- `read_u32` of `parse_rpc_response`. -/
def readU32 (data : List UInt8) (p : Nat) : Except NfsError Nat :=
  if p + 4 > data.length then .error (.rpc "response truncated")
  else .ok (beNat ((data.drop p).take 4))

/-- Strip the RPC reply envelope:
`[xid] [msgtype] [msg_status] [verf_flavor] [verf_len] [verf_data] [accept_stat] [payload]`. -/
def parseRpcResponse (res : List UInt8) (xid : Nat) : Except NfsError (List UInt8) :=
  if res.length < 8 then .error (.rpc "response too short")
  else if beNat (res.take 4) ≠ xid then
    .error (.rpc "response id does not match expected one")
  else if beNat ((res.drop 4).take 4) ≠ 1 then
    .error (.rpc "response type does not match expected one")
  else do
    let msgStatus ← readU32 res 8
    if msgStatus ≠ 0 then .error (.rpc "could not parse response due to bad status")
    else
      -- the verifier flavor at offset 12 is skipped
      let verfLen ← readU32 res 16
      if 20 + (verfLen + pad4 verfLen) > res.length then
        .error (.rpc "response truncated (verifier)")
      else
        let acceptStatus ← readU32 res (20 + (verfLen + pad4 verfLen))
        if acceptStatus = 0 then .ok (res.drop (24 + (verfLen + pad4 verfLen)))
        -- PROG_UNAVAIL, PROG_MISMATCH and PROC_UNAVAIL stay authoritative
        else if 1 ≤ acceptStatus ∧ acceptStatus ≤ 3 then
          .error (.unsupported s!"RPC service unavailable (accept status {acceptStatus})")
        else .error (.rpc "request rejected")

theorem readU32_error {data : List UInt8} {p : Nat} {e : NfsError}
    (h : readU32 data p = .error e) : ∃ m, e = .rpc m := by
  unfold readU32 at h
  split at h
  · cases h
    exact ⟨_, rfl⟩
  · cases h

/-- A reply that does not parse is an RPC error, or the authoritative answer that the
service is not there. -/
theorem parseRpcResponse_error {res : List UInt8} {xid : Nat} {e : NfsError}
    (h : parseRpcResponse res xid = .error e) :
    (∃ m, e = .rpc m) ∨ ∃ m, e = .unsupported m := by
  unfold parseRpcResponse at h
  split at h
  · cases h; exact .inl ⟨_, rfl⟩
  split at h
  · cases h; exact .inl ⟨_, rfl⟩
  split at h
  · cases h; exact .inl ⟨_, rfl⟩
  rcases Lib.bind_eq_error_iff.mp h with h | ⟨msgStatus, -, h⟩
  · exact .inl (readU32_error h)
  split at h
  · cases h; exact .inl ⟨_, rfl⟩
  rcases Lib.bind_eq_error_iff.mp h with h | ⟨verfLen, -, h⟩
  · exact .inl (readU32_error h)
  split at h
  · cases h; exact .inl ⟨_, rfl⟩
  rcases Lib.bind_eq_error_iff.mp h with h | ⟨acceptStatus, -, h⟩
  · exact .inl (readU32_error h)
  split at h
  · cases h
  split at h
  · cases h; exact .inr ⟨_, rfl⟩
  · cases h; exact .inl ⟨_, rfl⟩

/-! ## One attempt -/

/-- How the wait for connection readiness ends: the connection is ready, its rebind has
failed, or the attempt's timeout fires first. -/
inductive ReadyWait where
  | ready | failed | pending
  deriving DecidableEq, Repr

/-- What writing the frame does; `written` is the number of bytes the socket took before
the error or before the attempt's timeout. -/
inductive WriteEvent where
  | complete
  | failed (kind : ErrorKind) (message : String) (written : Nat)
  | timedOut (written : Nat)
  deriving DecidableEq, Repr

/-- What ends the wait for the reply. The reader hands a complete record over, or fails
every waiter when it stops: with its I/O error, or with the RPC error of a malformed
record. -/
inductive ReplyEvent where
  | record (data : List UInt8)
  | readerIo (kind : ErrorKind) (message : String)
  | readerRpc (message : String)
  | senderDropped
  | responseTimeout
  | attemptTimeout
  deriving DecidableEq, Repr

/-- The environment of one attempt, one field per await point or shared variable. -/
structure AttemptEnv where
  readyWait : ReadyWait
  pendingPoisoned : Bool
  /-- `failed_generation > generation` under the pending lock. -/
  readerStopped : Bool
  /-- The writer lock is obtained before the attempt's timeout. -/
  writerLocked : Bool
  write : WriteEvent
  reply : ReplyEvent

/-- Result of an attempt, with the request bytes handed to the socket. -/
structure Attempt where
  result : Except NfsError (List UInt8)
  written : Nat

/-- The reader's answer as the waiter reports it. Only an I/O error is given the evidence
that the request was sent. -/
def awaitReply : ReplyEvent → Except NfsError (List UInt8)
  | .record data => .ok data
  | .readerIo kind message => .error (.transport .sent (.io kind message))
  | .readerRpc message => .error (.rpc message)
  | .senderDropped => .error (.transport .sent (.io .brokenPipe "reader task terminated"))
  | .responseTimeout => .error (.transport .sent (.io .timedOut "RPC response timeout"))
  | .attemptTimeout => .error (.transport .sent (.io .timedOut "RPC attempt timeout"))

/-- `StreamMux::send_and_receive_inner` for a frame of `frameLen` bytes. -/
def sendAndReceiveInner (frameLen : Nat) (bypassReadiness : Bool) (env : AttemptEnv) :
    Attempt :=
  match (if bypassReadiness then .ready else env.readyWait) with
  | .failed =>
    { result := .error (.transport .notSent (.io .notConnected
        "NFSv4.1 connection rebind failed; connection is not ready")), written := 0 }
  | .pending =>
    { result := .error (.transport .notSent (.io .timedOut "RPC attempt timeout")),
      written := 0 }
  | .ready =>
    if env.pendingPoisoned then
      { result := .error (.transport .notSent (.rpc "pending map lock poisoned")),
        written := 0 }
    else if !bypassReadiness && env.readerStopped then
      { result := .error (.transport .notSent (.io .notConnected
          "RPC connection reader has stopped")), written := 0 }
    else if !env.writerLocked then
      { result := .error (.transport .notSent (.io .timedOut "RPC attempt timeout")),
        written := 0 }
    else
      -- the send boundary: from here on every failure but one carries `sent`
      match env.write with
      | .failed kind message written =>
        { result := .error (.transport .sent (.io kind message)), written := written }
      | .timedOut written =>
        { result := .error (.transport .sent (.io .timedOut "RPC attempt timeout")),
          written := written }
      | .complete => { result := awaitReply env.reply, written := frameLen }

/-! ## The attempt loop -/

/-- The brief recovery budget opened by the first lost connection. -/
structure DisconnectRecovery where
  first : NfsError
  reconnects : Nat

namespace DisconnectRecovery

def maxReconnects : Nat := 4

/-- `DisconnectRecovery::failure`: the first disconnect, with `sent` evidence added when
some attempt has it. -/
def failure (recovery : DisconnectRecovery) (transmission : RequestTransmission) : NfsError :=
  if transmission = .sent ∧ recovery.first.requestTransmission ≠ some .sent then
    .transport transmission recovery.first
  else recovery.first

/-- `DisconnectRecovery::next_delay` without the sampled delay: the budget after one more
reconnect, `none` when it is used up. -/
def nextDelay (recovery : DisconnectRecovery) : Option DisconnectRecovery :=
  if recovery.reconnects ≥ maxReconnects then none
  else some { recovery with reconnects := recovery.reconnects + 1 }

end DisconnectRecovery

/-- Outcome of the reconnect behind a lost connection, under the recovery deadline. -/
inductive ReconnectEvent where
  | ok
  | failed (error : NfsError)
  | timedOut

/-- The loop goes on after a reconnect that worked or lost the connection again. -/
def ReconnectEvent.keepsTrying : ReconnectEvent → Bool
  | .ok => true
  | .failed error => error.isConnectionLost
  | .timedOut => false

/-- The environment of one iteration. -/
structure IterEnv where
  /-- The clock is past the attempt deadline at the head of the loop. -/
  expired : Bool
  xid : Nat
  attempt : AttemptEnv
  reconnect : ReconnectEvent

/-- The locals that the loop carries; `written` counts request bytes. -/
structure CallState where
  lastError : Option NfsError
  disconnect : Option DisconnectRecovery
  logicalTransmission : RequestTransmission
  written : Nat

def CallState.initial : CallState :=
  { lastError := none, disconnect := none, logicalTransmission := .notSent, written := 0 }

/-- Result of the logical RPC, with the request bytes handed to the socket. -/
structure CallResult where
  result : Except NfsError (List UInt8)
  written : Nat

/-- Behind the loop: the first disconnect, else the last timeout. -/
def CallState.giveUp (st : CallState) : CallResult :=
  { result := .error (match st.disconnect with
      | some recovery => recovery.failure st.logicalTransmission
      | none => st.lastError.getD (.io .timedOut "RPC total attempt budget exhausted"))
    written := st.written }

/-- Fold an attempt's send evidence into the logical request, and the request's into the
attempt's error. -/
def CallState.noteFailure (st : CallState) (e : NfsError) : NfsError × CallState :=
  if e.requestTransmission = some .sent then
    (e, { st with logicalTransmission := .sent })
  else if st.logicalTransmission = .sent then (.transport .sent e, st)
  else (e, st)

/-- One pass through the loop body: the call returns, or the loop goes on. -/
inductive LoopStep where
  | finish (result : CallResult)
  | again (st : CallState)

/-- The loop body behind a failed attempt; `last` says that no attempt is left. -/
def afterFailure (reconnect : ReconnectEvent) (last : Bool) (e : NfsError) (st : CallState) :
    LoopStep :=
  if e.isConnectionLost then
    -- `get_or_insert_with`: only the first disconnect is recorded
    let recovery := st.disconnect.getD { first := e, reconnects := 0 }
    let lost := { st with disconnect := some recovery }
    if last then .finish lost.giveUp
    else match recovery.nextDelay with
      | none => .finish lost.giveUp
      | some recovery =>
        let st := { st with disconnect := some recovery }
        if reconnect.keepsTrying then .again st else .finish st.giveUp
  else if e.kind = .timedOut then .again { st with lastError := some e }
  else if st.disconnect.isSome then .finish st.giveUp
  else .finish { result := .error e, written := st.written }

/-- The loop body. -/
def callStep (frameLen : Nat) (bypassReadiness : Bool) (env : IterEnv) (last : Bool)
    (st : CallState) : LoopStep :=
  if env.expired then .finish st.giveUp
  else
    let sent := sendAndReceiveInner frameLen bypassReadiness env.attempt
    let st := { st with written := st.written + sent.written }
    match sent.result with
    | .ok data =>
      .finish { result := parseRpcResponse data env.xid, written := st.written }
    | .error e =>
      let noted := st.noteFailure e
      if bypassReadiness then
        .finish { result := .error noted.1, written := noted.2.written }
      else afterFailure env.reconnect last noted.1 noted.2

/-- The `while attempt < max_attempts` loop; `remaining` is `max_attempts - attempt`. -/
def callLoop (frameLen : Nat) (bypassReadiness : Bool) (env : Nat → IterEnv) :
    (remaining attempt : Nat) → CallState → CallResult
  | 0, _, st => st.giveUp
  | remaining + 1, attempt, st =>
    match callStep frameLen bypassReadiness (env attempt) (remaining = 0) st with
    | .finish result => result
    | .again st => callLoop frameLen bypassReadiness env remaining (attempt + 1) st

/-- `Client::get_mux`: the programs that have a connection. -/
def getMux (program : Nat) : Except NfsError Unit :=
  if program = 100005 ∨ program = 100003 ∨ program = 100000 ∨ program = 100227 then .ok ()
  else .error (.invalidInput s!"unknown RPC program {program}")

/-- The program of a request: the word at offset 4 of its body. -/
def rpcProgram (msgBody : List UInt8) : Nat :=
  if msgBody.length ≥ 8 then beNat ((msgBody.drop 4).take 4) else 100003

/-- `Client::call_with_data_inner`. The frame is the 12-byte record prefix, the body, and
the payload with its padding. -/
def callWithDataInner (msgBody data : List UInt8) (maxAttempts : Nat)
    (bypassReadiness : Bool) (env : Nat → IterEnv) : CallResult :=
  match getMux (rpcProgram msgBody) with
  | .error e => { result := .error e, written := 0 }
  | .ok () =>
    callLoop (12 + msgBody.length + data.length + pad4 data.length) bypassReadiness env
      maxAttempts 0 .initial

end NfsRs.Rpc
