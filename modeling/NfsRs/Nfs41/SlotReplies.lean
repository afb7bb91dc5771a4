import NfsRs.Lib.Machine
import NfsRs.Nfs41.Senders

/-!
# NfsRs — slots under arbitrary replies

`SlotUse` follows the slots of a session whose server keeps the SEQUENCE rules. Here nothing
is assumed of the server: a decoded reply may hold any results. The senders are all that
acquire a slot: the five of the running mount, and the three of its setup, which are
RECLAIM_COMPLETE in `Session::establish_budgeted`, `navigate_to_export` and `get_fs_limits`.

The state records, beside the table and the holders, the evidence for what a sender did to
its slot: a `SlotAnswer` with the reply behind each advance of a sequence id and behind each slot
that went back as that of a successful request, and a `Fence` with the holder of each slot that
was fenced.

## Main results

- `replyMove_of_step` : what a step can do to the table and to the records.
-/

namespace NfsRs.Nfs41

/-! ## Senders of the mount's setup -/

/-- What a sender does behind the slot operations for a reply. -/
inductive ReplyEnd where
  /-- Back off with the slot and send again. -/
  | resend
  /-- Handle SEQ4 status flags, then apply the slot action and return. -/
  | flags (result : Except NfsError CompoundResponse)
  /-- Drop the slot; without a result the request starts over. -/
  | done (result : Option (Except NfsError CompoundResponse))

/-- The slot operations for a reply, with what follows. -/
structure Judgement where
  settle : Settlement
  next : ReplyEnd

/-- The senders of the mount's setup. -/
inductive BootstrapSender where
  | reclaimComplete
  | navigate (components : List String)
  | fsLimits
  deriving DecidableEq, Repr

/-- RECLAIM_COMPLETE of `Session::establish_budgeted`, behind its SEQUENCE result. -/
def establishOutcome (accepted : Option (SequenceResult × Nat)) (resp : CompoundResponse) :
    Judgement :=
  let settle : Settlement :=
    { advance := accepted.isSome, target := accepted.map (·.2), action := .keep }
  if resp.status = .ok then
    { settle := settle, next := .done (some ((resp.opOk 1).map fun _ => resp)) }
  else if NfsError.isServerBusy (.nfs4 resp.status) then { settle := settle, next := .resend }
  else { settle := settle, next := .done (some (.error (.nfs4 resp.status))) }

/-- RECLAIM_COMPLETE of `Session::establish_budgeted` on a decoded response. -/
def establishVerdict (ctx : SlotContext) (resp : CompoundResponse) : Judgement :=
  match resp.opOk 0 with
  | .error _ => establishOutcome none resp
  | .ok op =>
    match settleSequence ctx op with
    | .error e =>
      { settle := { advance := false, target := none, action := .keep }
        next := .done (some (.error e)) }
    | .ok accepted => establishOutcome (some accepted) resp

/-- The requests that only look: `rest` are the checks between SEQUENCE and the advance. -/
def lookVerdict (ctx : SlotContext) (resp : CompoundResponse) (rest : Except NfsError Unit) :
    Judgement :=
  match resp.checkStatus >>= fun _ => resp.opOk 0 with
  | .error e =>
    { settle := { advance := false, target := none, action := .keep }
      next := .done (some (.error e)) }
  | .ok op =>
    match settleSequence ctx op with
    | .error e =>
      { settle := { advance := false, target := none, action := .fence }
        next := .done (some (.error e)) }
    | .ok accepted =>
      match rest with
      | .error e =>
        { settle := { advance := false, target := some accepted.2, action := .keep }
          next := .done (some (.error e)) }
      | .ok () =>
        { settle := { advance := true, target := some accepted.2, action := .keep }
          next := .done (some (.ok resp)) }

/-- The handle of GETFH: an opaque with its length. -/
def checkGetfh (data : List UInt8) : Except NfsError Unit :=
  if data.length < 4 then .error (.xdr "GETFH result missing fh length")
  else if data.length - 4 < (wordAt data 0 + 3) / 4 * 4 then
    .error (.xdr "GETFH result fh data truncated")
  else .ok ()

/-- The results behind SEQUENCE must all have succeeded, the last of them GETFH. -/
def navigateRest (components : List String) (resp : CompoundResponse) : Except NfsError Unit := do
  let _ ← resp.opOk 1
  for i in List.range components.length do
    let _ ← resp.opOk (2 + i)
  let getfh ← resp.opOk (2 + components.length)
  checkGetfh getfh.data

/-- PUTFH and GETATTR must have succeeded. -/
def fsLimitsRest (resp : CompoundResponse) : Except NfsError Unit := do
  let _ ← resp.opOk 1
  let _ ← resp.opOk 2

def BootstrapSender.verdict (sender : BootstrapSender) (ctx : SlotContext)
    (resp : CompoundResponse) : Judgement :=
  match sender with
  | .reclaimComplete => establishVerdict ctx resp
  | .navigate components => lookVerdict ctx resp (navigateRest components resp)
  | .fsLimits => lookVerdict ctx resp (fsLimitsRest resp)

/-! ## All that hold a slot -/

/-- Who has a slot. -/
inductive SlotOwner where
  | sender (sender : Sender)
  | bootstrap (sender : BootstrapSender)
  deriving DecidableEq, Repr

def Verdict.next : Verdict → ReplyEnd
  | .busySequence _ => .resend
  | .finish _ (some _) result => .flags result
  | .finish _ none result => .done (some result)
  | .retryBusy _ _ | .recover _ _ => .done none

namespace SlotOwner

/-- Whether `fence_on_drop` is called before the frame is sent. -/
def fences : SlotOwner → Bool
  | .sender s => s.fences
  | .bootstrap _ => false

def judge (owner : SlotOwner) (ctx : SlotContext) (highestSlotId attempt : Nat)
    (resp : CompoundResponse) : Judgement :=
  match owner with
  | .sender s =>
    let verdict := s.verdict ctx highestSlotId attempt resp
    { settle := verdict.settlement, next := verdict.next }
  | .bootstrap s => s.verdict ctx resp

end SlotOwner

/-! ## State -/

inductive TurnPhase where
  | acquired
  | calling
  | backoff
  | settling (action : SlotAction) (resp : CompoundResponse)
      (result : Except NfsError CompoundResponse)

def TurnPhase.isSettling : TurnPhase → Bool
  | .settling _ _ _ => true
  | _ => false

/-- An `AcquiredSlot` with its request. -/
structure SlotTurn where
  owner : SlotOwner
  /-- Advances of the slot behind the sequence id of the request. -/
  count : Nat
  disposition : SlotDisposition
  phase : TurnPhase
  /-- A frame of the request may have been written to the transport. -/
  written : Bool
  /-- A reply brought the SEQUENCE result of the request. -/
  validated : Bool

/-- The identity that a reply is checked against. -/
def SlotTurn.context (session : Session) (slot : Nat) (turn : SlotTurn) : SlotContext :=
  { session := session, slotId := slot, sequenceId := sequenceIdOf turn.count }

/-- A reply with the request that it was taken for. -/
structure SlotAnswer where
  owner : SlotOwner
  ctx : SlotContext
  resp : CompoundResponse

/-- The reply's first result is a success, and its identity that of the request. -/
def sequenceValid (ctx : SlotContext) (resp : CompoundResponse) : Bool :=
  match resp.opOk 0 with
  | .error _ => false
  | .ok op => (validateSequenceResult op ctx.session.id ctx.sequenceId ctx.slotId).toBool

/-- The reply's first result is a success that is not the SEQUENCE result of the request. -/
def foreignIdentity (ctx : SlotContext) (resp : CompoundResponse) : Bool :=
  (resp.opOk 0).toBool && !sequenceValid ctx resp

/-- A slot left fenced, with its holder and the advances of the slot at that time. -/
structure Fence where
  slot : Nat
  turn : SlotTurn
  current : Nat

structure SlotRecords where
  table : SlotTable
  held : Nat → Option SlotTurn
  /-- Replies on which a sequence id was advanced. -/
  advances : List SlotAnswer
  /-- Replies on which a slot went back as that of a successful request. -/
  successes : List SlotAnswer
  fences : List Fence

namespace SlotRecords

def initial (session : Session) : SlotRecords :=
  { table := .new session.maxRequests
    held := fun _ => none
    advances := []
    successes := []
    fences := [] }

def setTurn (s : SlotRecords) (slot : Nat) (turn : SlotTurn) : SlotRecords :=
  { s with held := Function.update s.held slot (some turn) }

/-- `Drop for AcquiredSlot`. -/
def dropTurn (s : SlotRecords) (slot : Nat) (turn : SlotTurn) : SlotRecords :=
  { s with
    table := s.table.dropSlot slot turn.disposition
    held := Function.update s.held slot none
    fences :=
      if turn.disposition = .fence then
        { slot := slot, turn := turn, current := s.table.advances slot } :: s.fences
      else s.fences }

/-- The slot limits and the advance of a judgement. -/
def settle (s : SlotRecords) (slot : Nat) (answer : SlotAnswer) (settle : Settlement) :
    SlotRecords :=
  { s with
    table :=
      let table := settle.target.elim s.table s.table.setTarget
      if settle.advance then table.advance slot else table
    advances := if settle.advance then answer :: s.advances else s.advances }

/-- The slot goes back with the request's result. -/
def finish (s : SlotRecords) (slot : Nat) (turn : SlotTurn) (answer : SlotAnswer)
    (result : Option (Except NfsError CompoundResponse)) : SlotRecords :=
  let s' := s.dropTurn slot turn
  if turn.disposition = .release ∧ (result.any fun r => r.toBool) = true then
    { s' with successes := answer :: s'.successes }
  else s'

/-- What a holder does with a decoded response. -/
def conclude (session : Session) (s : SlotRecords) (slot : Nat) (turn : SlotTurn) (attempt : Nat)
    (resp : CompoundResponse) : SlotRecords :=
  let ctx := turn.context session slot
  let judged := turn.owner.judge ctx s.table.highestSlotId attempt resp
  let answer : SlotAnswer := { owner := turn.owner, ctx := ctx, resp := resp }
  let turn := { turn with validated := turn.validated || sequenceValid ctx resp }
  let s := s.settle slot answer judged.settle
  let disposition := judged.settle.action.apply turn.disposition
  match judged.next with
  | .resend => s.setTurn slot { turn with phase := .backoff, disposition := disposition }
  | .flags result =>
    s.setTurn slot { turn with phase := .settling judged.settle.action resp result }
  | .done result => s.finish slot { turn with disposition := disposition } answer result

section Held

variable (s : SlotRecords) {slot slot' : Nat} (turn : SlotTurn)

@[simp] theorem held_setTurn : (s.setTurn slot turn).held slot = some turn :=
  Function.update_self slot _ _

theorem held_setTurn_of_ne (h : slot' ≠ slot) :
    (s.setTurn slot turn).held slot' = s.held slot' := Function.update_of_ne h _ _

@[simp] theorem held_dropTurn : (s.dropTurn slot turn).held slot = none :=
  Function.update_self slot _ _

theorem held_dropTurn_of_ne (h : slot' ≠ slot) :
    (s.dropTurn slot turn).held slot' = s.held slot' := Function.update_of_ne h _ _

end Held

end SlotRecords

/-- Why a request ends without a judgement on a decoded response. -/
inductive Abandonment where
  /-- A local check rejects the request before it is sent. -/
  | rejected
  /-- The RPC call fails; `notSent` says what its evidence is. -/
  | callFailed (notSent : Bool)
  /-- The reply is undecodable or exceeds the limits of the channel. -/
  | badReply
  /-- The retry budget ends in a backoff. -/
  | exhausted
  /-- The future is dropped. -/
  | cancelled
  deriving DecidableEq, Repr

inductive SlotReplyEvent where
  | acquire (owner : SlotOwner)
  /-- The local checks pass and the slot is armed. -/
  | start (slot : Nat)
  /-- The frame is handed to the transport. -/
  | transmit (slot : Nat)
  | reply (slot attempt : Nat) (resp : CompoundResponse)
  /-- The backoff ends and the request is sent again, with the slot's current sequence id. -/
  | resend (slot : Nat)
  /-- `handle_seq_status` returns. -/
  | settled (slot : Nat)
  | abandon (slot : Nat) (reason : Abandonment)

/-- The phases in which a request can end so. Evidence of a call that did not send is
sound. -/
def Abandonment.possible (turn : SlotTurn) : Abandonment → Bool
  | .rejected => match turn.phase with
    | .acquired => true
    | _ => false
  | .callFailed notSent => match turn.phase with
    | .calling => !(notSent && turn.written)
    | _ => false
  | .badReply => match turn.phase with
    | .calling => turn.written
    | _ => false
  | .exhausted => match turn.phase with
    | .backoff => true
    | _ => false
  | .cancelled => true

open SlotRecords in
/-- The steps of the senders on one session. -/
def replyStep (session : Session) (s : SlotRecords) : SlotReplyEvent → Option SlotRecords
  | .acquire owner =>
    s.table.acquire.map fun acquired =>
      { s with table := acquired.2 }.setTurn acquired.1
        { owner := owner, count := s.table.advances acquired.1, disposition := .release
          phase := .acquired, written := false, validated := false }
  | .start slot =>
    (s.held slot).bind fun turn =>
      match turn.phase with
      | .acquired =>
        some (s.setTurn slot
          { turn with
            phase := .calling
            disposition := if turn.owner.fences then .fence else turn.disposition })
      | _ => none
  | .transmit slot =>
    (s.held slot).bind fun turn =>
      match turn.phase with
      | .calling => some (s.setTurn slot { turn with written := true })
      | _ => none
  | .reply slot attempt resp =>
    (s.held slot).bind fun turn =>
      match turn.phase with
      | .calling =>
        if turn.written then some (s.conclude session slot turn attempt resp) else none
      | _ => none
  | .resend slot =>
    (s.held slot).bind fun turn =>
      match turn.phase with
      | .backoff =>
        let same := turn.count == s.table.advances slot
        some (s.setTurn slot
          { turn with
            phase := .calling
            count := s.table.advances slot
            -- behind an advance the request has a new sequence id
            written := turn.written && same
            validated := turn.validated && same
            disposition := if turn.owner.fences then .fence else turn.disposition })
      | _ => none
  | .settled slot =>
    (s.held slot).bind fun turn =>
      match turn.phase with
      | .settling action resp result =>
        some (s.finish slot { turn with disposition := action.apply turn.disposition }
          { owner := turn.owner, ctx := turn.context session slot, resp := resp } (some result))
      | _ => none
  | .abandon slot reason =>
    (s.held slot).bind fun turn =>
      if reason.possible turn then some (s.dropTurn slot turn) else none

/-- The machine of a session's slots under arbitrary replies. -/
def replyMachine (session : Session) : Lib.Machine SlotRecords SlotReplyEvent where
  init := .initial session
  step := replyStep session

/-! ## What a step can do -/

open SlotRecords in
inductive ReplyMove (session : Session) (s : SlotRecords) :
    SlotReplyEvent → SlotRecords → Prop where
  | acquire {owner : SlotOwner} {slot : Nat} {table : SlotTable}
      (hAcquire : s.table.acquire = some (slot, table)) :
      ReplyMove session s (.acquire owner) ({ s with table := table }.setTurn slot
        { owner := owner, count := s.table.advances slot, disposition := .release
          phase := .acquired, written := false, validated := false })
  | start {slot : Nat} {turn : SlotTurn} (hHeld : s.held slot = some turn)
      (hPhase : turn.phase = .acquired) :
      ReplyMove session s (.start slot) (s.setTurn slot
        { turn with
          phase := .calling
          disposition := if turn.owner.fences then .fence else turn.disposition })
  | transmit {slot : Nat} {turn : SlotTurn} (hHeld : s.held slot = some turn)
      (hPhase : turn.phase = .calling) :
      ReplyMove session s (.transmit slot) (s.setTurn slot { turn with written := true })
  | reply {slot attempt : Nat} {resp : CompoundResponse} {turn : SlotTurn}
      (hHeld : s.held slot = some turn) (hPhase : turn.phase = .calling)
      (hWritten : turn.written = true) :
      ReplyMove session s (.reply slot attempt resp) (s.conclude session slot turn attempt resp)
  | resend {slot : Nat} {turn : SlotTurn} (hHeld : s.held slot = some turn)
      (hPhase : turn.phase = .backoff) :
      ReplyMove session s (.resend slot) (s.setTurn slot
        { turn with
          phase := .calling
          count := s.table.advances slot
          written := turn.written && turn.count == s.table.advances slot
          validated := turn.validated && turn.count == s.table.advances slot
          disposition := if turn.owner.fences then .fence else turn.disposition })
  | settled {slot : Nat} {turn : SlotTurn} {action : SlotAction} {resp : CompoundResponse}
      {result : Except NfsError CompoundResponse} (hHeld : s.held slot = some turn)
      (hPhase : turn.phase = .settling action resp result) :
      ReplyMove session s (.settled slot) (s.finish slot
        { turn with disposition := action.apply turn.disposition }
        { owner := turn.owner, ctx := turn.context session slot, resp := resp } (some result))
  | abandon {slot : Nat} {reason : Abandonment} {turn : SlotTurn}
      (hHeld : s.held slot = some turn) (hPossible : reason.possible turn = true) :
      ReplyMove session s (.abandon slot reason) (s.dropTurn slot turn)

/-- **Inversion.** Every step is one of the moves. -/
theorem replyMove_of_step {session : Session} {s s' : SlotRecords} {e : SlotReplyEvent}
    (h : replyStep session s e = some s') : ReplyMove session s e s' := by
  cases e with
  | acquire owner =>
    obtain ⟨⟨slot, table⟩, hAcquire, hEq⟩ := Option.map_eq_some_iff.mp h
    cases hEq
    exact .acquire hAcquire
  | start slot =>
    obtain ⟨turn, hHeld, hNext⟩ := Option.bind_eq_some_iff.mp h
    split at hNext
    next hPhase =>
      cases hNext
      exact .start hHeld hPhase
    next => cases hNext
  | transmit slot =>
    obtain ⟨turn, hHeld, hNext⟩ := Option.bind_eq_some_iff.mp h
    split at hNext
    next hPhase =>
      cases hNext
      exact .transmit hHeld hPhase
    next => cases hNext
  | reply slot attempt resp =>
    obtain ⟨turn, hHeld, hNext⟩ := Option.bind_eq_some_iff.mp h
    split at hNext
    next hPhase =>
      split at hNext
      next hWritten =>
        cases hNext
        exact .reply hHeld hPhase hWritten
      next => cases hNext
    next => cases hNext
  | resend slot =>
    obtain ⟨turn, hHeld, hNext⟩ := Option.bind_eq_some_iff.mp h
    split at hNext
    next hPhase =>
      cases hNext
      exact .resend hHeld hPhase
    next => cases hNext
  | settled slot =>
    obtain ⟨turn, hHeld, hNext⟩ := Option.bind_eq_some_iff.mp h
    split at hNext
    next action resp result hPhase =>
      cases hNext
      exact .settled hHeld hPhase
    next => cases hNext
  | abandon slot reason =>
    obtain ⟨turn, hHeld, hNext⟩ := Option.bind_eq_some_iff.mp h
    split at hNext
    next hPossible =>
      cases hNext
      exact .abandon hHeld hPossible
    next => cases hNext

end NfsRs.Nfs41
