import NfsRs.Lib.Machine
import NfsRs.Nfs41.Senders

/-!
# NfsRs — the slots of one session in use

The machine of one session: requests of the five senders acquire slots, transmit their
frames any number of times, lose replies, are cancelled at any await point, and drop their
slots as their verdicts say. The server follows the SEQUENCE rules: it accepts a frame in
flight only when the frame's sequence id is the next one of its slot, answers with the
cached reply from then on, and may refuse any frame at SEQUENCE without executing it.

Sequence ids are counted without the 32-bit wrap (`count` advances behind the initial id),
and the server compares counts: a frame does not stay in flight while its slot advances
`2 ^ 32` times.

The state also records what no party stores: every frame transmitted, and a `Lapse` for
each slot that went back to the pool with the sequence id of a transmitted request.
-/

namespace NfsRs.Nfs41

/-! ## State -/

/-- One logical COMPOUND request. It may be sent on several slots, one after the other. -/
structure LogicalRequest where
  id : Nat
  sender : Sender
  deriving DecidableEq, Repr

/-- A transmitted frame, by its identity within the session. -/
structure Frame where
  slot : Nat
  count : Nat
  request : LogicalRequest
  deriving DecidableEq, Repr

/-- A slot released without advancing, behind a transmitted request. -/
structure Lapse where
  frame : Frame
  /-- Some frame of the request was in flight without an answer. -/
  unanswered : Bool
  /-- SEQUENCE refused a frame of the request. -/
  refused : Bool
  deriving DecidableEq, Repr

/-- Where the holder of a slot is. -/
inductive HoldPhase where
  /-- The request is built and checked. -/
  | acquired
  | calling
  /-- Backing off behind a busy SEQUENCE. -/
  | backoff
  /-- Handling SEQ4 status flags, before the slot action. -/
  | settling (action : SlotAction)
  deriving DecidableEq, Repr

/-- An `AcquiredSlot` with its request. -/
structure Hold where
  request : LogicalRequest
  /-- Advances of the slot when it was acquired. -/
  count : Nat
  disposition : SlotDisposition
  phase : HoldPhase
  sent : Bool
  refused : Bool
  advanced : Bool
  deriving DecidableEq, Repr

def Hold.frame (h : Hold) (slot : Nat) : Frame :=
  { slot := slot, count := h.count, request := h.request }

structure SlotUse where
  table : SlotTable
  held : Nat → Option Hold
  /-- Requests the server has accepted on each slot, and the last of them. -/
  accepted : Nat → Nat
  acceptedBy : Nat → Option LogicalRequest
  frames : List Frame
  /-- Frames that the server has not refused. -/
  inFlight : List Frame
  lapses : List Lapse

namespace SlotUse

def initial (session : Session) : SlotUse :=
  { table := .new session.maxRequests
    held := fun _ => none
    accepted := fun _ => 0
    acceptedBy := fun _ => none
    frames := []
    inFlight := []
    lapses := [] }

/-- Some slot went back to the pool with this sequence id used. -/
def Lapsed (s : SlotUse) (slot count : Nat) : Prop :=
  ∃ l ∈ s.lapses, l.frame.slot = slot ∧ l.frame.count = count

/-- The same with a frame left unanswered. -/
def LapsedUnanswered (s : SlotUse) (slot count : Nat) : Prop :=
  ∃ l ∈ s.lapses, l.frame.slot = slot ∧ l.frame.count = count ∧ l.unanswered = true

/-! ## Steps -/

def setHold (s : SlotUse) (slot : Nat) (h : Hold) : SlotUse :=
  { s with held := Function.update s.held slot (some h) }

/-- The slot limits and the advance of a verdict. -/
def advanceSlot (s : SlotUse) (slot : Nat) (settle : Settlement) : SlotUse :=
  if settle.advance then
    { s with table := ((settle.target.elim s.table s.table.setTarget).advance slot) }
  else s

/-- `Drop for AcquiredSlot`. -/
def dropHold (s : SlotUse) (slot : Nat) (h : Hold) (disposition : SlotDisposition) : SlotUse :=
  { s with
    table := s.table.dropSlot slot disposition
    held := Function.update s.held slot none
    lapses :=
      if disposition = .release ∧ h.sent = true ∧ h.advanced = false then
        { frame := h.frame slot, unanswered := decide (h.frame slot ∈ s.inFlight)
          refused := h.refused } :: s.lapses
      else s.lapses }

def context (session : Session) (slot : Nat) (h : Hold) : SlotContext :=
  { session := session, slotId := slot, sequenceId := sequenceIdOf h.count }

/-- What a holder does with a decoded response. -/
def conclude (session : Session) (s : SlotUse) (slot : Nat) (h : Hold) (attempt : Nat)
    (resp : CompoundResponse) : SlotUse :=
  match h.request.sender.verdict (context session slot h) s.table.highestSlotId attempt
      resp with
  | .busySequence _ => s.setHold slot { h with phase := .backoff, disposition := .release }
  | .finish settle (some _) _ =>
    (s.advanceSlot slot settle).setHold slot
      { h with phase := .settling settle.action, advanced := settle.advance }
  | .finish settle none _ | .retryBusy settle _ | .recover settle _ =>
    (s.advanceSlot slot settle).dropHold slot { h with advanced := settle.advance }
      (settle.action.apply h.disposition)

/-- The server may refuse a frame of the holder, but not the only frame of the request
that it has accepted. -/
def canRefuse (s : SlotUse) (slot : Nat) (h : Hold) : Prop :=
  2 ≤ s.inFlight.count (h.frame slot) ∨
    ¬ (s.accepted slot = h.count + 1 ∧ s.acceptedBy slot = some h.request)

instance (s : SlotUse) (slot : Nat) (h : Hold) : Decidable (s.canRefuse slot h) :=
  inferInstanceAs (Decidable (_ ∨ _))

end SlotUse

inductive SlotEvent where
  | acquire (request : LogicalRequest)
  /-- The request is checked and its slot armed. -/
  | start (slot : Nat)
  /-- An attempt of the RPC hands the frame to the socket. -/
  | transmit (slot : Nat)
  /-- The server accepts a frame. -/
  | accept (frame : Frame)
  /-- A decoded response within the channel's limits, in iteration `attempt`. -/
  | reply (slot attempt : Nat) (resp : CompoundResponse)
  /-- The backoff ends and the same frame is sent again. -/
  | resend (slot : Nat)
  /-- `handle_seq_status` returns. -/
  | settled (slot : Nat)
  /-- The request ends where it stands: a local rejection, a failed or undecodable call, an
  exhausted budget, or a cancelled future. -/
  | giveUp (slot : Nat)
  deriving DecidableEq, Repr

open SlotUse in
/-- The steps of the clients and the server on one session. -/
def slotStep (session : Session) (s : SlotUse) : SlotEvent → Option SlotUse
  | .acquire request =>
    s.table.acquire.map fun acquired =>
      { s with table := acquired.2 }.setHold acquired.1
        { request := request, count := s.table.advances acquired.1, disposition := .release
          phase := .acquired, sent := false, refused := false, advanced := false }
  | .start slot =>
    (s.held slot).bind fun h =>
      if h.phase = .acquired then
        some (s.setHold slot
          { h with
            phase := .calling
            disposition := if h.request.sender.fences then .fence else h.disposition })
      else none
  | .transmit slot =>
    (s.held slot).bind fun h =>
      if h.phase = .calling then
        some ({ s with frames := h.frame slot :: s.frames
                       inFlight := h.frame slot :: s.inFlight }.setHold slot
          { h with sent := true })
      else none
  | .accept frame =>
    if frame ∈ s.inFlight ∧ frame.count = s.accepted frame.slot then
      some { s with
        accepted := Function.update s.accepted frame.slot (s.accepted frame.slot + 1)
        acceptedBy := Function.update s.acceptedBy frame.slot (some frame.request) }
    else none
  | .reply slot attempt resp =>
    (s.held slot).bind fun h =>
      if h.phase = .calling ∧ h.sent = true then
        if Accepting (context session slot h) (h.request.sender.request.ops.length + 1) resp ∧
            s.accepted slot = h.count + 1 then
          some (s.conclude session slot h attempt resp)
        else if Refusal resp ∧ s.canRefuse slot h then
          some ({ s with inFlight := s.inFlight.erase (h.frame slot) }.conclude session slot
            { h with refused := true } attempt resp)
        else none
      else none
  | .resend slot =>
    (s.held slot).bind fun h =>
      if h.phase = .backoff then
        some (s.setHold slot
          { h with
            phase := .calling
            disposition := if h.request.sender.fences then .fence else h.disposition })
      else none
  | .settled slot =>
    (s.held slot).bind fun h =>
      match h.phase with
      | .settling action => some (s.dropHold slot h (action.apply h.disposition))
      | _ => none
  | .giveUp slot => (s.held slot).map fun h => s.dropHold slot h h.disposition

/-- The machine of a session. -/
def slotMachine (session : Session) : Lib.Machine SlotUse SlotEvent where
  init := .initial session
  step := slotStep session

end NfsRs.Nfs41
