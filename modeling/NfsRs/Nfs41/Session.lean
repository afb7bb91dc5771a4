import Mathlib.Logic.Function.Basic
import NfsRs.Nfs41.Compound

/-!
# NfsRs — sessions and slots

A session has a fixed table of slots. A request holds one slot, is sent with the slot's
sequence id, and the id is advanced when the server's SEQUENCE result says that the
request was accepted. On drop, a slot goes back to the free pool, or stays fenced for the
rest of the session when its request may still be executed.

This file models the negotiated session limits, the channel attributes they come from, the
slot table with its FIFO pool, and the validation of a SEQUENCE result.
-/

namespace NfsRs.Nfs41

open NfsRs.Rpc (pad4 beNat)

/-! ## Session limits -/

/-- What the senders read of a `Session`. -/
structure Session where
  id : List UInt8
  /-- Local generation number of the session holder. -/
  generation : Nat
  protocol : NFSVersion
  maxRequestSize : Nat
  maxResponseSize : Nat
  maxOperations : Nat
  maxCachedResponseSize : Nat
  /-- Length of the slot table. -/
  maxRequests : Nat
  deriving DecidableEq, Repr

/-- A session id as a number, for the request identity. -/
def Session.idNat (s : Session) : Nat := beNat s.id

def requestContext (tag : String) (session : Session) (slotId sequenceId : Nat) :
    RequestContext :=
  { operation := String.ofList (tag.toList.take 64)
    protocol := session.protocol
    requestId := some (.nfs41Session session.idNat slotId sequenceId) }

def enforceEncodedSize (kind : String) (actual maximum : Nat) : Except NfsError Unit :=
  if actual > maximum then
    .error (.rpc s!"encoded COMPOUND {kind} size {actual} exceeds channel maximum {maximum}")
  else .ok ()

def enforceRequestSize (session : Session) (headerLen dataLen : Nat) : Except NfsError Unit :=
  enforceEncodedSize "request" (headerLen + 8 + dataLen + pad4 dataLen) session.maxRequestSize

def enforceResponseSize (session : Session) (responseLen : Nat) : Except NfsError Unit :=
  enforceEncodedSize "response" (responseLen + 24) session.maxResponseSize

def enforceResponseOperations (session : Session) (response : CompoundResponse)
    (requested : Nat) : Except NfsError Unit :=
  if response.results.length > session.maxOperations ∨ response.results.length > requested then
    .error (.xdr s!"COMPOUND response contains {response.results.length} operations; requested {requested}, channel maximum {session.maxOperations}")
  else .ok ()

/-! ## Channel attributes -/

/-- Attributes of a channel as negotiated by CREATE_SESSION. -/
structure ChannelAttrs where
  headerPadSize : Nat
  maxRequestSize : Nat
  maxResponseSize : Nat
  maxCachedResponseSize : Nat
  maxOps : Nat
  maxRequests : Nat
  deriving DecidableEq, Repr

/-- Attributes of a channel as offered to the server. -/
structure ChannelAttrsArgs where
  headerpadsize : Nat
  maxrequestsize : Nat
  maxresponsesize : Nat
  maxresponsesizeCached : Nat
  maxoperations : Nat
  maxrequests : Nat
  deriving DecidableEq, Repr

/-- What `create_session_step` offers for the fore channel. -/
def foreAttrs : ChannelAttrsArgs :=
  { headerpadsize := 0
    maxrequestsize := 1048576
    maxresponsesize := 1048576
    maxresponsesizeCached := 4096
    maxoperations := 16
    maxrequests := 64 }

/-- The rows that `validate_channel_attrs` goes through: field, negotiated and offered value. -/
def channelValues (attrs : ChannelAttrs) (offered : ChannelAttrsArgs) : List (String × Nat × Nat) :=
  [ ("headerpadsize", attrs.headerPadSize, offered.headerpadsize),
    ("maxrequestsize", attrs.maxRequestSize, offered.maxrequestsize),
    ("maxresponsesize", attrs.maxResponseSize, offered.maxresponsesize),
    ("maxresponsesize_cached", attrs.maxCachedResponseSize, offered.maxresponsesizeCached),
    ("maxoperations", attrs.maxOps, offered.maxoperations),
    ("maxrequests", attrs.maxRequests, offered.maxrequests) ]

/-- The check of one row. -/
def rowInvalid (row : String × Nat × Nat) : Bool :=
  (row.1 != "headerpadsize" && row.1 != "maxresponsesize_cached" && row.2.1 == 0) ||
    decide (row.2.1 > row.2.2)

/-- The attributes of a channel must lie within what was offered. -/
def validateChannelAttrs (name : String) (attrs : ChannelAttrs) (offered : ChannelAttrsArgs) :
    Except NfsError Unit :=
  match (channelValues attrs offered).find? rowInvalid with
  | some (field, value, maximum) =>
    .error (.rpc s!"invalid {name}-channel {field} {value}; offered range is 1..={maximum}")
  | none =>
    if attrs.maxCachedResponseSize > attrs.maxResponseSize then
      .error (.rpc s!"invalid {name}-channel cached response maximum {attrs.maxCachedResponseSize} exceeds response maximum {attrs.maxResponseSize}")
    else .ok ()

variable {name : String} {attrs : ChannelAttrs}

/-- Accepted attributes pass the check of every row. -/
theorem rowInvalid_of_validateChannelAttrs {offered : ChannelAttrsArgs}
    (h : validateChannelAttrs name attrs offered = .ok ()) :
    ∀ row ∈ channelValues attrs offered, ¬ rowInvalid row = true := by
  unfold validateChannelAttrs at h
  split at h
  next => cases h
  next hFind => exact List.find?_eq_none.mp hFind

/-- Accepted fore-channel attributes give a table of 1 to 64 slots. -/
theorem maxRequests_of_validateChannelAttrs
    (h : validateChannelAttrs name attrs foreAttrs = .ok ()) :
    0 < attrs.maxRequests ∧ attrs.maxRequests ≤ 64 := by
  have hRow := rowInvalid_of_validateChannelAttrs h ("maxrequests", attrs.maxRequests, 64)
    (by simp [channelValues, foreAttrs])
  simp [rowInvalid] at hRow
  omega

/-- Accepted fore-channel attributes allow 16 operations at most. -/
theorem maxOps_of_validateChannelAttrs (h : validateChannelAttrs name attrs foreAttrs = .ok ()) :
    attrs.maxOps ≤ 16 := by
  have hRow := rowInvalid_of_validateChannelAttrs h ("maxoperations", attrs.maxOps, 16)
    (by simp [channelValues, foreAttrs])
  simp [rowInvalid] at hRow
  omega

/-! ## SEQUENCE results -/

structure SequenceResult where
  highestSlotId : Nat
  targetHighestSlotId : Nat
  statusFlags : Nat
  deriving DecidableEq, Repr

/-- The word at an offset of a result. -/
def wordAt (data : List UInt8) (offset : Nat) : Nat := beNat ((data.drop offset).take 4)

/-- Accept a SEQUENCE result only for the identity that was sent. -/
def validateSequenceResult (op : OpResponse) (sessionId : List UInt8)
    (sequenceId slotId : Nat) : Except NfsError SequenceResult :=
  if op.opcode ≠ OpNum.sequence.code ∨ op.status ≠ .ok then
    .error (.xdr "response does not contain a successful SEQUENCE result")
  else if op.data.length < 36 then .error (.xdr "SEQUENCE result truncated")
  else if op.data.take 16 ≠ sessionId ∨ wordAt op.data 16 ≠ sequenceId ∨
      wordAt op.data 20 ≠ slotId then
    .error (.xdr s!"SEQUENCE identity mismatch: expected seq={sequenceId} slot={slotId}")
  else .ok
    { highestSlotId := wordAt op.data 24
      targetHighestSlotId := wordAt op.data 28
      statusFlags := wordAt op.data 32 }

/-- `Session::update_sequence_slot_limits`: the limits of a SEQUENCE result against the
negotiated table; the result is the new target for slots to be acquired. -/
def checkSlotLimits (maxRequests highest target : Nat) : Except NfsError Nat :=
  if maxRequests = 0 then .error (.rpc "session negotiated zero fore-channel slots")
  else
    let maximum := maxRequests - 1
    if highest > maximum ∨ target > maximum then
      .error (.xdr s!"SEQUENCE slot limits highest={highest} target={target} exceed negotiated maximum {maximum}")
    else .ok (min target highest)

/-! ## The slot table -/

/-- What happens to a slot when its holder drops it. -/
inductive SlotDisposition where
  | release | fence
  deriving DecidableEq, Repr

/-- `SlotTable` of `size` slots, at most 64 of them (the number offered to the server).
`advances` counts the advances of each slot, so that its sequence id is the count plus one
in 32 bits. -/
structure SlotTable where
  size : Nat
  advances : Nat → Nat
  freePool : List Nat
  /-- The bits set in `active_or_fenced_slots`. -/
  active : List Nat
  fencedSlots : Nat
  targetHighestSlotId : Nat
  /-- The semaphore is closed: every slot is fenced. -/
  closed : Bool

/-- The sequence id of a slot after `n` advances: it starts at one and wraps in 32 bits. -/
def sequenceIdOf (n : Nat) : Nat := (n + 1) % 2 ^ 32

namespace SlotTable

def new (numSlots : Nat) : SlotTable :=
  { size := numSlots
    advances := fun _ => 0
    freePool := List.range numSlots
    active := []
    fencedSlots := 0
    targetHighestSlotId := numSlots - 1
    closed := false }

/-- `Slot::sequence_id`. -/
def sequenceId (t : SlotTable) (slot : Nat) : Nat := sequenceIdOf (t.advances slot)

/-- `SlotTable::acquire` where it does not block: the first free slot within the server's
target. -/
def acquire (t : SlotTable) : Option (Nat × SlotTable) :=
  if t.closed then none
  else match t.freePool.find? (· ≤ t.targetHighestSlotId) with
    | none => none
    | some slot =>
      some (slot, { t with freePool := t.freePool.erase slot, active := slot :: t.active })

theorem advances_acquire {t t' : SlotTable} {slot : Nat} (h : t.acquire = some (slot, t')) :
    t'.advances = t.advances := by
  unfold acquire at h
  split at h
  next => cases h
  next =>
    split at h
    next => cases h
    next =>
      cases h
      rfl

/-- `AcquiredSlot::advance`. -/
def advance (t : SlotTable) (slot : Nat) : SlotTable :=
  { t with advances := Function.update t.advances slot (t.advances slot + 1) }

/-- `Drop for AcquiredSlot`. -/
def dropSlot (t : SlotTable) (slot : Nat) : SlotDisposition → SlotTable
  | .release =>
    { t with freePool := t.freePool ++ [slot], active := t.active.filter (· ≠ slot) }
  | .fence =>
    { t with
      fencedSlots := t.fencedSlots + 1
      closed := t.closed || decide (t.fencedSlots + 1 ≥ t.size) }

/-- Highest slot id to report in SEQUENCE. -/
def highestSlotId (t : SlotTable) : Nat :=
  max (t.active.foldl max 0) t.targetHighestSlotId

/-- `SlotTable::update_target_highest_slot_id`, behind its check. -/
def setTarget (t : SlotTable) (target : Nat) : SlotTable :=
  { t with targetHighestSlotId := target }

end SlotTable

end NfsRs.Nfs41
