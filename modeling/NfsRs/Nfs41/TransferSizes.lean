import NfsRs.Nfs41.DsWrite

/-!
# NfsRs — transfer sizes and the limits of the session

A mount of NFSv4.1 takes its maximum read and write sizes from the attributes of the file system
and from the channel of the session it was mounted on, minus a headroom for the rest of the
COMPOUND. They are computed once. The session is replaced by every recovery, with the limits
that the server grants then, and each COMPOUND is checked against the limits of the session it is
sent on.

The headroom is more than enough: `writeOverhead` and `readOverhead` are what the two COMPOUNDs
add to their payload. But nothing relates the sizes to the limits of a session behind a recovery.

## Main results

- `encodedLen_write`, `length_readReply` : the exact sizes on the wire.
- `transfers_admitted` : transfers of the advertised sizes pass on exactly those sessions whose
  limits leave what the two COMPOUNDs add, in particular on the first one.
- `write_refused_after_recovery` : a recovery with a smaller channel ends that.
-/

namespace NfsRs.Nfs41.TransferSizes

open NfsRs.Rpc (pad4)

/-! ## Sizes -/

def maxIoSize : Nat := 4 * 1024 * 1024

def negotiatedIoSize (serverMax : Nat) : Except NfsError Nat :=
  if min serverMax maxIoSize = 0 then .error (.xdr "server reported a zero maximum I/O size")
  else .ok (min serverMax maxIoSize)

/-- `NFS41_WRITE_REQUEST_HEADROOM` and `NFS41_READ_RESPONSE_HEADROOM`. -/
def headroom : Nat := 4 * 1024

/-- A limit of the channel and of the server, for a `use` that has the headroom. -/
def effectiveSize (direction use : String) (serverMax sessionMax : Nat) : Except NfsError Nat :=
  if sessionMax ≤ headroom then
    .error (.rpc
      s!"NFSv4.1 session max {direction} size {sessionMax} is too small for {use} overhead")
  else do
    let size ← negotiatedIoSize serverMax
    return min size (sessionMax - headroom)

def effectiveRsize (serverMaxread sessionMaxResponseSize : Nat) : Except NfsError Nat :=
  effectiveSize "response" "READ" serverMaxread sessionMaxResponseSize

def effectiveWsize (serverMaxwrite sessionMaxRequestSize : Nat) : Except NfsError Nat :=
  effectiveSize "request" "WRITE" serverMaxwrite sessionMaxRequestSize

/-- The sizes of `get_fs_limits`; an attribute that the server does not send is unlimited. -/
def getFsLimits (session : Session) (maxread maxwrite : Option Nat) :
    Except NfsError (Nat × Nat) := do
  let rsize ← effectiveRsize (maxread.getD (2 ^ 64 - 1)) session.maxResponseSize
  let wsize ← effectiveWsize (maxwrite.getD (2 ^ 64 - 1)) session.maxRequestSize
  return (rsize, wsize)

/-! ## Sessions of a mount -/

/-- What CREATE_SESSION granted: a session id and a fore channel that passed the checks. -/
structure Granted where
  id : List UInt8
  fore : ChannelAttrs
  id_length : id.length = 16
  valid : validateChannelAttrs "fore" fore foreAttrs = .ok ()

def Granted.session (g : Granted) (protocol : NFSVersion) (generation : Nat) : Session where
  id := g.id
  generation := generation
  protocol := protocol
  maxRequestSize := g.fore.maxRequestSize
  maxResponseSize := g.fore.maxResponseSize
  maxOperations := g.fore.maxOps
  maxCachedResponseSize := g.fore.maxCachedResponseSize
  maxRequests := g.fore.maxRequests

/-- The part of `Mount41` that the sizes are about. -/
structure Mount41 where
  rsize : Nat
  wsize : Nat
  session : Session

/-- `mount`: the sizes are those of the first session. -/
def mount (protocol : NFSVersion) (granted : Granted) (maxread maxwrite : Option Nat) :
    Except NfsError Mount41 := do
  let (rsize, wsize) ← getFsLimits (granted.session protocol 1) maxread maxwrite
  return { rsize := rsize, wsize := wsize, session := granted.session protocol 1 }

/-- A recovery: the session is replaced, and nothing else is. -/
def Mount41.recover (m : Mount41) (granted : Granted) : Mount41 :=
  { m with
    session := granted.session m.session.protocol (min (m.session.generation + 1) (2 ^ 64 - 1)) }

/-- The mount and any number of recoveries. -/
def mountMachine (mounted : Mount41) : Lib.Machine Mount41 Granted where
  init := mounted
  step := fun m granted => some (m.recover granted)

/-! ## Transfers -/

/-- Credential and verifier of `Auth::new_unix("nfs-rs", uid, gid)`, whose body has a stamp, the
name of the machine, two ids and an empty list. -/
def authLen : Nat := (8 + (4 + (4 + 6 + pad4 6) + 4 + 4 + 4)) + 8

/-- PUTFH and the header of a WRITE, whose data goes beside it. -/
def writeRequest (generation : Option Nat) (fh stateid : List UInt8) (offset stable len : Nat) :
    CompoundRequest :=
  { tag := "write"
    ops := [{ opcode := .putFh, args := xdrVarBytes fh },
      { opcode := .write, args := stateid ++ xdrU64 offset ++ xdrU32 stable ++ xdrU32 len }]
    requiredGeneration := generation
    progressIndex := none
    dataLen := len }

def readRequest (generation : Option Nat) (fh stateid : List UInt8) (offset count : Nat) :
    CompoundRequest :=
  { tag := "read"
    ops := [{ opcode := .putFh, args := xdrVarBytes fh },
      { opcode := .read, args := stateid ++ xdrU64 offset ++ xdrU32 count }]
    requiredGeneration := generation
    progressIndex := none
    dataLen := 0 }

/-- The tag `read` as a server sends it back. -/
def readTag : List UInt8 := [0x72, 0x65, 0x61, 0x64]

/-- The reply of a READ that succeeded; `sequence` is the result of SEQUENCE behind its status. -/
def readReply (sequence : List UInt8) (eof : Bool) (data : List UInt8) : List UInt8 :=
  xdrU32 0 ++ xdrVarBytes readTag ++ xdrU32 3 ++
    (xdrU32 OpNum.sequence.code ++ xdrU32 0 ++ sequence) ++
    (xdrU32 OpNum.putFh.code ++ xdrU32 0) ++
    (xdrU32 OpNum.read.code ++ xdrU32 0 ++ xdrU32 (if eof then 1 else 0) ++ xdrVarBytes data)

/-- The request passes `enforce_request_size` on every slot of the session. -/
def RequestAdmitted (m : Mount41) (request : CompoundRequest) : Prop :=
  ∀ (ctx : SlotContext) (highestSlotId : Nat) (b : CompoundBuilder), ctx.session = m.session →
    (request.builder ctx highestSlotId).applySequenceCachePolicy m.session.maxCachedResponseSize =
      .ok b →
    enforceRequestSize m.session (b.encodedLen authLen) request.dataLen = .ok ()

/-- The request is refused, whatever slot it is sent on. -/
def RequestRefused (m : Mount41) (request : CompoundRequest) : Prop :=
  ∀ (ctx : SlotContext) (highestSlotId : Nat) (b : CompoundBuilder), ctx.session = m.session →
    (request.builder ctx highestSlotId).applySequenceCachePolicy m.session.maxCachedResponseSize =
      .ok b →
    enforceRequestSize m.session (b.encodedLen authLen) request.dataLen ≠ .ok ()

def nfs4Fhsize : Nat := 128

/-! ## Exact sizes -/

/-- What `enforce_request_size` adds to the payload of a WRITE, without its padding. -/
def writeOverhead (fh : List UInt8) : Nat := 168 + fh.length + pad4 fh.length

/-- What `enforce_response_size` adds to the data of a READ, without its padding. -/
def readOverhead : Nat := 108

theorem length_xdrU32 (n : Nat) : (xdrU32 n).length = 4 := rfl

theorem length_xdrU64 (n : Nat) : (xdrU64 n).length = 8 := rfl

theorem length_xdrVarBytes (bytes : List UInt8) :
    (xdrVarBytes bytes).length = 4 + bytes.length + pad4 bytes.length := by
  simp only [xdrVarBytes, List.length_append, length_xdrU32, List.length_replicate]

theorem pad4_le (n : Nat) : pad4 n ≤ 3 := by
  unfold pad4
  omega

/-- The flag that the cache policy sets has a place already. -/
theorem encodedLen_applySequenceCachePolicy {b b' : CompoundBuilder} {n : Nat}
    (h : b.applySequenceCachePolicy n = .ok b') (authLen : Nat) :
    b'.encodedLen authLen = b.encodedLen authLen := by
  unfold CompoundBuilder.applySequenceCachePolicy at h
  dsimp only at h
  split at h
  · cases h
  split at h
  · cases h
  next seq rest hOps =>
  split at h
  · cases h
  next hSeq =>
  push Not at hSeq
  obtain rfl := Except.ok.inj h
  -- the policy overwrites the last word of the arguments of SEQUENCE
  have hArgs : ∀ flag : Nat,
      (seq.args.take 28 ++ xdrU32 flag ++ seq.args.drop 32).length = seq.args.length := by
    intro flag
    rw [List.length_append, List.length_append, List.length_take, List.length_drop, length_xdrU32]
    omega
  simp only [CompoundBuilder.encodedLen, hOps, List.map_cons, List.sum_cons, hArgs]

section sizes

variable {ctx : SlotContext} {generation : Option Nat} {fh stateid : List UInt8}
  {offset stable len count highestSlotId : Nat}

theorem encodedLen_write (hId : ctx.session.id.length = 16) (hStateid : stateid.length = 16) :
    ((writeRequest generation fh stateid offset stable len).builder ctx highestSlotId).encodedLen
      authLen + 8 = writeOverhead fh := by
  have hTag : "write".utf8ByteSize = 5 := rfl
  simp only [CompoundBuilder.encodedLen, CompoundRequest.builder, writeRequest,
    CompoundBuilder.sequence, CompoundBuilder.op, CompoundBuilder.new, List.nil_append,
    List.cons_append, List.map_cons, List.map_nil, List.sum_cons, List.sum_nil, List.length_append,
    length_xdrU32, length_xdrU64, length_xdrVarBytes, hId, hStateid, hTag, authLen, writeOverhead]
  simp only [pad4]
  omega

theorem encodedLen_read (hId : ctx.session.id.length = 16) (hStateid : stateid.length = 16) :
    ((readRequest generation fh stateid offset count).builder ctx highestSlotId).encodedLen
      authLen + 8 + 8 = writeOverhead fh := by
  have hTag : "read".utf8ByteSize = 4 := rfl
  simp only [CompoundBuilder.encodedLen, CompoundRequest.builder, readRequest,
    CompoundBuilder.sequence, CompoundBuilder.op, CompoundBuilder.new, List.nil_append,
    List.cons_append, List.map_cons, List.map_nil, List.sum_cons, List.sum_nil, List.length_append,
    length_xdrU32, length_xdrU64, length_xdrVarBytes, hId, hStateid, hTag, authLen, writeOverhead]
  simp only [pad4]
  omega

theorem length_readReply {sequence : List UInt8} (hSequence : sequence.length = 36) (eof : Bool)
    (data : List UInt8) :
    (readReply sequence eof data).length + 24 = readOverhead + data.length + pad4 data.length := by
  have hTag : readTag.length = 4 := rfl
  simp only [readReply, List.length_append, length_xdrU32, length_xdrVarBytes, hSequence, hTag,
    readOverhead]
  simp only [pad4]
  omega

end sizes

/-! ## The advertised sizes -/

theorem effectiveSize_le {direction use : String} {serverMax sessionMax size : Nat}
    (h : effectiveSize direction use serverMax sessionMax = .ok size) :
    size + headroom ≤ sessionMax := by
  unfold effectiveSize at h
  split at h
  · cases h
  · obtain ⟨negotiated, -, hSize⟩ := Lib.bind_eq_ok_iff.mp h
    obtain rfl : min negotiated (sessionMax - headroom) = size := Except.ok.inj hSize
    omega

/-- The limits of the session have room for what a WRITE of the advertised size adds with the
longest handle, and for what the reply of a READ adds. -/
structure Roomy (m : Mount41) : Prop where
  request : 168 + nfs4Fhsize + m.wsize + pad4 m.wsize ≤ m.session.maxRequestSize
  response : readOverhead + m.rsize + pad4 m.rsize ≤ m.session.maxResponseSize

/-- The headroom is room enough. -/
theorem roomy_of_headroom {m : Mount41} (hRequest : m.wsize + headroom ≤ m.session.maxRequestSize)
    (hResponse : m.rsize + headroom ≤ m.session.maxResponseSize) : Roomy m := by
  have hWrite := pad4_le m.wsize
  have hRead := pad4_le m.rsize
  simp only [headroom] at hRequest hResponse
  constructor
  · simp only [nfs4Fhsize]
    omega
  · simp only [readOverhead]
    omega

theorem roomy_mount {protocol : NFSVersion} {granted : Granted} {maxread maxwrite : Option Nat}
    {m : Mount41} (h : mount protocol granted maxread maxwrite = .ok m) : Roomy m := by
  obtain ⟨⟨rsize, wsize⟩, hLimits, hMount⟩ := Lib.bind_eq_ok_iff.mp h
  obtain ⟨rsize', hRead, hRest⟩ := Lib.bind_eq_ok_iff.mp hLimits
  obtain ⟨wsize', hWrite, hPair⟩ := Lib.bind_eq_ok_iff.mp hRest
  obtain ⟨rfl, rfl⟩ := Prod.mk.inj (Except.ok.inj hPair)
  obtain rfl := Except.ok.inj hMount
  exact roomy_of_headroom (effectiveSize_le hWrite) (effectiveSize_le hRead)

/-- What no recovery changes: the sizes, and that the session was granted by the server. -/
structure SizesInv (mounted m : Mount41) : Prop where
  rsize : m.rsize = mounted.rsize
  wsize : m.wsize = mounted.wsize
  id_length : m.session.id.length = 16

theorem sizesInv_reachable {mounted m : Mount41} (hId : mounted.session.id.length = 16)
    (h : (mountMachine mounted).Reachable m) : SizesInv mounted m := by
  refine h.invariant ⟨rfl, rfl, hId⟩ ?_
  -- a recovery writes the session only
  intro m m' granted _ _ hStep hInv
  obtain rfl : m.recover granted = m' := Option.some.inj hStep
  exact ⟨hInv.rsize, hInv.wsize, granted.id_length⟩

/-- A session with no smaller limits than the first one leaves the room. -/
theorem Roomy.of_le {mounted m : Mount41} (h : Roomy mounted) (hInv : SizesInv mounted m)
    (hRequest : mounted.session.maxRequestSize ≤ m.session.maxRequestSize)
    (hResponse : mounted.session.maxResponseSize ≤ m.session.maxResponseSize) : Roomy m where
  request := by
    rw [hInv.wsize]
    exact Nat.le_trans h.request hRequest
  response := by
    rw [hInv.rsize]
    exact Nat.le_trans h.response hResponse

theorem enforceEncodedSize_ok_iff {kind : String} {actual maximum : Nat} :
    enforceEncodedSize kind actual maximum = .ok () ↔ actual ≤ maximum := by
  unfold enforceEncodedSize
  split
  next hLarge => exact ⟨nofun, fun hFits => absurd hLarge (Nat.not_lt.mpr hFits)⟩
  next hSmall => exact ⟨fun _ => Nat.not_lt.mp hSmall, fun _ => rfl⟩

/-- Padded lengths keep the order. -/
theorem padded_le {a b : Nat} (h : a ≤ b) : a + pad4 a ≤ b + pad4 b := by
  unfold pad4
  omega

section admitted

variable {m : Mount41} {fh stateid : List UInt8}

theorem writeOverhead_le (hFh : fh.length ≤ nfs4Fhsize) :
    writeOverhead fh ≤ 168 + nfs4Fhsize := by
  have hPadded := padded_le hFh
  rw [show pad4 nfs4Fhsize = 0 from rfl] at hPadded
  simp only [writeOverhead]
  omega

/-- The size that is checked for a WRITE. -/
theorem enforceRequestSize_write (hId : m.session.id.length = 16) (hStateid : stateid.length = 16)
    {generation : Option Nat} {offset stable len highestSlotId : Nat} {ctx : SlotContext}
    {b : CompoundBuilder} (hSession : ctx.session = m.session)
    (hPolicy : ((writeRequest generation fh stateid offset stable len).builder ctx
      highestSlotId).applySequenceCachePolicy m.session.maxCachedResponseSize = .ok b) :
    enforceRequestSize m.session (b.encodedLen authLen) len = .ok () ↔
      writeOverhead fh + len + pad4 len ≤ m.session.maxRequestSize := by
  have hSize : ((writeRequest generation fh stateid offset stable len).builder ctx
      highestSlotId).encodedLen authLen + 8 = writeOverhead fh :=
    encodedLen_write (hSession ▸ hId) hStateid
  rw [enforceRequestSize, encodedLen_applySequenceCachePolicy hPolicy, hSize,
    enforceEncodedSize_ok_iff]

theorem enforceResponseSize_read {sequence : List UInt8} (hSequence : sequence.length = 36)
    (eof : Bool) (data : List UInt8) :
    enforceResponseSize m.session (readReply sequence eof data).length = .ok () ↔
      readOverhead + data.length + pad4 data.length ≤ m.session.maxResponseSize := by
  rw [enforceResponseSize, enforceEncodedSize_ok_iff, length_readReply hSequence]

theorem Roomy.write_admitted (hRoomy : Roomy m) (hId : m.session.id.length = 16)
    (hFh : fh.length ≤ nfs4Fhsize) (hStateid : stateid.length = 16) {len : Nat}
    (hLen : len ≤ m.wsize) (generation : Option Nat) (offset stable : Nat) :
    RequestAdmitted m (writeRequest generation fh stateid offset stable len) := by
  intro ctx highestSlotId b hSession hPolicy
  refine (enforceRequestSize_write hId hStateid hSession hPolicy).mpr ?_
  have hOver := writeOverhead_le hFh
  have hPadded := padded_le hLen
  have hRoom := hRoomy.request
  omega

theorem Roomy.read_admitted (hRoomy : Roomy m) (hId : m.session.id.length = 16)
    (hFh : fh.length ≤ nfs4Fhsize) (hStateid : stateid.length = 16) (generation : Option Nat)
    (offset count : Nat) : RequestAdmitted m (readRequest generation fh stateid offset count) := by
  intro ctx highestSlotId b hSession hPolicy
  have hSize : ((readRequest generation fh stateid offset count).builder ctx
      highestSlotId).encodedLen authLen + 8 + 8 = writeOverhead fh :=
    encodedLen_read (hSession ▸ hId) hStateid
  rw [enforceRequestSize, encodedLen_applySequenceCachePolicy hPolicy, enforceEncodedSize_ok_iff]
  have hOver := writeOverhead_le hFh
  have hRoom := hRoomy.request
  show _ + 8 + 0 + pad4 0 ≤ _
  rw [show pad4 0 = 0 from rfl]
  omega

theorem Roomy.reply_admitted (hRoomy : Roomy m) {sequence data : List UInt8}
    (hSequence : sequence.length = 36) (hData : data.length ≤ m.rsize) (eof : Bool) :
    enforceResponseSize m.session (readReply sequence eof data).length = .ok () := by
  refine (enforceResponseSize_read hSequence eof data).mpr ?_
  have hPadded := padded_le hData
  have hRoom := hRoomy.response
  omega

/-- Without the room the largest WRITE with the longest handle is refused, or the reply of the
largest READ is. -/
theorem refused_of_not_roomy (hNot : ¬ Roomy m) (hId : m.session.id.length = 16) :
    (∀ (fh stateid : List UInt8) (generation : Option Nat) (offset stable : Nat),
      fh.length = nfs4Fhsize → stateid.length = 16 →
        RequestRefused m (writeRequest generation fh stateid offset stable m.wsize)) ∨
    ∀ (sequence data : List UInt8) (eof : Bool), sequence.length = 36 → data.length = m.rsize →
      enforceResponseSize m.session (readReply sequence eof data).length ≠ .ok () := by
  by_cases hRequest : 168 + nfs4Fhsize + m.wsize + pad4 m.wsize ≤ m.session.maxRequestSize
  · refine .inr fun sequence data eof hSequence hData hOk => hNot ⟨hRequest, ?_⟩
    rw [← hData]
    exact (enforceResponseSize_read hSequence eof data).mp hOk
  · refine .inl fun fh stateid generation offset stable hFh hStateid => ?_
    intro ctx highestSlotId b hSession hPolicy hOk
    have hFits := (enforceRequestSize_write hId hStateid hSession hPolicy).mp hOk
    have hOver : writeOverhead fh = 168 + nfs4Fhsize := by
      rw [writeOverhead, hFh]
      rfl
    exact hRequest (hOver ▸ hFits)

end admitted

/-- **Transfer sizes.** After a mount and any number of recoveries, if the limits of the session
in use have room for what the COMPOUNDs add, a WRITE of at most the maximum write size and a READ
of at most the maximum read size pass the limits of the session, and so does the reply of the
READ; if they have not, a WRITE or a reply of the advertised size is refused. The first session
has the room, and so has every session whose limits are not smaller than those of the first. -/
theorem transfers_admitted {protocol : NFSVersion} {granted : Granted}
    {maxread maxwrite : Option Nat} {mounted m : Mount41}
    (hMount : mount protocol granted maxread maxwrite = .ok mounted)
    (hReach : (mountMachine mounted).Reachable m) :
    (mounted.session.maxRequestSize ≤ m.session.maxRequestSize →
      mounted.session.maxResponseSize ≤ m.session.maxResponseSize → Roomy m) ∧
    (Roomy m → ∀ (fh stateid : List UInt8) (generation : Option Nat) (offset : Nat),
      fh.length ≤ nfs4Fhsize → stateid.length = 16 →
      (∀ stable len, len ≤ m.wsize →
        RequestAdmitted m (writeRequest generation fh stateid offset stable len)) ∧
      ∀ count, count ≤ m.rsize →
        RequestAdmitted m (readRequest generation fh stateid offset count) ∧
        ∀ (sequence data : List UInt8) (eof : Bool), sequence.length = 36 → data.length ≤ count →
          enforceResponseSize m.session (readReply sequence eof data).length = .ok ()) ∧
    (¬ Roomy m →
      (∀ (fh stateid : List UInt8) (generation : Option Nat) (offset stable : Nat),
        fh.length = nfs4Fhsize → stateid.length = 16 →
          RequestRefused m (writeRequest generation fh stateid offset stable m.wsize)) ∨
      ∀ (sequence data : List UInt8) (eof : Bool), sequence.length = 36 → data.length = m.rsize →
        enforceResponseSize m.session (readReply sequence eof data).length ≠ .ok ()) := by
  have hFirst : mounted.session.id.length = 16 := by
    obtain ⟨_, -, hMounted⟩ := Lib.bind_eq_ok_iff.mp hMount
    obtain rfl := Except.ok.inj hMounted
    exact granted.id_length
  have hInv := sizesInv_reachable hFirst hReach
  refine ⟨(roomy_mount hMount).of_le hInv, ?_,
    fun hNot => refused_of_not_roomy hNot hInv.id_length⟩
  intro hRoomy fh stateid generation offset hFh hStateid
  refine ⟨fun stable len hLen => ?_, fun count hCount => ⟨?_, ?_⟩⟩
  · exact hRoomy.write_admitted hInv.id_length hFh hStateid hLen generation offset stable
  · exact hRoomy.read_admitted hInv.id_length hFh hStateid generation offset count
  · intro sequence data eof hSequence hData
    exact hRoomy.reply_admitted hSequence (Nat.le_trans hData hCount) eof

/-- A channel with the given limit on requests and replies. -/
def channel (limit : Nat) : ChannelAttrs where
  headerPadSize := 0
  maxRequestSize := limit
  maxResponseSize := limit
  maxCachedResponseSize := 4096
  maxOps := 16
  maxRequests := 64

/-- All that the client asks for. -/
def wideGrant : Granted := ⟨List.replicate 16 0, channel 1048576, by decide, rfl⟩

/-- A server that grants 64 KiB. -/
def narrowGrant : Granted := ⟨List.replicate 16 1, channel 65536, by decide, rfl⟩

/-- The mount on the wide channel, of a server that reads and writes 4 MiB at a time. -/
def wideMount : Mount41 where
  rsize := 1044480
  wsize := 1044480
  session := wideGrant.session .nfsV4p1 1

theorem mount_wide : mount .nfsV4p1 wideGrant (some 4194304) (some 4194304) = .ok wideMount := by
  simp [mount, getFsLimits, effectiveRsize, effectiveWsize, effectiveSize, negotiatedIoSize,
    headroom, maxIoSize, wideMount, Granted.session, wideGrant, channel, bind, Except.bind, pure,
    Except.pure]

/-- A server that grants just what the sizes of the wide mount need. -/
def tightGrant : Granted := ⟨List.replicate 16 2, channel 1044776, by decide, rfl⟩

/-- Behind a recovery with a smaller channel that has the room, the largest WRITE with the longest
handle passes. -/
theorem transfers_admitted_wideMount :
    mount .nfsV4p1 wideGrant (some 4194304) (some 4194304) = .ok wideMount ∧
      (wideMount.recover tightGrant).session.maxRequestSize <
        wideMount.session.maxRequestSize ∧
      RequestAdmitted (wideMount.recover tightGrant)
        (writeRequest none (List.replicate 128 1) (List.replicate 16 0) 0 0 1044480) := by
  have hReach : (mountMachine wideMount).Reachable (wideMount.recover tightGrant) :=
    .step .init trivial rfl
  obtain ⟨-, hAll, -⟩ := transfers_admitted mount_wide hReach
  have hRoomy : Roomy (wideMount.recover tightGrant) := ⟨by decide, by decide⟩
  exact ⟨mount_wide, by decide, (hAll hRoomy (List.replicate 128 1) (List.replicate 16 0) none 0
    (by simp [nfs4Fhsize]) (by decide)).1 0 1044480 (Nat.le_refl _)⟩

/-- The first COMPOUND on the session of the recovered mount. -/
def narrowSlot : SlotContext where
  session := (wideMount.recover narrowGrant).session
  slotId := 0
  sequenceId := 1

/-- Behind a recovery on which the server grants less, the mount still advertises the old sizes,
and a WRITE or a READ of them is refused. -/
theorem write_refused_after_recovery :
    mount .nfsV4p1 wideGrant (some 4194304) (some 4194304) = .ok wideMount ∧
      (mountMachine wideMount).Reachable (wideMount.recover narrowGrant) ∧
      (wideMount.recover narrowGrant).wsize = 1044480 ∧
      ¬ RequestAdmitted (wideMount.recover narrowGrant)
        (writeRequest none [1] (List.replicate 16 0) 0 0 1044480) ∧
      ∀ sequence data : List UInt8, sequence.length = 36 → data.length = 1044480 →
        enforceResponseSize (wideMount.recover narrowGrant).session
          (readReply sequence true data).length ≠ .ok () := by
  refine ⟨mount_wide, .step .init trivial rfl, rfl, ?_, ?_⟩
  · intro hAdmitted
    have hSize := hAdmitted narrowSlot 0 _ rfl rfl
    cases hSize
  · intro sequence data hSequence hData hOk
    have hFits := (enforceResponseSize_read hSequence true data).mp hOk
    have hLimit : (wideMount.recover narrowGrant).session.maxResponseSize = 65536 := rfl
    simp only [readOverhead] at hFits
    omega

end NfsRs.Nfs41.TransferSizes
