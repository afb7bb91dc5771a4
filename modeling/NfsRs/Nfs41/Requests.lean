import Mathlib.Data.List.Basic
import NfsRs.Lib.Codec
import NfsRs.Nfs41.Compound
import NfsRs.Nfs41.XdrFields
import NfsRs.Rpc.Records

/-!
# NfsRs — the bytes of an NFSv4.1 request

The methods of `CompoundBuilder` append an operation with its arguments already in XDR, and
`encode_with_header` puts the RPC header, the tag, the minor version and the number of operations
in front. Nothing in the client reads a request again, so what the bytes mean is said from the
side of the server: `arguments` describes the arguments of each operation by a codec, and
`callWire` the whole message.

Of the unions of the protocol the description has the arms that the client can write. An operation
that the server takes for another one, or whose arguments end early or late, would shift
everything behind it, so a request is only understood if each single operation is.

The bytes to be written by WRITE do not go through the builder: `write_header` ends with their
length, and `call_with_data` sends them behind the message. So a request is a list of calls of the
builder, and possibly the data of a WRITE at its end.

A record has one fragment, whose length is a number of 31 bits. What is said of the bytes of a
request is said of requests that fit.

## Main results

- `Request.apply_eq` : each method appends a code of what was asked for.
- `request_read_back` : the server reads the operations of a request in their order, with the
  arguments the methods were called with.
- `write_out_of_band` : data sent behind the message gives the frame that the builder would have
  given.
- `cache_policy_read_back` : the rewritten SEQUENCE differs in `sa_cachethis` only.
-/

namespace NfsRs.Nfs41

open Lib

/-! ## What is written -/

/-- An array of `n` bytes. -/
abbrev Octets (n : Nat) : Type := {bytes : List UInt8 // bytes.length = n}

abbrev StateId4 : Type := Octets 16

inductive MinorVersion where
  | v1 | v2
  deriving DecidableEq, Repr

def MinorVersion.code : MinorVersion → UInt32
  | v1 => 1
  | v2 => 2

def xdrBool (v : Bool) : List UInt8 := beU32 (if v then 1 else 0)

def xdrString (s : String) : List UInt8 := xdrBody s.toByteArray.toList

def xdrBitmap (bitmap : List UInt32) : List UInt8 :=
  beU32 bitmap.length ++ bitmap.flatMap fun word => beU32 word.toNat

/-- `ChannelAttrsArgs`, with the width of its fields. -/
structure ChannelAttrsWords where
  headerpadsize : UInt32
  maxrequestsize : UInt32
  maxresponsesize : UInt32
  maxresponsesizeCached : UInt32
  maxoperations : UInt32
  maxrequests : UInt32

def ChannelAttrsWords.encode (a : ChannelAttrsWords) : List UInt8 :=
  beU32 a.headerpadsize.toNat ++ (beU32 a.maxrequestsize.toNat ++
    (beU32 a.maxresponsesize.toNat ++ (beU32 a.maxresponsesizeCached.toNat ++
      (beU32 a.maxoperations.toNat ++ (beU32 a.maxrequests.toNat ++ beU32 0)))))

/-- `OpenArgs`, with the width of its fields. -/
structure OpenWords where
  seqid : UInt32
  shareAccess : UInt32
  shareDeny : UInt32
  clientId : UInt64
  owner : List UInt8
  create : Bool
  createAttrsMask : List UInt32
  createAttrsVals : List UInt8
  claimFile : String
  wantNoDelegation : Bool

namespace OpenWords

/-- The share access with the delegation that is wanted. -/
def wantedAccess (a : OpenWords) : UInt32 :=
  if a.wantNoDelegation then a.shareAccess ||| 0x0400 else a.shareAccess ||| 0x0200

def encodeCreate (a : OpenWords) (guarded : Bool) : List UInt8 :=
  beU32 a.seqid.toNat ++ (beU32 a.wantedAccess.toNat ++ (beU32 a.shareDeny.toNat ++
    (beU64 a.clientId.toNat ++ (xdrBody a.owner ++
      ((if a.create then
          beU32 1 ++ (beU32 (if guarded then 1 else 0) ++
            (xdrBitmap a.createAttrsMask ++ xdrBody a.createAttrsVals))
        else beU32 0) ++
        (beU32 0 ++ xdrString a.claimFile))))))

end OpenWords

inductive SeekContent where
  | data | hole
  deriving DecidableEq, Repr

def SeekContent.code : SeekContent → UInt32
  | data => 0
  | hole => 1

inductive XattrSetMode where
  | either | create | replace
  deriving DecidableEq, Repr

def XattrSetMode.code : XattrSetMode → UInt32
  | either => 0
  | create => 1
  | replace => 2

namespace CompoundBuilder

variable (b : CompoundBuilder)

def exchangeId (coVerifier : Octets 8) (coOwnerid : List UInt8) (flags : UInt32)
    (implDomain implName : String) : CompoundBuilder :=
  b.op .exchangeId (coVerifier ++ (xdrBody coOwnerid ++ (beU32 flags.toNat ++ (beU32 0 ++
    (beU32 1 ++ (xdrString implDomain ++ (xdrString implName ++ (beU64 0 ++ beU32 0))))))))

def createSession (clientId : UInt64) (sequenceId flags : UInt32)
    (foreAttrs backAttrs : ChannelAttrsWords) (cbProgram : UInt32) : CompoundBuilder :=
  b.op .createSession (beU64 clientId.toNat ++ (beU32 sequenceId.toNat ++ (beU32 flags.toNat ++
    (foreAttrs.encode ++ (backAttrs.encode ++ (beU32 cbProgram.toNat ++
      (beU32 1 ++ beU32 0)))))))

def destroySession (sessionId : Octets 16) : CompoundBuilder := b.op .destroySession sessionId

def bindConnToSession (sessionId : Octets 16) (dir : UInt32) (useConnInRdmaMode : Bool) :
    CompoundBuilder :=
  b.op .bindConnToSession (sessionId ++ (beU32 dir.toNat ++ xdrBool useConnInRdmaMode))

def reclaimComplete (oneFs : Bool) : CompoundBuilder := b.op .reclaimComplete (xdrBool oneFs)

def destroyClientId (clientId : UInt64) : CompoundBuilder :=
  b.op .destroyClientId (beU64 clientId.toNat)

def putrootfh : CompoundBuilder := b.op .putRootFh []

def putfh (fh : List UInt8) : CompoundBuilder := b.op .putFh (xdrBody fh)

def getfh : CompoundBuilder := b.op .getFh []

def savefh : CompoundBuilder := b.op .saveFh []

def restorefh : CompoundBuilder := b.op .restoreFh []

def openattr (createDir : Bool) : CompoundBuilder := b.op .openAttr (xdrBool createDir)

def lookup (name : String) : CompoundBuilder := b.op .lookup (xdrString name)

def lookupp : CompoundBuilder := b.op .lookupp []

def getattr (bitmap : List UInt32) : CompoundBuilder := b.op .getAttr (xdrBitmap bitmap)

def setattr (stateid : StateId4) (attrmask : List UInt32) (attrVals : List UInt8) :
    CompoundBuilder :=
  b.op .setAttr (stateid ++ (xdrBitmap attrmask ++ xdrBody attrVals))

def access (accessMask : UInt32) : CompoundBuilder := b.op .access (beU32 accessMask.toNat)

def read (stateid : StateId4) (offset : UInt64) (count : UInt32) : CompoundBuilder :=
  b.op .read (stateid ++ (beU64 offset.toNat ++ beU32 count.toNat))

def write (stateid : StateId4) (offset : UInt64) (stable : UInt32) (data : List UInt8) :
    CompoundBuilder :=
  b.op .write (stateid ++ (beU64 offset.toNat ++ (beU32 stable.toNat ++ xdrBody data)))

/-- The arguments of WRITE up to the length of the data. -/
def writeHeader (stateid : StateId4) (offset : UInt64) (stable dataLen : UInt32) :
    CompoundBuilder :=
  b.op .write (stateid ++ (beU64 offset.toNat ++ (beU32 stable.toNat ++ beU32 dataLen.toNat)))

def commit (offset : UInt64) (count : UInt32) : CompoundBuilder :=
  b.op .commit (beU64 offset.toNat ++ beU32 count.toNat)

def readdir (cookie : UInt64) (cookieverf : Octets 8) (dircount maxcount : UInt32)
    (attrRequest : List UInt32) : CompoundBuilder :=
  b.op .readDir (beU64 cookie.toNat ++ (cookieverf ++ (beU32 dircount.toNat ++
    (beU32 maxcount.toNat ++ xdrBitmap attrRequest))))

def readlink : CompoundBuilder := b.op .readLink []

def openFile (openArgs : OpenWords) : CompoundBuilder :=
  b.op .openFile (openArgs.encodeCreate false)

def openGuarded (openArgs : OpenWords) : CompoundBuilder :=
  b.op .openFile (openArgs.encodeCreate true)

def close (seqid : UInt32) (stateid : StateId4) : CompoundBuilder :=
  b.op .close (beU32 seqid.toNat ++ stateid)

/-- CREATE of an object whose type has no data of its own. -/
def create (objtype : UInt32) (name : String) (attrmask : List UInt32) (attrVals : List UInt8) :
    CompoundBuilder :=
  b.op .create (beU32 objtype.toNat ++ (xdrString name ++
    (xdrBitmap attrmask ++ xdrBody attrVals)))

/-- For NF4LNK the text of the link stands in front of the name. -/
def createSymlink (name linkTarget : String) (attrmask : List UInt32) (attrVals : List UInt8) :
    CompoundBuilder :=
  b.op .create (beU32 5 ++ (xdrString linkTarget ++ (xdrString name ++
    (xdrBitmap attrmask ++ xdrBody attrVals))))

def remove (name : String) : CompoundBuilder := b.op .remove (xdrString name)

def rename (oldname newname : String) : CompoundBuilder :=
  b.op .rename (xdrString oldname ++ xdrString newname)

def link (newname : String) : CompoundBuilder := b.op .link (xdrString newname)

def layoutget (signalLayoutAvail : Bool) (layoutType iomode : UInt32)
    (offset length minLength : UInt64) (stateid : StateId4) (maxCount : UInt32) :
    CompoundBuilder :=
  b.op .layoutGet (xdrBool signalLayoutAvail ++ (beU32 layoutType.toNat ++ (beU32 iomode.toNat ++
    (beU64 offset.toNat ++ (beU64 length.toNat ++ (beU64 minLength.toNat ++
      (stateid ++ beU32 maxCount.toNat)))))))

def layoutcommit (offset length : UInt64) (reclaim : Bool) (stateid : StateId4)
    (lastWriteOffset : Option UInt64) (layoutType : UInt32) : CompoundBuilder :=
  b.op .layoutCommit (beU64 offset.toNat ++ (beU64 length.toNat ++ (xdrBool reclaim ++
    (stateid ++ ((match lastWriteOffset with
      | some off => xdrBool true ++ beU64 off.toNat
      | none => xdrBool false) ++ (beU32 0 ++ (beU32 layoutType.toNat ++ beU32 0)))))))

/-- Only LAYOUTRETURN4_FILE has a body. -/
def layoutreturn (reclaim : Bool) (layoutType iomode returnType : UInt32)
    (offset length : UInt64) (stateid : StateId4) : CompoundBuilder :=
  b.op .layoutReturn (xdrBool reclaim ++ (beU32 layoutType.toNat ++ (beU32 iomode.toNat ++
    (beU32 returnType.toNat ++ (if returnType = 1 then
      beU64 offset.toNat ++ (beU64 length.toNat ++ (stateid ++ beU32 0)) else [])))))

/-- The notifications CHANGE and DELETE are asked for. -/
def getdeviceinfo (deviceId : Octets 16) (layoutType maxCount : UInt32) : CompoundBuilder :=
  b.op .getDeviceInfo (deviceId ++ (beU32 layoutType.toNat ++ (beU32 maxCount.toNat ++
    (beU32 1 ++ beU32 6))))

def lock (lockType : UInt32) (reclaim : Bool) (offset length : UInt64) (newLockOwner : Bool)
    (openStateid : StateId4) (lockSeqid openSeqid : UInt32) (lockOwner : List UInt8)
    (clientId : UInt64) : CompoundBuilder :=
  b.op .lock (beU32 lockType.toNat ++ (xdrBool reclaim ++ (beU64 offset.toNat ++
    (beU64 length.toNat ++ (if newLockOwner then
      xdrBool true ++ (beU32 openSeqid.toNat ++ (openStateid ++ (beU32 lockSeqid.toNat ++
        (beU64 clientId.toNat ++ xdrBody lockOwner))))
    else xdrBool false ++ (openStateid ++ beU32 lockSeqid.toNat))))))

def lockt (lockType : UInt32) (offset length : UInt64) (lockOwner : List UInt8)
    (clientId : UInt64) : CompoundBuilder :=
  b.op .lockt (beU32 lockType.toNat ++ (beU64 offset.toNat ++ (beU64 length.toNat ++
    (beU64 clientId.toNat ++ xdrBody lockOwner))))

def locku (lockType seqid : UInt32) (lockStateid : StateId4) (offset length : UInt64) :
    CompoundBuilder :=
  b.op .locku (beU32 lockType.toNat ++ (beU32 seqid.toNat ++ (lockStateid ++
    (beU64 offset.toNat ++ beU64 length.toNat))))

def testStateid (stateids : List StateId4) : CompoundBuilder :=
  b.op .testStateId (beU32 stateids.length ++ stateids.flatMap fun sid => sid.val)

def delegreturn (stateid : StateId4) : CompoundBuilder := b.op .delegReturn stateid

def freeStateid (stateid : StateId4) : CompoundBuilder := b.op .freeStateId stateid

def space (allocate : Bool) (stateid : StateId4) (offset length : UInt64) : CompoundBuilder :=
  b.op (if allocate then .allocate else .deallocate)
    (stateid ++ (beU64 offset.toNat ++ beU64 length.toNat))

def seek (stateid : StateId4) (offset : UInt64) (what : SeekContent) : CompoundBuilder :=
  b.op .seek (stateid ++ (beU64 offset.toNat ++ beU32 what.code.toNat))

def readPlus (stateid : StateId4) (offset : UInt64) (count : UInt32) : CompoundBuilder :=
  b.op .readPlus (stateid ++ (beU64 offset.toNat ++ beU32 count.toNat))

/-- COPY is asked to be consecutive and synchronous, within one server. -/
def copyRange (clone : Bool) (source destination : StateId4)
    (sourceOffset destinationOffset count : UInt64) : CompoundBuilder :=
  b.op (if clone then .clone else .copy) (source ++ (destination ++ (beU64 sourceOffset.toNat ++
    (beU64 destinationOffset.toNat ++ (beU64 count.toNat ++
      (if clone then [] else xdrBool true ++ (xdrBool true ++ beU32 0)))))))

def offloadCancel (stateid : StateId4) : CompoundBuilder := b.op .offloadCancel stateid

def getxattr (name : String) : CompoundBuilder := b.op .getXattr (xdrString name)

def setxattr (name : String) (value : List UInt8) (mode : XattrSetMode) : CompoundBuilder :=
  b.op .setXattr (beU32 mode.code.toNat ++ (xdrString name ++ xdrBody value))

def listxattrs (cookie : UInt64) (maxcount : UInt32) : CompoundBuilder :=
  b.op .listXattrs (beU64 cookie.toNat ++ beU32 maxcount.toNat)

def removexattr (name : String) : CompoundBuilder := b.op .removeXattr (xdrString name)

def encodeBodyForVersion (minorVersion : MinorVersion) : List UInt8 :=
  xdrString b.tag ++ (beU32 minorVersion.code.toNat ++ (beU32 b.ops.length ++
    b.ops.flatMap fun op => beU32 op.opcode.code ++ op.args))

end CompoundBuilder

structure Auth where
  flavor : UInt32
  body : List UInt8

namespace Auth

def newNull : Auth := ⟨0, []⟩

def encode (auth : Auth) : List UInt8 := beU32 auth.flavor.toNat ++ xdrBody auth.body

/-- `AuthUnix::encode`; the supplementary groups are empty. -/
def unixBody (stamp : UInt32) (machinename : String) (uid gid : UInt32) : List UInt8 :=
  beU32 stamp.toNat ++ (xdrString machinename ++ (beU32 uid.toNat ++ (beU32 gid.toNat ++ beU32 0)))

def newUnix (stamp : UInt32) (machinename : String) (uid gid : UInt32) : Auth :=
  ⟨1, unixBody stamp machinename uid gid⟩

end Auth

/-- `rpc_header(..).encode`. -/
def rpcHeader (prog vers proc : UInt32) (cred : Auth) : List UInt8 :=
  beU32 2 ++ (beU32 prog.toNat ++ (beU32 vers.toNat ++ (beU32 proc.toNat ++
    (cred.encode ++ Auth.newNull.encode))))

def CompoundBuilder.encodeWithHeader (b : CompoundBuilder) (auth : Auth)
    (minorVersion : MinorVersion) : List UInt8 :=
  rpcHeader 100003 4 1 auth ++ b.encodeBodyForVersion minorVersion

/-! ## What is read -/

/-- Descriptions of XDR data; lengths and counts are words. -/
abbrev Wire : Type → Type := Codec NfsError UInt8 (2 ^ 32)

namespace Wire

def short : String := "request truncated"

def u32 : Wire UInt32 where
  encode w := beU32 w.toNat
  read := do
    let n ← takeWord short
    return UInt32.ofNat n
  decodes w _ := by
    have h := (decodes_u32 w.toNat_lt short).map (f := UInt32.ofNat)
    rwa [UInt32.ofNat_toNat] at h

def u64 : Wire UInt64 where
  encode w := beU64 w.toNat
  read := do
    let n ← takeDouble short
    return UInt64.ofNat n
  decodes w _ := by
    have h := (decodes_u64 w.toNat_lt short).map (f := UInt64.ofNat)
    rwa [UInt64.ofNat_toNat] at h

/-- No word but 0 and 1 is a flag. -/
def flag : Wire Bool where
  encode := xdrBool
  read := do
    let n ← takeWord short
    if n = 0 then return false
    else if n = 1 then return true
    else throw (.xdr "not a boolean")
  decodes v _ := by
    cases v with
    | false => exact (decodes_u32 (by decide) short).last (.pure false)
    | true => exact (decodes_u32 (by decide) short).last (.pure true)

def octets (n : Nat) : Wire (Octets n) where
  encode bytes := bytes
  read := do
    let bytes ← takeFixed n short
    if h : bytes.length = n then return ⟨bytes, h⟩ else throw (.xdr short)
  decodes bytes _ := by
    have hRead := decodes_fixed bytes.val short
    rw [bytes.property] at hRead
    refine hRead.last ?_
    rw [dif_pos bytes.property]
    exact .pure _

theorem decodes_opaque (bytes : List UInt8) (h : (xdrBody bytes).length < 2 ^ 32) :
    Decodes (takeWord short >>= fun len => takePadded len short) (xdrBody bytes) bytes := by
  have hLength : bytes.length < 2 ^ 32 := by
    rw [xdrBody, List.length_append, List.length_append] at h
    omega
  exact (decodes_u32 hLength short).bind (decodes_padded bytes short)

def opaqueData : Wire (List UInt8) where
  encode := xdrBody
  read := do
    let len ← takeWord short
    takePadded len short
  decodes := decodes_opaque

theorem beU32_ne_nil (n : Nat) : beU32 n ≠ [] := List.cons_ne_nil _ _

def list {α : Type} (item : Wire α) (hItem : ∀ x, item.encode x ≠ []) : Wire (List α) :=
  .array beU32 (takeWord short) (fun _ hn => decodes_u32 hn short) item hItem

def bitmap : Wire (List UInt32) := list u32 fun w => beU32_ne_nil w.toNat

def fattr : Wire (List UInt32 × List UInt8) := bitmap.pair opaqueData

def tag {α : Type} (n : UInt32) (arm : Wire α) : Wire α :=
  .tagged u32 n (.xdr "unknown discriminant") arm

theorem tag_ne_nil {α : Type} (n : UInt32) (arm : Wire α) (x : α) : (tag n arm).encode x ≠ [] :=
  List.cons_ne_nil _ _

def opnum : Wire OpNum where
  encode op := beU32 op.code
  read := do
    let n ← takeWord short
    match OpNum.ofCode? n with
    | some op => return op
    | none => throw (.xdr "unknown operation")
  decodes op _ := by
    have hCode : op.code < 2 ^ 32 := by cases op <;> decide
    refine (decodes_u32 hCode short).last ?_
    rw [OpNum.ofCode?_code]
    exact .pure op

end Wire

/-- `createtype4`: links and devices have data of their own. -/
inductive CreateType4 where
  | link (text : List UInt8)
  | device (block : Bool) (major minor : UInt32)
  | plain (type : {d : UInt32 // d ≠ 3 ∧ d ≠ 4 ∧ d ≠ 5})

open Wire in
/-- What stands behind the type of an object to be created. -/
def CreateType4.readData (d : UInt32) : Reader NfsError UInt8 CreateType4 :=
  if hLink : d = 5 then do
    let text ← opaqueData.read
    return .link text
  else if hBlock : d = 3 then do
    let spec ← (u32.pair u32).read
    return .device true spec.1 spec.2
  else if hChar : d = 4 then do
    let spec ← (u32.pair u32).read
    return .device false spec.1 spec.2
  else return .plain ⟨d, hBlock, hChar, hLink⟩

open Wire in
def CreateType4.wire : Wire CreateType4 where
  encode
    | .link text => beU32 5 ++ xdrBody text
    | .device block major minor =>
      beU32 (if block then 3 else 4) ++ (beU32 major.toNat ++ beU32 minor.toNat)
    | .plain type => beU32 type.val.toNat
  read := do
    let d ← u32.read
    readData d
  decodes
    | .link text, h => by
      rw [List.length_append] at h
      have hText := opaqueData.decodes text (Nat.lt_of_le_of_lt (Nat.le_add_left _ _) h)
      exact (u32.decodes 5 (by decide)).bind hText.map
    | .device block major minor, h => by
      have hSpec := (u32.pair u32).decodes (major, minor) (by decide : 8 < 2 ^ 32)
      cases block with
      | false => exact (u32.decodes 4 (by decide)).bind hSpec.map
      | true => exact (u32.decodes 3 (by decide)).bind hSpec.map
    | .plain type, h => by
      refine (u32.decodes type.val h).last ?_
      rw [readData, dif_neg type.property.2.2, dif_neg type.property.1,
        dif_neg type.property.2.1]
      exact .pure _

/-! ## The arguments of the operations -/

/-- Channel attributes, with `ca_rdma_ird<1>` at the end. -/
abbrev ChannelAttrs4 : Type :=
  UInt32 × UInt32 × UInt32 × UInt32 × UInt32 × UInt32 × List UInt32

/-- Arguments of an operation as the protocol names them, in their order. -/
abbrev Arguments : OpNum → Type
  | .putRootFh | .getFh | .saveFh | .restoreFh | .lookupp | .readLink => Unit
  | .sequence => Octets 16 × UInt32 × UInt32 × UInt32 × Bool
  -- SP4_NONE is the only state protection; the last field is `nfs_impl_id4<1>`
  | .exchangeId => Octets 8 × List UInt8 × UInt32 × Unit ×
      List (List UInt8 × List UInt8 × UInt64 × UInt32)
  -- AUTH_NONE is the only flavor of `callback_sec_parms4`
  | .createSession => UInt64 × UInt32 × UInt32 × ChannelAttrs4 × ChannelAttrs4 × UInt32 × List Unit
  | .destroySession | .delegReturn | .freeStateId | .offloadCancel => Octets 16
  | .bindConnToSession => Octets 16 × UInt32 × Bool
  | .reclaimComplete | .openAttr => Bool
  | .destroyClientId => UInt64
  | .putFh | .lookup | .remove | .link | .getXattr | .removeXattr => List UInt8
  | .getAttr => List UInt32
  | .setAttr => Octets 16 × List UInt32 × List UInt8
  | .access => UInt32
  | .read | .seek | .readPlus => Octets 16 × UInt64 × UInt32
  | .write => Octets 16 × UInt64 × UInt32 × List UInt8
  | .commit | .listXattrs => UInt64 × UInt32
  | .readDir => UInt64 × Octets 8 × UInt32 × UInt32 × List UInt32
  -- UNCHECKED4 or GUARDED4 with the attributes, or no creation; then CLAIM_NULL
  | .openFile => UInt32 × UInt32 × UInt32 × UInt64 × List UInt8 ×
      ((Bool × List UInt32 × List UInt8) ⊕ Unit) × List UInt8
  | .close => UInt32 × Octets 16
  | .create => CreateType4 × List UInt8 × List UInt32 × List UInt8
  | .rename => List UInt8 × List UInt8
  | .layoutGet => Bool × UInt32 × UInt32 × UInt64 × UInt64 × UInt64 × Octets 16 × UInt32
  -- `newoffset4`, `newtime4` and `layoutupdate4` stand at the end
  | .layoutCommit => UInt64 × UInt64 × Bool × Octets 16 × (UInt64 ⊕ Unit) ×
      ((UInt64 × UInt32) ⊕ Unit) × UInt32 × List UInt8
  | .layoutReturn => Bool × UInt32 × UInt32 ×
      ((UInt64 × UInt64 × Octets 16 × List UInt8) ⊕ {returnType : UInt32 // returnType ≠ 1})
  | .getDeviceInfo => Octets 16 × UInt32 × UInt32 × List UInt32
  -- `open_to_lock_owner4` or `exist_lock_owner4`
  | .lock => UInt32 × Bool × UInt64 × UInt64 ×
      ((UInt32 × Octets 16 × UInt32 × UInt64 × List UInt8) ⊕ (Octets 16 × UInt32))
  | .lockt => UInt32 × UInt64 × UInt64 × UInt64 × List UInt8
  | .locku => UInt32 × UInt32 × Octets 16 × UInt64 × UInt64
  | .testStateId => List (Octets 16)
  | .allocate | .deallocate => Octets 16 × UInt64 × UInt64
  -- of `netloc4` the network addresses
  | .copy => Octets 16 × Octets 16 × UInt64 × UInt64 × UInt64 × Bool × Bool ×
      List (List UInt8 × List UInt8)
  | .clone => Octets 16 × Octets 16 × UInt64 × UInt64 × UInt64
  | .setXattr => UInt32 × List UInt8 × List UInt8

open Wire in
def Wire.channelAttrs : Wire ChannelAttrs4 :=
  u32.pair (u32.pair (u32.pair (u32.pair (u32.pair (u32.pair bitmap)))))

open Wire in
theorem stateid_ne_nil (sid : Octets 16) : (octets 16).encode sid ≠ [] := by
  intro h
  have hLength := sid.property
  rw [show sid.val = [] from h] at hLength
  exact absurd hLength (by decide)

open Wire in
/-- `nfs_impl_id4`. -/
def Wire.implId : Wire (List UInt8 × List UInt8 × UInt64 × UInt32) :=
  opaqueData.pair (opaqueData.pair (u64.pair u32))

open Wire in
def arguments : (op : OpNum) → Wire (Arguments op)
  | .putRootFh | .getFh | .saveFh | .restoreFh | .lookupp | .readLink => .unit
  | .sequence => (octets 16).pair (u32.pair (u32.pair (u32.pair flag)))
  | .exchangeId => (octets 8).pair (opaqueData.pair (u32.pair ((tag 0 .unit).pair
      (list implId fun _ => List.cons_ne_nil _ _))))
  | .createSession => u64.pair (u32.pair (u32.pair (channelAttrs.pair (channelAttrs.pair
      (u32.pair (list (tag 0 .unit) (tag_ne_nil 0 _)))))))
  | .destroySession | .delegReturn | .freeStateId | .offloadCancel => octets 16
  | .bindConnToSession => (octets 16).pair (u32.pair flag)
  | .reclaimComplete | .openAttr => flag
  | .destroyClientId => u64
  | .putFh | .lookup | .remove | .link | .getXattr | .removeXattr => opaqueData
  | .getAttr => bitmap
  | .setAttr => (octets 16).pair fattr
  | .access => u32
  | .read | .seek | .readPlus => (octets 16).pair (u64.pair u32)
  | .write => (octets 16).pair (u64.pair (u32.pair opaqueData))
  | .commit | .listXattrs => u64.pair u32
  | .readDir => u64.pair ((octets 8).pair (u32.pair (u32.pair bitmap)))
  | .openFile => u32.pair (u32.pair (u32.pair (u64.pair (opaqueData.pair
      ((Codec.either flag (flag.pair fattr) .unit).pair (tag 0 opaqueData))))))
  | .close => u32.pair (octets 16)
  | .create => CreateType4.wire.pair (opaqueData.pair fattr)
  | .rename => opaqueData.pair opaqueData
  | .layoutGet => flag.pair (u32.pair (u32.pair (u64.pair (u64.pair (u64.pair
      ((octets 16).pair u32))))))
  | .layoutCommit => u64.pair (u64.pair (flag.pair ((octets 16).pair
      ((Codec.either flag u64 .unit).pair ((Codec.either flag (u64.pair u32) .unit).pair
        (u32.pair opaqueData))))))
  | .layoutReturn => flag.pair (u32.pair (u32.pair (Codec.special u32 1
      (u64.pair (u64.pair ((octets 16).pair opaqueData))))))
  | .getDeviceInfo => (octets 16).pair (u32.pair (u32.pair bitmap))
  | .lock => u32.pair (flag.pair (u64.pair (u64.pair (Codec.either flag
      (u32.pair ((octets 16).pair (u32.pair (u64.pair opaqueData)))) ((octets 16).pair u32)))))
  | .lockt => u32.pair (u64.pair (u64.pair (u64.pair opaqueData)))
  | .locku => u32.pair (u32.pair ((octets 16).pair (u64.pair u64)))
  | .testStateId => list (octets 16) stateid_ne_nil
  | .allocate | .deallocate => (octets 16).pair (u64.pair u64)
  | .copy => (octets 16).pair ((octets 16).pair (u64.pair (u64.pair (u64.pair
      (flag.pair (flag.pair (list (tag 3 (opaqueData.pair opaqueData)) (tag_ne_nil 3 _))))))))
  | .clone => (octets 16).pair ((octets 16).pair (u64.pair (u64.pair u64)))
  | .setXattr => u32.pair (opaqueData.pair opaqueData)

/-- `nfs_argop4`. -/
abbrev Argop4 : Type := Σ op, Arguments op

def argop4 : Wire Argop4 := .sigma Wire.opnum arguments

open Wire in
/-- `opaque_auth`. -/
def Wire.opaqueAuth : Wire (UInt32 × List UInt8) := u32.pair opaqueData

/-- A call: XID, CALL, RPC version, program, version, procedure, credential and verifier; then
tag, minor version and operations. -/
abbrev CallFields : Type := UInt32 × UInt32 × UInt32 × UInt32 × UInt32 × UInt32 ×
  (UInt32 × List UInt8) × (UInt32 × List UInt8) × List UInt8 × UInt32 × List Argop4

open Wire in
def callWire : Wire CallFields :=
  u32.pair (u32.pair (u32.pair (u32.pair (u32.pair (u32.pair (opaqueAuth.pair (opaqueAuth.pair
    (opaqueData.pair (u32.pair (list argop4 fun _ => List.cons_ne_nil _ _))))))))))

/-! ## Requests -/

/-- A call of one of the methods of the builder; `write_header`, which can only be the last one, is
`WriteData`. -/
inductive Request where
  | sequence (sessionId : Octets 16) (sequenceId slotId highestSlotId : UInt32)
  | exchangeId (coVerifier : Octets 8) (coOwnerid : List UInt8) (flags : UInt32)
      (implDomain implName : String)
  | createSession (clientId : UInt64) (sequenceId flags : UInt32)
      (foreAttrs backAttrs : ChannelAttrsWords) (cbProgram : UInt32)
  | destroySession (sessionId : Octets 16)
  | bindConnToSession (sessionId : Octets 16) (dir : UInt32) (useConnInRdmaMode : Bool)
  | reclaimComplete (oneFs : Bool)
  | destroyClientId (clientId : UInt64)
  | putrootfh
  | putfh (fh : List UInt8)
  | getfh
  | savefh
  | restorefh
  | openattr (createDir : Bool)
  | lookup (name : String)
  | lookupp
  | getattr (bitmap : List UInt32)
  | setattr (stateid : StateId4) (attrmask : List UInt32) (attrVals : List UInt8)
  | access (accessMask : UInt32)
  | read (stateid : StateId4) (offset : UInt64) (count : UInt32)
  | write (stateid : StateId4) (offset : UInt64) (stable : UInt32) (data : List UInt8)
  | commit (offset : UInt64) (count : UInt32)
  | readdir (cookie : UInt64) (cookieverf : Octets 8) (dircount maxcount : UInt32)
      (attrRequest : List UInt32)
  | readlink
  | openFile (openArgs : OpenWords)
  | openGuarded (openArgs : OpenWords)
  | close (seqid : UInt32) (stateid : StateId4)
  -- the method writes no data of the type, which devices and links would need
  | create (objtype : {d : UInt32 // d ≠ 3 ∧ d ≠ 4 ∧ d ≠ 5}) (name : String)
      (attrmask : List UInt32) (attrVals : List UInt8)
  | createSymlink (name linkTarget : String) (attrmask : List UInt32) (attrVals : List UInt8)
  | remove (name : String)
  | rename (oldname newname : String)
  | link (newname : String)
  | layoutget (signalLayoutAvail : Bool) (layoutType iomode : UInt32)
      (offset length minLength : UInt64) (stateid : StateId4) (maxCount : UInt32)
  | layoutcommit (offset length : UInt64) (reclaim : Bool) (stateid : StateId4)
      (lastWriteOffset : Option UInt64) (layoutType : UInt32)
  | layoutreturn (reclaim : Bool) (layoutType iomode returnType : UInt32)
      (offset length : UInt64) (stateid : StateId4)
  | getdeviceinfo (deviceId : Octets 16) (layoutType maxCount : UInt32)
  | lock (lockType : UInt32) (reclaim : Bool) (offset length : UInt64) (newLockOwner : Bool)
      (openStateid : StateId4) (lockSeqid openSeqid : UInt32) (lockOwner : List UInt8)
      (clientId : UInt64)
  | lockt (lockType : UInt32) (offset length : UInt64) (lockOwner : List UInt8)
      (clientId : UInt64)
  | locku (lockType seqid : UInt32) (lockStateid : StateId4) (offset length : UInt64)
  | testStateid (stateids : List StateId4)
  | delegreturn (stateid : StateId4)
  | freeStateid (stateid : StateId4)
  | space (allocate : Bool) (stateid : StateId4) (offset length : UInt64)
  | seek (stateid : StateId4) (offset : UInt64) (what : SeekContent)
  | readPlus (stateid : StateId4) (offset : UInt64) (count : UInt32)
  | copyRange (clone : Bool) (source destination : StateId4)
      (sourceOffset destinationOffset count : UInt64)
  | offloadCancel (stateid : StateId4)
  | getxattr (name : String)
  | setxattr (name : String) (value : List UInt8) (mode : XattrSetMode)
  | listxattrs (cookie : UInt64) (maxcount : UInt32)
  | removexattr (name : String)

namespace Request

/-- The method, called on a builder. -/
def apply (b : CompoundBuilder) : Request → CompoundBuilder
  | sequence sid n slot high => b.sequence sid n.toNat slot.toNat high.toNat
  | exchangeId v o f d n => b.exchangeId v o f d n
  | createSession c s f fore back p => b.createSession c s f fore back p
  | destroySession sid => b.destroySession sid
  | bindConnToSession sid dir rdma => b.bindConnToSession sid dir rdma
  | reclaimComplete oneFs => b.reclaimComplete oneFs
  | destroyClientId c => b.destroyClientId c
  | putrootfh => b.putrootfh
  | putfh fh => b.putfh fh
  | getfh => b.getfh
  | savefh => b.savefh
  | restorefh => b.restorefh
  | openattr c => b.openattr c
  | lookup n => b.lookup n
  | lookupp => b.lookupp
  | getattr m => b.getattr m
  | setattr sid m v => b.setattr sid m v
  | access m => b.access m
  | read sid off n => b.read sid off n
  | write sid off st data => b.write sid off st data
  | commit off n => b.commit off n
  | readdir c v d m a => b.readdir c v d m a
  | readlink => b.readlink
  | openFile a => b.openFile a
  | openGuarded a => b.openGuarded a
  | close s sid => b.close s sid
  | create t n m v => b.create t n m v
  | createSymlink n l m v => b.createSymlink n l m v
  | remove n => b.remove n
  | rename o n => b.rename o n
  | link n => b.link n
  | layoutget s t i off len min sid max => b.layoutget s t i off len min sid max
  | layoutcommit off len r sid last t => b.layoutcommit off len r sid last t
  | layoutreturn r t i rt off len sid => b.layoutreturn r t i rt off len sid
  | getdeviceinfo d t m => b.getdeviceinfo d t m
  | lock t r off len new sid ls os o c => b.lock t r off len new sid ls os o c
  | lockt t off len o c => b.lockt t off len o c
  | locku t s sid off len => b.locku t s sid off len
  | testStateid sids => b.testStateid sids
  | delegreturn sid => b.delegreturn sid
  | freeStateid sid => b.freeStateid sid
  | space a sid off len => b.space a sid off len
  | seek sid off what => b.seek sid off what
  | readPlus sid off n => b.readPlus sid off n
  | copyRange cl src dst so d n => b.copyRange cl src dst so d n
  | offloadCancel sid => b.offloadCancel sid
  | getxattr n => b.getxattr n
  | setxattr n v m => b.setxattr n v m
  | listxattrs c m => b.listxattrs c m
  | removexattr n => b.removexattr n

end Request

/-- The UTF-8 of a string. -/
def utf8 (s : String) : List UInt8 := s.toByteArray.toList

/-- The channel attributes of the protocol; no RDMA is offered. -/
def ChannelAttrsWords.meaning (a : ChannelAttrsWords) : ChannelAttrs4 :=
  (a.headerpadsize, a.maxrequestsize, a.maxresponsesize, a.maxresponsesizeCached,
    a.maxoperations, a.maxrequests, [])

def OpenWords.meaning (a : OpenWords) (guarded : Bool) : Arguments .openFile :=
  (a.seqid, a.wantedAccess, a.shareDeny, a.clientId, a.owner,
    if a.create then .inl (guarded, a.createAttrsMask, a.createAttrsVals) else .inr (),
    utf8 a.claimFile)

namespace Request

/-- What is asked of the server. -/
def meaning : Request → Argop4
  | sequence sid n slot high => ⟨.sequence, sid, n, slot, high, false⟩
  | exchangeId v o f d n => ⟨.exchangeId, v, o, f, (), [(utf8 d, utf8 n, 0, 0)]⟩
  | createSession c s f fore back p =>
    ⟨.createSession, c, s, f, fore.meaning, back.meaning, p, [()]⟩
  | destroySession sid => ⟨.destroySession, sid⟩
  | bindConnToSession sid dir rdma => ⟨.bindConnToSession, sid, dir, rdma⟩
  | reclaimComplete oneFs => ⟨.reclaimComplete, oneFs⟩
  | destroyClientId c => ⟨.destroyClientId, c⟩
  | putrootfh => ⟨.putRootFh, ()⟩
  | putfh fh => ⟨.putFh, fh⟩
  | getfh => ⟨.getFh, ()⟩
  | savefh => ⟨.saveFh, ()⟩
  | restorefh => ⟨.restoreFh, ()⟩
  | openattr c => ⟨.openAttr, c⟩
  | lookup n => ⟨.lookup, utf8 n⟩
  | lookupp => ⟨.lookupp, ()⟩
  | getattr m => ⟨.getAttr, m⟩
  | setattr sid m v => ⟨.setAttr, sid, m, v⟩
  | access m => ⟨.access, m⟩
  | read sid off n => ⟨.read, sid, off, n⟩
  | write sid off st data => ⟨.write, sid, off, st, data⟩
  | commit off n => ⟨.commit, off, n⟩
  | readdir c v d m a => ⟨.readDir, c, v, d, m, a⟩
  | readlink => ⟨.readLink, ()⟩
  | openFile a => ⟨.openFile, a.meaning false⟩
  | openGuarded a => ⟨.openFile, a.meaning true⟩
  | close s sid => ⟨.close, s, sid⟩
  | create t n m v => ⟨.create, .plain t, utf8 n, m, v⟩
  | createSymlink n l m v => ⟨.create, .link (utf8 l), utf8 n, m, v⟩
  | remove n => ⟨.remove, utf8 n⟩
  | rename o n => ⟨.rename, utf8 o, utf8 n⟩
  | link n => ⟨.link, utf8 n⟩
  | layoutget s t i off len min sid max => ⟨.layoutGet, s, t, i, off, len, min, sid, max⟩
  | layoutcommit off len r sid last t => ⟨.layoutCommit, off, len, r, sid,
      match last with
      | some off => .inl off
      | none => .inr (), .inr (), t, []⟩
  | layoutreturn r t i rt off len sid => ⟨.layoutReturn, r, t, i,
      if h : rt = 1 then .inl (off, len, sid, []) else .inr ⟨rt, h⟩⟩
  | getdeviceinfo d t m => ⟨.getDeviceInfo, d, t, m, [6]⟩
  | lock t r off len new sid ls os o c => ⟨.lock, t, r, off, len,
      if new then .inl (os, sid, ls, c, o) else .inr (sid, ls)⟩
  | lockt t off len o c => ⟨.lockt, t, off, len, c, o⟩
  | locku t s sid off len => ⟨.locku, t, s, sid, off, len⟩
  | testStateid sids => ⟨.testStateId, sids⟩
  | delegreturn sid => ⟨.delegReturn, sid⟩
  | freeStateid sid => ⟨.freeStateId, sid⟩
  | space true sid off len => ⟨.allocate, sid, off, len⟩
  | space false sid off len => ⟨.deallocate, sid, off, len⟩
  | seek sid off what => ⟨.seek, sid, off, what.code⟩
  | readPlus sid off n => ⟨.readPlus, sid, off, n⟩
  | copyRange true src dst so d n => ⟨.clone, src, dst, so, d, n⟩
  | copyRange false src dst so d n => ⟨.copy, src, dst, so, d, n, true, true, []⟩
  | offloadCancel sid => ⟨.offloadCancel, sid⟩
  | getxattr n => ⟨.getXattr, utf8 n⟩
  | setxattr n v m => ⟨.setXattr, m.code, utf8 n, v⟩
  | listxattrs c m => ⟨.listXattrs, c, m⟩
  | removexattr n => ⟨.removeXattr, utf8 n⟩

end Request

/-- An operation with the code of its arguments. -/
def Argop4.encoded (op : Argop4) : EncodedOp := ⟨op.1, (arguments op.1).encode op.2⟩

theorem xdrBody_nil : xdrBody [] = beU32 0 := by decide

theorem OpenWords.encodeCreate_eq (a : OpenWords) (guarded : Bool) :
    a.encodeCreate guarded = (arguments .openFile).encode (a.meaning guarded) := by
  obtain ⟨_, _, _, _, _, create, _, _, _, _⟩ := a
  cases create with
  | false => rfl
  | true => rfl

/-- **Each method.** The operation that is appended is the one asked for. -/
theorem Request.apply_eq (b : CompoundBuilder) (r : Request) :
    r.apply b = b.op r.meaning.1 ((arguments r.meaning.1).encode r.meaning.2) := by
  cases r with
  | sequence sessionId sequenceId slotId highestSlotId =>
    refine congrArg (b.op .sequence) ?_
    simp only [List.append_assoc]
    rfl
  | exchangeId verifier owner flags domain name =>
    refine congrArg (b.op .exchangeId) ?_
    have hOne : (Wire.list Wire.implId fun _ => List.cons_ne_nil _ _).encode
        [(utf8 domain, utf8 name, 0, 0)] =
        beU32 1 ++ Wire.implId.encode (utf8 domain, utf8 name, 0, 0) :=
      congrArg (beU32 1 ++ ·) (List.append_nil _)
    exact congrArg (fun code => verifier.val ++ (xdrBody owner ++ (beU32 flags.toNat ++
      (beU32 0 ++ code)))) hOne.symm
  | openFile a => exact congrArg (b.op .openFile) (a.encodeCreate_eq false)
  | openGuarded a => exact congrArg (b.op .openFile) (a.encodeCreate_eq true)
  | layoutcommit offset length reclaim stateid lastWriteOffset layoutType =>
    -- the layout update at the end is an empty body
    cases lastWriteOffset with
    | none =>
      exact congrArg (fun body => b.op .layoutCommit (beU64 offset.toNat ++ (beU64 length.toNat ++
        (xdrBool reclaim ++ (stateid.val ++ (xdrBool false ++
          (beU32 0 ++ (beU32 layoutType.toNat ++ body)))))))) xdrBody_nil.symm
    | some off =>
      exact congrArg (fun body => b.op .layoutCommit (beU64 offset.toNat ++ (beU64 length.toNat ++
        (xdrBool reclaim ++ (stateid.val ++ (xdrBool true ++ beU64 off.toNat ++
          (beU32 0 ++ (beU32 layoutType.toNat ++ body)))))))) xdrBody_nil.symm
  | layoutreturn reclaim layoutType iomode returnType offset length stateid =>
    by_cases hFile : returnType = 1
    · subst hFile
      exact congrArg (fun body => b.op .layoutReturn (xdrBool reclaim ++ (beU32 layoutType.toNat ++
        (beU32 iomode.toNat ++ (beU32 1 ++ (beU64 offset.toNat ++ (beU64 length.toNat ++
          (stateid.val ++ body)))))))) xdrBody_nil.symm
    · simp only [apply, meaning, CompoundBuilder.layoutreturn, dif_neg hFile, if_neg hFile,
        List.append_nil]
      rfl
  | lock lockType reclaim offset length new stateid lockSeqid openSeqid owner clientId =>
    cases new with
    | false => rfl
    | true => rfl
  | space allocate stateid offset length =>
    cases allocate with
    | false => rfl
    | true => rfl
  | copyRange clone source destination sourceOffset destinationOffset count =>
    cases clone with
    | false => rfl
    | true => rfl
  | _ => rfl

/-! ## A whole request -/

/-- The builder behind a list of calls. -/
def build (b : CompoundBuilder) (reqs : List Request) : CompoundBuilder :=
  reqs.foldl Request.apply b

theorem build_eq (reqs : List Request) : ∀ b : CompoundBuilder,
    build b reqs = { b with ops := b.ops ++ reqs.map fun r => r.meaning.encoded } := by
  induction reqs with
  | nil =>
    intro b
    rw [List.map_nil, List.append_nil]
    rfl
  | cons r reqs ih =>
    intro b
    show build (r.apply b) reqs = _
    rw [ih, r.apply_eq, List.map_cons]
    show CompoundBuilder.mk _ (b.ops ++ [_] ++ _) _ = _
    rw [List.append_assoc]
    rfl

/-- The operations of a builder, written out, are a code of their meanings. -/
theorem flatMap_encoded (ops : List Argop4) :
    (ops.map Argop4.encoded).flatMap (fun op => beU32 op.opcode.code ++ op.args) =
      ops.flatMap argop4.encode := by
  rw [List.flatMap_map]
  rfl

/-- What a server reads of a message. -/
def receivedCall (xid : UInt32) (auth : Auth) (tag : String) (minorVersion : MinorVersion)
    (ops : List Argop4) : CallFields :=
  (xid, 0, 2, 100003, 4, 1, (auth.flavor, auth.body), (0, []), utf8 tag, minorVersion.code, ops)

variable {b : CompoundBuilder} {ops : List Argop4}

theorem encode_receivedCall (hOps : b.ops = ops.map Argop4.encoded) (xid : UInt32) (auth : Auth)
    (minorVersion : MinorVersion) :
    callWire.encode (receivedCall xid auth b.tag minorVersion ops) =
      beU32 xid.toNat ++ (beU32 0 ++ b.encodeWithHeader auth minorVersion) := by
  have hBody : b.encodeBodyForVersion minorVersion = xdrString b.tag ++
      (beU32 minorVersion.code.toNat ++ (beU32 ops.length ++ ops.flatMap argop4.encode)) := by
    rw [CompoundBuilder.encodeBodyForVersion, hOps, flatMap_encoded, List.length_map]
  rw [CompoundBuilder.encodeWithHeader, hBody, rpcHeader]
  simp only [List.append_assoc]
  rfl

/-- A message that fits a record is read as its meaning. -/
theorem read_message (hOps : b.ops = ops.map Argop4.encoded) {auth : Auth}
    {minorVersion : MinorVersion}
    (hSize : 8 + (b.encodeWithHeader auth minorVersion).length < 2 ^ 31) (xid : UInt32) :
    callWire.read (beU32 xid.toNat ++ (beU32 0 ++ b.encodeWithHeader auth minorVersion)) =
      .ok (receivedCall xid auth b.tag minorVersion ops, []) := by
  have hCode := encode_receivedCall hOps xid auth minorVersion
  have hLength : (callWire.encode (receivedCall xid auth b.tag minorVersion ops)).length <
      2 ^ 32 := by
    rw [hCode, List.length_append, List.length_append]
    show 4 + (4 + _) < _
    omega
  have hRead := (callWire.decodes _ hLength).read []
  rwa [List.append_nil, hCode] at hRead

/-- The record of a message without data behind it. -/
theorem frame_message {msg : List UInt8} (hSize : 8 + msg.length < 2 ^ 31) (xid : Nat) :
    Rpc.Records.frame msg [] xid =
      Rpc.Records.encodeRecord [beU32 xid ++ (beU32 0 ++ msg)] := by
  have hRecord : 8 + msg.length + ([] : List UInt8).length + Rpc.pad4 0 < 2 ^ 31 := hSize
  rw [Rpc.Records.frame_eq_encodeRecord hRecord]
  show Rpc.Records.encodeRecord [beU32 xid ++ (beU32 0 ++ (msg ++ []))] = _
  rw [List.append_nil]

/-! ## Data behind the message -/

/-- What stands in front of the arguments of the last operation. -/
def frontOf (b : CompoundBuilder) (opcode : OpNum) (auth : Auth) (minorVersion : MinorVersion) :
    List UInt8 :=
  rpcHeader 100003 4 1 auth ++ (xdrString b.tag ++ (beU32 minorVersion.code.toNat ++
    (beU32 (b.ops.length + 1) ++ (b.ops.flatMap (fun op => beU32 op.opcode.code ++ op.args) ++
      beU32 opcode.code))))

theorem encodeWithHeader_op (b : CompoundBuilder) (opcode : OpNum) (args : List UInt8)
    (auth : Auth) (minorVersion : MinorVersion) :
    (b.op opcode args).encodeWithHeader auth minorVersion =
      frontOf b opcode auth minorVersion ++ args := by
  simp only [CompoundBuilder.encodeWithHeader, CompoundBuilder.encodeBodyForVersion,
    CompoundBuilder.op, frontOf, List.length_append, List.length_singleton, List.flatMap_append,
    List.flatMap_singleton, List.append_assoc]

/-- `as u32` loses nothing that a word would show. -/
theorem beU32_ofNat (n : Nat) : beU32 (UInt32.ofNat n).toNat = beU32 n := by
  have hByte : ∀ k, k ≤ 24 →
      UInt8.ofNat ((UInt32.ofNat n).toNat / 2 ^ k) = UInt8.ofNat (n / 2 ^ k) := by
    intro k hk
    apply UInt8.toNat_inj.mp
    rw [UInt8.toNat_ofNat', UInt8.toNat_ofNat', UInt32.toNat_ofNat']
    have hSplit : 2 ^ 32 = 2 ^ k * (2 ^ 8 * 2 ^ (24 - k)) := by
      rw [← Nat.pow_add, ← Nat.pow_add]
      congr 1
      omega
    rw [hSplit, Nat.mod_mul_right_div_self, Nat.mod_mul_right_mod]
  have hLast := hByte 0 (by decide)
  rw [Nat.pow_zero, Nat.div_one, Nat.div_one] at hLast
  rw [beU32, beU32, hByte 24 (by decide), hByte 16 (by decide), hByte 8 (by decide), hLast]

/-- The data of a WRITE that `write_header` announces, with the arguments in front of it. -/
structure WriteData where
  stateid : StateId4
  offset : UInt64
  stable : UInt32
  data : List UInt8

namespace WriteData

variable (w : WriteData)

/-- The message ends with the length of the data. -/
def header (b : CompoundBuilder) : CompoundBuilder :=
  b.writeHeader w.stateid w.offset w.stable (.ofNat w.data.length)

/-- The message has the data in it. -/
def plain (b : CompoundBuilder) : CompoundBuilder :=
  b.write w.stateid w.offset w.stable w.data

def meaning : Argop4 := (Request.write w.stateid w.offset w.stable w.data).meaning

theorem plain_ops (b : CompoundBuilder) : (w.plain b).ops = b.ops ++ [w.meaning.encoded] := rfl

variable (b : CompoundBuilder) (auth : Auth) (minorVersion : MinorVersion)

/-- The plain message is longer by the data and its padding. -/
theorem length_plain : ((w.plain b).encodeWithHeader auth minorVersion).length =
    ((w.header b).encodeWithHeader auth minorVersion).length + w.data.length +
      Rpc.pad4 w.data.length := by
  rw [plain, header, CompoundBuilder.write, CompoundBuilder.writeHeader, encodeWithHeader_op,
    encodeWithHeader_op, xdrBody]
  simp only [List.length_append, List.length_replicate]
  show _ + (_ + (_ + (_ + (4 + _)))) = _ + (_ + (_ + (_ + 4))) + _ + _
  omega

/-- **Zero copy.** A frame whose WRITE data is sent behind the message is byte for byte the frame
of the message that has the data in it. -/
theorem frame_header (xid : Nat) :
    Rpc.Records.frame ((w.header b).encodeWithHeader auth minorVersion) w.data xid =
      Rpc.Records.frame ((w.plain b).encodeWithHeader auth minorVersion) [] xid := by
  -- the lengths in front of the two agree, and so do the bytes
  have hPayload : Rpc.Records.payloadLen ((w.header b).encodeWithHeader auth minorVersion) w.data =
      Rpc.Records.payloadLen ((w.plain b).encodeWithHeader auth minorVersion) [] := by
    rw [Rpc.Records.payloadLen, Rpc.Records.payloadLen, length_plain]
    show _ = (_ + 0 + 0) % _
    congr 1
    omega
  rw [Rpc.Records.frame, Rpc.Records.frame, hPayload, header, plain, CompoundBuilder.writeHeader,
    CompoundBuilder.write, encodeWithHeader_op, encodeWithHeader_op, beU32_ofNat, xdrBody]
  simp only [List.append_assoc, List.length_nil, List.nil_append]
  rw [show Rpc.pad4 0 = 0 from rfl, List.replicate_zero, List.append_nil]

end WriteData

/-- The message of a request, with the header of the WRITE whose data is sent behind it. -/
def endWith (b : CompoundBuilder) : Option WriteData → CompoundBuilder
  | none => b
  | some w => w.header b

def dataBehind : Option WriteData → List UInt8
  | none => []
  | some w => w.data

/-- The bytes of a record. -/
def recordSize (b : CompoundBuilder) (data : List UInt8) (auth : Auth)
    (minorVersion : MinorVersion) : Nat :=
  8 + (b.encodeWithHeader auth minorVersion).length + data.length + Rpc.pad4 data.length

/-- The frame of a request on the wire. -/
def requestFrame (b : CompoundBuilder) (data : List UInt8) (auth : Auth)
    (minorVersion : MinorVersion) (xid : UInt32) : List UInt8 :=
  Rpc.Records.frame (b.encodeWithHeader auth minorVersion) data xid.toNat

/-- The frame of a request that fits a record is one record, and is read as its meaning. -/
theorem read_requestFrame (hOps : b.ops = ops.map Argop4.encoded) (behind : Option WriteData)
    {auth : Auth} {minorVersion : MinorVersion}
    (hSize : recordSize (endWith b behind) (dataBehind behind) auth minorVersion < 2 ^ 31)
    (xid : UInt32) :
    ∃ record, requestFrame (endWith b behind) (dataBehind behind) auth minorVersion xid =
        Rpc.Records.encodeRecord [record] ∧
      callWire.read record = .ok (receivedCall xid auth b.tag minorVersion
        (ops ++ behind.toList.map WriteData.meaning), []) := by
  cases behind with
  | none =>
    rw [Option.toList_none, List.map_nil, List.append_nil]
    exact ⟨_, frame_message hSize xid.toNat, read_message hOps hSize xid⟩
  | some w =>
    have hPlain : 8 + ((w.plain b).encodeWithHeader auth minorVersion).length < 2 ^ 31 := by
      rw [w.length_plain b auth minorVersion]
      have hHeader : 8 + ((w.header b).encodeWithHeader auth minorVersion).length +
          w.data.length + Rpc.pad4 w.data.length < 2 ^ 31 := hSize
      omega
    have hMeaning : (w.plain b).ops = (ops ++ [w.meaning]).map Argop4.encoded := by
      rw [w.plain_ops, hOps, List.map_append, List.map_singleton]
    refine ⟨_, (w.frame_header b auth minorVersion xid.toNat).trans
      (frame_message hPlain xid.toNat), ?_⟩
    exact read_message hMeaning hPlain xid

theorem ops_build (tag : String) (reqs : List Request) :
    (build (.new tag) reqs).ops = (reqs.map Request.meaning).map Argop4.encoded := by
  rw [build_eq, List.map_map]
  rfl

theorem tag_build (tag : String) (reqs : List Request) : (build (.new tag) reqs).tag = tag := by
  rw [build_eq]
  rfl

/-- **Requests.** Whatever calls of the builder a request is made of, with or without data behind
the message, its frame is one record, and by the grammar of the protocol that record is the call
with exactly the operations asked for, in their order, and nothing behind them. -/
theorem request_read_back (tag : String) (reqs : List Request) (behind : Option WriteData)
    (auth : Auth) (minorVersion : MinorVersion) (xid : UInt32)
    (hSize : recordSize (endWith (build (.new tag) reqs) behind) (dataBehind behind) auth
      minorVersion < 2 ^ 31) :
    ∃ record, requestFrame (endWith (build (.new tag) reqs) behind) (dataBehind behind) auth
        minorVersion xid = Rpc.Records.encodeRecord [record] ∧
      callWire.read record = .ok (receivedCall xid auth tag minorVersion
        (reqs.map Request.meaning ++ behind.toList.map WriteData.meaning), []) := by
  have h := read_requestFrame (ops_build tag reqs) behind hSize xid
  rwa [tag_build] at h

/-- The zero session on slot 2. -/
def sampleSequence : Request := .sequence ⟨List.replicate 16 0, rfl⟩ 5 2 7

def sampleAuth : Auth := .newUnix 0 "client" 1000 1000

/-- Three bytes to be written to the file at its beginning. -/
def sampleWrite : WriteData := ⟨⟨List.replicate 16 0, rfl⟩, 0, 2, [7, 8, 9]⟩

/-- A request of four operations: SEQUENCE, PUTFH, OPEN with creation and GETFH. -/
def sampleRequests : List Request :=
  [sampleSequence, .putfh [1, 2, 3],
    .openGuarded ⟨0, 2, 0, 7, [9], true, [0, 2], [0, 0, 1, 164], "a", true⟩, .getfh]

theorem sampleRequests_read_back : ∃ record,
    requestFrame (build (.new "open") sampleRequests) [] sampleAuth .v1 1 =
        Rpc.Records.encodeRecord [record] ∧
      callWire.read record = .ok (receivedCall 1 sampleAuth "open" .v1
        (sampleRequests.map Request.meaning ++ []), []) :=
  request_read_back "open" sampleRequests none sampleAuth .v1 1 (by decide +kernel)

/-- **Zero copy, read back.** The frame with the data behind the message and the frame with the
data in it are the same record, and the server reads the WRITE with its data behind the other
operations. -/
theorem write_out_of_band (tag : String) (reqs : List Request) (w : WriteData) (auth : Auth)
    (minorVersion : MinorVersion) (xid : UInt32)
    (hSize : recordSize (w.header (build (.new tag) reqs)) w.data auth minorVersion < 2 ^ 31) :
    ∃ record,
      requestFrame (w.header (build (.new tag) reqs)) w.data auth minorVersion xid =
        Rpc.Records.encodeRecord [record] ∧
      requestFrame (w.plain (build (.new tag) reqs)) [] auth minorVersion xid =
        Rpc.Records.encodeRecord [record] ∧
      callWire.read record = .ok (receivedCall xid auth tag minorVersion
        (reqs.map Request.meaning ++ [w.meaning]), []) := by
  obtain ⟨record, hFrame, hRead⟩ := read_requestFrame (ops_build tag reqs) (some w) hSize xid
  rw [tag_build] at hRead
  exact ⟨record, hFrame, (w.frame_header _ auth minorVersion xid.toNat).symm.trans hFrame, hRead⟩

theorem sample_write_out_of_band : ∃ record,
    requestFrame (sampleWrite.header (build (.new "write") [sampleSequence, .putfh [1]]))
      [7, 8, 9] sampleAuth .v1 1 = Rpc.Records.encodeRecord [record] ∧
    requestFrame (sampleWrite.plain (build (.new "write") [sampleSequence, .putfh [1]]))
      [] sampleAuth .v1 1 = Rpc.Records.encodeRecord [record] ∧
    callWire.read record = .ok (receivedCall 1 sampleAuth "write" .v1
      ([sampleSequence, .putfh [1]].map Request.meaning ++ [sampleWrite.meaning]), []) :=
  write_out_of_band "write" [sampleSequence, .putfh [1]] sampleWrite sampleAuth .v1 1
    (by decide +kernel)

/-! ## The cache policy -/

theorem classMax_eq_replaySensitive (a b : OperationClass) :
    classMax a b = .replaySensitive ↔ a = .replaySensitive ∨ b = .replaySensitive := by
  cases a <;> cases b <;> decide

theorem foldl_classMax_eq (classes : List OperationClass) : ∀ cls,
    classes.foldl classMax cls = .replaySensitive ↔
      cls = .replaySensitive ∨ OperationClass.replaySensitive ∈ classes := by
  induction classes with
  | nil => simp
  | cons next classes ih =>
    intro cls
    rw [List.foldl_cons, ih, classMax_eq_replaySensitive, List.mem_cons, or_assoc,
      eq_comm (a := next)]

/-- A request is replay-sensitive as soon as one operation is. -/
theorem opsClass_eq_replaySensitive (ops : List EncodedOp) :
    opsClass ops = .replaySensitive ↔
      ∃ opcode ∈ ops.map EncodedOp.opcode, opcode.opClass = .replaySensitive := by
  cases ops with
  | nil => simp [opsClass]
  | cons op ops =>
    rw [opsClass, List.map_cons, List.map_cons, List.exists_mem_cons_iff]
    show List.foldl classMax op.opcode.opClass _ = _ ↔ _
    rw [foldl_classMax_eq]
    simp

section policy

variable {sessionId : Octets 16} {sequenceId slotId highestSlotId : UInt32}

/-- Rewriting the last word of SEQUENCE sets the flag. -/
theorem sequence_flag (flag : Bool) :
    ((arguments .sequence).encode
        (sessionId, sequenceId, slotId, highestSlotId, false)).take 28 ++
      xdrU32 (if flag then 1 else 0) ++ ((arguments .sequence).encode
        (sessionId, sequenceId, slotId, highestSlotId, false)).drop 32 =
      (arguments .sequence).encode (sessionId, sequenceId, slotId, highestSlotId, flag) := by
  have hEncode : ∀ flag, (arguments .sequence).encode
      (sessionId, sequenceId, slotId, highestSlotId, flag) =
      (sessionId.val ++ (beU32 sequenceId.toNat ++ (beU32 slotId.toNat ++
        beU32 highestSlotId.toNat))) ++ xdrBool flag := by
    intro flag
    simp only [List.append_assoc]
    rfl
  have hLength : (sessionId.val ++ (beU32 sequenceId.toNat ++ (beU32 slotId.toNat ++
      beU32 highestSlotId.toNat))).length = 28 := by
    rw [List.length_append, sessionId.property]
    rfl
  have hAll : (sessionId.val ++ (beU32 sequenceId.toNat ++ (beU32 slotId.toNat ++
      beU32 highestSlotId.toNat)) ++ xdrBool false).length = 32 := by
    rw [List.length_append, hLength]
    rfl
  rw [hEncode, hEncode, List.take_left' hLength, List.drop_of_length_le (Nat.le_of_eq hAll),
    List.append_nil]
  rfl

/-- The policy rewrites SEQUENCE and leaves everything behind it alone. -/
theorem policy_ops {b b' : CompoundBuilder} {rest : List EncodedOp} {maxCachedResponseSize : Nat}
    (hOps : b.ops =
      Argop4.encoded ⟨.sequence, sessionId, sequenceId, slotId, highestSlotId, false⟩ :: rest)
    (h : b.applySequenceCachePolicy maxCachedResponseSize = .ok b') :
    b'.tag = b.tag ∧ b'.ops = Argop4.encoded ⟨.sequence, sessionId, sequenceId, slotId,
      highestSlotId, b.operationClass == .replaySensitive⟩ :: rest := by
  rw [CompoundBuilder.applySequenceCachePolicy] at h
  generalize (b.operationClass == .replaySensitive) = cachethis at h ⊢
  rw [hOps] at h
  split at h
  · cases h
  · dsimp only at h
    split at h
    · cases h
    · cases h
      refine ⟨rfl, ?_⟩
      show _ :: _ = _ :: _
      rw [List.cons.injEq]
      refine ⟨?_, rfl⟩
      exact congrArg (EncodedOp.mk .sequence) (sequence_flag cachethis)

/-- The operation of `write_header`, whose arguments end in the middle. -/
def WriteData.announced (w : WriteData) : EncodedOp :=
  ⟨.write, w.stateid ++ (beU64 w.offset.toNat ++ (beU32 w.stable.toNat ++
    beU32 (UInt32.ofNat w.data.length).toNat))⟩

theorem endWith_eq (b : CompoundBuilder) (behind : Option WriteData) :
    endWith b behind = { b with ops := b.ops ++ behind.toList.map WriteData.announced } := by
  cases behind with
  | none =>
    rw [Option.toList_none, List.map_nil, List.append_nil]
    rfl
  | some w => rfl

/-- **Cache policy.** A request that passes `apply_sequence_cache_policy` is read by the server
with `sa_cachethis` set exactly if one of the operations behind SEQUENCE is replay-sensitive, a
WRITE with its data behind the message included, and with everything else as it was asked for. -/
theorem cache_policy_read_back (tag : String) (reqs : List Request) (behind : Option WriteData)
    {maxCachedResponseSize : Nat} {b : CompoundBuilder}
    (h : (endWith (build (.new tag) (.sequence sessionId sequenceId slotId highestSlotId :: reqs))
      behind).applySequenceCachePolicy maxCachedResponseSize = .ok b)
    (auth : Auth) (minorVersion : MinorVersion) (xid : UInt32)
    (hSize : recordSize b (dataBehind behind) auth minorVersion < 2 ^ 31) :
    ∃ cachethis record,
      (cachethis = true ↔ ∃ op ∈ reqs.map Request.meaning ++ behind.toList.map WriteData.meaning,
        op.1.opClass = .replaySensitive) ∧
      requestFrame b (dataBehind behind) auth minorVersion xid =
        Rpc.Records.encodeRecord [record] ∧
      callWire.read record = .ok (receivedCall xid auth tag minorVersion
        (⟨.sequence, sessionId, sequenceId, slotId, highestSlotId, cachethis⟩ ::
          (reqs.map Request.meaning ++ behind.toList.map WriteData.meaning)), []) := by
  have hBuilt : (endWith (build (.new tag)
      (.sequence sessionId sequenceId slotId highestSlotId :: reqs)) behind).ops =
      Argop4.encoded ⟨.sequence, sessionId, sequenceId, slotId, highestSlotId, false⟩ ::
        ((reqs.map Request.meaning).map Argop4.encoded ++
          behind.toList.map WriteData.announced) := by
    rw [endWith_eq, ops_build]
    rfl
  obtain ⟨hTag, hOps⟩ := policy_ops hBuilt h
  rw [endWith_eq, tag_build] at hTag
  have hClass : ((endWith (build (.new tag) (.sequence sessionId sequenceId slotId highestSlotId ::
      reqs)) behind).operationClass == .replaySensitive) = true ↔
      ∃ op ∈ reqs.map Request.meaning ++ behind.toList.map WriteData.meaning,
        op.1.opClass = .replaySensitive := by
    have hCodes : ((reqs.map Request.meaning).map Argop4.encoded ++
        behind.toList.map WriteData.announced).map EncodedOp.opcode =
        (reqs.map Request.meaning ++ behind.toList.map WriteData.meaning).map Sigma.fst := by
      simp only [List.map_append, List.map_map]
      rfl
    rw [beq_iff_eq, CompoundBuilder.operationClass, opsClass_eq_replaySensitive, hBuilt,
      List.drop_one, List.tail_cons, hCodes]
    simp only [List.mem_map, exists_exists_and_eq_and]
  generalize ((endWith _ behind).operationClass == .replaySensitive) = cachethis at hOps hClass
  -- the builder in front of `write_header`, to which the header is added again
  have hFront : endWith { b with ops := (⟨.sequence, sessionId, sequenceId, slotId, highestSlotId,
      cachethis⟩ :: reqs.map Request.meaning : List Argop4).map Argop4.encoded } behind = b := by
    rw [endWith_eq]
    show { b with ops := _ :: (_ ++ _) } = b
    rw [← hOps]
  rw [← hFront] at hSize
  obtain ⟨record, hFrame, hRead⟩ := read_requestFrame rfl behind hSize xid
  rw [hFront] at hFrame
  exact ⟨cachethis, record, hClass, hFrame, hTag ▸ hRead⟩

/-- The policy of a WRITE whose data is sent behind the message. -/
theorem sample_cache_policy : ∃ b,
    (endWith (build (.new "write") [sampleSequence, .putfh [1]])
      (some sampleWrite)).applySequenceCachePolicy 1024 = .ok b ∧
    ∃ cachethis record,
      (cachethis = true ↔ ∃ op ∈ [Request.putfh [1]].map Request.meaning ++ [sampleWrite.meaning],
        op.1.opClass = .replaySensitive) ∧
      requestFrame b [7, 8, 9] sampleAuth .v1 1 = Rpc.Records.encodeRecord [record] ∧
      callWire.read record = .ok (receivedCall 1 sampleAuth "write" .v1
        (⟨.sequence, ⟨List.replicate 16 0, rfl⟩, 5, 2, 7, cachethis⟩ ::
          ([Request.putfh [1]].map Request.meaning ++ [sampleWrite.meaning])), []) :=
  ⟨_, rfl, cache_policy_read_back "write" [.putfh [1]] (some sampleWrite)
    (rfl : CompoundBuilder.applySequenceCachePolicy _ 1024 = _) sampleAuth .v1 1
    (by decide +kernel)⟩

end policy

end NfsRs.Nfs41
