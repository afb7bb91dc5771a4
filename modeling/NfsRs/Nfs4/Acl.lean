import NfsRs.Nfs41.XdrFields

/-!
# NfsRs — NFSv4 ACLs on the wire

An ACL is an array of entries, each with three words and the name of a principal; NFSv4.1 puts a
word of flags in front of it. `encode_setattr_acl` and `encode_setattr_acl41` write them as the
value of an attribute, `decode_getattr_acl` and `decode_getattr_acl41` read them out of a GETATTR
result, and `skip_acl` goes over them. The decoders take at most `MAX_ACES` entries, which the
encoders do not look at.

## Main results

- `decodes_acl`, `decodes_acl41` : what was encoded is decoded again, and no part of it is.
- `decodes_skipAcl`, `decodes_skipAcl41` : the skip ends where the decoder does.
- `decodes_getattrAcl`, `decodes_getattrAcl41` : the same within a GETATTR result.
-/

namespace NfsRs.Nfs4

open Lib
open Nfs41 (beU32 getU32 xdrBody takeWord takeFixed takePadded padded getU32_beU32 decodes_u32
  decodes_fixed decodes_padded)

/-! ## ACLs -/

/-- A Rust `String`. -/
structure Utf8 where
  bytes : List UInt8
  valid : bytes.toByteArray.validateUTF8 = true
  deriving DecidableEq

inductive AceType where
  | accessAllowed | accessDenied | systemAudit | systemAlarm
  deriving DecidableEq, Repr

namespace AceType

def code : AceType → Nat
  | accessAllowed => 0
  | accessDenied => 1
  | systemAudit => 2
  | systemAlarm => 3

/-- `AceType::try_from`. -/
def tryFrom : Nat → Except NfsError AceType
  | 0 => .ok accessAllowed
  | 1 => .ok accessDenied
  | 2 => .ok systemAudit
  | 3 => .ok systemAlarm
  | v => .error (.xdr s!"unknown ACE type {v}")

end AceType

structure NfsAce where
  aceType : AceType
  flags : UInt32
  accessMask : UInt32
  who : Utf8
  deriving DecidableEq

structure Acl where
  aces : List NfsAce
  deriving DecidableEq

structure NfsAcl41 where
  flags : UInt32
  aces : List NfsAce
  deriving DecidableEq

def maxAces : Nat := 8192

/-! ## Decoding -/

/-- `String::from_utf8`. -/
def utf8OfBytes (bytes : List UInt8) : Except NfsError Utf8 :=
  if h : bytes.toByteArray.validateUTF8 = true then .ok ⟨bytes, h⟩
  else .error (.xdr "invalid UTF-8 in string attribute")

def decodeUtf8str : Reader NfsError UInt8 Utf8 := do
  let len ← takeWord "utf8str length truncated"
  let bytes ← takePadded len "utf8str data truncated"
  utf8OfBytes bytes

/-- The three words of an entry, behind one check of the length. -/
def aceWords : Reader NfsError UInt8 (Nat × Nat × Nat) := fun buf =>
  if buf.length < 12 then .error (.xdr "nfsace4 truncated")
  else
    let (aceType, buf) := getU32 buf
    let (flags, buf) := getU32 buf
    let (accessMask, buf) := getU32 buf
    .ok ((aceType, flags, accessMask), buf)

def decodeNfsace4 : Reader NfsError UInt8 NfsAce := do
  let (aceType, flags, accessMask) ← aceWords
  let aceType ← AceType.tryFrom aceType
  let who ← decodeUtf8str
  return { aceType := aceType, flags := .ofNat flags, accessMask := .ofNat accessMask, who := who }

/-- An array of entries, each read by `entry`. -/
def aceArray {α : Type} (entry : Reader NfsError UInt8 α) : Reader NfsError UInt8 (List α) := do
  let count ← takeWord "ACL count truncated"
  if count > maxAces then throw (.xdr s!"ACL has {count} entries, max {maxAces}")
  else entry.times count

def decodeAcl : Reader NfsError UInt8 Acl := do
  let aces ← aceArray decodeNfsace4
  return { aces := aces }

def skipAce : Reader NfsError UInt8 Unit := do
  let _ ← takeFixed 12 "nfsace4 truncated"
  let len ← takeWord "nfsace4 who length truncated"
  let _ ← takePadded len "nfsace4 who data truncated"
  return ()

def skipAcl : Reader NfsError UInt8 Unit := do
  let _ ← aceArray skipAce
  return ()

def skipAcl41 : Reader NfsError UInt8 Unit := do
  let _ ← takeFixed 4 "NFSv4.1 ACL flags truncated"
  skipAcl

/-! ## Encoding -/

/-- `as u32` of the length of the name is in `beU32`. -/
def encodeNfsace4 (ace : NfsAce) : List UInt8 :=
  beU32 ace.aceType.code ++ (beU32 ace.flags.toNat ++ (beU32 ace.accessMask.toNat ++
    xdrBody ace.who.bytes))

def encodeAcl (acl : Acl) : List UInt8 :=
  beU32 acl.aces.length ++ acl.aces.flatMap encodeNfsace4

/-- The attributes of `attrnum`. -/
def attrAcl : Nat := 12

def attrDacl : Nat := 58
def attrSacl : Nat := 59

def encodeSetattrAcl (acl : Acl) : List Nat × List UInt8 := ([2 ^ attrAcl], encodeAcl acl)

def encodeAcl41 (acl : NfsAcl41) : List UInt8 := beU32 acl.flags.toNat ++ encodeAcl ⟨acl.aces⟩

def encodeSetattrAcl41 (acl : NfsAcl41) (attr : Nat) : List Nat × List UInt8 :=
  ([0, 2 ^ (attr - 32)], encodeAcl41 acl)

/-! ## GETATTR results -/

/-- The padding behind the values, which is not insisted on. -/
def skipPadding (len : Nat) : Reader NfsError UInt8 Unit := fun buf =>
  .ok ((), if Rpc.pad4 len ≤ buf.length then buf.drop (Rpc.pad4 len) else buf)

def decodeGetattrEnvelope : Reader NfsError UInt8 (List Nat × List UInt8) := do
  let bitmapLen ← takeWord "GETATTR bitmap length truncated"
  if bitmapLen > 16 then throw (.xdr s!"GETATTR bitmap has {bitmapLen} words, max 16")
  else
    let bitmap ← (takeWord "GETATTR bitmap word truncated").times bitmapLen
    let valsLen ← takeWord "GETATTR attr_vals length truncated"
    let vals ← takeFixed valsLen "GETATTR attr_vals truncated"
    skipPadding valsLen
    return (bitmap, vals)

/-- A reader for the values of the attributes alone; what it leaves is dropped. -/
def within {α : Type} (vals : List UInt8) (r : Reader NfsError UInt8 α) :
    Reader NfsError UInt8 α :=
  liftM ((r vals).map (·.1))

def decodeGetattrAcl : Reader NfsError UInt8 Acl := do
  let (bitmap, vals) ← decodeGetattrEnvelope
  let word0 := bitmap.head?.getD 0
  if ¬ word0.testBit attrAcl then throw (.xdr "server did not return FATTR4_ACL")
  -- the values stand in the order of their numbers: what is lower would be read as the ACL
  else if word0 &&& (2 ^ attrAcl - 1) ≠ 0 then
    throw (.xdr "server returned unexpected attributes before FATTR4_ACL")
  else within vals decodeAcl

def decodeAcl41 : Reader NfsError UInt8 NfsAcl41 := do
  let flags ← takeWord "NFSv4.1 ACL flags truncated"
  let acl ← decodeAcl
  return { flags := .ofNat flags, aces := acl.aces }

/-- Nothing is said about the attributes in front of the ACL. -/
def decodeGetattrAcl41 (attr : Nat) : Reader NfsError UInt8 NfsAcl41 := do
  let (bitmap, vals) ← decodeGetattrEnvelope
  if ¬ (bitmap[1]?.getD 0).testBit (attr - 32) then
    throw (.unsupported s!"server does not support NFSv4.1 ACL attribute {attr}")
  else within vals decodeAcl41

/-- An `fattr4` on the wire. -/
def encodeFattr4 (attrs : List Nat × List UInt8) : List UInt8 :=
  beU32 attrs.1.length ++ (attrs.1.flatMap beU32 ++ xdrBody attrs.2)

/-! ## Round trips -/

/-- The names have a length in 32 bits. -/
def NfsAce.Encodable (ace : NfsAce) : Prop := ace.who.bytes.length < 2 ^ 32

/-- An ACL that the decoders take. -/
structure Encodable (aces : List NfsAce) : Prop where
  count : aces.length ≤ maxAces
  names : ∀ ace ∈ aces, ace.Encodable

theorem AceType.tryFrom_code (t : AceType) : AceType.tryFrom t.code = .ok t := by
  cases t <;> rfl

theorem AceType.code_lt (t : AceType) : t.code < 2 ^ 32 := by
  cases t <;> decide

theorem utf8OfBytes_bytes (s : Utf8) : utf8OfBytes s.bytes = .ok s := dif_pos s.valid

theorem decodes_utf8str {s : Utf8} (h : s.bytes.length < 2 ^ 32) :
    Decodes decodeUtf8str (xdrBody s.bytes) s := by
  refine (decodes_u32 h _).bind ?_
  rw [← List.append_nil (s.bytes ++ _)]
  exact (decodes_padded s.bytes _).bind (Decodes.lift (utf8OfBytes_bytes s))

theorem decodes_aceWords {aceType flags accessMask : Nat} (hType : aceType < 2 ^ 32)
    (hFlags : flags < 2 ^ 32) (hMask : accessMask < 2 ^ 32) :
    Decodes aceWords (beU32 aceType ++ (beU32 flags ++ beU32 accessMask))
      (aceType, flags, accessMask) := by
  refine decodes_of_length (fun buf h => ⟨_, if_pos h⟩) fun rest => ?_
  have hLength : ¬ (beU32 aceType ++ (beU32 flags ++ beU32 accessMask) ++ rest).length < 12 := by
    rw [List.length_append]
    exact Nat.not_lt.mpr (Nat.le_add_right 12 rest.length)
  rw [aceWords, if_neg hLength, List.append_assoc, List.append_assoc, getU32_beU32 hType]
  dsimp only
  rw [getU32_beU32 hFlags]
  dsimp only
  rw [getU32_beU32 hMask]

theorem decodes_nfsace4 {ace : NfsAce} (h : ace.Encodable) :
    Decodes decodeNfsace4 (encodeNfsace4 ace) ace := by
  have hCode : encodeNfsace4 ace = (beU32 ace.aceType.code ++ (beU32 ace.flags.toNat ++
      beU32 ace.accessMask.toNat)) ++ ([] ++ xdrBody ace.who.bytes) := by
    rw [encodeNfsace4, List.append_assoc, List.append_assoc, List.nil_append]
  rw [hCode]
  refine (decodes_aceWords ace.aceType.code_lt ace.flags.toNat_lt ace.accessMask.toNat_lt).bind ?_
  refine (Decodes.lift (AceType.tryFrom_code ace.aceType)).bind ?_
  rw [UInt32.ofNat_toNat, UInt32.ofNat_toNat]
  exact (decodes_utf8str h).map

theorem decodes_aceArray {α : Type} {entry : Reader NfsError UInt8 α} (value : NfsAce → α)
    {aces : List NfsAce} (hCount : aces.length ≤ maxAces)
    (h : ∀ ace ∈ aces, Decodes entry (encodeNfsace4 ace) (value ace)) :
    Decodes (aceArray entry) (encodeAcl ⟨aces⟩) (aces.map value) := by
  have hLt : aces.length < 2 ^ 32 := Nat.lt_of_le_of_lt hCount (by decide)
  refine (decodes_u32 hLt _).bind ?_
  rw [if_neg (Nat.not_lt.mpr hCount)]
  exact Decodes.times h

theorem decodes_acl {acl : Acl} (h : Encodable acl.aces) :
    Decodes decodeAcl (encodeAcl acl) acl := by
  have hArray := decodes_aceArray id h.count fun ace hAce =>
    decodes_nfsace4 (h.names ace hAce)
  rw [List.map_id] at hArray
  exact hArray.map

theorem decodes_acl41 {acl : NfsAcl41} (h : Encodable acl.aces) :
    Decodes decodeAcl41 (encodeAcl41 acl) acl := by
  refine (decodes_u32 acl.flags.toNat_lt _).bind ?_
  have hAcl : Decodes decodeAcl (encodeAcl ⟨acl.aces⟩) ⟨acl.aces⟩ := decodes_acl h
  rw [UInt32.ofNat_toNat]
  exact hAcl.map

theorem decodes_skipAce {ace : NfsAce} (h : ace.Encodable) :
    Decodes skipAce (encodeNfsace4 ace) () := by
  have hCode : encodeNfsace4 ace = (beU32 ace.aceType.code ++ (beU32 ace.flags.toNat ++
      beU32 ace.accessMask.toNat)) ++ xdrBody ace.who.bytes := by
    rw [encodeNfsace4, List.append_assoc, List.append_assoc]
  rw [hCode]
  refine (decodes_fixed (beU32 ace.aceType.code ++ (beU32 ace.flags.toNat ++
    beU32 ace.accessMask.toNat)) "nfsace4 truncated").bind ?_
  exact (decodes_u32 h _).bind (decodes_padded _ _).map

theorem decodes_skipAcl {acl : Acl} (h : Encodable acl.aces) :
    Decodes skipAcl (encodeAcl acl) () :=
  (decodes_aceArray (fun _ => ()) h.count fun ace hAce =>
    decodes_skipAce (h.names ace hAce)).map

theorem decodes_skipAcl41 {acl : NfsAcl41} (h : Encodable acl.aces) :
    Decodes skipAcl41 (encodeAcl41 acl) () := by
  have hAcl : Decodes skipAcl (encodeAcl ⟨acl.aces⟩) () := decodes_skipAcl h
  exact (decodes_fixed (beU32 acl.flags.toNat) _).bind hAcl

/-- A count beyond the limit is refused, whatever stands behind it. -/
theorem aceArray_refused {α : Type} (entry : Reader NfsError UInt8 α) {count : Nat}
    (hMany : maxAces < count) (hLt : count < 2 ^ 32) (rest : List UInt8) :
    ∃ e, aceArray entry (beU32 count ++ rest) = .error e := by
  rw [aceArray, Reader.bind_apply, (decodes_u32 hLt _).read, ok_bind]
  rw [if_pos hMany]
  exact ⟨_, rfl⟩

section Refused

variable {count : Nat} (hMany : maxAces < count) (hLt : count < 2 ^ 32)

include hMany hLt

theorem decodeAcl_refused (rest : List UInt8) :
    ∃ e, decodeAcl (beU32 count ++ rest) = .error e := by
  obtain ⟨e, he⟩ := aceArray_refused decodeNfsace4 hMany hLt rest
  rw [decodeAcl, Reader.bind_apply, he]
  exact ⟨e, rfl⟩

theorem skipAcl_refused (rest : List UInt8) :
    ∃ e, skipAcl (beU32 count ++ rest) = .error e := by
  obtain ⟨e, he⟩ := aceArray_refused skipAce hMany hLt rest
  rw [skipAcl, Reader.bind_apply, he]
  exact ⟨e, rfl⟩

theorem decodeAcl41_refused {flags : Nat} (hFlags : flags < 2 ^ 32) (rest : List UInt8) :
    ∃ e, decodeAcl41 (beU32 flags ++ (beU32 count ++ rest)) = .error e := by
  obtain ⟨e, he⟩ := decodeAcl_refused hMany hLt rest
  rw [decodeAcl41, Reader.bind_apply, (decodes_u32 hFlags _).read, ok_bind, Reader.bind_apply, he]
  exact ⟨e, rfl⟩

theorem skipAcl41_refused (flags : Nat) (rest : List UInt8) :
    ∃ e, skipAcl41 (beU32 flags ++ (beU32 count ++ rest)) = .error e := by
  obtain ⟨e, he⟩ := skipAcl_refused hMany hLt rest
  have hFlags := (decodes_fixed (beU32 flags) "NFSv4.1 ACL flags truncated").read
    (beU32 count ++ rest)
  rw [skipAcl41, Reader.bind_apply]
  exact ⟨e, by rw [show 4 = (beU32 flags).length from rfl, hFlags, ok_bind, he]⟩

end Refused

/-! ## Within a GETATTR result -/

theorem encodeNfsace4_length (ace : NfsAce) : (encodeNfsace4 ace).length % 4 = 0 := by
  have hLength : (encodeNfsace4 ace).length = 16 + padded ace.who.bytes.length := by
    rw [encodeNfsace4, xdrBody]
    simp only [List.length_append, List.length_replicate, padded, beU32, List.length_cons,
      List.length_nil]
    omega
  rw [hLength, padded, Rpc.pad4]
  omega

theorem aces_length (aces : List NfsAce) : (aces.flatMap encodeNfsace4).length % 4 = 0 := by
  induction aces with
  | nil => rfl
  | cons ace aces ih =>
    have hFirst := encodeNfsace4_length ace
    rw [List.flatMap_cons, List.length_append]
    omega

theorem encodeAcl_length (acl : Acl) : (encodeAcl acl).length % 4 = 0 := by
  have hAces := aces_length acl.aces
  have hCount : (beU32 acl.aces.length).length = 4 := rfl
  rw [encodeAcl, List.length_append, hCount]
  omega

theorem encodeAcl41_length (acl : NfsAcl41) : (encodeAcl41 acl).length % 4 = 0 := by
  have hAcl := encodeAcl_length ⟨acl.aces⟩
  have hFlags : (beU32 acl.flags.toNat).length = 4 := rfl
  rw [encodeAcl41, List.length_append, hFlags]
  omega

theorem pad4_eq_zero {n : Nat} (h : n % 4 = 0) : Rpc.pad4 n = 0 := by
  rw [Rpc.pad4]
  omega

theorem decodes_bitmap {bitmap : List Nat} (h : ∀ word ∈ bitmap, word < 2 ^ 32)
    (message : String) :
    Decodes ((takeWord message).times bitmap.length) (bitmap.flatMap beU32) bitmap := by
  have hWords := Decodes.times fun word hWord => decodes_u32 (h word hWord) message
  rwa [List.map_id'] at hWords

/-- Values that need no padding; the padding of others may be missing at the end of the data. -/
theorem decodes_getattrEnvelope {bitmap : List Nat} {vals : List UInt8}
    (hCount : bitmap.length ≤ 16) (hWords : ∀ word ∈ bitmap, word < 2 ^ 32)
    (hLength : vals.length < 2 ^ 32) (hPadding : vals.length % 4 = 0) :
    Decodes decodeGetattrEnvelope (encodeFattr4 (bitmap, vals)) (bitmap, vals) := by
  have hSkip : Decodes (skipPadding vals.length) [] () := by
    refine ⟨fun rest => ?_, fun front hPrefix hNe => absurd (List.prefix_nil.mp hPrefix) hNe⟩
    rw [skipPadding, pad4_eq_zero hPadding, if_pos (Nat.zero_le _)]
    rfl
  refine (decodes_u32 (Nat.lt_of_le_of_lt hCount (by decide)) _).bind ?_
  rw [if_neg (Nat.not_lt.mpr hCount)]
  refine (decodes_bitmap hWords _).bind ((decodes_u32 hLength _).bind ?_)
  rw [pad4_eq_zero hPadding]
  exact (decodes_fixed vals _).bind hSkip.map

theorem decodes_within {α : Type} {r : Reader NfsError UInt8 α} {vals : List UInt8} {x : α}
    (h : Decodes r vals x) : Decodes (within vals r) [] x := by
  refine Decodes.lift ?_
  have hRead := h.read []
  rw [List.append_nil] at hRead
  rw [hRead]
  rfl

theorem decodes_getattrAcl {acl : Acl} (h : Encodable acl.aces)
    (hLength : (encodeAcl acl).length < 2 ^ 32) :
    Decodes decodeGetattrAcl (encodeFattr4 (encodeSetattrAcl acl)) acl := by
  have hEnvelope : Decodes decodeGetattrEnvelope (encodeFattr4 ([2 ^ attrAcl], encodeAcl acl))
      ([2 ^ attrAcl], encodeAcl acl) :=
    decodes_getattrEnvelope (by decide) (by decide) hLength (encodeAcl_length acl)
  rw [← List.append_nil (encodeFattr4 _)]
  refine hEnvelope.bind ?_
  dsimp only
  rw [if_neg (by decide), if_neg (by decide)]
  exact decodes_within (decodes_acl h)

theorem attr_word_lt {attr : Nat} (h : attr = attrDacl ∨ attr = attrSacl) :
    2 ^ (attr - 32) < 2 ^ 32 := by
  rcases h with rfl | rfl <;> decide

theorem decodes_getattrAcl41 {acl : NfsAcl41} {attr : Nat}
    (hAttr : attr = attrDacl ∨ attr = attrSacl) (h : Encodable acl.aces)
    (hLength : (encodeAcl41 acl).length < 2 ^ 32) :
    Decodes (decodeGetattrAcl41 attr) (encodeFattr4 (encodeSetattrAcl41 acl attr)) acl := by
  have hWords : ∀ word ∈ [0, 2 ^ (attr - 32)], word < 2 ^ 32 := by
    intro word hWord
    rcases List.mem_cons.mp hWord with rfl | hWord
    · decide
    · rw [List.mem_singleton.mp hWord]
      exact attr_word_lt hAttr
  have hEnvelope : Decodes decodeGetattrEnvelope (encodeFattr4 (encodeSetattrAcl41 acl attr))
      ([0, 2 ^ (attr - 32)], encodeAcl41 acl) :=
    decodes_getattrEnvelope (Nat.le_of_lt (by decide : 2 < 16)) hWords hLength
      (encodeAcl41_length acl)
  rw [← List.append_nil (encodeFattr4 _)]
  refine hEnvelope.bind ?_
  have hBit : (([0, 2 ^ (attr - 32)] : List Nat)[1]?.getD 0).testBit (attr - 32) = true :=
    Nat.testBit_two_pow_self
  dsimp only
  rw [if_neg (not_not_intro hBit)]
  exact decodes_within (decodes_acl41 h)

end NfsRs.Nfs4
