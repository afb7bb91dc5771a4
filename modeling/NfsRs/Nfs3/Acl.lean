import NfsRs.Nfs4.Acl

/-!
# NfsRs — POSIX ACLs of NFSACL v3

`nfs3/acl.rs` exchanges two lists of entries, the access entries and the default entries, each
behind its count and the length of an array. The default entries carry a bit of their own in the
tag. The encoder and the decoder share the check of an entry and the limit of the number of
entries, unlike those of the NFSv4 ACLs.

## Main results

- `decodes_posixAcl` : entries that the encoder takes are decoded again, and no part of them is.
- `decodeGet_reply` : a GETACL reply with both lists.
- `acl_roundTrips` : the ACLs of all versions.
-/

namespace NfsRs.Nfs3.Acl

open Lib
open Nfs41 (beU32 getU32 takeFixed takeWord getU32_beU32 not_short_beU32 decodes_u32
  decodes_fixed)

/-! ## Entries -/

structure PosixAclEntry where
  tag : UInt32
  id : UInt32
  permissions : UInt32
  deriving DecidableEq

structure PosixAcl where
  access : List PosixAclEntry
  default : List PosixAclEntry
  deriving DecidableEq

def fullMask : Nat := 15
def defaultTag : UInt32 := 0x1000
def maxEntries : Nat := 1024

def validEntry (entry : PosixAclEntry) : Bool :=
  [1, 2, 4, 8, 16, 32].contains entry.tag && decide (entry.permissions ≤ 7)

/-! ## Decoding -/

def readU32 : Reader NfsError UInt8 Nat := takeWord "truncated NFSACL v3 response"

def skipAttrs : Reader NfsError UInt8 Unit := do
  match ← readU32 with
  | 0 => return ()
  | 1 =>
    -- `fattr3`
    let _ ← takeFixed 84 "truncated NFSACL post_op_attr"
    return ()
  | _ => throw (.xdr "invalid NFSACL post_op_attr boolean")

/-- The discriminants of `nfsstat3` in `nfs.x`. -/
def nfsstat3 : List (Nat × Nfs3ErrorCode) :=
  [(0, .ok), (1, .perm), (2, .noent), (5, .io), (6, .nxio), (13, .acces), (17, .exist),
   (18, .xdev), (19, .nodev), (20, .notdir), (21, .isdir), (22, .inval), (27, .fbig),
   (28, .nospc), (30, .rofs), (31, .mlink), (63, .nametoolong), (66, .notempty), (69, .dquot),
   (70, .stale), (71, .remote), (10001, .badhandle), (10002, .notSync), (10003, .badCookie),
   (10004, .notsupp), (10005, .toosmall), (10006, .serverfault), (10007, .badtype),
   (10008, .jukebox)]

/-- A status that cannot be read; the text is the generated decoder's. -/
def statusError : NfsError := .io .invalidData "nfsstat3"

def decodeStatus : Reader NfsError UInt8 Unit := fun buf =>
  if buf.length < 4 then .error statusError
  else
    let (code, buf) := getU32 buf
    match nfsstat3.lookup code with
    | some .ok => .ok ((), buf)
    | some .notsupp => .error (.unsupported "NFSACL v3 is unsupported for this object")
    | some error => .error (.nfs3 error)
    | none => .error statusError

def ensureEmpty : Reader NfsError UInt8 Unit := fun buf =>
  if buf.isEmpty then .ok ((), buf) else .error (.xdr "trailing NFSACL response data")

def decodeEntry (isDefault : Bool) : Reader NfsError UInt8 PosixAclEntry := do
  let rawTag ← readU32
  let rawTag := UInt32.ofNat rawTag
  -- every entry carries the mark of its list
  if decide (rawTag &&& defaultTag ≠ 0) ≠ isDefault then
    throw (.xdr "NFSACL access/default entry flag mismatch")
  else
    let id ← readU32
    let permissions ← readU32
    let entry : PosixAclEntry :=
      { tag := rawTag &&& ~~~defaultTag, id := .ofNat id, permissions := .ofNat permissions }
    if validEntry entry then return entry
    else throw (.xdr "NFSACL invalid ACL tag or permissions")

/-- The entries behind the counts; the whole array has to be there. -/
def decodeEntries (isDefault : Bool) (count arrayCount : Nat) :
    Reader NfsError UInt8 (List PosixAclEntry) := fun buf =>
  if count ≠ arrayCount ∨ count > maxEntries ∨ count > buf.length / 12 then
    .error (.xdr "NFSACL invalid or truncated ACL count/array")
  else (decodeEntry isDefault).times count buf

def decodeAcl (isDefault : Bool) : Reader NfsError UInt8 (List PosixAclEntry) := do
  let count ← readU32
  let arrayCount ← readU32
  decodeEntries isDefault count arrayCount

/-- `decode_get` in front of `ensure_empty`. -/
def decodeLists : Reader NfsError UInt8 PosixAcl := do
  decodeStatus
  skipAttrs
  let mask ← readU32
  if mask ≠ fullMask then
    throw (.xdr
      "NFSACL GETACL response does not contain the complete requested ACL mask")
  else
    let access ← decodeAcl false
    let default ← decodeAcl true
    return { access := access, default := default }

def decodeGet : Reader NfsError UInt8 PosixAcl := do
  let acl ← decodeLists
  ensureEmpty
  return acl

/-! ## Encoding -/

def encodeEntry (isDefault : Bool) (entry : PosixAclEntry) : List UInt8 :=
  beU32 (entry.tag ||| if isDefault then defaultTag else 0).toNat ++ (beU32 entry.id.toNat ++
    beU32 entry.permissions.toNat)

/-- What is appended to the request. -/
def encodeAcl (entries : List PosixAclEntry) (isDefault : Bool) :
    Except NfsError (List UInt8) :=
  if entries.length > maxEntries ∨ entries.any (fun entry => !validEntry entry) then
    .error (.invalidInput "NFSACL invalid ACL entries or entry limit exceeded")
  else
    .ok (beU32 entries.length ++ (beU32 entries.length ++
      entries.flatMap (encodeEntry isDefault)))

/-! ## Round trips -/

/-- The bit of the default entries is not one of a tag. -/
theorem validEntry_tag {entry : PosixAclEntry} (h : validEntry entry = true) (isDefault : Bool) :
    decide ((entry.tag ||| if isDefault then defaultTag else 0) &&& defaultTag ≠ 0) = isDefault ∧
      (entry.tag ||| if isDefault then defaultTag else 0) &&& ~~~defaultTag = entry.tag := by
  have hTag : entry.tag ∈ ([1, 2, 4, 8, 16, 32] : List UInt32) :=
    List.contains_iff_mem.mp (Bool.and_eq_true_iff.mp h).1
  simp only [List.mem_cons, List.not_mem_nil, or_false] at hTag
  rcases hTag with hEq | hEq | hEq | hEq | hEq | hEq
  all_goals
    rw [hEq]
    cases isDefault
    · decide
    · decide

theorem decodes_entry {entry : PosixAclEntry} (h : validEntry entry = true) (isDefault : Bool) :
    Decodes (decodeEntry isDefault) (encodeEntry isDefault entry) entry := by
  obtain ⟨hFlag, hTag⟩ := validEntry_tag h isDefault
  refine (decodes_u32 (UInt32.toNat_lt _) _).bind ?_
  dsimp only
  rw [UInt32.ofNat_toNat, hFlag, if_neg (not_not_intro rfl), hTag]
  refine (decodes_u32 (UInt32.toNat_lt _) _).bind ?_
  rw [← List.append_nil (beU32 entry.permissions.toNat)]
  refine (decodes_u32 (UInt32.toNat_lt _) _).bind ?_
  rw [UInt32.ofNat_toNat, UInt32.ofNat_toNat, if_pos h]
  exact .pure entry

theorem entries_length (isDefault : Bool) (entries : List PosixAclEntry) :
    (entries.flatMap (encodeEntry isDefault)).length = 12 * entries.length := by
  induction entries with
  | nil => rfl
  | cons entry entries ih =>
    have hEntry : (encodeEntry isDefault entry).length = 12 := rfl
    rw [List.flatMap_cons, List.length_append, hEntry, ih, List.length_cons]
    omega

variable {entries : List PosixAclEntry} {attrs : Option (List UInt8)}

theorem decodes_entries (hCount : entries.length ≤ maxEntries)
    (h : ∀ entry ∈ entries, validEntry entry = true) (isDefault : Bool) :
    Decodes (decodeEntries isDefault entries.length entries.length)
      (entries.flatMap (encodeEntry isDefault)) entries := by
  have hEntries := Decodes.times fun entry hEntry => decodes_entry (h entry hEntry) isDefault
  rw [List.map_id'] at hEntries
  -- an array that is cut is refused for its length, before an entry is read
  refine decodes_of_length (fun l hShort => ?_) fun rest => ?_
  · rw [entries_length] at hShort
    exact ⟨_, if_pos (.inr (.inr (by omega)))⟩
  · have hLength : ¬ (entries.length ≠ entries.length ∨ entries.length > maxEntries ∨
        entries.length > (entries.flatMap (encodeEntry isDefault) ++ rest).length / 12) := by
      rw [List.length_append, entries_length]
      omega
    rw [decodeEntries, if_neg hLength]
    exact hEntries.read rest

theorem encodeAcl_eq_ok {isDefault : Bool} {code : List UInt8}
    (h : encodeAcl entries isDefault = .ok code) :
    entries.length ≤ maxEntries ∧ (∀ entry ∈ entries, validEntry entry = true) ∧
      code = beU32 entries.length ++ (beU32 entries.length ++
        entries.flatMap (encodeEntry isDefault)) := by
  rw [encodeAcl] at h
  split at h
  · cases h
  · rename_i hValid
    obtain ⟨hCount, hAny⟩ := not_or.mp hValid
    have hAll : ∀ entry ∈ entries, validEntry entry = true := by
      intro entry hEntry
      by_contra hBad
      exact hAny (List.any_eq_true.mpr ⟨entry, hEntry, by simpa using hBad⟩)
    exact ⟨Nat.not_lt.mp hCount, hAll, (Except.ok.inj h).symm⟩

theorem decodes_posixAcl {isDefault : Bool} {code : List UInt8}
    (h : encodeAcl entries isDefault = .ok code) : Decodes (decodeAcl isDefault) code entries := by
  obtain ⟨hCount, hValid, rfl⟩ := encodeAcl_eq_ok h
  have hLt : entries.length < 2 ^ 32 := Nat.lt_of_le_of_lt hCount (by decide)
  exact (decodes_u32 hLt _).bind ((decodes_u32 hLt _).bind
    (decodes_entries hCount hValid isDefault))

theorem decodeAcl_refused {count arrayCount : Nat} (hCount : count < 2 ^ 32)
    (hArray : arrayCount < 2 ^ 32) (h : maxEntries < count ∨ count ≠ arrayCount)
    (isDefault : Bool) (rest : List UInt8) :
    ∃ e, decodeAcl isDefault (beU32 count ++ (beU32 arrayCount ++ rest)) = .error e := by
  rw [decodeAcl, Reader.bind_apply, readU32, (decodes_u32 hCount _).read, ok_bind,
    Reader.bind_apply, (decodes_u32 hArray _).read, ok_bind]
  rcases h with hMany | hNe
  · exact ⟨_, if_pos (.inr (.inl hMany))⟩
  · exact ⟨_, if_pos (.inl hNe)⟩

/-! ## Replies -/

/-- The attributes in front of the ACL, `none` when there are none. -/
def postOpAttr : Option (List UInt8) → List UInt8
  | none => beU32 0
  | some attrs => beU32 1 ++ attrs

theorem decodes_status : Decodes decodeStatus (beU32 0) () := by
  refine decodes_of_length (fun _ h => ⟨_, if_pos h⟩) fun rest => ?_
  rw [decodeStatus, if_neg (not_short_beU32 0 rest), getU32_beU32 (by decide)]
  rfl

theorem decodes_skipAttrs (h : ∀ bytes ∈ attrs, bytes.length = 84) :
    Decodes skipAttrs (postOpAttr attrs) () := by
  cases attrs with
  | none =>
    rw [postOpAttr, ← List.append_nil (beU32 0)]
    exact (decodes_u32 (by decide) _).bind (.pure ())
  | some bytes =>
    refine (decodes_u32 (by decide) _).bind ?_
    have hBytes := decodes_fixed bytes "truncated NFSACL post_op_attr"
    rw [h bytes rfl] at hBytes
    exact hBytes.map

/-- A GETACL reply. -/
def encodeReply (attrs : Option (List UInt8)) (access default : List UInt8) : List UInt8 :=
  beU32 0 ++ (postOpAttr attrs ++ (beU32 fullMask ++ (access ++ default)))

theorem decodes_lists {acl : PosixAcl} {access default : List UInt8}
    (hAttrs : ∀ bytes ∈ attrs, bytes.length = 84)
    (hAccess : encodeAcl acl.access false = .ok access)
    (hDefault : encodeAcl acl.default true = .ok default) :
    Decodes decodeLists (encodeReply attrs access default) acl := by
  refine decodes_status.bind ((decodes_skipAttrs hAttrs).bind ?_)
  refine (decodes_u32 (by decide) _).bind ?_
  rw [if_neg (not_not_intro rfl)]
  exact (decodes_posixAcl hAccess).bind (decodes_posixAcl hDefault).map

/-- The reply is read as a whole: neither a part of it nor anything behind it is taken. -/
theorem decodeGet_reply {acl : PosixAcl} {access default : List UInt8}
    (hAttrs : ∀ bytes ∈ attrs, bytes.length = 84)
    (hAccess : encodeAcl acl.access false = .ok access)
    (hDefault : encodeAcl acl.default true = .ok default) :
    decodeGet (encodeReply attrs access default) = .ok (acl, []) ∧
      (∀ front, front <+: encodeReply attrs access default →
        front ≠ encodeReply attrs access default → ∃ e, decodeGet front = .error e) ∧
      ∀ behind, behind ≠ [] →
        ∃ e, decodeGet (encodeReply attrs access default ++ behind) = .error e := by
  have hLists := decodes_lists hAttrs hAccess hDefault
  refine ⟨?_, fun front hPrefix hNe => ?_, fun behind hBehind => ?_⟩
  · have hRead := hLists.read []
    rw [List.append_nil] at hRead
    rw [decodeGet, Reader.bind_apply, hRead, ok_bind]
    rfl
  · obtain ⟨e, he⟩ := hLists.short front hPrefix hNe
    rw [decodeGet, Reader.bind_apply, he]
    exact ⟨e, rfl⟩
  · rw [decodeGet, Reader.bind_apply, hLists.read, ok_bind]
    show ∃ e, (ensureEmpty behind >>= _) = .error e
    have hNotEmpty : ¬ behind.isEmpty = true := fun h => hBehind (List.isEmpty_iff.mp h)
    rw [ensureEmpty, if_neg hNotEmpty]
    exact ⟨_, rfl⟩

/-! ## All versions -/

/-- The round trips of the NFSv4 ACLs within the decoders' limits, of the NFSv4.1 ACLs and of the
POSIX ACLs, with the skips and with counts out of range. -/
theorem acl_roundTrips :
    (∀ acl : Nfs4.Acl, Nfs4.Encodable acl.aces →
      Decodes Nfs4.decodeAcl (Nfs4.encodeAcl acl) acl ∧
      Decodes Nfs4.skipAcl (Nfs4.encodeAcl acl) () ∧
      ((Nfs4.encodeAcl acl).length < 2 ^ 32 →
        Decodes Nfs4.decodeGetattrAcl (Nfs4.encodeFattr4 (Nfs4.encodeSetattrAcl acl)) acl)) ∧
    (∀ acl : Nfs4.NfsAcl41, Nfs4.Encodable acl.aces →
      Decodes Nfs4.decodeAcl41 (Nfs4.encodeAcl41 acl) acl ∧
      Decodes Nfs4.skipAcl41 (Nfs4.encodeAcl41 acl) () ∧
      ∀ attr, attr = Nfs4.attrDacl ∨ attr = Nfs4.attrSacl →
        (Nfs4.encodeAcl41 acl).length < 2 ^ 32 →
        Decodes (Nfs4.decodeGetattrAcl41 attr)
          (Nfs4.encodeFattr4 (Nfs4.encodeSetattrAcl41 acl attr)) acl) ∧
    (∀ count, Nfs4.maxAces < count → count < 2 ^ 32 → ∀ flags, flags < 2 ^ 32 → ∀ rest,
      (∃ e, Nfs4.decodeAcl (beU32 count ++ rest) = .error e) ∧
      (∃ e, Nfs4.skipAcl (beU32 count ++ rest) = .error e) ∧
      (∃ e, Nfs4.decodeAcl41 (beU32 flags ++ (beU32 count ++ rest)) = .error e) ∧
      ∃ e, Nfs4.skipAcl41 (beU32 flags ++ (beU32 count ++ rest)) = .error e) ∧
    (∀ entries isDefault code, encodeAcl entries isDefault = .ok code →
      Decodes (decodeAcl isDefault) code entries) ∧
    (∀ count arrayCount, count < 2 ^ 32 → arrayCount < 2 ^ 32 →
      maxEntries < count ∨ count ≠ arrayCount → ∀ isDefault rest,
      ∃ e, decodeAcl isDefault (beU32 count ++ (beU32 arrayCount ++ rest)) = .error e) ∧
    ∀ (acl : PosixAcl) attrs access default, (∀ bytes ∈ attrs, bytes.length = 84) →
      encodeAcl acl.access false = .ok access → encodeAcl acl.default true = .ok default →
      decodeGet (encodeReply attrs access default) = .ok (acl, []) ∧
      ∀ front, front <+: encodeReply attrs access default →
        front ≠ encodeReply attrs access default → ∃ e, decodeGet front = .error e := by
  refine ⟨fun acl h => ?_, fun acl h => ?_, fun count hMany hLt flags hFlags rest => ?_,
    fun entries isDefault code h => decodes_posixAcl h,
    fun count arrayCount hCount hArray h isDefault rest =>
      decodeAcl_refused hCount hArray h isDefault rest,
    fun acl attrs access default hAttrs hAccess hDefault => ?_⟩
  · exact ⟨Nfs4.decodes_acl h, Nfs4.decodes_skipAcl h, Nfs4.decodes_getattrAcl h⟩
  · exact ⟨Nfs4.decodes_acl41 h, Nfs4.decodes_skipAcl41 h, fun attr hAttr hLength =>
      Nfs4.decodes_getattrAcl41 hAttr h hLength⟩
  · exact ⟨Nfs4.decodeAcl_refused hMany hLt rest, Nfs4.skipAcl_refused hMany hLt rest,
      Nfs4.decodeAcl41_refused hMany hLt hFlags rest, Nfs4.skipAcl41_refused hMany hLt flags rest⟩
  · obtain ⟨hGet, hFront, -⟩ := decodeGet_reply hAttrs hAccess hDefault
    exact ⟨hGet, hFront⟩

/-- Owner, group and others, and a default for the owner. -/
def modeAcl : PosixAcl where
  access := [⟨1, 0, 6⟩, ⟨4, 0, 4⟩, ⟨32, 0, 0⟩]
  default := [⟨1, 0, 7⟩]

/-- One entry for the owner, with read access. -/
def ownerAcl : Nfs4.Acl := ⟨[⟨.accessAllowed, 0, 1, ⟨[0x4f, 0x57, 0x4e, 0x45, 0x52, 0x40], rfl⟩⟩]⟩

/-- The reply with these lists is decoded, and so is the encoded owner's entry. -/
theorem acl_roundTrips_modeAcl :
    (∃ access default, encodeAcl modeAcl.access false = .ok access ∧
      encodeAcl modeAcl.default true = .ok default ∧
      decodeGet (encodeReply none access default) = .ok (modeAcl, [])) ∧
    Decodes Nfs4.decodeAcl (Nfs4.encodeAcl ownerAcl) ownerAcl := by
  obtain ⟨hNfs4, -, -, -, -, hPosix⟩ := acl_roundTrips
  refine ⟨⟨_, _, rfl, rfl, (hPosix modeAcl none _ _ nofun rfl rfl).1⟩, (hNfs4 ownerAcl ?_).1⟩
  refine ⟨by decide, fun ace hAce => ?_⟩
  obtain rfl := List.mem_singleton.mp hAce
  show 6 < 2 ^ 32
  decide

/-- The encoder of the NFSv4 ACLs does not know the decoders' limit. -/
theorem longAcl_not_decoded :
    ¬ ∀ acl : Nfs4.Acl, ∀ rest,
      Nfs4.decodeAcl (Nfs4.encodeAcl acl ++ rest) = .ok (acl, rest) := by
  intro h
  let ace : Nfs4.NfsAce := ⟨.accessAllowed, 0, 0, ⟨[], rfl⟩⟩
  have hRead := h ⟨List.replicate 8193 ace⟩ []
  have hCount : (List.replicate 8193 ace).length = 8193 := List.length_replicate
  rw [Nfs4.encodeAcl, hCount, List.append_assoc] at hRead
  obtain ⟨e, he⟩ := Nfs4.decodeAcl_refused (by decide : Nfs4.maxAces < 8193) (by decide)
    ((List.replicate 8193 ace).flatMap Nfs4.encodeNfsace4 ++ [])
  rw [he] at hRead
  cases hRead

end NfsRs.Nfs3.Acl
