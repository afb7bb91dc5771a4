import Mathlib.Data.Nat.Digits.Lemmas
import NfsRs.Nfs4.Acl
import NfsRs.Nfs41.Requests

/-!
# NfsRs — the attributes of a SETATTR

`encode_setattr` writes the attributes to be changed behind a bitmap of their numbers. Nothing in
the values says where one ends and the next begins: the server takes them off in the order of
their numbers, as the bitmap has them. `readSettable` reads the attributes that a client may set
this way; owners are text, which `encode_setattr` makes of the decimal number.

## Main results

- `parseU32_decimal` : the number of an owner comes back from its text.
- `setattr_read_back` : the server reads exactly the changes that were asked for.
-/

namespace NfsRs.Nfs4

open Lib
open NfsRs.Nfs41 (beU32 beU64 xdrBody Wire)

/-! ## Attributes -/

structure Time where
  seconds : UInt32
  nseconds : UInt32
  deriving DecidableEq

def bitmapHas (bitmap : List Nat) (attrNum : Nat) : Bool :=
  (bitmap[attrNum / 32]?.getD 0).testBit (attrNum % 32)

/-! ## Owners -/

/-- `str::parse::<u32>`, which takes a sign. -/
def parseU32 (bytes : List UInt8) : Option UInt32 :=
  -- `str::parse` takes a leading plus sign
  let digits := if bytes.head? = some 43 then bytes.tail else bytes
  if digits.isEmpty then none
  else (digits.foldlM (fun n b =>
    if 48 ≤ b ∧ b ≤ 57 ∧ n * 10 + (b.toNat - 48) < 2 ^ 32 then some (n * 10 + (b.toNat - 48))
    else none) 0).map UInt32.ofNat

def parseNumericOwner (s : Utf8) : UInt32 :=
  match parseU32 s.bytes with
  | some n => n
  | none =>
    -- the part of `user@domain` in front of the domain
    let name := s.bytes.takeWhile (· ≠ 64)
    match parseU32 name with
    | some n => n
    -- `root`, and `nobody` for every other name
    | none => if name = [114, 111, 111, 116] then 0 else 65534

/-! ## Encoding -/

/-- `u32::to_string`. -/
def decimal (n : UInt32) : List UInt8 :=
  if n = 0 then [48] else (Nat.digits 10 n.toNat).reverse.map fun d => UInt8.ofNat (48 + d)

/-- `settime4` with the time of the client. -/
def clientTime (t : Time) : List UInt8 :=
  beU32 1 ++ (beU64 t.seconds.toNat ++ beU32 t.nseconds.toNat)

/-- The words of the bitmap, for the attributes that are given. -/
def setattrWords (mode uid gid size atime mtime : Bool) : UInt32 × UInt32 :=
  let bit (present : Bool) (n : UInt32) : UInt32 := if present then 1 <<< n else 0
  (bit size 4, bit mode 1 ||| bit uid 4 ||| bit gid 5 ||| bit atime 16 ||| bit mtime 22)

/-- Words that are zero are left out at the end. -/
def setattrMask (words : UInt32 × UInt32) : List UInt32 :=
  if words.2 ≠ 0 then [words.1, words.2] else if words.1 ≠ 0 then [words.1] else []

/-- The value of an attribute, if it is given. -/
def given {α : Type} (encode : α → List UInt8) : Option α → List UInt8
  | some value => encode value
  | none => []

def encodeSetattr (mode uid gid : Option UInt32) (size : Option UInt64)
    (atime mtime : Option Time) : List UInt32 × List UInt8 :=
  (setattrMask (setattrWords mode.isSome uid.isSome gid.isSome size.isSome atime.isSome
      mtime.isSome),
    given (fun value => beU64 value.toNat) size ++ (given (fun value => beU32 value.toNat) mode ++
      (given (fun value => xdrBody (decimal value)) uid ++
        (given (fun value => xdrBody (decimal value)) gid ++
          (given clientTime atime ++ given clientTime mtime)))))

/-! ## Reading -/

/-- The attributes a client may set. A time is that of the client or of the server. -/
structure Settable where
  size : Option UInt64
  mode : Option UInt32
  owner : Option (List UInt8)
  ownerGroup : Option (List UInt8)
  timeAccess : Option ((UInt64 × UInt32) ⊕ Unit)
  timeModify : Option ((UInt64 × UInt32) ⊕ Unit)

def hasBit (mask : List UInt32) (attrNum : Nat) : Bool :=
  bitmapHas (mask.map UInt32.toNat) attrNum

/-- The attributes of `Settable` by their numbers. -/
def settable : List Nat := [4, 33, 36, 37, 48, 54]

/-- Nothing else is to be set. -/
def onlySettable (mask : List UInt32) : Bool :=
  decide (mask.length ≤ 2) && (List.range 64).all fun n => !hasBit mask n || settable.contains n

/-- An attribute that is there if its bit is. -/
def readIf {α : Type} (present : Bool) (c : Wire α) : Reader NfsError UInt8 (Option α) :=
  if present then do
    let value ← c.read
    return some value
  else return none

open NfsRs.Nfs41.Wire in
def settime4 : Wire ((UInt64 × UInt32) ⊕ Unit) := .either flag (u64.pair u32) .unit

open NfsRs.Nfs41.Wire in
def readSettable (mask : List UInt32) : Reader NfsError UInt8 Settable :=
  if onlySettable mask then do
    let size ← readIf (hasBit mask 4) u64
    let mode ← readIf (hasBit mask 33) u32
    let owner ← readIf (hasBit mask 36) opaqueData
    let ownerGroup ← readIf (hasBit mask 37) opaqueData
    let timeAccess ← readIf (hasBit mask 48) settime4
    let timeModify ← readIf (hasBit mask 54) settime4
    return ⟨size, mode, owner, ownerGroup, timeAccess, timeModify⟩
  else throw (.xdr "attribute not settable")

/-! ## Reading back -/

/-- The bitmap has the attributes that are given, and no other. -/
theorem setattrMask_spec : ∀ mode uid gid size atime mtime : Bool,
    onlySettable (setattrMask (setattrWords mode uid gid size atime mtime)) = true ∧
      [4, 33, 36, 37, 48, 54].map (hasBit (setattrMask (setattrWords mode uid gid size atime
        mtime))) = [size, mode, uid, gid, atime, mtime] := by
  decide +kernel

theorem decodes_readIf {α : Type} {c : Wire α} {value : Option α} {present : Bool}
    {code : List UInt8} (hPresent : present = value.isSome)
    (hCode : code = given c.encode value) (hLength : code.length < 2 ^ 32) :
    Decodes (readIf present c) code value := by
  subst hPresent hCode
  cases value with
  | none => exact .pure none
  | some x => exact (c.decodes x hLength).map

/-- The digits of a number, read from the left. -/
theorem foldlM_digits (digits : List Nat) (hDigits : ∀ d ∈ digits, d < 10)
    (hLt : Nat.ofDigits 10 digits < 2 ^ 32) :
    (digits.reverse.map fun d => UInt8.ofNat (48 + d)).foldlM (fun n b =>
      if 48 ≤ b ∧ b ≤ 57 ∧ n * 10 + (b.toNat - 48) < 2 ^ 32 then some (n * 10 + (b.toNat - 48))
      else none) 0 = some (Nat.ofDigits 10 digits) := by
  -- the digits stand lowest first and the bytes highest first, so the head is folded last
  induction digits with
  | nil => rfl
  | cons d digits ih =>
    obtain ⟨hDigit, hRest⟩ := List.forall_mem_cons.mp hDigits
    rw [Nat.ofDigits_cons] at hLt ⊢
    have hByte : (UInt8.ofNat (48 + d)).toNat = 48 + d := by
      rw [UInt8.toNat_ofNat']
      exact Nat.mod_eq_of_lt (by omega)
    have hLow : (48 : UInt8) ≤ UInt8.ofNat (48 + d) := by
      rw [UInt8.le_iff_toNat_le, hByte]
      exact Nat.le_add_right 48 d
    have hHigh : UInt8.ofNat (48 + d) ≤ 57 := by
      rw [UInt8.le_iff_toNat_le, hByte]
      show 48 + d ≤ 57
      omega
    rw [List.reverse_cons, List.map_append, List.foldlM_append,
      ih hRest (by push_cast at hLt; omega)]
    simp only [Option.bind_eq_bind, Option.bind_some, List.map_cons, List.map_nil,
      List.foldlM_cons, List.foldlM_nil, hByte]
    rw [if_pos ⟨hLow, hHigh, by push_cast at hLt; omega⟩]
    simp
    omega

/-- The text of a number is a list of digits. -/
theorem decimal_ne_plus (n : UInt32) : (decimal n).head? ≠ some 43 := by
  intro hHead
  have hMem : (43 : UInt8) ∈ decimal n := List.mem_of_mem_head? hHead
  unfold decimal at hMem
  split at hMem
  · exact absurd hMem (by decide)
  · obtain ⟨d, hd, hEq⟩ := List.mem_map.mp hMem
    have hDigit : d < 10 := Nat.digits_lt_base (by decide) (List.mem_reverse.mp hd)
    have hNat := congrArg UInt8.toNat hEq
    rw [UInt8.toNat_ofNat', Nat.mod_eq_of_lt (by omega)] at hNat
    have hPlus : 48 + d = 43 := hNat
    omega

/-- **Owners.** The text of a number is parsed as that number. -/
theorem parseU32_decimal (n : UInt32) : parseU32 (decimal n) = some n := by
  by_cases hZero : n = 0
  · subst hZero
    rfl
  · have hDecimal : decimal n = (Nat.digits 10 n.toNat).reverse.map fun d =>
        UInt8.ofNat (48 + d) := if_neg hZero
    have hNat : n.toNat ≠ 0 := fun h => hZero (UInt32.toNat_inj.mp h)
    have hNonempty : (decimal n).isEmpty = false := by
      rw [hDecimal, List.isEmpty_eq_false_iff]
      simp [Nat.digits_ne_nil_iff_ne_zero.mpr hNat]
    have hFold := foldlM_digits (Nat.digits 10 n.toNat)
      (fun d hd => Nat.digits_lt_base (by decide) hd)
      (by rw [Nat.ofDigits_digits]; exact n.toNat_lt)
    rw [Nat.ofDigits_digits, ← hDecimal] at hFold
    simp only [parseU32, if_neg (decimal_ne_plus n), hNonempty, hFold]
    simp

theorem length_decimal_le (n : UInt32) : (decimal n).length ≤ 10 := by
  unfold decimal
  split
  · decide
  · rw [List.length_map, List.length_reverse, Nat.digits_length_le_iff (by decide)]
    have hLt := n.toNat_lt
    omega

theorem length_xdrBody_decimal (n : UInt32) : (xdrBody (decimal n)).length < 2 ^ 32 := by
  have hLength := length_decimal_le n
  have hPad : Rpc.pad4 (decimal n).length < 4 := Nat.mod_lt _ (by decide)
  rw [xdrBody, List.length_append, List.length_append, List.length_replicate]
  show 4 + _ < _
  omega

/-- The codes of the optional fields, as the server describes them. -/
theorem decodes_owner {present : Bool} {id : Option UInt32} (h : present = id.isSome) :
    Decodes (readIf present Wire.opaqueData) (given (fun n => xdrBody (decimal n)) id)
      (id.map decimal) := by
  cases id with
  | none => exact decodes_readIf h rfl (by decide)
  | some n => exact decodes_readIf h rfl (length_xdrBody_decimal n)

theorem decodes_time {present : Bool} {time : Option Time} (h : present = time.isSome) :
    Decodes (readIf present settime4) (given clientTime time)
      (time.map fun t => .inl (t.seconds.toUInt64, t.nseconds)) := by
  cases time with
  | none => exact decodes_readIf h rfl (by decide)
  | some t => exact decodes_readIf h rfl (by decide : 16 < 2 ^ 32)

theorem parseNumericOwner_decimal {n : UInt32} {s : Utf8} (h : s.bytes = decimal n) :
    parseNumericOwner s = n := by
  rw [parseNumericOwner, h, parseU32_decimal]

/-- **Changes.** Whatever attributes are given, the server reads exactly these with their values
and nothing else; and an owner that is set this way is the one that the client reads. -/
theorem setattr_read_back (mode uid gid : Option UInt32) (size : Option UInt64)
    (atime mtime : Option Time) :
    readSettable (encodeSetattr mode uid gid size atime mtime).1
        (encodeSetattr mode uid gid size atime mtime).2 =
      .ok (⟨size, mode, uid.map decimal, gid.map decimal,
        atime.map fun t => .inl (t.seconds.toUInt64, t.nseconds),
        mtime.map fun t => .inl (t.seconds.toUInt64, t.nseconds)⟩, []) ∧
    ∀ (n : UInt32) (s : Utf8), s.bytes = decimal n → parseNumericOwner s = n := by
  refine ⟨?_, fun n s => parseNumericOwner_decimal⟩
  obtain ⟨hOnly, hBits⟩ := setattrMask_spec mode.isSome uid.isSome gid.isSome size.isSome
    atime.isSome mtime.isSome
  simp only [List.map_cons, List.map_nil, List.cons.injEq, and_true] at hBits
  obtain ⟨hSize, hMode, hUid, hGid, hAtime, hMtime⟩ := hBits
  -- one reader for each attribute, in the order of their numbers, which is that of the values
  have hSizeRead := decodes_readIf (c := Wire.u64) hSize rfl (by
    cases size with
    | none => decide
    | some value => exact (by decide : 8 < 2 ^ 32))
  have hModeRead := decodes_readIf (c := Wire.u32) hMode rfl (by
    cases mode with
    | none => decide
    | some value => exact (by decide : 4 < 2 ^ 32))
  have hAll : Decodes (readSettable (encodeSetattr mode uid gid size atime mtime).1)
      (encodeSetattr mode uid gid size atime mtime).2
      ⟨size, mode, uid.map decimal, gid.map decimal,
        atime.map fun t => .inl (t.seconds.toUInt64, t.nseconds),
        mtime.map fun t => .inl (t.seconds.toUInt64, t.nseconds)⟩ := by
    rw [readSettable, encodeSetattr, if_pos hOnly]
    exact hSizeRead.bind (hModeRead.bind ((decodes_owner hUid).bind ((decodes_owner hGid).bind
      ((decodes_time hAtime).bind (decodes_time hMtime).map))))
  have hRead := hAll.read []
  rwa [List.append_nil] at hRead

end NfsRs.Nfs4
