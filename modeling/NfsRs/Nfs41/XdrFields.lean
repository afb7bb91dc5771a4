import NfsRs.Lib.Reader
import NfsRs.Nfs41.LayoutWire

/-!
# NfsRs — XDR fields and their readers

Words, double words, and bytes with and without padding, as they stand on the wire, and the
functions that read them. Every read stands behind a check of the remaining length, so that a
code that is cut short is refused.

## Main results

- `decodes_u32`, `decodes_u64`, `decodes_fixed`, `decodes_padded` : what was written is read again,
  and no part of it is.
-/

namespace NfsRs.Nfs41

open Lib

/-! ## Fields -/

def beU64 (n : Nat) : List UInt8 := beU32 (n / 2 ^ 32) ++ beU32 (n % 2 ^ 32)

/-- A length-prefixed body with its padding. -/
def xdrBody (bytes : List UInt8) : List UInt8 :=
  beU32 bytes.length ++ (bytes ++ List.replicate (Rpc.pad4 bytes.length) 0)

/-- `get_u32` behind its length check. -/
def takeWord (message : String) : Reader NfsError UInt8 Nat := fun buf =>
  if buf.length < 4 then .error (.xdr message) else .ok (getU32 buf)

/-- `get_u64` behind its length check. -/
def takeDouble (message : String) : Reader NfsError UInt8 Nat := fun buf =>
  if buf.length < 8 then .error (.xdr message) else .ok (getU64 buf)

/-- `copy_to_slice` behind its length check. -/
def takeFixed (n : Nat) (message : String) : Reader NfsError UInt8 (List UInt8) := fun buf =>
  if buf.length < n then .error (.xdr message) else .ok (buf.take n, buf.drop n)

/-- A body of `len` bytes, with its padding. -/
def takePadded (len : Nat) (message : String) : Reader NfsError UInt8 (List UInt8) := fun buf =>
  if buf.length < padded len then .error (.xdr message)
  else .ok (buf.take len, buf.drop (padded len))

theorem beNat_append (front back : List UInt8) :
    Rpc.beNat (front ++ back) = Rpc.beNat front * 256 ^ back.length + Rpc.beNat back := by
  have hAcc : ∀ (bytes : List UInt8) (acc : Nat),
      bytes.foldl (fun acc b => acc * 256 + b.toNat) acc =
        acc * 256 ^ bytes.length + bytes.foldl (fun acc b => acc * 256 + b.toNat) 0 := by
    intro bytes
    induction bytes with
    | nil => simp
    | cons b rest ih =>
      intro acc
      rw [List.foldl_cons, List.foldl_cons, ih, ih (0 * 256 + b.toNat), List.length_cons,
        Nat.pow_succ', Nat.add_mul, Nat.mul_assoc, Nat.zero_mul, Nat.zero_add, Nat.add_assoc]
  rw [Rpc.beNat, List.foldl_append, hAcc]
  rfl

theorem getU64_beU64 {n : Nat} (hn : n < 2 ^ 64) (rest : List UInt8) :
    getU64 (beU64 n ++ rest) = (n, rest) := by
  have hTake : (beU64 n ++ rest).take 8 = beU32 (n / 2 ^ 32) ++ beU32 (n % 2 ^ 32) := rfl
  have hDrop : (beU64 n ++ rest).drop 8 = rest := rfl
  have hHigh : n / 2 ^ 32 < 2 ^ 32 := by omega
  have hLow : n % 2 ^ 32 < 2 ^ 32 := Nat.mod_lt _ (by decide)
  rw [getU64, hTake, hDrop, beNat_append, beNat_beU32 hHigh, beNat_beU32 hLow]
  have hPow : 256 ^ (beU32 (n % 2 ^ 32)).length = 2 ^ 32 := by
    show 256 ^ 4 = 2 ^ 32
    decide
  rw [hPow, Nat.div_add_mod']

/-- There is a word where one was written. -/
theorem not_short_beU32 (n : Nat) (rest : List UInt8) : ¬ (beU32 n ++ rest).length < 4 := by
  rw [List.length_append]
  exact Nat.not_lt.mpr (Nat.le_add_right 4 rest.length)

theorem decodes_u32 {n : Nat} (hn : n < 2 ^ 32) (message : String) :
    Decodes (takeWord message) (beU32 n) n :=
  decodes_of_length (fun _ h => ⟨_, if_pos h⟩) fun rest => by
    rw [takeWord, if_neg (not_short_beU32 n rest), getU32_beU32 hn]

theorem decodes_u64 {n : Nat} (hn : n < 2 ^ 64) (message : String) :
    Decodes (takeDouble message) (beU64 n) n :=
  decodes_of_length (fun _ h => ⟨_, if_pos h⟩) fun rest => by
    have hLength : ¬ (beU64 n ++ rest).length < 8 := by
      rw [List.length_append]
      exact Nat.not_lt.mpr (Nat.le_add_right 8 rest.length)
    rw [takeDouble, if_neg hLength, getU64_beU64 hn]

theorem decodes_fixed (bytes : List UInt8) (message : String) :
    Decodes (takeFixed bytes.length message) bytes bytes :=
  decodes_of_length (fun _ h => ⟨_, if_pos h⟩) fun rest => by
    have hLength : ¬ (bytes ++ rest).length < bytes.length := by simp
    rw [takeFixed, if_neg hLength, List.take_left, List.drop_left]

theorem decodes_padded (bytes : List UInt8) (message : String) :
    Decodes (takePadded bytes.length message)
      (bytes ++ List.replicate (Rpc.pad4 bytes.length) 0) bytes := by
  have hCode : (bytes ++ List.replicate (Rpc.pad4 bytes.length) (0 : UInt8)).length =
      padded bytes.length := by
    rw [List.length_append, List.length_replicate, padded]
  refine decodes_of_length (fun buf h => ⟨_, if_pos (hCode ▸ h)⟩) fun rest => ?_
  have hLength : ¬ (bytes ++ List.replicate (Rpc.pad4 bytes.length) 0 ++ rest).length <
      padded bytes.length := by
    rw [List.length_append, hCode]
    omega
  have hTake : (bytes ++ List.replicate (Rpc.pad4 bytes.length) 0 ++ rest).take bytes.length =
      bytes := by
    rw [List.append_assoc, List.take_left]
  rw [takePadded, if_neg hLength, hTake, List.drop_left' hCode]

end NfsRs.Nfs41
