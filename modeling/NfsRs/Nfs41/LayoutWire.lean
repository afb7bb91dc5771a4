import NfsRs.Nfs41.Layout
import NfsRs.Rpc.Transport

/-!
# NfsRs — layouts on the wire

A LAYOUTGET reply grants segments of a file, each with the mode it may be used in and the
pattern after which its bytes are spread over data servers. This module has the byte buffers
that the parsers of the crate read from, the layout with its segments, and
`decode_layoutget_response` with `decode_files_layout`, error paths included.

`usize` has 64 bits, so lengths read from a `u32` overflow nowhere.

## Main results

- `decodeFilesLayout_ok` : what a decoded file layout is made of; its stripe unit is a
  multiple of 64 below `2 ^ 32`.
-/

namespace NfsRs.Nfs41

/-! ## Byte buffers -/

/-- `u32::to_be_bytes`. -/
def beU32 (n : Nat) : List UInt8 :=
  [UInt8.ofNat (n / 2 ^ 24), UInt8.ofNat (n / 2 ^ 16), UInt8.ofNat (n / 2 ^ 8), UInt8.ofNat n]

/-- `Buf::get_u32`, behind a length check. -/
def getU32 (buf : List UInt8) : Nat × List UInt8 := (Rpc.beNat (buf.take 4), buf.drop 4)

/-- `Buf::get_u64`, behind a length check. -/
def getU64 (buf : List UInt8) : Nat × List UInt8 := (Rpc.beNat (buf.take 8), buf.drop 8)

def padded (len : Nat) : Nat := len + Rpc.pad4 len

theorem beNat_lt (bytes : List UInt8) : Rpc.beNat bytes < 256 ^ bytes.length := by
  -- the accumulator makes up for the digits that are left
  have hAcc : ∀ (bytes : List UInt8) (acc : Nat),
      bytes.foldl (fun acc b => acc * 256 + b.toNat) acc < (acc + 1) * 256 ^ bytes.length := by
    intro bytes
    induction bytes with
    | nil =>
      intro acc
      simp
    | cons b rest ih =>
      intro acc
      have hByte : b.toNat < 256 := b.toNat_lt
      have hRest := ih (acc * 256 + b.toNat)
      have hStep : (acc * 256 + b.toNat + 1) * 256 ^ rest.length ≤
          (acc + 1) * 256 * 256 ^ rest.length := Nat.mul_le_mul_right _ (by omega)
      rw [List.foldl_cons, List.length_cons, Nat.pow_succ']
      calc rest.foldl (fun acc b => acc * 256 + b.toNat) (acc * 256 + b.toNat)
          < (acc * 256 + b.toNat + 1) * 256 ^ rest.length := hRest
        _ ≤ (acc + 1) * 256 * 256 ^ rest.length := hStep
        _ = (acc + 1) * (256 * 256 ^ rest.length) := Nat.mul_assoc ..
  have hZero := hAcc bytes 0
  rw [Nat.zero_add, Nat.one_mul] at hZero
  exact hZero

theorem beNat_beU32 {n : Nat} (hn : n < 2 ^ 32) : Rpc.beNat (beU32 n) = n := by
  simp only [Rpc.beNat, beU32, List.foldl_cons, List.foldl_nil, UInt8.toNat_ofNat']
  omega

theorem getU32_beU32 {n : Nat} (hn : n < 2 ^ 32) (rest : List UInt8) :
    getU32 (beU32 n ++ rest) = (n, rest) := by
  have hTake : (beU32 n ++ rest).take 4 = beU32 n := rfl
  have hDrop : (beU32 n ++ rest).drop 4 = rest := rfl
  rw [getU32, hTake, hDrop, beNat_beU32 hn]

/-- A word that was read is written back as it stood. -/
theorem beU32_getU32 {buf : List UInt8} (h : ¬ buf.length < 4) :
    beU32 (getU32 buf).1 ++ (getU32 buf).2 = buf := by
  match buf, h with
  | w :: x :: y :: z :: rest, _ =>
    have hw := w.toNat_lt
    have hx := x.toNat_lt
    have hy := y.toNat_lt
    have hz := z.toNat_lt
    have hValue : (getU32 (w :: x :: y :: z :: rest)).1 =
        ((w.toNat * 256 + x.toNat) * 256 + y.toNat) * 256 + z.toNat := by
      simp [getU32, Rpc.beNat]
    have hRest : (getU32 (w :: x :: y :: z :: rest)).2 = rest := rfl
    rw [hValue, hRest, beU32]
    simp only [List.cons_append, List.nil_append, List.cons.injEq, and_true]
    refine ⟨?_, ?_, ?_, ?_⟩ <;>
      · rw [← UInt8.toNat_inj, UInt8.toNat_ofNat']
        omega
  | [], h | [_], h | [_, _], h | [_, _, _], h => simp at h

theorem getU32_lt (buf : List UInt8) : (getU32 buf).1 < 2 ^ 32 := by
  have hLt := beNat_lt (buf.take 4)
  have hLen : (buf.take 4).length ≤ 4 := List.length_take_le 4 buf
  have hPow : 256 ^ (buf.take 4).length ≤ 256 ^ 4 := Nat.pow_le_pow_right (by decide) hLen
  show Rpc.beNat (buf.take 4) < 2 ^ 32
  omega

theorem getU64_lt (buf : List UInt8) : (getU64 buf).1 < 2 ^ 64 := by
  have hLt := beNat_lt (buf.take 8)
  have hLen : (buf.take 8).length ≤ 8 := List.length_take_le 8 buf
  have hPow : 256 ^ (buf.take 8).length ≤ 256 ^ 8 := Nat.pow_le_pow_right (by decide) hLen
  show Rpc.beNat (buf.take 8) < 2 ^ 64
  omega

/-! ## Layouts -/

inductive IoMode where
  | read | readWrite
  deriving DecidableEq, Repr

inductive LayoutType where
  | nfsV41Files | osd2Objects | blockVolume
  deriving DecidableEq, Repr

/-- `nfsv4_1_file_layout4`. -/
structure FilesLayout where
  deviceId : List UInt8
  stripeUnit : Nat
  isDense : Bool
  commitThruMds : Bool
  firstStripeIndex : Nat
  patternOffset : Nat
  fhList : List FileHandle
  deriving DecidableEq, Repr

inductive LayoutContent where
  | files (layout : FilesLayout)
  /-- Content of an unsupported layout type. -/
  | opaqueBytes (data : List UInt8)
  deriving DecidableEq, Repr

structure LayoutSegment where
  offset : Nat
  length : Nat
  iomode : IoMode
  layoutType : LayoutType
  content : LayoutContent
  deriving DecidableEq, Repr

def u64Max : Nat := 2 ^ 64 - 1

/-- `u64::saturating_add`. -/
def satAdd64 (a b : Nat) : Nat := min (a + b) u64Max

namespace LayoutSegment

/-- A segment of length `u64::MAX`, or one that ends past the last offset, has no end. -/
def covers (s : LayoutSegment) (offset : Nat) : Bool :=
  decide (s.offset ≤ offset) &&
    (decide (s.length = u64Max) || decide (u64Max < s.offset + s.length) ||
      decide (offset < s.offset + s.length))

/-- The end of a segment where segments are compared. -/
def stop (s : LayoutSegment) : Nat :=
  if s.length = u64Max then u64Max else satAdd64 s.offset s.length

/-- `layout_segments_overlap`. -/
def overlaps (left right : LayoutSegment) : Bool :=
  decide (left.offset < right.stop) && decide (right.offset < left.stop)

end LayoutSegment

/-- A granted layout with its segments. -/
structure MappedLayout extends Layout where
  segments : List LayoutSegment
  deriving DecidableEq, Repr

/-- Resolved pNFS device: the stripe table and the address lists of the data servers. -/
structure DeviceInfo where
  stripeIndices : List Nat
  dsAddrs : List (List SocketAddr)
  deriving DecidableEq, Repr

/-! ## Decoding -/

/-- `nfl_util` flag bits. -/
def nfl4UflgDense : Nat := 0x00000001
def nfl4UflgCommitThruMds : Nat := 0x00000002
def nfl4UflgStripeUnitSizeMask : Nat := 0xFFFFFFC0

/-- The file handles of a file layout. -/
def decodeFhList : Nat → List UInt8 → Except NfsError (List FileHandle)
  | 0, _ => .ok []
  | n + 1, buf =>
    if buf.length < 4 then .error (.xdr "files_layout fh truncated")
    else
      let (len, buf) := getU32 buf
      if buf.length < padded len then .error (.xdr "files_layout fh data truncated")
      else do
        let rest ← decodeFhList n (buf.drop (padded len))
        .ok (buf.take len :: rest)

def decodeFilesLayout (buf : List UInt8) : Except NfsError FilesLayout :=
  if buf.length < 16 then .error (.xdr "files_layout deviceid truncated")
  else
    let deviceId := buf.take 16
    let buf := buf.drop 16
    if buf.length < 4 then .error (.xdr "files_layout nfl_util truncated")
    else
      let (nflUtil, buf) := getU32 buf
      if buf.length < 4 then .error (.xdr "files_layout first_stripe_index truncated")
      else
        let (firstStripeIndex, buf) := getU32 buf
        if buf.length < 8 then .error (.xdr "files_layout pattern_offset truncated")
        else
          let (patternOffset, buf) := getU64 buf
          if buf.length < 4 then .error (.xdr "files_layout fh_list length truncated")
          else
            let (numFhs, buf) := getU32 buf
            if numFhs > 4096 then .error (.xdr s!"files_layout has {numFhs} FHs, max 4096")
            else do
              let fhList ← decodeFhList numFhs buf
              .ok { deviceId := deviceId
                    stripeUnit := nflUtil &&& nfl4UflgStripeUnitSizeMask
                    isDense := decide (nflUtil &&& nfl4UflgDense ≠ 0)
                    commitThruMds := decide (nflUtil &&& nfl4UflgCommitThruMds ≠ 0)
                    firstStripeIndex := firstStripeIndex
                    patternOffset := patternOffset
                    fhList := fhList }

/-- A mode that is neither READ nor RW is taken for READ. -/
def IoMode.ofWire : Nat → IoMode
  | 2 => .readWrite
  | _ => .read

def LayoutType.ofWire : Nat → LayoutType
  | 2 => .osd2Objects
  | 3 => .blockVolume
  | _ => .nfsV41Files

/-- The content of a segment of the layout type. -/
def decodeContent (layoutType : LayoutType) (data : List UInt8) :
    Except NfsError LayoutContent :=
  if layoutType = .nfsV41Files then do
    let layout ← decodeFilesLayout data
    .ok (.files layout)
  else .ok (.opaqueBytes data)

/-- The segments of a LAYOUTGET reply. -/
def decodeSegments : Nat → List UInt8 → Except NfsError (List LayoutSegment)
  | 0, _ => .ok []
  | n + 1, buf =>
    if buf.length < 24 then .error (.xdr "layout4 segment header truncated")
    else
      let (offset, buf) := getU64 buf
      let (length, buf) := getU64 buf
      let (iomode, buf) := getU32 buf
      let (layoutType, buf) := getU32 buf
      if buf.length < 4 then .error (.xdr "layout_content length truncated")
      else
        let (len, buf) := getU32 buf
        if buf.length < padded len then .error (.xdr "layout_content data truncated")
        else do
          let content ← decodeContent (.ofWire layoutType) (buf.take len)
          let rest ← decodeSegments n (buf.drop (padded len))
          .ok ({ offset := offset, length := length, iomode := .ofWire iomode
                 layoutType := .ofWire layoutType, content := content } :: rest)

def decodeLayoutgetResponse (buf : List UInt8) : Except NfsError MappedLayout :=
  if buf.length < 4 then .error (.xdr "LAYOUTGET return_on_close truncated")
  else
    let (returnOnClose, buf) := getU32 buf
    if buf.length < 16 then .error (.xdr "LAYOUTGET stateid truncated")
    else
      let stateid := Rpc.beNat (buf.take 16)
      let buf := buf.drop 16
      if buf.length < 4 then .error (.xdr "LAYOUTGET segments array truncated")
      else
        let (numSegments, buf) := getU32 buf
        if numSegments > 1024 then
          .error (.xdr s!"LAYOUTGET has {numSegments} segments, max 1024")
        else do
          let segments ← decodeSegments numSegments buf
          .ok { generation := 0, stateid := stateid
                returnOnClose := decide (returnOnClose ≠ 0), segments := segments }

/-! ## What a decoded file layout is made of -/

theorem stripeUnit_mod (nflUtil : Nat) : (nflUtil &&& nfl4UflgStripeUnitSizeMask) % 64 = 0 := by
  have hMod := Nat.and_mod_two_pow (a := nflUtil) (b := nfl4UflgStripeUnitSizeMask) (n := 6)
  rw [show (64 : Nat) = 2 ^ 6 from rfl, hMod,
    show nfl4UflgStripeUnitSizeMask % 2 ^ 6 = 0 from by decide, Nat.and_zero]

theorem stripeUnit_lt (nflUtil : Nat) : nflUtil &&& nfl4UflgStripeUnitSizeMask < 2 ^ 32 :=
  Nat.and_lt_two_pow nflUtil (by decide)

/-- A file layout as the decoder makes it. -/
structure FilesLayout.Wire (l : FilesLayout) : Prop where
  unit_mod : l.stripeUnit % 64 = 0
  unit_lt : l.stripeUnit < 2 ^ 32
  first_lt : l.firstStripeIndex < 2 ^ 32
  pattern_lt : l.patternOffset < 2 ^ 64

theorem decodeFilesLayout_ok {buf : List UInt8} {l : FilesLayout}
    (h : decodeFilesLayout buf = .ok l) : l.Wire := by
  unfold decodeFilesLayout at h
  -- every check but the last is a length, and the fields are read behind them
  repeat' first
    | (split at h; · cases h)
    | dsimp only at h
  obtain ⟨fhList, -, hl⟩ := Lib.bind_eq_ok_iff.mp h
  obtain rfl := Except.ok.inj hl
  exact ⟨stripeUnit_mod _, stripeUnit_lt _, getU32_lt _, getU64_lt _⟩

end NfsRs.Nfs41
