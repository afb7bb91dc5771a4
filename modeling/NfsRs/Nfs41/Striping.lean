import Mathlib.Data.List.Nodup
import Mathlib.Data.Nat.ModEq
import Mathlib.Data.UInt
import NfsRs.Lib.ByteFile
import NfsRs.Nfs41.LayoutWire

/-!
# NfsRs — striping

A file layout spreads the bytes of a file over data servers in stripe units. The stripe table
of the device says which server has which stripe; the packing, dense or sparse, says where a
stripe stands in the file of its server. This module has the arithmetic
(`stripe_ds_index`, `ds_offset`, `split_into_stripes`) and the checks and lookups behind it
(`file_layout_stripe_count`, `file_layout_target`).

## Main results

- `Striping.chunks_tile` : the chunks of a range tile it.
- `Striping.cut_of_mem` : each chunk lies in one stripe unit.
-/

namespace NfsRs.Nfs41

/-! ## Stripe arithmetic -/

/-- The stripe-table index (not the physical data server) of an offset in the pattern. -/
def stripeDsIndex (offset stripeUnit firstStripeIndex stripeCount : Nat) : Nat :=
  (offset / stripeUnit + firstStripeIndex) % 2 ^ 64 % stripeCount

/-- The offset on the data server: dense files are compacted without gaps, sparse ones keep
the offsets of the file. -/
def dsOffset (fileOffset stripeUnit _firstStripeIndex stripeCount : Nat) (isDense : Bool) : Nat :=
  if isDense then
    fileOffset / stripeUnit / stripeCount * stripeUnit + fileOffset % stripeUnit
  else fileOffset

/-- A single stripe chunk. Its length is a `u32`. -/
structure StripeChunk where
  dsIndex : Nat
  fileOffset : Nat
  dsOffset : Nat
  length : Nat
  length_lt : length < 2 ^ 32
  deriving DecidableEq, Repr

section Split

variable (stripeUnit : Nat) (isDense : Bool) (firstStripeIndex stripeCount patternOffset : Nat)

/-- The chunk from `pos` to `chunkEnd`. -/
def chunkAt (pos chunkEnd : Nat) : StripeChunk :=
  let adjusted := pos - patternOffset
  { dsIndex := stripeDsIndex adjusted stripeUnit firstStripeIndex stripeCount
    fileOffset := pos
    dsOffset :=
      if isDense then dsOffset adjusted stripeUnit firstStripeIndex stripeCount true else pos
    length := (chunkEnd - pos) % 2 ^ 32
    length_lt := Nat.mod_lt _ (by decide) }

/-- The loop of `split_into_stripes`, with at most `rounds` more chunks: each one takes at
least a byte. -/
def splitFrom (stop : Nat) : (rounds pos : Nat) → List StripeChunk
  | 0, _ => []
  | rounds + 1, pos =>
    if pos < stop then
      let adjusted := pos - patternOffset
      let chunkEnd := min stop (satAdd64 pos (stripeUnit - adjusted % stripeUnit))
      chunkAt stripeUnit isDense firstStripeIndex stripeCount patternOffset pos chunkEnd ::
        splitFrom stop rounds chunkEnd
    else []

end Split

/-- Split a byte range into per-stripe chunks. -/
def splitIntoStripes (offset count stripeUnit : Nat) (isDense : Bool)
    (firstStripeIndex stripeCount patternOffset : Nat) : List StripeChunk :=
  if stripeUnit = 0 ∨ stripeCount = 0 ∨ offset < patternOffset then []
  else
    let stop := satAdd64 offset count
    splitFrom stripeUnit isDense firstStripeIndex stripeCount patternOffset stop (stop - offset)
      offset

/-! ## The device -/

/-- Dense packing needs a handle per stripe, sparse packing one per server or at most one. -/
def validHandles (device : DeviceInfo) (fhCount : Nat) (isDense : Bool) : Bool :=
  if isDense then decide (fhCount = device.stripeIndices.length)
  else decide (fhCount ≤ 1) || decide (fhCount = device.dsAddrs.length)

/-- The stripe table, not the list of handles or servers, defines the stripe count. -/
def fileLayoutStripeCount (device : DeviceInfo) (fhCount : Nat) (isDense : Bool)
    (firstStripeIndex : Nat) : Option Nat :=
  let count := device.stripeIndices.length
  if count < 2 ^ 32 then
    if count ≤ firstStripeIndex ∨ validHandles device fhCount isDense = false ∨
        device.stripeIndices.any (fun index => (device.dsAddrs[index]?).all List.isEmpty) = true
    then none
    else some count
  else none

/-- The handle of a stripe: dense packing has one per stripe, sparse packing the handle of the
open file, one for all servers, or one per server. -/
def stripeHandle (handles : List FileHandle) (openFh : FileHandle) (isDense : Bool)
    (stripeIndex physical : Nat) : Option FileHandle :=
  if isDense then handles[stripeIndex]?
  else
    match handles with
    | [] => some openFh
    | [handle] => some handle
    | _ => handles[physical]?

def fileLayoutTarget (device : DeviceInfo) (stripeIndex : Nat) (isDense : Bool)
    (handles : List FileHandle) (openFh : FileHandle) :
    Except NfsError (FileHandle × SocketAddr) :=
  let target : Option (FileHandle × SocketAddr) := do
    let physical ← device.stripeIndices[stripeIndex]?
    let addresses ← device.dsAddrs[physical]?
    let addr ← addresses.head?
    let fh ← stripeHandle handles openFh isDense stripeIndex physical
    some (fh, addr)
  match target with
  | some t => .ok t
  | none => .error (.rpc s!"invalid file-layout stripe {stripeIndex}")

/-! ## Accepted striping -/

/-- A decoded file layout with a device that `file_layout_stripe_count` accepts for it. -/
structure Striping where
  layout : FilesLayout
  device : DeviceInfo
  openFh : FileHandle
  stripeCount : Nat
  decoded : ∃ data, decodeFilesLayout data = .ok layout
  unit_ne : layout.stripeUnit ≠ 0
  accepted : fileLayoutStripeCount device layout.fhList.length layout.isDense
    layout.firstStripeIndex = some stripeCount

namespace Striping

variable (g : Striping)

def unit : Nat := g.layout.stripeUnit

/-- The stripe that a byte is in. -/
def index (x : Nat) : Nat :=
  stripeDsIndex (x - g.layout.patternOffset) g.unit g.layout.firstStripeIndex g.stripeCount

/-- The offset of a byte in the file of its server. -/
def position (x : Nat) : Nat :=
  if g.layout.isDense then
    dsOffset (x - g.layout.patternOffset) g.unit g.layout.firstStripeIndex g.stripeCount true
  else x

def target (stripeIndex : Nat) : Except NfsError (FileHandle × SocketAddr) :=
  fileLayoutTarget g.device stripeIndex g.layout.isDense g.layout.fhList g.openFh

def chunks (offset count : Nat) : List StripeChunk :=
  splitIntoStripes offset count g.unit g.layout.isDense g.layout.firstStripeIndex g.stripeCount
    g.layout.patternOffset

/-- A range to which the pattern applies, without overflow. -/
def InPattern (offset count : Nat) : Prop :=
  g.layout.patternOffset ≤ offset ∧ offset + count ≤ u64Max ∧ count < 2 ^ 32

variable {g}

theorem wire : g.layout.Wire := by
  obtain ⟨data, hData⟩ := g.decoded
  exact decodeFilesLayout_ok hData

/-- A stripe unit is at least 64 bytes, so that stripe numbers stay far below `2 ^ 64`. -/
theorem unit_bounds : 64 ≤ g.unit ∧ g.unit < 2 ^ 32 := by
  have hMod : g.unit % 64 = 0 := wire.unit_mod
  have hLt : g.unit < 2 ^ 32 := wire.unit_lt
  have hNe : g.unit ≠ 0 := g.unit_ne
  omega

/-- What `file_layout_stripe_count` has checked. -/
theorem accepted_iff : g.stripeCount = g.device.stripeIndices.length ∧
    g.layout.firstStripeIndex < g.stripeCount ∧
    (if g.layout.isDense then g.layout.fhList.length = g.stripeCount
      else g.layout.fhList.length ≤ 1 ∨ g.layout.fhList.length = g.device.dsAddrs.length) ∧
    ∀ index ∈ g.device.stripeIndices, ∃ addresses addr,
      g.device.dsAddrs[index]? = some addresses ∧ addresses.head? = some addr := by
  have hAccepted := g.accepted
  unfold fileLayoutStripeCount at hAccepted
  dsimp only at hAccepted
  split at hAccepted
  next =>
    split at hAccepted
    next => cases hAccepted
    next hChecks =>
      have hCount : g.stripeCount = g.device.stripeIndices.length :=
        (Option.some.inj hAccepted).symm
      simp only [not_or, Nat.not_le, Bool.not_eq_false, Bool.not_eq_true] at hChecks
      obtain ⟨hFirst, hHandles, hServers⟩ := hChecks
      refine ⟨hCount, by rw [hCount]; exact hFirst, ?_, fun index hIndex => ?_⟩
      · unfold validHandles at hHandles
        split
        next hDense =>
          rw [if_pos hDense, decide_eq_true_eq] at hHandles
          rw [hHandles, hCount]
        next hSparse =>
          rw [if_neg hSparse, Bool.or_eq_true, decide_eq_true_eq, decide_eq_true_eq] at hHandles
          exact hHandles
      -- every index names a server with an address
      · have hSome := List.any_eq_false.mp hServers index hIndex
        cases hAt : g.device.dsAddrs[index]? with
        | none => simp [hAt] at hSome
        | some addresses =>
          cases addresses with
          | nil => simp [hAt] at hSome
          | cons addr rest => exact ⟨addr :: rest, addr, rfl, rfl⟩
  next => cases hAccepted

theorem count_pos : 0 < g.stripeCount := by
  have hFirst := accepted_iff (g := g).2.1
  omega

theorem index_lt (x : Nat) : g.index x < g.stripeCount := Nat.mod_lt _ count_pos

/-- Every stripe of an accepted device has a target. -/
theorem target_ok {stripeIndex : Nat} (h : stripeIndex < g.stripeCount) :
    ∃ fh addr, g.target stripeIndex = .ok (fh, addr) ∧
      (g.layout.isDense = true → g.layout.fhList[stripeIndex]? = some fh) := by
  obtain ⟨hCount, -, hHandles, hServers⟩ := accepted_iff (g := g)
  have hLt : stripeIndex < g.device.stripeIndices.length := by
    rw [← hCount]
    exact h
  obtain ⟨addresses, addr, hAddresses, hAddr⟩ :=
    hServers g.device.stripeIndices[stripeIndex] (List.getElem_mem hLt)
  have hHandle : ∃ fh, stripeHandle g.layout.fhList g.openFh g.layout.isDense stripeIndex
      g.device.stripeIndices[stripeIndex] = some fh ∧
      (g.layout.isDense = true → g.layout.fhList[stripeIndex]? = some fh) := by
    unfold stripeHandle
    by_cases hDense : g.layout.isDense = true
    · rw [if_pos hDense] at hHandles ⊢
      have hIn : stripeIndex < g.layout.fhList.length := by omega
      exact ⟨_, List.getElem?_eq_getElem hIn, fun _ => List.getElem?_eq_getElem hIn⟩
    · rw [if_neg hDense] at hHandles ⊢
      have hPhysical := (List.getElem?_eq_some_iff.mp hAddresses).1
      split
      next => exact ⟨_, rfl, fun hIs => absurd hIs hDense⟩
      next => exact ⟨_, rfl, fun hIs => absurd hIs hDense⟩
      next hMany hOne =>
        -- more than one handle: there is one for every server
        have hEach : g.layout.fhList.length = g.device.dsAddrs.length := by
          refine hHandles.resolve_left fun hFew => ?_
          match hList : g.layout.fhList with
          | [] => exact hMany hList
          | [handle] => exact hOne handle hList
          | _ :: _ :: _ =>
            rw [hList] at hFew
            simp at hFew
        have hIn : g.device.stripeIndices[stripeIndex] < g.layout.fhList.length := by
          rw [hEach]
          exact hPhysical
        exact ⟨_, List.getElem?_eq_getElem hIn, fun hIs => absurd hIs hDense⟩
  obtain ⟨fh, hFh, hIs⟩ := hHandle
  refine ⟨fh, addr, ?_, hIs⟩
  unfold target fileLayoutTarget
  simp [List.getElem?_eq_getElem hLt, hAddresses, hAddr, hFh]

/-! ## Chunks -/

/-- A chunk as `split_into_stripes` cuts it: in one stripe unit, with the stripe and the
offset of its first byte. -/
structure Cut (g : Striping) (c : StripeChunk) : Prop where
  pattern : g.layout.patternOffset ≤ c.fileOffset
  inUnit : (c.fileOffset - g.layout.patternOffset) % g.unit + c.length ≤ g.unit
  index_eq : c.dsIndex = g.index c.fileOffset
  offset_eq : c.dsOffset = g.position c.fileOffset

/-- The loop tiles what is left of the range with chunks of one unit each. -/
theorem splitFrom_tiles {stop : Nat} (hStop : stop ≤ u64Max) (rounds : Nat) :
    ∀ pos, g.layout.patternOffset ≤ pos → pos ≤ stop → stop - pos ≤ rounds →
      Lib.Tiles StripeChunk.fileOffset StripeChunk.length pos
        (splitFrom g.unit g.layout.isDense g.layout.firstStripeIndex g.stripeCount
          g.layout.patternOffset stop rounds pos) stop ∧
      ∀ c ∈ splitFrom g.unit g.layout.isDense g.layout.firstStripeIndex g.stripeCount
          g.layout.patternOffset stop rounds pos, g.Cut c := by
  induction rounds with
  | zero =>
    intro pos _ hLe hRounds
    obtain rfl : pos = stop := by omega
    exact ⟨.nil pos, nofun⟩
  | succ rounds ih =>
    intro pos hPattern hLe hRounds
    unfold splitFrom
    by_cases hMore : pos < stop
    · rw [if_pos hMore]
      dsimp only
      obtain ⟨hSmall, hLarge⟩ := unit_bounds (g := g)
      have hInUnit : (pos - g.layout.patternOffset) % g.unit < g.unit := Nat.mod_lt _ (by omega)
      generalize hEnd : min stop (satAdd64 pos
        (g.unit - (pos - g.layout.patternOffset) % g.unit)) = chunkEnd
      -- the chunk takes a byte at least and a stripe unit at most
      have hBounds : pos < chunkEnd ∧ chunkEnd ≤ stop ∧
          chunkEnd - pos ≤ g.unit - (pos - g.layout.patternOffset) % g.unit := by
        rw [← hEnd]
        unfold satAdd64
        unfold u64Max at hStop ⊢
        omega
      obtain ⟨hPos, hIn, hLen⟩ := hBounds
      have hLength : (chunkEnd - pos) % 2 ^ 32 = chunkEnd - pos := Nat.mod_eq_of_lt (by omega)
      obtain ⟨hTiles, hCuts⟩ := ih chunkEnd (by omega) hIn (by omega)
      constructor
      · refine .cons rfl ?_ ?_
        · show 0 < (chunkEnd - pos) % 2 ^ 32
          omega
        · have hNext : pos + (chunkEnd - pos) % 2 ^ 32 = chunkEnd := by omega
          show Lib.Tiles _ _ (pos + (chunkEnd - pos) % 2 ^ 32) _ _
          rw [hNext]
          exact hTiles
      · intro c hc
        rcases List.mem_cons.mp hc with rfl | hRest
        · refine ⟨hPattern, ?_, rfl, rfl⟩
          show (pos - g.layout.patternOffset) % g.unit + (chunkEnd - pos) % 2 ^ 32 ≤ g.unit
          omega
        · exact hCuts c hRest
    · rw [if_neg hMore]
      obtain rfl : pos = stop := by omega
      exact ⟨.nil pos, nofun⟩

theorem chunks_eq {offset count : Nat} (h : g.InPattern offset count) :
    g.chunks offset count = splitFrom g.unit g.layout.isDense g.layout.firstStripeIndex
      g.stripeCount g.layout.patternOffset (offset + count) count offset := by
  obtain ⟨hPattern, hFits, -⟩ := h
  have hUnit := unit_bounds (g := g).1
  have hCount := count_pos (g := g)
  have hStop : satAdd64 offset count = offset + count := Nat.min_eq_left hFits
  unfold chunks splitIntoStripes
  rw [if_neg (by omega)]
  dsimp only
  rw [hStop, Nat.add_sub_cancel_left]

/-- **Partition.** The chunks of a range tile it in order. -/
theorem chunks_tile {offset count : Nat} (h : g.InPattern offset count) :
    Lib.Tiles StripeChunk.fileOffset StripeChunk.length offset (g.chunks offset count)
      (offset + count) := by
  rw [chunks_eq h]
  exact (splitFrom_tiles h.2.1 count offset h.1 (by omega) (by omega)).1

theorem cut_of_mem {offset count : Nat} (h : g.InPattern offset count) {c : StripeChunk}
    (hc : c ∈ g.chunks offset count) : g.Cut c := by
  rw [chunks_eq h] at hc
  exact (splitFrom_tiles h.2.1 count offset h.1 (by omega) (by omega)).2 c hc

/-- Inside a stripe unit the quotient stays and the remainder counts on. -/
theorem div_mod_add {a u k : Nat} (h : a % u + k < u) :
    (a + k) / u = a / u ∧ (a + k) % u = a % u + k := by
  have hSplit : a + k = u * (a / u) + (a % u + k) := by
    have hDiv := Nat.div_add_mod a u
    omega
  constructor
  · rw [hSplit, Nat.mul_add_div (by omega), Nat.div_eq_of_lt h, Nat.add_zero]
  · rw [hSplit, Nat.mul_add_mod, Nat.mod_eq_of_lt h]

/-- The bytes of a chunk are in its stripe, one behind the other. -/
theorem Cut.byte {c : StripeChunk} (h : g.Cut c) {k : Nat} (hk : k < c.length) :
    g.index (c.fileOffset + k) = c.dsIndex ∧ g.position (c.fileOffset + k) = c.dsOffset + k := by
  have hPattern := h.pattern
  have hUnit := h.inUnit
  have hAdd : c.fileOffset + k - g.layout.patternOffset =
      c.fileOffset - g.layout.patternOffset + k := by omega
  obtain ⟨hDiv, hMod⟩ := div_mod_add (a := c.fileOffset - g.layout.patternOffset) (u := g.unit)
    (k := k) (by omega)
  rw [h.index_eq, h.offset_eq]
  constructor
  · unfold index stripeDsIndex
    rw [hAdd, hDiv]
  · unfold position dsOffset
    split
    next =>
      rw [if_pos rfl, if_pos rfl, hAdd, hDiv, hMod]
      omega
    next => rfl

/-! ## No two bytes in one place -/

/-- Stripe numbers do not overflow. -/
theorem index_eq_mod {x : Nat} (hx : x ≤ u64Max) : g.index x =
    ((x - g.layout.patternOffset) / g.unit + g.layout.firstStripeIndex) % g.stripeCount := by
  have hUnit := unit_bounds (g := g).1
  have hFirst : g.layout.firstStripeIndex < 2 ^ 32 := wire.first_lt
  have hDiv : (x - g.layout.patternOffset) / g.unit ≤ (x - g.layout.patternOffset) / 64 :=
    Nat.div_le_div_left hUnit (by decide)
  unfold u64Max at hx
  unfold index stripeDsIndex
  rw [Nat.mod_eq_of_lt (a := _ + _) (by omega)]

end Striping

end NfsRs.Nfs41
