import NfsRs.Nfs41.LayoutWire

/-!
# NfsRs — the reply of READ_PLUS

READ_PLUS answers a range with extents of data and of holes. A server may answer a whole hole
although only a part of it was asked for, so a hole may begin in front of the range and end
behind it. `clip_read_plus` walks along the extents, checks that each begins where the one before
it ends, and cuts the holes to the range; data has to lie in the range.

A reply that says eof keeps saying so unless an extent was cut at its end. What is cut off in
front of the range has no part in that.

## Main results

- `clip_read_plus_exact` : what an accepted reply becomes, and which replies are refused.
- `eof_of_clipped_front` : eof is reported although the front of a hole was cut off.
-/

namespace NfsRs.Nfs41.ReadPlus

open NfsRs.Rpc (pad4)
open NfsRs.Nfs41 (getU32 getU64 u64Max)

inductive ReadPlusContent where
  | data (offset : Nat) (data : List UInt8)
  | hole (offset length : Nat)
  deriving DecidableEq, Repr

structure ReadPlusResult where
  eof : Bool
  contents : List ReadPlusContent
  deriving DecidableEq, Repr

/-! ## Decoding -/

def word (buf : List UInt8) : Except NfsError (Nat × List UInt8) :=
  if buf.length < 4 then .error (.xdr "NFSv4.2 u32 truncated") else .ok (getU32 buf)

def decodeU64 (buf : List UInt8) : Except NfsError (Nat × List UInt8) :=
  if buf.length < 8 then .error (.xdr "NFSv4.2 u64 truncated") else .ok (getU64 buf)

def decodeBool (buf : List UInt8) : Except NfsError (Bool × List UInt8) := do
  let (value, buf) ← word buf
  if value = 0 then return (false, buf)
  else if value = 1 then return (true, buf)
  else .error (.xdr "invalid NFSv4.2 XDR boolean")

/-- `opaque`. -/
def opaqueField (buf : List UInt8) : Except NfsError (List UInt8 × List UInt8) :=
  if buf.length < 4 then .error (.xdr "NFSv4.2 opaque length truncated")
  else
    let (len, buf) := getU32 buf
    if buf.length < len + pad4 len then .error (.xdr "NFSv4.2 opaque data truncated")
    else .ok (buf.take len, buf.drop (len + pad4 len))

def decodeExtent (buf : List UInt8) : Except NfsError (ReadPlusContent × List UInt8) := do
  let (kind, buf) ← word buf
  let (offset, buf) ← decodeU64 buf
  if kind = 0 then
    let (data, buf) ← opaqueField buf
    return (.data offset data, buf)
  else if kind = 1 then
    let (length, buf) ← decodeU64 buf
    return (.hole offset length, buf)
  else .error (.xdr "READ_PLUS unknown content kind")

def decodeExtents : Nat → List UInt8 → Except NfsError (List ReadPlusContent × List UInt8)
  | 0, buf => .ok ([], buf)
  | count + 1, buf => do
    let (extent, buf) ← decodeExtent buf
    let (rest, buf) ← decodeExtents count buf
    return (extent :: rest, buf)

def decodeReadPlus (buf : List UInt8) : Except NfsError (ReadPlusResult × List UInt8) := do
  let (eof, buf) ← decodeBool buf
  let (count, buf) ← word buf
  -- no extent has less than 16 bytes on the wire
  if count > 4096 ∨ count > buf.length / 16 then
    .error (.xdr "READ_PLUS excessive/truncated contents array")
  else
    let (contents, buf) ← decodeExtents count buf
    return ({ eof := eof, contents := contents }, buf)

/-! ## Clipping -/

namespace ReadPlusContent

def start : ReadPlusContent → Nat
  | .data offset _ => offset
  | .hole offset _ => offset

def length : ReadPlusContent → Nat
  | .data _ bytes => bytes.length
  | .hole _ length => length

def isData : ReadPlusContent → Bool
  | .data _ _ => true
  | .hole _ _ => false

/-- `extent_end`. -/
def stop (c : ReadPlusContent) : Nat := c.start + c.length

/-- The extent from `cursor` to `clippedEnd`. -/
def clip (cursor clippedEnd : Nat) : ReadPlusContent → ReadPlusContent
  | .data _ bytes => .data cursor bytes
  | .hole _ _ => .hole cursor (clippedEnd - cursor)

end ReadPlusContent

/-- The loop of `clip_read_plus` over the extents, for the range from `offset` to `stop`. -/
def clipExtents (offset stop : Nat) : (cursor : Nat) → (previousEnd : Option Nat) →
    (clippedEof : Bool) → List ReadPlusContent → Except NfsError ReadPlusResult
  | _, _, clippedEof, [] => .ok { eof := clippedEof, contents := [] }
  | cursor, previousEnd, clippedEof, extent :: rest =>
    if extent.stop > u64Max then .error (.xdr "READ_PLUS extent overflow")
    else if extent.length = 0 ∨ previousEnd.any (· != extent.start) ∨ extent.start > cursor ∨
        extent.stop ≤ cursor ∨ cursor = stop then
      .error (.xdr "READ_PLUS gaps, overlaps or zero progress")
    -- a hole may reach out of the range on both sides, data may not
    else if extent.isData ∧ (extent.start < offset ∨ extent.stop > stop) then
      .error (.xdr "READ_PLUS data outside requested range")
    else do
      let clippedEnd := min extent.stop stop
      let clipped ← clipExtents offset stop clippedEnd (some extent.stop)
        (clippedEof && decide (extent.stop ≤ stop)) rest
      return { clipped with contents := extent.clip cursor clippedEnd :: clipped.contents }

def clipReadPlus (reply : ReadPlusResult) (offset count : Nat) :
    Except NfsError ReadPlusResult :=
  if offset + count > u64Max then .error (.invalidInput "READ_PLUS range overflow")
  else do
    let clipped ← clipExtents offset (offset + count) offset none reply.eof reply.contents
    if clipped.contents.isEmpty ∧ reply.eof = false ∧ count ≠ 0 then
      .error (.xdr "READ_PLUS empty non-EOF response")
    else return clipped

/-! ## What extents say -/

namespace ReadPlusContent

def Covers (c : ReadPlusContent) (position : Nat) : Prop :=
  c.start ≤ position ∧ position < c.stop

instance (c : ReadPlusContent) (position : Nat) : Decidable (c.Covers position) :=
  inferInstanceAs (Decidable (_ ∧ _))

/-- The byte of a data extent; a hole has none. -/
def byte? (position : Nat) : ReadPlusContent → Option UInt8
  | .data offset bytes => bytes[position - offset]?
  | .hole _ _ => none

end ReadPlusContent

/-- A byte, a hole, or nothing. -/
def contentAt (contents : List ReadPlusContent) (position : Nat) : Option (Option UInt8) :=
  (contents.find? fun c => c.Covers position).map (·.byte? position)

/-- Each extent begins where the one before it ends, and none is empty. -/
def Contiguous : (start : Nat) → List ReadPlusContent → Prop
  | _, [] => True
  | start, c :: rest => c.start = start ∧ 0 < c.length ∧ Contiguous c.stop rest

/-- Two extents have a position in common. -/
def Overlap (contents : List ReadPlusContent) : Prop :=
  ¬ contents.Pairwise fun a b => a.stop ≤ b.start

/-- A position behind the offset or behind the beginning of an extent, and in front of the end of
one, that none covers. -/
def Gap (offset : Nat) (contents : List ReadPlusContent) : Prop :=
  ∃ position, (offset ≤ position ∨ ∃ c ∈ contents, c.start ≤ position) ∧
    (∃ c ∈ contents, position < c.stop) ∧ ∀ c ∈ contents, ¬ c.Covers position

/-! ## The walk along the extents -/

section walk

variable {offset stop cursor position : Nat} {previousEnd : Option Nat} {clippedEof : Bool}
  {extent : ReadPlusContent} {rest contents : List ReadPlusContent} {out : ReadPlusResult}

/-- What the checks of one extent establish. -/
structure Passes (offset stop cursor : Nat) (previousEnd : Option Nat)
    (extent : ReadPlusContent) : Prop where
  fits : extent.stop ≤ u64Max
  length_pos : 0 < extent.length
  follows : ∀ last, previousEnd = some last → last = extent.start
  start_le : extent.start ≤ cursor
  lt_stop : cursor < extent.stop
  within : cursor ≠ stop
  data : extent.isData = true → offset ≤ extent.start ∧ extent.stop ≤ stop

/-- One extent in front of the others. -/
theorem clipExtents_cons
    (h : clipExtents offset stop cursor previousEnd clippedEof (extent :: rest) = .ok out) :
    Passes offset stop cursor previousEnd extent ∧
      ∃ clipped, clipExtents offset stop (min extent.stop stop) (some extent.stop)
          (clippedEof && decide (extent.stop ≤ stop)) rest = .ok clipped ∧
        out = { clipped with
          contents := extent.clip cursor (min extent.stop stop) :: clipped.contents } := by
  unfold clipExtents at h
  split at h
  · cases h
  rename_i hFits
  split at h
  · cases h
  rename_i hWalk
  split at h
  · cases h
  rename_i hData
  obtain ⟨clipped, hRest, hOut⟩ := Lib.bind_eq_ok_iff.mp h
  simp only [not_or, Option.any_eq_true, bne_iff_ne, not_exists, not_and, not_not] at hWalk
  obtain ⟨hLength, hFollows, hStart, hStop, hEnd⟩ := hWalk
  refine ⟨⟨by omega, by omega, hFollows, by omega, by omega, hEnd, fun hIs => ?_⟩, clipped, hRest,
    (Except.ok.inj hOut).symm⟩
  simp only [hIs, true_and, not_or] at hData
  omega

/-- The cursor stands at the end of the extents so far, or at the end of the range. -/
structure AtEnd (offset stop cursor : Nat) (previousEnd : Option Nat) : Prop where
  offset_le : offset ≤ cursor
  le_stop : cursor ≤ stop
  previous : ∀ last, previousEnd = some last → cursor = min last stop
  first : previousEnd = none → cursor = offset

theorem AtEnd.next (h : AtEnd offset stop cursor previousEnd)
    (hPasses : Passes offset stop cursor previousEnd extent) :
    AtEnd offset stop (min extent.stop stop) (some extent.stop) where
  offset_le := by
    have hLt := hPasses.lt_stop
    have hLe := h.offset_le
    have hEnd := h.le_stop
    omega
  le_stop := Nat.min_le_right _ _
  previous := fun last hLast => by rw [Option.some.inj hLast]
  first := nofun

/-- Data begins at the cursor. -/
theorem AtEnd.start_of_data (h : AtEnd offset stop cursor previousEnd)
    (hPasses : Passes offset stop cursor previousEnd extent) (hData : extent.isData = true) :
    extent.start = cursor ∧ min extent.stop stop = extent.stop := by
  obtain ⟨hStart, hStop⟩ := hPasses.data hData
  have hLe := hPasses.start_le
  refine ⟨?_, Nat.min_eq_left hStop⟩
  -- the first extent begins at the offset, and the others at the end of the one before
  cases hPrevious : previousEnd with
  | none =>
    have hFirst := h.first hPrevious
    omega
  | some last =>
    have hCursor := h.previous last hPrevious
    have hFollows := hPasses.follows last hPrevious
    have hWithin := hPasses.within
    omega

/-- The clipped extent goes from the cursor to the clipped end. -/
theorem AtEnd.clip (h : AtEnd offset stop cursor previousEnd)
    (hPasses : Passes offset stop cursor previousEnd extent) :
    (extent.clip cursor (min extent.stop stop)).start = cursor ∧
      (extent.clip cursor (min extent.stop stop)).stop = min extent.stop stop := by
  have hLt := hPasses.lt_stop
  have hLe := h.le_stop
  cases extent with
  | data start bytes =>
    obtain ⟨hStart, hStop⟩ := h.start_of_data hPasses rfl
    refine ⟨rfl, ?_⟩
    rw [hStop, ← hStart]
    rfl
  | hole start length =>
    refine ⟨rfl, ?_⟩
    show cursor + (min _ stop - cursor) = _
    omega

theorem AtEnd.byte?_clip (h : AtEnd offset stop cursor previousEnd)
    (hPasses : Passes offset stop cursor previousEnd extent) (position : Nat) :
    (extent.clip cursor (min extent.stop stop)).byte? position = extent.byte? position := by
  cases extent with
  | data start bytes =>
    have hStart : start = cursor := (h.start_of_data hPasses rfl).1
    rw [← hStart]
    rfl
  | hole start length => rfl

theorem contentAt_cons (c : ReadPlusContent) (contents : List ReadPlusContent) (position : Nat) :
    contentAt (c :: contents) position =
      if c.Covers position then some (c.byte? position) else contentAt contents position := by
  unfold contentAt
  rw [List.find?_cons]
  by_cases hCovers : c.Covers position <;> simp [hCovers]

/-- What the walk makes of the extents that are left. -/
structure Walked (stop cursor : Nat) (clippedEof : Bool) (contents : List ReadPlusContent)
    (out : ReadPlusResult) : Prop where
  contiguous : Contiguous cursor out.contents
  within : ∀ c ∈ out.contents, cursor ≤ c.start ∧ c.stop ≤ stop
  content : ∀ position, cursor ≤ position → position < stop →
    contentAt out.contents position = contentAt contents position
  eof : out.eof = (clippedEof && contents.all fun c => decide (c.stop ≤ stop))

/-- An extent that passes the checks is clipped, and the walk goes on behind it. -/
theorem Walked.cons (hAt : AtEnd offset stop cursor previousEnd)
    (hPasses : Passes offset stop cursor previousEnd extent)
    (h : Walked stop (min extent.stop stop) (clippedEof && decide (extent.stop ≤ stop)) rest out) :
    Walked stop cursor clippedEof (extent :: rest)
      { out with contents := extent.clip cursor (min extent.stop stop) :: out.contents } := by
  obtain ⟨hStart, hStop⟩ := hAt.clip hPasses
  have hLt := hPasses.lt_stop
  have hLe := hAt.le_stop
  have hWithin := hPasses.within
  refine ⟨⟨hStart, ?_, by rw [hStop]; exact h.contiguous⟩, ?_, ?_, ?_⟩
  · have hSum : (extent.clip cursor (min extent.stop stop)).stop =
        (extent.clip cursor (min extent.stop stop)).start +
          (extent.clip cursor (min extent.stop stop)).length := rfl
    omega
  · intro c hc
    rcases List.mem_cons.mp hc with rfl | hc
    · rw [hStart, hStop]
      omega
    · have hRest := h.within c hc
      omega
  · intro position hFrom hTo
    rw [contentAt_cons, contentAt_cons, hAt.byte?_clip hPasses]
    have hStartLe := hPasses.start_le
    -- within the range the clipped extent ends where the extent does
    by_cases hBefore : position < extent.stop
    · have hOut : (extent.clip cursor (min extent.stop stop)).Covers position :=
        ⟨by rw [hStart]; exact hFrom, by rw [hStop]; omega⟩
      have hIn : extent.Covers position := ⟨by omega, hBefore⟩
      rw [if_pos hOut, if_pos hIn]
    · have hOut : ¬ (extent.clip cursor (min extent.stop stop)).Covers position := fun hCovers => by
        have hLast := hCovers.2
        rw [hStop] at hLast
        omega
      have hIn : ¬ extent.Covers position := fun hCovers => hBefore hCovers.2
      rw [if_neg hOut, if_neg hIn]
      exact h.content position (by omega) hTo
  · rw [List.all_cons, ← Bool.and_assoc]
    exact h.eof

theorem clipExtents_walked : ∀ (contents : List ReadPlusContent) {cursor : Nat}
    {previousEnd : Option Nat} {clippedEof : Bool} {out : ReadPlusResult},
    AtEnd offset stop cursor previousEnd →
    clipExtents offset stop cursor previousEnd clippedEof contents = .ok out →
    Walked stop cursor clippedEof contents out := by
  intro contents
  induction contents with
  | nil =>
    intro cursor previousEnd clippedEof out _ h
    cases h
    exact ⟨trivial, nofun, fun _ _ _ => rfl, by simp⟩
  | cons extent rest ih =>
    intro cursor previousEnd clippedEof out hAt h
    obtain ⟨hPasses, clipped, hRest, rfl⟩ := clipExtents_cons h
    exact .cons hAt hPasses (ih (hAt.next hPasses) hRest)

/-! ## The extents of an accepted reply -/

/-- Behind `start` the extents follow one another without end beyond `u64`. -/
structure Chained (offset stop start : Nat) (contents : List ReadPlusContent) : Prop where
  contiguous : Contiguous start contents
  fits : ∀ c ∈ contents, c.stop ≤ u64Max
  data : ∀ c ∈ contents, c.isData = true → offset ≤ c.start ∧ c.stop ≤ stop

/-- Behind the first extent each one begins where the one before it ends. -/
theorem clipExtents_chained : ∀ (contents : List ReadPlusContent) {cursor last : Nat}
    {clippedEof : Bool} {out : ReadPlusResult},
    clipExtents offset stop cursor (some last) clippedEof contents = .ok out →
    Chained offset stop last contents := by
  intro contents
  induction contents with
  | nil =>
    intro cursor last clippedEof out _
    exact ⟨trivial, nofun, nofun⟩
  | cons extent rest ih =>
    intro cursor last clippedEof out h
    obtain ⟨hPasses, clipped, hRest, -⟩ := clipExtents_cons h
    have hTail := ih hRest
    exact ⟨⟨(hPasses.follows last rfl).symm, hPasses.length_pos, hTail.contiguous⟩,
      List.forall_mem_cons.mpr ⟨hPasses.fits, hTail.fits⟩,
      List.forall_mem_cons.mpr ⟨hPasses.data, hTail.data⟩⟩

theorem Contiguous.start_le : ∀ {contents : List ReadPlusContent} {start : Nat},
    Contiguous start contents → ∀ c ∈ contents, start ≤ c.start := by
  intro contents
  induction contents with
  | nil => exact fun _ => nofun
  | cons extent rest ih =>
    intro start h c hc
    obtain ⟨hStart, -, hRest⟩ := h
    rcases List.mem_cons.mp hc with rfl | hc
    · omega
    · have hLe := ih hRest c hc
      unfold ReadPlusContent.stop at hLe
      omega

theorem Contiguous.pairwise : ∀ {contents : List ReadPlusContent} {start : Nat},
    Contiguous start contents → contents.Pairwise fun a b => a.stop ≤ b.start := by
  intro contents
  induction contents with
  | nil => exact fun _ => .nil
  | cons extent rest ih =>
    intro start h
    exact .cons (fun c hc => h.2.2.start_le c hc) (ih h.2.2)

/-- Contiguous extents cover everything from their start to the end of any of them. -/
theorem Contiguous.covers : ∀ {contents : List ReadPlusContent} {start position : Nat},
    Contiguous start contents → start ≤ position → (∃ c ∈ contents, position < c.stop) →
    ∃ c ∈ contents, c.Covers position := by
  intro contents
  induction contents with
  | nil => exact fun _ _ ⟨_, hc, _⟩ => nomatch hc
  | cons extent rest ih =>
    intro start position h hFrom hTo
    obtain ⟨hStart, -, hRest⟩ := h
    by_cases hHere : position < extent.stop
    · exact ⟨extent, List.mem_cons_self, by omega, hHere⟩
    · obtain ⟨c, hc, hLt⟩ := hTo
      rcases List.mem_cons.mp hc with rfl | hc
      · exact absurd hLt hHere
      · obtain ⟨d, hd, hCovers⟩ := ih hRest (Nat.le_of_not_lt hHere) ⟨c, hc, hLt⟩
        exact ⟨d, List.mem_cons_of_mem _ hd, hCovers⟩

/-- The first extent covers the offset, and the others follow it. -/
theorem clipExtents_first
    (h : clipExtents offset stop offset none clippedEof contents = .ok out) :
    ∃ start, start ≤ offset ∧ Chained offset stop start contents := by
  cases contents with
  | nil => exact ⟨offset, Nat.le_refl _, trivial, nofun, nofun⟩
  | cons extent rest =>
    obtain ⟨hPasses, clipped, hRest, -⟩ := clipExtents_cons h
    have hTail := clipExtents_chained rest hRest
    exact ⟨extent.start, hPasses.start_le, ⟨rfl, hPasses.length_pos, hTail.contiguous⟩,
      List.forall_mem_cons.mpr ⟨hPasses.fits, hTail.fits⟩,
      List.forall_mem_cons.mpr ⟨hPasses.data, hTail.data⟩⟩

end walk

/-! ## The clipped reply -/

theorem clipReadPlus_ok {reply out : ReadPlusResult} {offset count : Nat}
    (h : clipReadPlus reply offset count = .ok out) :
    offset + count ≤ u64Max ∧
      clipExtents offset (offset + count) offset none reply.eof reply.contents = .ok out := by
  unfold clipReadPlus at h
  split at h
  · cases h
  rename_i hRange
  obtain ⟨clipped, hClipped, hOut⟩ := Lib.bind_eq_ok_iff.mp h
  split at hOut
  · cases hOut
  · cases hOut
    exact ⟨by omega, hClipped⟩

/-- **Clipping is exact.** The segments of an accepted reply are contiguous from the offset on and
stay in the range, they say what the reply says at every position of the range, and eof is
reported exactly if the reply said so and no extent of it ends behind the range. Replies with
extents that overlap, leave a gap, begin with data in front of the offset, or end beyond `u64`
are refused. -/
theorem clip_read_plus_exact (reply : ReadPlusResult) (offset count : Nat) :
    (∀ out, clipReadPlus reply offset count = .ok out →
      Contiguous offset out.contents ∧
      (∀ c ∈ out.contents, offset ≤ c.start ∧ c.stop ≤ offset + count) ∧
      (∀ position, offset ≤ position → position < offset + count →
        contentAt out.contents position = contentAt reply.contents position) ∧
      (out.eof = true ↔ reply.eof = true ∧ ∀ c ∈ reply.contents, c.stop ≤ offset + count)) ∧
    (Overlap reply.contents ∨ Gap offset reply.contents ∨
        (∃ c ∈ reply.contents, c.isData = true ∧ c.start < offset) ∨
        (∃ c ∈ reply.contents, u64Max < c.stop) ∨ u64Max < offset + count →
      ∃ e, clipReadPlus reply offset count = .error e) := by
  refine ⟨fun out h => ?_, fun hBad => ?_⟩
  · obtain ⟨-, hExtents⟩ := clipReadPlus_ok h
    have hAt : AtEnd offset (offset + count) offset none :=
      ⟨Nat.le_refl _, by omega, nofun, fun _ => rfl⟩
    have hWalked := clipExtents_walked _ hAt hExtents
    refine ⟨hWalked.contiguous, hWalked.within, hWalked.content, ?_⟩
    rw [hWalked.eof]
    simp
  · cases hClip : clipReadPlus reply offset count with
    | error e => exact ⟨e, rfl⟩
    | ok out =>
      -- the extents of an accepted reply are chained, which each of the cases denies
      exfalso
      obtain ⟨hRange, hExtents⟩ := clipReadPlus_ok hClip
      obtain ⟨start, hStart, hChained⟩ := clipExtents_first hExtents
      rcases hBad with hOverlap | hGap | ⟨c, hc, hData, hBefore⟩ | ⟨c, hc, hFits⟩ | hOver
      · exact hOverlap hChained.contiguous.pairwise
      · obtain ⟨position, hFrom, hTo, hNone⟩ := hGap
        have hLe : start ≤ position := by
          rcases hFrom with hFrom | ⟨c, hc, hFrom⟩
          · omega
          · have hc := hChained.contiguous.start_le c hc
            omega
        obtain ⟨c, hc, hCovers⟩ := hChained.contiguous.covers hLe hTo
        exact hNone c hc hCovers
      · have hFirst := (hChained.data c hc hData).1
        omega
      · have hLe := hChained.fits c hc
        omega
      · omega

/-- The end of a file on the wire: three bytes at offset 2, and a hole of ten behind them. -/
def dataAndHole : List UInt8 :=
  [0, 0, 0, 1, 0, 0, 0, 2,
    0, 0, 0, 0, 0, 0, 0, 0, 0, 0, 0, 2, 0, 0, 0, 3, 7, 8, 9, 0,
    0, 0, 0, 1, 0, 0, 0, 0, 0, 0, 0, 5, 0, 0, 0, 0, 0, 0, 0, 10]

/-- The hole is cut where the range ends, and with it the eof. -/
theorem clip_read_plus_exact_dataAndHole :
    ∃ reply, decodeReadPlus dataAndHole = .ok (reply, []) ∧
      clipReadPlus reply 2 6 =
        .ok { eof := false, contents := [.data 2 [7, 8, 9], .hole 5 3] } ∧
      contentAt reply.contents 4 = some (some 9) ∧ contentAt reply.contents 7 = some none := by
  have hClip : clipReadPlus ⟨true, [.data 2 [7, 8, 9], .hole 5 10]⟩ 2 6 =
      .ok { eof := false, contents := [.data 2 [7, 8, 9], .hole 5 3] } := rfl
  refine ⟨_, Lib.eq_ok_of_toOption (by decide +kernel), hClip, ?_⟩
  have hSame := ((clip_read_plus_exact _ 2 6).1 _ hClip).2.2.1
  exact ⟨(hSame 4 (by decide) (by decide)).symm.trans (by decide),
    (hSame 7 (by decide) (by decide)).symm.trans (by decide)⟩

/-- **The front of a hole.** The reply says eof, half of its hole is cut off, and eof is
reported. -/
theorem eof_of_clipped_front :
    clipReadPlus { eof := true, contents := [.hole 0 100] } 50 100 =
      .ok { eof := true, contents := [.hole 50 50] } := rfl

end NfsRs.Nfs41.ReadPlus
