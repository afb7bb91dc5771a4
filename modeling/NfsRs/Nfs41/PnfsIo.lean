import NfsRs.Nfs41.PnfsWrite
import NfsRs.Nfs41.Striping

/-!
# NfsRs — pNFS reads and the plan of pNFS writes

`pnfs_read` and `pnfs_write` take the segment of the layout that covers the offset, the device
that it names, and cut the request at the end of the segment and at stripes. A read sends each
chunk to its data server until the chunk is full or the server says that its file ends, and
puts the chunks together up to the first short one. A write resolves the whole plan before it
sends anything.

What the servers answer is an input: the device, the addresses taken for unreachable, the data
of every READ result, and, for the writes, what `DsWrite` takes.

## Main results

- `ReadAssembly.freeze_push` : an assembly is the concatenation of its pieces.
- `readStripeLoop_honest` : a data server that answers with the bytes of its file fills the chunk
  as far as the file goes.
- `joinStripes_eq` : chunks are joined up to the first short one.
-/

namespace NfsRs.Nfs41

open NfsRs.Rpc (pad4)

/-! ## The layout that I/O uses -/

/-- The segment covering a file offset. -/
def findCoveringSegment (layout : MappedLayout) (offset : Nat) : Option LayoutSegment :=
  layout.segments.find? fun segment => segment.covers offset

/-- Every data server of the device is the metadata server. -/
def isDegenerateDevice (device : DeviceInfo) (serverAddr : SocketAddr) : Bool :=
  !device.dsAddrs.isEmpty &&
    device.dsAddrs.all fun paths => decide (paths.head? = some serverAddr)

/-- What the I/O paths meet beside the layout. -/
structure LayoutEnv where
  serverAddr : SocketAddr
  /-- The answer of `get_or_fetch_device`. -/
  device : Except NfsError (Option DeviceInfo)
  unreachable : SocketAddr → Bool

/-- The first address of some data server, not the metadata server, is known unreachable. -/
def deviceDsUnreachable (env : LayoutEnv) (device : DeviceInfo) : Bool :=
  device.dsAddrs.any fun paths =>
    paths.head?.any fun addr => decide (addr ≠ env.serverAddr) && env.unreachable addr

/-- What the checks of a layout end in. -/
inductive Resolved where
  /-- I/O goes through the metadata server. -/
  | unusable
  | failed (error : NfsError)
  | usable (segment : LayoutSegment) (layout : FilesLayout) (device : DeviceInfo)
      (stripeCount : Nat)

/-- The checks that `pnfs_read_layout` and `pnfs_write` make before any I/O. -/
def resolveLayout (env : LayoutEnv) (layout : MappedLayout) (offset : Nat) : Resolved :=
  match findCoveringSegment layout offset with
  | none => .unusable
  | some segment =>
    match segment.content with
    | .opaqueBytes _ => .unusable
    | .files files =>
      if files.stripeUnit = 0 ∨ offset < files.patternOffset then .unusable
      else
        match env.device with
        | .error e => .failed e
        | .ok none => .unusable
        | .ok (some device) =>
          match fileLayoutStripeCount device files.fhList.length files.isDense
              files.firstStripeIndex with
          | none => .unusable
          | some stripeCount =>
            if isDegenerateDevice device env.serverAddr then .unusable
            else if deviceDsUnreachable env device then .unusable
            else .usable segment files device stripeCount

/-- The bytes from the offset to the end of the segment. -/
def LayoutSegment.covered (segment : LayoutSegment) (offset : Nat) : Nat :=
  satAdd64 segment.offset segment.length - offset

/-! ## Assembled reads -/

/-- Pieces of a read. A lone piece keeps its buffer. -/
structure ReadAssembly where
  first : List UInt8
  joined : Option (List UInt8)
  capacity : Nat

namespace ReadAssembly

def new (capacity : Nat) : ReadAssembly := { first := [], joined := none, capacity := capacity }

def len (a : ReadAssembly) : Nat :=
  match a.joined with
  | some data => data.length
  | none => a.first.length

def push (a : ReadAssembly) (piece : List UInt8) : ReadAssembly :=
  if piece.isEmpty then a
  else
    match a.joined with
    | some data => { a with joined := some (data ++ piece) }
    | none =>
      if a.first.isEmpty then { a with first := piece }
      else { a with first := [], joined := some (a.first ++ piece) }

def freeze (a : ReadAssembly) : List UInt8 :=
  match a.joined with
  | some data => data
  | none => a.first

theorem freeze_new (capacity : Nat) : (new capacity).freeze = [] := rfl

theorem len_eq (a : ReadAssembly) : a.len = a.freeze.length := by
  unfold len freeze
  cases a.joined <;> rfl

/-- An assembly is the concatenation of its pieces. -/
theorem freeze_push (a : ReadAssembly) (piece : List UInt8) :
    (a.push piece).freeze = a.freeze ++ piece := by
  unfold push
  by_cases hPiece : piece.isEmpty = true
  · rw [if_pos hPiece, List.isEmpty_iff.mp hPiece, List.append_nil]
  · rw [if_neg hPiece]
    cases hJoined : a.joined with
    | some data =>
      unfold freeze
      rw [hJoined]
    | none =>
      by_cases hFirst : a.first.isEmpty = true
      · dsimp only
        rw [if_pos hFirst]
        simp only [freeze, hJoined]
        rw [List.isEmpty_iff.mp hFirst, List.nil_append]
      · dsimp only
        rw [if_neg hFirst]
        simp only [freeze, hJoined]

end ReadAssembly

/-! ## One chunk -/

/-- The chunk's bytes, and whether they are fewer than asked for. -/
def readEnd (length : Nat) (combined : ReadAssembly) : List UInt8 × Bool :=
  (combined.freeze, decide (combined.len < length))

/-- The loop over the READs of a chunk in `pnfs_read_layout`, with at most `rounds` more: each
one that goes on has brought at least a byte. `answer` is the data of the READ result that
`ds_read_chunk` returns, by the bytes there before it. -/
def readStripeLoop (answer : Nat → Except NfsError (List UInt8)) (length : Nat) :
    Nat → ReadAssembly → Except NfsError (List UInt8 × Bool)
  | 0, combined => .ok (readEnd length combined)
  | rounds + 1, combined =>
    if combined.len < length then
      let remaining := length - combined.len
      match answer combined.len with
      | .error e => .error e
      | .ok data =>
        if data.length < 8 then .error (.xdr "DS READ result too short")
        else
          let (eof, data) := getU32 data
          let (dataLen, data) := getU32 data
          if dataLen > remaining ∨ data.length < dataLen then
            .error (.xdr "invalid DS READ data length")
          else
            let combined := combined.push (data.take dataLen)
            if eof ≠ 0 then .ok (readEnd length combined)
            else if dataLen = 0 then .error (.rpc "DS READ made no progress")
            else readStripeLoop answer length rounds combined
    else .ok (readEnd length combined)

/-- The result of a READ that returns `n` bytes of a file: end of file, length, data. -/
def readReply (file : Lib.File UInt8) (offset n : Nat) : List UInt8 :=
  beU32 (if file.size ≤ offset + n then 1 else 0) ++ beU32 n ++
    (Lib.slice file.byte offset n ++ List.replicate (pad4 n) 0)

/-- A READ of `count` bytes is answered with bytes of the file, at least one if there is any,
and end of file exactly at the end. -/
def HonestRead (file : Lib.File UInt8) (offset count : Nat) (data : List UInt8) : Prop :=
  ∃ n, n ≤ count ∧ n ≤ file.size - offset ∧ (offset < file.size → 0 < count → 0 < n) ∧
    data = readReply file offset n

/-- A READ result is the flag of the end, the count and the bytes. -/
theorem readReply_parts (file : Lib.File UInt8) (offset : Nat) {n : Nat} (hn : n < 2 ^ 32) :
    ∃ eof data, 8 ≤ (readReply file offset n).length ∧
      getU32 (readReply file offset n) = (eof, beU32 n ++ data) ∧
      getU32 (beU32 n ++ data) = (n, data) ∧ (eof ≠ 0 ↔ file.size ≤ offset + n) ∧
      n ≤ data.length ∧ data.take n = Lib.slice file.byte offset n := by
  have hLength : (Lib.slice file.byte offset n).length = n := Lib.length_slice ..
  refine ⟨if file.size ≤ offset + n then 1 else 0,
    Lib.slice file.byte offset n ++ List.replicate (pad4 n) 0, ?_, ?_, getU32_beU32 hn _,
    ?_, ?_, ?_⟩
  · simp only [readReply, beU32, List.length_append, List.length_cons, List.length_nil]
    omega
  · unfold readReply
    rw [List.append_assoc]
    refine getU32_beU32 ?_ _
    split <;> decide
  · split
    next hEnd => simp [hEnd]
    next hMore => simp [hMore]
  · rw [List.length_append, hLength]
    omega
  · exact List.take_left' hLength

/-- Whenever the data server answers a READ of the chunk, it answers from the file. -/
def ServesChunk (file : Lib.File UInt8) (base length : Nat)
    (answer : Nat → Except NfsError (List UInt8)) : Prop :=
  ∀ done < length, ∀ data, answer done = .ok data →
    HonestRead file (base + done) (length - done) data

/-- What a chunk gets of a file. -/
def servedBytes (file : Lib.File UInt8) (base length : Nat) : Nat :=
  min length (file.size - base)

/-- The loop ends with the bytes that the file has for the chunk, or with the error of a READ
that was not answered. -/
theorem readStripeLoop_honest {answer : Nat → Except NfsError (List UInt8)}
    {file : Lib.File UInt8} {base length : Nat} (hLength : length < 2 ^ 32)
    (hServes : ServesChunk file base length answer) (rounds : Nat) :
    ∀ combined k, combined.freeze = Lib.slice file.byte base k →
      k ≤ servedBytes file base length → length - k ≤ rounds →
      readStripeLoop answer length rounds combined =
          .ok (Lib.slice file.byte base (servedBytes file base length),
            decide (servedBytes file base length < length)) ∨
        ∃ done < length, ∃ e, answer done = .error e ∧
          readStripeLoop answer length rounds combined = .error e := by
  have hEnd : ∀ (combined : ReadAssembly) (k : Nat), combined.freeze = Lib.slice file.byte base k →
      k = servedBytes file base length → readEnd length combined =
        (Lib.slice file.byte base (servedBytes file base length),
          decide (servedBytes file base length < length)) := by
    intro combined k hFreeze hk
    unfold readEnd
    rw [combined.len_eq, hFreeze, Lib.length_slice, hk]
  have hFull : ∀ k ≤ servedBytes file base length, length ≤ k →
      k = servedBytes file base length := by
    intro k hk hLength
    unfold servedBytes at hk ⊢
    omega
  induction rounds with
  | zero =>
    intro combined k hFreeze hk hRounds
    exact .inl (congrArg Except.ok (hEnd combined k hFreeze (hFull k hk (by omega))))
  | succ rounds ih =>
    intro combined k hFreeze hk hRounds
    have hLen : combined.len = k := by rw [combined.len_eq, hFreeze, Lib.length_slice]
    unfold readStripeLoop
    rw [hLen]
    by_cases hMore : k < length
    · rw [if_pos hMore]
      dsimp only
      cases hAnswer : answer k with
      | error e => exact .inr ⟨k, hMore, e, hAnswer, rfl⟩
      | ok data =>
        obtain ⟨n, hCount, hAvail, hSome, rfl⟩ := hServes k hMore data hAnswer
        obtain ⟨eof, rest, hEight, hFirst, hSecond, hEof, hRest, hTake⟩ :=
          readReply_parts file (base + k) (n := n) (by omega)
        -- the bytes of this READ go behind those that are there
        have hPush : (combined.push (rest.take n)).freeze = Lib.slice file.byte base (k + n) := by
          rw [ReadAssembly.freeze_push, hFreeze, hTake, Lib.slice_append]
        dsimp only
        rw [if_neg (by omega), hFirst]
        dsimp only
        rw [hSecond]
        dsimp only
        rw [if_neg (by omega)]
        by_cases hIsEnd : eof ≠ 0
        · rw [if_pos hIsEnd]
          have hSize := hEof.mp hIsEnd
          refine .inl (congrArg Except.ok (hEnd _ (k + n) hPush ?_))
          unfold servedBytes at hk ⊢
          omega
        · have hSize : ¬file.size ≤ base + k + n := fun hAt => hIsEnd (hEof.mpr hAt)
          have hProgress : 0 < n := hSome (by omega) (by omega)
          rw [if_neg hIsEnd, if_neg (by omega)]
          refine ih _ (k + n) hPush ?_ (by omega)
          unfold servedBytes at hk ⊢
          omega
    · rw [if_neg hMore]
      exact .inl (congrArg Except.ok (hEnd combined k hFreeze (hFull k hk (by omega))))

/-! ## The read -/

/-- What a read through a layout meets. -/
structure ReadEnv extends LayoutEnv where
  /-- The data of the READ results of a chunk, by the chunk's number and the bytes there. -/
  answer : Nat → Nat → Except NfsError (List UInt8)
  /-- Which of the chunks that fail does so first. -/
  failsFirst : Nat
  /-- The active generation once all chunks are there. -/
  activeGeneration : Nat

def failure? {α : Type} : Except NfsError α → Option NfsError
  | .ok _ => none
  | .error e => some e

/-- `try_join_all`: all values, or the error of the first to fail. -/
def tryJoinAll {α : Type} (failsFirst : Nat) (results : List (Except NfsError α)) :
    Except NfsError (List α) :=
  match results.filterMap failure? with
  | [] => .ok (results.filterMap Except.toOption)
  | e :: rest => .error ((e :: rest).getD failsFirst e)

/-- The stripe results in order, up to the first short one. -/
def assembleStripes : ReadAssembly → List (List UInt8 × Bool) → ReadAssembly
  | combined, [] => combined
  | combined, (data, short) :: rest =>
    if short then combined.push data else assembleStripes (combined.push data) rest

/-- The READs of one chunk. -/
def readStripe (env : ReadEnv) (files : FilesLayout) (device : DeviceInfo) (fh : FileHandle)
    (i : Nat) (chunk : StripeChunk) : Except NfsError (List UInt8 × Bool) := do
  let _ ← fileLayoutTarget device chunk.dsIndex files.isDense files.fhList fh
  readStripeLoop (env.answer i) chunk.length chunk.length (.new chunk.length)

/-- What the results of the chunks make. -/
def joinStripes (results : List (List UInt8 × Bool)) : List UInt8 :=
  if results.length = 1 then (results.head?.map (·.1)).getD []
  else (assembleStripes (.new (results.map (·.1.length)).sum) results).freeze

/-- The number of bytes that a read asks for inside the segment. -/
def LayoutSegment.readCount (segment : LayoutSegment) (offset count : Nat) : Nat :=
  let covered := segment.covered offset
  min count (if covered < 2 ^ 32 then covered else 2 ^ 32 - 1)

def pnfsReadLayout (env : ReadEnv) (fh : FileHandle) (offset count : Nat)
    (layout : MappedLayout) : Option (Except NfsError (List UInt8)) :=
  match resolveLayout env.toLayoutEnv layout offset with
  | .unusable => none
  | .failed e => some (.error e)
  | .usable segment files device stripeCount =>
    let chunks := splitIntoStripes offset (segment.readCount offset count) files.stripeUnit
      files.isDense files.firstStripeIndex stripeCount files.patternOffset
    match tryJoinAll env.failsFirst (chunks.mapIdx (readStripe env files device fh)) with
    | .error e => some (.error e)
    | .ok results =>
      if layout.generation ≠ env.activeGeneration then
        some (.error (.rpc "discarding pNFS READ result from stale session generation"))
      else some (.ok (joinStripes results))

/-- Exhausted backpressure and a cancelled wait keep their result. -/
def stopPnfsFallback (e : NfsError) : Bool :=
  e.isExhausted ||
    (decide (e.kind = .interrupted) && decide (e.requestTransmission = some .notSent))

/-- What an attempt of `pnfs_read` meets. -/
structure ReadPass where
  layout : Except NfsError (Option MappedLayout)
  env : ReadEnv
  /-- The active generation when a failure is looked at. -/
  generation : Nat
  /-- `refresh_rejected_layout`, if the attempt asks for it. -/
  refresh : Except NfsError Unit

/-- The loop of `pnfs_read` from an attempt on. -/
def pnfsReadFrom (passes : Nat → ReadPass) (fh : FileHandle) (offset count : Nat) :
    (remaining attempt : Nat) → Option (Except NfsError (List UInt8))
  | 0, _ => none
  | remaining + 1, attempt =>
    match (passes attempt).layout with
    | .error e => some (.error e)
    | .ok none => none
    | .ok (some layout) =>
      match pnfsReadLayout (passes attempt).env fh offset count layout with
      | some (.error e) =>
        if stopPnfsFallback e then some (.error e)
        else if layout.generation ≠ (passes attempt).generation then some (.error e)
        else
          match (passes attempt).refresh with
          | .error e => some (.error e)
          | .ok _ => pnfsReadFrom passes fh offset count remaining (attempt + 1)
      | result => result

/-- `pnfs_read`: `none` lets the caller read through the metadata server. -/
def pnfsRead (passes : Nat → ReadPass) (fh : FileHandle) (offset count : Nat) :
    Option (Except NfsError (List UInt8)) :=
  pnfsReadFrom passes fh offset count 2 0

/-! ## The plan of a write -/

/-- The part of the data that goes to one chunk. -/
def planChunk (files : FilesLayout) (device : DeviceInfo) (fh : FileHandle) (offset : Nat)
    (data : List UInt8) (i : Nat) (chunk : StripeChunk) : Except NfsError PlannedDsWrite := do
  let (dsFh, dsAddr) ← fileLayoutTarget device chunk.dsIndex files.isDense files.fhList fh
  let chunkStart := chunk.fileOffset - offset
  .ok { fileOffset := chunk.fileOffset
        stripeIndex := i
        dsFh := dsFh
        dsAddr := dsAddr
        dsOffset := chunk.dsOffset
        data := (data.drop chunkStart).take chunk.length
        length_lt := Nat.lt_of_le_of_lt (List.length_take_le _ _) chunk.length_lt }

/-- All values of the results, or the first error among them. -/
def collect {α : Type} : List (Except NfsError α) → Except NfsError (List α)
  | [] => .ok []
  | r :: rest => do
    let value ← r
    let values ← collect rest
    .ok (value :: values)

def planChunks (files : FilesLayout) (device : DeviceInfo) (fh : FileHandle) (offset : Nat)
    (data : List UInt8) (stripeCount : Nat) : Except NfsError (List PlannedDsWrite) :=
  let chunks := splitIntoStripes offset (data.length % 2 ^ 32) files.stripeUnit files.isDense
    files.firstStripeIndex stripeCount files.patternOffset
  collect (chunks.mapIdx (planChunk files device fh offset data))

/-- What `pnfs_write` meets up to its first WRITE, and what its WRITEs meet, by stripe. -/
structure WriteEnv extends LayoutEnv where
  /-- The answer of `get_or_fetch_layout`. -/
  layout : Except NfsError (Option MappedLayout)
  preflight : Except NfsError Unit
  chunks : Nat → Nat → Nat → ChunkEnv
  activeGeneration : Nat
  sessionId : Nat

/-- `pnfs_write` up to its first WRITE. -/
def planWrite (env : WriteEnv) (fh : FileHandle) (offset : Nat) (data : List UInt8) : PlanEnd :=
  match env.layout with
  | .error e => .stopped e
  | .ok none => .noPlan
  | .ok (some layout) =>
    match resolveLayout env.toLayoutEnv layout offset with
    | .unusable => .noPlan
    | .failed e => .stopped e
    | .usable segment files device stripeCount =>
      match planChunks files device fh offset (data.take (segment.covered offset)) stripeCount with
      | .error _ => .noPlan
      | .ok writes =>
        match env.preflight with
        | .error _ => .unconnected
        | .ok _ =>
          .issued { stripes := writes.mapIdx fun i write =>
                      { write := write, chunks := env.chunks i }
                    offset := offset
                    commitThruMds := files.commitThruMds
                    generation := layout.generation
                    activeGeneration := env.activeGeneration
                    sessionId := env.sessionId }

/-! ## The result, chunk by chunk -/

theorem freeze_assembleStripes (results : List (List UInt8 × Bool)) :
    ∀ combined, (assembleStripes combined results).freeze =
      combined.freeze ++ Lib.joinUntil results := by
  induction results with
  | nil =>
    intro combined
    exact (List.append_nil _).symm
  | cons result rest ih =>
    intro combined
    obtain ⟨data, short⟩ := result
    rw [assembleStripes, Lib.joinUntil]
    by_cases hShort : short = true
    · rw [if_pos hShort, if_pos hShort, ReadAssembly.freeze_push]
    · rw [if_neg hShort, if_neg hShort, ih, ReadAssembly.freeze_push, List.append_assoc]

theorem joinStripes_eq (results : List (List UInt8 × Bool)) :
    joinStripes results = Lib.joinUntil results := by
  unfold joinStripes
  split
  next hOne =>
    -- a lone chunk is the result, short or not
    obtain ⟨⟨data, short⟩, rfl⟩ := List.length_eq_one_iff.mp hOne
    cases short <;> simp [Lib.joinUntil]
  next =>
    rw [freeze_assembleStripes, ReadAssembly.freeze_new, List.nil_append]

theorem tryJoinAll_ok {α : Type} (failsFirst : Nat) (values : List α) :
    tryJoinAll failsFirst (values.map Except.ok) = .ok values := by
  have hErrors : (values.map (Except.ok (ε := NfsError))).filterMap failure? = [] := by
    rw [List.filterMap_map]
    exact List.filterMap_eq_nil_iff.mpr fun _ _ => rfl
  have hValues : (values.map (Except.ok (ε := NfsError))).filterMap Except.toOption = values := by
    rw [List.filterMap_map]
    exact List.filterMap_some
  unfold tryJoinAll
  rw [hErrors, hValues]

theorem tryJoinAll_eq_ok {α : Type} {failsFirst : Nat} {results : List (Except NfsError α)}
    {values : List α} (h : tryJoinAll failsFirst results = .ok values) :
    results = values.map .ok := by
  unfold tryJoinAll at h
  split at h
  next hNone =>
    obtain rfl := Except.ok.inj h
    clear h
    induction results with
    | nil => rfl
    | cons r rest ih =>
      cases r with
      | ok v =>
        have hRest := ih hNone
        rw [List.filterMap_cons_some (f := Except.toOption) (b := v) rfl, List.map_cons, ← hRest]
      | error e =>
        rw [List.filterMap_cons_some (f := failure?) (b := e) rfl] at hNone
        cases hNone
  next => cases h

end NfsRs.Nfs41
