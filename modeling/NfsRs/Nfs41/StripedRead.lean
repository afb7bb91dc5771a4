import NfsRs.Nfs41.PnfsIo

/-!
# NfsRs — what a striped read returns

Every data server keeps a file of its own for the stripes it has. The bytes of the logical
file are spread over these files (`byteOf`); a byte that was never written may lie inside the
file of its server, where it reads as zero, or past its end. `pnfs_read` returns the bytes of
the logical file up to the first one that lies past the end of its server's file: a server's
end of file cuts the result there, whatever the other servers have behind it.

So a read is complete exactly when no server's file ends before the logical file does, as far
as the request goes.

## Main results

- `pnfsReadLayout_prefix`, `pnfsReadLayout_returns` : what a read through a layout returns.
- `pnfs_read_complete_iff` : when a read is short only at the end of the logical file.
- `hole_reads_as_end` : a hole in the last stripe of a server is reported as end of file.
-/

namespace NfsRs.Nfs41

/-- The files of the data servers. -/
abbrev DataServers := SocketAddr → FileHandle → Lib.File UInt8

namespace Striping

variable (g : Striping) (servers : DataServers)

/-- The file that has a stripe. -/
def stripeFile (stripeIndex : Nat) : Lib.File UInt8 :=
  match g.target stripeIndex with
  | .ok (dsFh, dsAddr) => servers dsAddr dsFh
  | .error _ => .empty

/-- The file that has a byte. -/
def fileOf (x : Nat) : Lib.File UInt8 := g.stripeFile servers (g.index x)

/-- A byte of the logical file as the servers have it. -/
def byteOf (x : Nat) : UInt8 := (g.fileOf servers x).byte (g.position x)

/-- The byte lies before the end of its server's file. -/
def InFile (x : Nat) : Prop := g.position x < (g.fileOf servers x).size

/-- What a chunk gets. -/
def served (c : StripeChunk) : Nat :=
  servedBytes (g.stripeFile servers c.dsIndex) c.dsOffset c.length

/-- The result of a chunk: its bytes, and whether they are short. -/
def chunkResult (c : StripeChunk) : List UInt8 × Bool :=
  (Lib.slice (g.stripeFile servers c.dsIndex).byte c.dsOffset (g.served servers c),
    decide (g.served servers c < c.length))

variable {g servers}

variable {count offset : Nat} {c : StripeChunk} {env : ReadEnv} {layout : MappedLayout}

theorem Cut.fileOf_eq (h : g.Cut c) {k : Nat} (hk : k < c.length) :
    g.fileOf servers (c.fileOffset + k) = g.stripeFile servers c.dsIndex := by
  unfold fileOf
  rw [(h.byte hk).1]

/-- The bytes of a chunk are those of the logical file. -/
theorem Cut.slice_eq (h : g.Cut c) {n : Nat} (hn : n ≤ c.length) :
    Lib.slice (g.stripeFile servers c.dsIndex).byte c.dsOffset n =
      Lib.slice (g.byteOf servers) c.fileOffset n := by
  refine Lib.slice_congr fun k hk => ?_
  unfold byteOf
  rw [h.fileOf_eq (by omega), (h.byte (by omega)).2]

theorem Cut.inFile_iff (h : g.Cut c) {k : Nat} (hk : k < c.length) :
    g.InFile servers (c.fileOffset + k) ↔ k < g.served servers c := by
  unfold InFile served servedBytes
  rw [h.fileOf_eq hk, (h.byte hk).2]
  omega

/-! ## The prefix -/

/-- The bytes of the logical file up to the first one past the end of its server's file, or to
the end of the request. -/
structure ReadsPrefix (g : Striping) (servers : DataServers) (offset count : Nat)
    (bytes : List UInt8) : Prop where
  length_le : bytes.length ≤ count
  bytes_eq : bytes = Lib.slice (g.byteOf servers) offset bytes.length
  inFile : ∀ x, offset ≤ x → x < offset + bytes.length → g.InFile servers x
  stops : bytes.length < count → ¬g.InFile servers (offset + bytes.length)

/-- The chunks, joined up to the first short one, are the prefix. -/
theorem joinUntil_chunks (h : g.InPattern offset count) :
    g.ReadsPrefix servers offset count
      (Lib.joinUntil ((g.chunks offset count).map (g.chunkResult servers))) := by
  have hTiles := chunks_tile h
  have hServed : ∀ c ∈ g.chunks offset count, g.served servers c ≤ c.length :=
    fun c _ => Nat.min_le_left _ _
  have hResults : (g.chunks offset count).map (g.chunkResult servers) =
      (g.chunks offset count).map fun c =>
        (Lib.slice (g.byteOf servers) c.fileOffset (g.served servers c),
          decide (g.served servers c < c.length)) := by
    refine List.map_congr_left fun c hc => ?_
    unfold chunkResult
    rw [(cut_of_mem h hc).slice_eq (hServed c hc)]
  obtain ⟨n, hJoin, hLe, hStop, hBefore⟩ := hTiles.joinUntil_slice (g.byteOf servers) hServed
  rw [hResults, hJoin]
  refine ⟨?_, by rw [Lib.length_slice], fun x hFrom hTo => ?_, fun hLess => ?_⟩
  · rw [Lib.length_slice]
    omega
  · rw [Lib.length_slice] at hTo
    obtain ⟨c, hc, hIn, hOut⟩ := hTiles.exists_mem hFrom (by omega)
    obtain ⟨k, rfl⟩ := Nat.exists_eq_add_of_le hIn
    have hk : k < c.length := by omega
    exact ((cut_of_mem h hc).inFile_iff hk).mpr (hBefore c hc k hk hTo)
  · rw [Lib.length_slice] at hLess ⊢
    obtain ⟨c, hc, hShort, hEnd⟩ := hStop (by omega)
    rw [hEnd, (cut_of_mem h hc).inFile_iff hShort]
    exact Nat.lt_irrefl _

/-! ## The read -/

/-- A read of a range inside the segment that `resolveLayout` finds. -/
structure Covered (g : Striping) (env : LayoutEnv) (layout : MappedLayout) (offset count : Nat) :
    Prop where
  usable : ∃ segment, resolveLayout env layout offset =
    .usable segment g.layout g.device g.stripeCount ∧ count ≤ segment.covered offset
  inPattern : g.InPattern offset count

/-- Whenever a data server answers a READ of the request, it answers from its file. -/
def Serves (g : Striping) (servers : DataServers) (env : ReadEnv) (offset count : Nat) : Prop :=
  ∀ i c, (g.chunks offset count)[i]? = some c →
    ServesChunk (g.stripeFile servers c.dsIndex) c.dsOffset c.length (env.answer i)

/-- Every READ of the request is answered. -/
def Answers (g : Striping) (env : ReadEnv) (offset count : Nat) : Prop :=
  ∀ i c, (g.chunks offset count)[i]? = some c → ∀ done < c.length,
    ∃ data, env.answer i done = .ok data

theorem readStripe_cases {i : Nat} (hIndex : c.dsIndex < g.stripeCount)
    (hServes : ServesChunk (g.stripeFile servers c.dsIndex) c.dsOffset c.length (env.answer i)) :
    readStripe env g.layout g.device g.openFh i c = .ok (g.chunkResult servers c) ∨
      ∃ done < c.length, ∃ e, env.answer i done = .error e ∧
        readStripe env g.layout g.device g.openFh i c = .error e := by
  obtain ⟨fh, addr, hTarget, -⟩ := target_ok hIndex
  have hRead : readStripe env g.layout g.device g.openFh i c =
      readStripeLoop (env.answer i) c.length c.length (.new c.length) := by
    unfold readStripe
    rw [show fileLayoutTarget g.device c.dsIndex g.layout.isDense g.layout.fhList g.openFh =
      .ok (fh, addr) from hTarget]
    rfl
  rw [hRead]
  exact readStripeLoop_honest c.length_lt hServes c.length (.new c.length) 0 rfl (Nat.zero_le _)
    (by omega)

/-- The read asks for the chunks of the whole range. -/
theorem Covered.read_eq (h : g.Covered env.toLayoutEnv layout offset count) :
    pnfsReadLayout env g.openFh offset count layout =
      match tryJoinAll env.failsFirst
          ((g.chunks offset count).mapIdx (readStripe env g.layout g.device g.openFh)) with
      | .error e => some (.error e)
      | .ok results =>
        if layout.generation ≠ env.activeGeneration then
          some (.error (.rpc "discarding pNFS READ result from stale session generation"))
        else some (.ok (joinStripes results)) := by
  obtain ⟨segment, hUsable, hCovered⟩ := h.usable
  have hSmall := h.inPattern.2.2
  have hCount : segment.readCount offset count = count := by
    unfold LayoutSegment.readCount
    dsimp only
    split <;> omega
  unfold pnfsReadLayout
  rw [hUsable]
  dsimp only
  rw [hCount]
  rfl

theorem index_lt_of_mem (h : g.InPattern offset count) (hc : c ∈ g.chunks offset count) :
    c.dsIndex < g.stripeCount := by
  rw [(cut_of_mem h hc).index_eq]
  exact index_lt _

/-- When no chunk fails, every chunk has the bytes that its server has for it. -/
theorem stripes_eq (h : g.InPattern offset count) (hServes : g.Serves servers env offset count)
    (hOk : ∀ i c, (g.chunks offset count)[i]? = some c →
      ∀ e, readStripe env g.layout g.device g.openFh i c ≠ .error e) :
    (g.chunks offset count).mapIdx (readStripe env g.layout g.device g.openFh) =
      ((g.chunks offset count).map (g.chunkResult servers)).map .ok := by
  refine List.ext_getElem? fun i => ?_
  simp only [List.getElem?_mapIdx, List.getElem?_map]
  cases hChunk : (g.chunks offset count)[i]? with
  | none => rfl
  | some c =>
    have hIndex := index_lt_of_mem h (List.mem_of_getElem? hChunk)
    rcases readStripe_cases hIndex (hServes i c hChunk) with hDone | ⟨-, -, e, -, hFail⟩
    · rw [Option.map_some, Option.map_some, Option.map_some, hDone]
    · exact absurd hFail (hOk i c hChunk e)

/-- What a read that succeeds returns. -/
theorem pnfsReadLayout_prefix {bytes : List UInt8}
    (h : g.Covered env.toLayoutEnv layout offset count)
    (hServes : g.Serves servers env offset count)
    (hOk : pnfsReadLayout env g.openFh offset count layout = some (.ok bytes)) :
    g.ReadsPrefix servers offset count bytes := by
  rw [h.read_eq] at hOk
  split at hOk
  next => cases hOk
  next results hJoin =>
    have hAll := tryJoinAll_eq_ok hJoin
    -- a chunk that failed would stand among the values
    have hNone : ∀ i c, (g.chunks offset count)[i]? = some c →
        ∀ e, readStripe env g.layout g.device g.openFh i c ≠ .error e := by
      intro i c hChunk e hFail
      have hAt : ((g.chunks offset count).mapIdx
          (readStripe env g.layout g.device g.openFh))[i]? = some (.error e) := by
        rw [List.getElem?_mapIdx, hChunk, Option.map_some, hFail]
      rw [hAll, List.getElem?_map] at hAt
      obtain ⟨r, -, hr⟩ := Option.map_eq_some_iff.mp hAt
      cases hr
    have hResults : results = (g.chunks offset count).map (g.chunkResult servers) := by
      have hInjective : Function.Injective
          (Except.ok : List UInt8 × Bool → Except NfsError (List UInt8 × Bool)) :=
        fun _ _ hEq => Except.ok.inj hEq
      exact List.map_injective_iff.mpr hInjective
        (hAll.symm.trans (stripes_eq h.inPattern hServes hNone))
    split at hOk
    next => cases hOk
    next =>
      obtain rfl := Except.ok.inj (Option.some.inj hOk)
      rw [joinStripes_eq, hResults]
      exact joinUntil_chunks h.inPattern

/-- A read whose READs are all answered succeeds. -/
theorem pnfsReadLayout_returns (h : g.Covered env.toLayoutEnv layout offset count)
    (hServes : g.Serves servers env offset count) (hAnswers : g.Answers env offset count)
    (hGeneration : layout.generation = env.activeGeneration) :
    ∃ bytes, pnfsReadLayout env g.openFh offset count layout = some (.ok bytes) := by
  have hNone : ∀ i c, (g.chunks offset count)[i]? = some c →
      ∀ e, readStripe env g.layout g.device g.openFh i c ≠ .error e := by
    intro i c hChunk e hFail
    have hIndex := index_lt_of_mem h.inPattern (List.mem_of_getElem? hChunk)
    rcases readStripe_cases hIndex (hServes i c hChunk) with hDone | ⟨done, hLt, e', hError, -⟩
    · rw [hDone] at hFail
      cases hFail
    · obtain ⟨data, hData⟩ := hAnswers i c hChunk done hLt
      rw [hData] at hError
      cases hError
  rw [h.read_eq, stripes_eq h.inPattern hServes hNone, tryJoinAll_ok]
  dsimp only
  rw [if_neg (not_not.mpr hGeneration)]
  exact ⟨_, rfl⟩

/-! ## Complete reads -/

/-- A read of a covered range all of whose READs are answered by the data servers. -/
structure ServedRead (g : Striping) (servers : DataServers) (passes : Nat → ReadPass)
    (offset count : Nat) : Prop where
  answered : ∃ layout, (passes 0).layout = .ok (some layout) ∧
    layout.generation = (passes 0).env.activeGeneration ∧
    g.Covered (passes 0).env.toLayoutEnv layout offset count
  serves : g.Serves servers (passes 0).env offset count
  answers : g.Answers (passes 0).env offset count

/-- A served read returns the prefix. -/
theorem ServedRead.returns {passes : Nat → ReadPass}
    (h : g.ServedRead servers passes offset count) :
    ∃ bytes, pnfsRead passes g.openFh offset count = some (.ok bytes) ∧
      g.ReadsPrefix servers offset count bytes := by
  obtain ⟨layout, hLayout, hGeneration, hCovered⟩ := h.answered
  obtain ⟨bytes, hBytes⟩ := pnfsReadLayout_returns hCovered h.serves h.answers hGeneration
  refine ⟨bytes, ?_, pnfsReadLayout_prefix hCovered h.serves hBytes⟩
  unfold pnfsRead pnfsReadFrom
  rw [hLayout]
  dsimp only
  rw [hBytes]

/-- The data servers hold the logical file, and nothing past its end. -/
structure HoldsFile (g : Striping) (servers : DataServers) (file : Lib.File UInt8) : Prop where
  byte_eq : ∀ x, g.layout.patternOffset ≤ x → x ≤ u64Max → g.byteOf servers x = file.byte x
  lt_size : ∀ x, g.layout.patternOffset ≤ x → x ≤ u64Max → g.InFile servers x → x < file.size

/-- Data servers that return all that they have. -/
def wholeAnswers (g : Striping) (servers : DataServers) (offset count : Nat) :
    Nat → Nat → Except NfsError (List UInt8) := fun i done =>
  match (g.chunks offset count)[i]? with
  | some c =>
    let file := g.stripeFile servers c.dsIndex
    .ok (readReply file (c.dsOffset + done)
      (min (c.length - done) (file.size - (c.dsOffset + done))))
  | none => .error (.rpc "no such chunk")

theorem serves_wholeAnswers (g : Striping) (servers : DataServers) (env : ReadEnv)
    (offset count : Nat) (h : env.answer = g.wholeAnswers servers offset count) :
    g.Serves servers env offset count ∧ g.Answers env offset count := by
  constructor
  · intro i c hChunk done hDone data hData
    rw [h, wholeAnswers, hChunk] at hData
    obtain rfl := Except.ok.inj hData
    exact ⟨_, Nat.min_le_left _ _, Nat.min_le_right _ _, by omega, rfl⟩
  · intro i c hChunk done hDone
    rw [h, wholeAnswers, hChunk]
    exact ⟨_, rfl⟩

end Striping

/-- A read returns bytes of the file from the offset on, and fewer than asked for only when
they reach its end. -/
def ReadComplete (file : Lib.File UInt8) (offset count : Nat)
    (result : Option (Except NfsError (List UInt8))) : Prop :=
  ∃ bytes, result = some (.ok bytes) ∧ bytes = Lib.slice file.byte offset bytes.length ∧
    bytes.length ≤ count ∧ offset + bytes.length ≤ max offset file.size ∧
    (bytes.length < count → file.size ≤ offset + bytes.length)

/-- **Complete reads.** A striped read is complete if and only if every byte of the request
that the logical file has lies before the end of its data server's file. -/
theorem pnfs_read_complete_iff {g : Striping} {servers : DataServers} {passes : Nat → ReadPass}
    {offset count : Nat} {file : Lib.File UInt8}
    (hRead : g.ServedRead servers passes offset count) (hFile : g.HoldsFile servers file) :
    ReadComplete file offset count (pnfsRead passes g.openFh offset count) ↔
      ∀ x, offset ≤ x → x < offset + count → x < file.size → g.InFile servers x := by
  obtain ⟨bytes, hBytes, hPrefix⟩ := hRead.returns
  obtain ⟨layout, -, -, hCovered⟩ := hRead.answered
  obtain ⟨hPattern, hFits, -⟩ := hCovered.inPattern
  have hLength := hPrefix.length_le
  constructor
  · rintro ⟨bytes', hBytes', -, -, -, hEnd⟩ x hFrom hTo hSize
    obtain rfl : bytes = bytes' := Except.ok.inj (Option.some.inj (hBytes.symm.trans hBytes'))
    refine hPrefix.inFile x hFrom ?_
    -- a short read has reached the end of the file
    by_cases hShort : bytes.length < count
    · have hReached := hEnd hShort
      omega
    · omega
  · intro hInFile
    refine ⟨bytes, hBytes, ?_, hLength, ?_, fun hShort => ?_⟩
    · refine hPrefix.bytes_eq.trans (Lib.slice_congr fun k hk => ?_)
      exact hFile.byte_eq (offset + k) (by omega) (by omega)
    · by_cases hEmpty : bytes.length = 0
      · omega
      · -- the last byte returned lies inside the file
        have hLast := hPrefix.inFile (offset + (bytes.length - 1)) (by omega) (by omega)
        have hIn := hFile.lt_size _ (by omega) (by omega) hLast
        omega
    · by_contra hBefore
      exact hPrefix.stops hShort (hInFile _ (by omega) (by omega) (by omega))

/-! ## A hole -/

/-- A sparse file layout over two data servers, in units of 64 bytes. -/
def sparseLayout : FilesLayout :=
  { deviceId := List.replicate 16 0, stripeUnit := 64, isDense := false, commitThruMds := false
    firstStripeIndex := 0, patternOffset := 0, fhList := [] }

def sparseLayoutBytes : List UInt8 :=
  List.replicate 16 0 ++ beU32 64 ++ beU32 0 ++ beU32 0 ++ beU32 0 ++ beU32 0

def sparseStriping : Striping where
  layout := sparseLayout
  device := { stripeIndices := [0, 1], dsAddrs := [[10], [11]] }
  openFh := [1]
  stripeCount := 2
  decoded := ⟨sparseLayoutBytes, Lib.eq_ok_of_toOption (by decide +kernel)⟩
  unit_ne := by decide
  accepted := by decide

/-- A file with one stripe written, the third one. -/
def holeFile : Lib.File UInt8 := Lib.File.empty.write 128 (List.replicate 64 7)

/-- Its data servers: the second one has no stripe of it. -/
def holeServers : DataServers := fun addr _ => if addr = 10 then holeFile else .empty

def holePass (offset count : Nat) : ReadPass where
  layout := .ok (some { generation := 1, stateid := 0, returnOnClose := false, segments :=
    [{ offset := 0, length := u64Max, iomode := .read, layoutType := .nfsV41Files
       content := .files sparseLayout }] })
  env :=
    { serverAddr := 1
      device := .ok (some sparseStriping.device)
      unreachable := fun _ => false
      answer := sparseStriping.wholeAnswers holeServers offset count
      failsFirst := 0
      activeGeneration := 1 }
  generation := 1
  refresh := .ok ()

theorem holePass_served {offset count : Nat} (hFits : offset + count ≤ u64Max)
    (hCount : count < 2 ^ 32) :
    sparseStriping.ServedRead holeServers (fun _ => holePass offset count) offset count := by
  obtain ⟨hServes, hAnswers⟩ := Striping.serves_wholeAnswers sparseStriping holeServers
    (holePass offset count).env offset count rfl
  refine ⟨⟨_, rfl, rfl, ⟨_, rfl, ?_⟩, Nat.zero_le _, hFits, hCount⟩, hServes, hAnswers⟩
  show count ≤ min (0 + u64Max) u64Max - offset
  omega

/-- The stripe of a byte alternates with the units. -/
theorem sparse_index {x : Nat} (hx : x ≤ u64Max) : sparseStriping.index x = x / 64 % 2 := by
  rw [Striping.index_eq_mod hx]
  rfl

theorem holeServers_hold : sparseStriping.HoldsFile holeServers holeFile := by
  constructor
  · intro x _ hx
    have hIndex := sparse_index hx
    show (sparseStriping.stripeFile holeServers (sparseStriping.index x)).byte x = holeFile.byte x
    rcases Nat.mod_two_eq_zero_or_one (x / 64) with hEven | hOdd
    · rw [hIndex, hEven]
      rfl
    · rw [hIndex, hOdd]
      have hOut : x < 128 ∨ 128 + (List.replicate 64 (7 : UInt8)).length ≤ x := by
        rw [List.length_replicate]
        omega
      exact (Lib.File.write_byte_of_not_mem _ hOut).symm
  · intro x _ hx hIn
    have hIndex := sparse_index hx
    change x < (sparseStriping.stripeFile holeServers (sparseStriping.index x)).size at hIn
    rcases Nat.mod_two_eq_zero_or_one (x / 64) with hEven | hOdd
    · rw [hIndex, hEven] at hIn
      exact hIn
    · rw [hIndex, hOdd] at hIn
      exact absurd hIn (Nat.not_lt_zero x)

/-- The written stripe is read to the end of the file. -/
theorem pnfs_read_complete_iff_holeFile :
    ReadComplete holeFile 130 100 (pnfsRead (fun _ => holePass 130 100) [1] 130 100) := by
  refine (pnfs_read_complete_iff (holePass_served (by decide) (by decide)) holeServers_hold).mpr
    fun x hFrom hTo hSize => ?_
  have hIndex : sparseStriping.index x = 0 := by
    have hSize : x < 192 := hSize
    rw [sparse_index (by unfold u64Max; omega)]
    omega
  show x < (sparseStriping.stripeFile holeServers (sparseStriping.index x)).size
  rw [hIndex]
  exact hSize

/-- **A hole is taken for the end.** The second server has no bytes; a read across its stripe
stops there, 128 bytes before the end of the file. -/
theorem hole_reads_as_end :
    sparseStriping.ServedRead holeServers (fun _ => holePass 60 8) 60 8 ∧
      sparseStriping.HoldsFile holeServers holeFile ∧ holeFile.size = 192 ∧
      ¬ReadComplete holeFile 60 8 (pnfsRead (fun _ => holePass 60 8) [1] 60 8) := by
  refine ⟨holePass_served (by decide) (by decide), holeServers_hold, rfl, ?_⟩
  rintro ⟨bytes, hBytes, -, -, -, hEnd⟩
  have hRead : (pnfsRead (fun _ => holePass 60 8) [1] 60 8).bind Except.toOption =
      some [0, 0, 0, 0] := by
    decide +kernel
  rw [hBytes] at hRead
  obtain rfl : bytes = [0, 0, 0, 0] := Option.some.inj hRead
  have hReached : holeFile.size ≤ 60 + 4 := hEnd (by decide)
  exact absurd hReached (by decide)

end NfsRs.Nfs41
