import NfsRs.Error
import NfsRs.Lib.Machine

/-!
# NfsRs — a range read in pipelined chunks

`read_chunks_with` cuts the range into chunks and reads up to a window of them at a time. A chunk
is read until it is complete or the server answers with no data, which it does at the end of the
file; short answers are continued. Chunks complete in any order and are delivered in the order of
their offsets: the delivery waits for the first chunk that is out, and a chunk that came out short
ends the read.

The server answers each READ with some of the file's bytes at its offset, with none only at the
end of the file, or with an error. The pieces of a chunk are handed to the callback one by one, and
the callback may fail.

## Main results

- `pipelined_read_exact` : whatever the schedule, the callback gets the file's bytes from the
  offset on without a gap, and all of the range up to the end of the file on success.
-/

namespace NfsRs.Client.PipelinedRead

/-- The call, and the file that the server has. -/
structure ReadCall where
  file : List UInt8
  offset : Nat
  len : Nat
  /-- `read_chunk_size`. -/
  chunkSize : Nat
  /-- `READ_CONCURRENCY`. -/
  window : Nat

namespace ReadCall

def chunk (c : ReadCall) : Nat := max c.chunkSize 1

/-- The file's bytes from a position of the range on. -/
def bytesAt (c : ReadCall) (position count : Nat) : List UInt8 :=
  (c.file.drop (c.offset + position)).take count

/-- An answer of the server to a READ at a position of the range. -/
def Serves (c : ReadCall) (position : Nat) : Except NfsError (List UInt8) → Prop
  | .error _ => True
  | .ok data => data = c.bytesAt position data.length ∧
      (data = [] → c.file.length ≤ c.offset + position)

instance (c : ReadCall) (position : Nat) (answer : Except NfsError (List UInt8)) :
    Decidable (c.Serves position answer) := by
  cases answer <;> unfold Serves <;> infer_instance

end ReadCall

/-- A chunk that is being read, or was. -/
structure ChunkRead where
  start : Nat
  want : Nat
  pieces : List (List UInt8)
  /-- `none` while it is read. -/
  outcome : Option (Except NfsError Unit)

namespace ChunkRead

def got (r : ChunkRead) : Nat := r.pieces.flatten.length

/-- The READ of the chunk returns. -/
def answered (r : ChunkRead) : Except NfsError (List UInt8) → ChunkRead
  | .error e => { r with outcome := some (.error e) }
  | .ok data =>
    if data.length > r.want - r.got then
      { r with outcome := some (.error (.rpc "server returned more READ data than requested")) }
    -- no data is the end of the file, and the chunk comes out short
    else if data.isEmpty then { r with outcome := some (.ok ()) }
    else
      { r with
        pieces := r.pieces ++ [data]
        outcome := if r.got + data.length < r.want then none else some (.ok ()) }

end ChunkRead

structure Pipeline where
  /-- Where the next chunk begins. -/
  spawned : Nat
  inFlight : List ChunkRead
  /-- The calls of `fill`. -/
  delivered : List (Nat × List UInt8)
  completed : Nat
  result : Option (Except NfsError Nat)

inductive ReadEvent where
  | spawn
  /-- The server answers the READ of a chunk. -/
  | answer (i : Nat) (answer : Except NfsError (List UInt8))
  /-- The first chunk is delivered; `fill` fails behind so many pieces, if it does. -/
  | deliver (failure : Option (Nat × NfsError))
  /-- The stream has ended. -/
  | finish

namespace Pipeline

def initial (c : ReadCall) : Pipeline where
  spawned := 0
  inFlight := []
  delivered := []
  completed := 0
  result :=
    if c.offset + c.len ≥ 2 ^ 64 then some (.error (.invalidInput "read range overflows u64"))
    else none

/-- The pieces with their positions. -/
def placed : (position : Nat) → List (List UInt8) → List (Nat × List UInt8)
  | _, [] => []
  | position, piece :: rest => (position, piece) :: placed (position + piece.length) rest

/-- The chunk in front came out. -/
def deliver (s : Pipeline) (r : ChunkRead) (rest : List ChunkRead) :
    Option (Nat × NfsError) → Pipeline
  -- the pieces in front of the one that `fill` refused have been handed over
  | some (k, e) =>
    { s with delivered := s.delivered ++ placed r.start (r.pieces.take k)
             result := some (.error e) }
  | none =>
    { s with
      inFlight := rest
      delivered := s.delivered ++ placed r.start r.pieces
      completed := s.completed + r.got
      result := if r.got < r.want then some (.ok (s.completed + r.got)) else none }

def step (c : ReadCall) (s : Pipeline) : ReadEvent → Option Pipeline
  | .spawn =>
    if s.result.isNone ∧ s.spawned < c.len ∧ s.inFlight.length < c.window then
      let want := min c.chunk (c.len - s.spawned)
      some { s with
        spawned := s.spawned + want
        inFlight := s.inFlight ++
          [{ start := s.spawned, want := want, pieces := [], outcome := none }] }
    else none
  | .answer i answer =>
    match s.inFlight[i]? with
    | none => none
    | some r =>
      if s.result.isNone ∧ r.outcome.isNone ∧ c.Serves (r.start + r.got) answer then
        some { s with inFlight := s.inFlight.set i (r.answered answer) }
      else none
  -- `buffered` yields the chunks in the order they were spawned, whichever is done first
  | .deliver failure =>
    match s.result, s.inFlight with
    | none, r :: rest =>
      match r.outcome with
      | none => none
      | some (.error e) => some { s with result := some (.error e) }
      | some (.ok ()) => some (s.deliver r rest failure)
    | _, _ => none
  | .finish =>
    if s.result.isNone ∧ s.inFlight = [] ∧ c.len ≤ s.spawned then
      some { s with result := some (.ok s.completed) }
    else none

end Pipeline

def readMachine (c : ReadCall) : Lib.Machine Pipeline ReadEvent where
  init := .initial c
  step := Pipeline.step c

/-- `read_at`: the pieces joined. -/
def Pipeline.bytes (s : Pipeline) : List UInt8 := (s.delivered.map (·.2)).flatten

/-! ## The file's bytes -/

section bytes

variable {c : ReadCall} {position m n : Nat}

theorem bytesAt_append :
    c.bytesAt position m ++ c.bytesAt (position + m) n = c.bytesAt position (m + n) := by
  unfold ReadCall.bytesAt
  rw [List.take_add, List.drop_drop, Nat.add_assoc]

/-- Behind the end of the file there is nothing more. -/
theorem bytesAt_of_end (h : c.file.length ≤ c.offset + position + m) (hle : m ≤ n) :
    c.bytesAt position n = c.bytesAt position m := by
  unfold ReadCall.bytesAt
  rw [List.take_of_length_le (by rw [List.length_drop]; omega),
    List.take_of_length_le (by rw [List.length_drop]; omega)]

end bytes

/-! ## One chunk -/

/-- The pieces of a chunk are the file's bytes, and it came out complete or at the end. -/
structure ChunkRead.Faithful (c : ReadCall) (r : ChunkRead) : Prop where
  pieces : r.pieces.flatten = c.bytesAt r.start r.got
  got_le : r.got ≤ r.want
  done : r.outcome = some (.ok ()) → r.got = r.want ∨ c.file.length ≤ c.offset + r.start + r.got

variable {c : ReadCall} {r : ChunkRead} {s : Pipeline}

/-- An answer, short or not, leaves the chunk with bytes of the file. -/
theorem ChunkRead.Faithful.answered (h : r.Faithful c) {answer : Except NfsError (List UInt8)}
    (hServes : c.Serves (r.start + r.got) answer) : (r.answered answer).Faithful c := by
  cases answer with
  | error e => exact ⟨h.pieces, h.got_le, nofun⟩
  | ok data =>
    obtain ⟨hData, hEnd⟩ := hServes
    simp only [ChunkRead.answered]
    split
    · exact ⟨h.pieces, h.got_le, nofun⟩
    rename_i hFits
    split
    · rename_i hEmpty
      have hLast := hEnd (List.isEmpty_iff.mp hEmpty)
      exact ⟨h.pieces, h.got_le, fun _ => .inr (by show _ ≤ c.offset + r.start + r.got; omega)⟩
    · have hGot : (r.pieces ++ [data]).flatten.length = r.got + data.length := by
        simp [ChunkRead.got]
      refine ⟨?_, ?_, fun hDone => .inl ?_⟩
      · show (r.pieces ++ [data]).flatten = c.bytesAt r.start _
        rw [ChunkRead.got, hGot, ← bytesAt_append, ← hData, ← h.pieces]
        simp
      · show (r.pieces ++ [data]).flatten.length ≤ r.want
        have hLe := h.got_le
        omega
      · show (r.pieces ++ [data]).flatten.length = r.want
        have hLe := h.got_le
        by_contra hNe
        rw [if_pos (by omega)] at hDone
        cases hDone

/-! ## The pieces that are delivered -/

namespace Pipeline

theorem map_placed : ∀ (pieces : List (List UInt8)) (start : Nat),
    (placed start pieces).map (·.2) = pieces
  | [], _ => rfl
  | piece :: rest, start => congrArg (piece :: ·) (map_placed rest (start + piece.length))

theorem placed_append : ∀ (before pieces : List (List UInt8)) (start : Nat),
    placed start (before ++ pieces) =
      placed start before ++ placed (start + before.flatten.length) pieces
  | [], _, _ => rfl
  | piece :: rest, pieces, start => by
    have hRest := placed_append rest pieces (start + piece.length)
    rw [List.cons_append, placed, hRest, placed, List.flatten_cons, List.length_append,
      Nat.add_assoc, List.cons_append]

/-- What was handed to the callback is the file's bytes from the offset on, without a gap. -/
structure Delivered (c : ReadCall) (s : Pipeline) : Prop where
  placed : s.delivered = placed 0 (s.delivered.map (·.2))
  bytes : s.bytes = c.bytesAt 0 s.bytes.length

/-- Pieces of the file behind what was delivered so far. -/
theorem Delivered.append {c : ReadCall} {s s' : Pipeline} (h : Delivered c s)
    {pieces : List (List UInt8)} {start : Nat} (hStart : start = s.bytes.length)
    (hPieces : pieces.flatten = c.bytesAt start pieces.flatten.length)
    (hNew : s'.delivered = s.delivered ++ Pipeline.placed start pieces) :
    Delivered c s' ∧ s'.bytes.length = start + pieces.flatten.length := by
  have hMap : s'.delivered.map (·.2) = s.delivered.map (·.2) ++ pieces := by
    rw [hNew, List.map_append, map_placed]
  have hBytes : s'.bytes = s.bytes ++ pieces.flatten := by
    unfold Pipeline.bytes
    rw [hMap, List.flatten_append]
  have hLength : s'.bytes.length = start + pieces.flatten.length := by
    rw [hBytes, List.length_append, hStart]
  refine ⟨⟨?_, ?_⟩, hLength⟩
  · rw [hMap, placed_append, ← h.placed, hNew, Nat.zero_add, hStart]
    rfl
  · rw [hLength, hBytes, ← bytesAt_append, Nat.zero_add, ← hPieces, hStart, ← h.bytes]

end Pipeline

/-! ## The pipeline -/

/-- The chunks follow one another from the first position to the second. -/
def Queued : Nat → List ChunkRead → Nat → Prop
  | start, [], stop => start = stop
  | start, r :: rest, stop => r.start = start ∧ Queued (start + r.want) rest stop

theorem Queued.append : ∀ {queue : List ChunkRead} {start stop : Nat},
    Queued start queue stop → r.start = stop → Queued start (queue ++ [r]) (stop + r.want)
  | [], _, _, h, hr => ⟨hr.trans h.symm, congrArg (· + r.want) h⟩
  | _ :: _, _, _, h, hr => ⟨h.1, Queued.append h.2 hr⟩

/-- An answer moves no chunk. -/
theorem Queued.set {r' : ChunkRead} (hStart : r'.start = r.start) (hWant : r'.want = r.want) :
    ∀ {queue : List ChunkRead} {start stop i : Nat}, Queued start queue stop →
      queue[i]? = some r → Queued start (queue.set i r') stop
  | _ :: _, _, _, 0, h, hr => by
    cases hr
    exact ⟨hStart.trans h.1, hWant.symm ▸ h.2⟩
  | _ :: _, _, _, _ + 1, h, hr => ⟨h.1, Queued.set hStart hWant h.2 hr⟩

theorem answered_start (r : ChunkRead) (answer : Except NfsError (List UInt8)) :
    (r.answered answer).start = r.start ∧ (r.answered answer).want = r.want := by
  cases answer with
  | error e => exact ⟨rfl, rfl⟩
  | ok data =>
    simp only [ChunkRead.answered]
    split
    · exact ⟨rfl, rfl⟩
    · split <;> exact ⟨rfl, rfl⟩

/-- The chunks that are out lie behind what was delivered. -/
structure Running (c : ReadCall) (s : Pipeline) : Prop where
  queued : Queued s.completed s.inFlight s.spawned
  spawned_le : s.spawned ≤ c.len
  chunks : ∀ r ∈ s.inFlight, r.Faithful c
  completed : s.bytes.length = s.completed

structure PipelineInv (c : ReadCall) (s : Pipeline) : Prop where
  delivered : Pipeline.Delivered c s
  length_le : s.bytes.length ≤ c.len
  running : s.result = none → Running c s
  success : ∀ n, s.result = some (.ok n) → s.bytes = c.bytesAt 0 c.len ∧ n = s.bytes.length

theorem Queued.le : ∀ {queue : List ChunkRead} {start stop : Nat}, Queued start queue stop →
    start + (queue.map (·.want)).sum = stop
  | [], _, _, h => h
  | r :: rest, start, stop, h => by
    have hRest := Queued.le h.2
    rw [List.map_cons, List.sum_cons]
    omega

theorem pipelineInv_initial (c : ReadCall) : PipelineInv c (.initial c) where
  delivered := ⟨rfl, by simp [Pipeline.bytes, Pipeline.initial, ReadCall.bytesAt]⟩
  length_le := Nat.zero_le _
  running _ := ⟨rfl, Nat.zero_le _, nofun, rfl⟩
  success n h := by
    unfold Pipeline.initial at h
    dsimp only at h
    split at h <;> cases h

theorem PipelineInv.spawn (h : PipelineInv c s) (hNone : s.result = none)
    (hLt : s.spawned < c.len) :
    PipelineInv c { s with
      spawned := s.spawned + min c.chunk (c.len - s.spawned)
      inFlight := s.inFlight ++ [{ start := s.spawned, want := min c.chunk (c.len - s.spawned)
                                   pieces := [], outcome := none }] } := by
  have hRun := h.running hNone
  refine ⟨⟨h.delivered.placed, h.delivered.bytes⟩, h.length_le,
    fun _ => ⟨hRun.queued.append rfl, ?_, ?_, hRun.completed⟩, fun n hn => h.success n hn⟩
  · show s.spawned + min c.chunk (c.len - s.spawned) ≤ c.len
    omega
  · intro r hr
    rcases List.mem_append.mp hr with hr | hr
    · exact hRun.chunks r hr
    · obtain rfl := List.mem_singleton.mp hr
      exact ⟨rfl, Nat.zero_le _, nofun⟩

theorem PipelineInv.answer (h : PipelineInv c s) (hNone : s.result = none) {i : Nat}
    (hr : s.inFlight[i]? = some r) {answer : Except NfsError (List UInt8)}
    (hServes : c.Serves (r.start + r.got) answer) :
    PipelineInv c { s with inFlight := s.inFlight.set i (r.answered answer) } := by
  have hRun := h.running hNone
  obtain ⟨hStart, hWant⟩ := answered_start r answer
  refine ⟨⟨h.delivered.placed, h.delivered.bytes⟩, h.length_le,
    fun _ => ⟨hRun.queued.set hStart hWant hr, hRun.spawned_le, ?_, hRun.completed⟩,
    fun n hn => h.success n hn⟩
  intro r' hr'
  rcases List.mem_or_eq_of_mem_set hr' with hOld | rfl
  · exact hRun.chunks r' hOld
  · exact (hRun.chunks r (List.mem_of_getElem? hr)).answered hServes

/-- The read ends with an error, wherever it is. -/
theorem PipelineInv.fail (h : PipelineInv c s) (e : NfsError) :
    PipelineInv c { s with result := some (.error e) } :=
  ⟨⟨h.delivered.placed, h.delivered.bytes⟩, h.length_le, nofun, nofun⟩

/-- Some pieces in front of a chunk are of the file too. -/
theorem ChunkRead.Faithful.take (h : r.Faithful c) (k : Nat) :
    (r.pieces.take k).flatten = c.bytesAt r.start (r.pieces.take k).flatten.length ∧
      (r.pieces.take k).flatten.length ≤ r.got := by
  have hSplit : (r.pieces.take k).flatten ++ (r.pieces.drop k).flatten = r.pieces.flatten := by
    rw [← List.flatten_append, List.take_append_drop]
  have hLe : (r.pieces.take k).flatten.length ≤ r.got := by
    rw [ChunkRead.got, ← hSplit, List.length_append]
    omega
  refine ⟨?_, hLe⟩
  have hPrefix : (r.pieces.take k).flatten <+: c.bytesAt r.start r.got := by
    rw [← h.pieces, ← hSplit]
    exact List.prefix_append _ _
  calc (r.pieces.take k).flatten
      = (c.bytesAt r.start r.got).take (r.pieces.take k).flatten.length :=
        List.prefix_iff_eq_take.mp hPrefix
    _ = c.bytesAt r.start (r.pieces.take k).flatten.length := by
        rw [ReadCall.bytesAt, List.take_take, Nat.min_eq_left hLe]
        rfl

/-- Only the chunk in front is delivered, so the bytes stay a front of the file. -/
theorem PipelineInv.deliver (h : PipelineInv c s) (hNone : s.result = none) {rest : List ChunkRead}
    (hFlight : s.inFlight = r :: rest) (hDone : r.outcome = some (.ok ()))
    (failure : Option (Nat × NfsError)) : PipelineInv c (s.deliver r rest failure) := by
  have hRun := h.running hNone
  have hQueued := hRun.queued
  rw [hFlight] at hQueued
  have hChunk := hRun.chunks r (by rw [hFlight]; exact List.mem_cons_self)
  -- the chunk in front begins where the bytes delivered so far end
  have hStart : r.start = s.bytes.length := hQueued.1.trans hRun.completed.symm
  have hEnd := hQueued.2.le
  have hLen := hRun.spawned_le
  have hGot := hChunk.got_le
  cases failure with
  | some failure =>
    obtain ⟨hBytes, hLe⟩ := hChunk.take failure.1
    have hStep : (s.deliver r rest (some failure)).delivered =
        s.delivered ++ Pipeline.placed r.start (r.pieces.take failure.1) := rfl
    obtain ⟨hDelivered, hLength⟩ := h.delivered.append hStart hBytes hStep
    refine ⟨hDelivered, ?_, nofun, nofun⟩
    have hFirst := hQueued.1
    omega
  | none =>
    have hStep : (s.deliver r rest none).delivered =
        s.delivered ++ Pipeline.placed r.start r.pieces := rfl
    obtain ⟨hDelivered, hLength⟩ := h.delivered.append hStart hChunk.pieces hStep
    have hTotal : (s.deliver r rest none).bytes.length = s.completed + r.got := by
      rw [hLength, hQueued.1]
      rfl
    refine ⟨hDelivered, by omega, fun hGoes => ?_, fun n hn => ?_⟩
    -- the read goes on only behind a full chunk, so that the next one follows without a gap
    · have hFull : ¬ r.got < r.want := fun hShort => by
        have hResult : (s.deliver r rest none).result = some (.ok (s.completed + r.got)) :=
          if_pos hShort
        rw [hResult] at hGoes
        cases hGoes
      have hEq : r.got = r.want := by omega
      refine ⟨?_, hLen,
        fun x hx => hRun.chunks x (by rw [hFlight]; exact List.mem_cons_of_mem _ hx), hTotal⟩
      show Queued (s.completed + r.got) rest s.spawned
      rw [hEq]
      exact hQueued.2
    · have hShort : r.got < r.want := by
        by_contra hFull
        have hResult : (s.deliver r rest none).result = none := if_neg hFull
        rw [hResult] at hn
        cases hn
      have hResult : (s.deliver r rest none).result = some (.ok (s.completed + r.got)) :=
        if_pos hShort
      rw [hResult] at hn
      cases hn
      -- a short chunk came out at the end of the file
      have hFile : c.file.length ≤ c.offset + r.start + r.got :=
        (hChunk.done hDone).resolve_left (Nat.ne_of_lt hShort)
      refine ⟨?_, hTotal.symm⟩
      have hFirst := hQueued.1
      rw [hDelivered.bytes, hTotal]
      exact (bytesAt_of_end (by omega) (by omega)).symm

theorem PipelineInv.finish (h : PipelineInv c s) (hNone : s.result = none)
    (hEmpty : s.inFlight = []) (hLen : c.len ≤ s.spawned) :
    PipelineInv c { s with result := some (.ok s.completed) } := by
  have hRun := h.running hNone
  have hQueued := hRun.queued
  rw [hEmpty] at hQueued
  have hAll : s.completed = c.len := hQueued.trans (Nat.le_antisymm hRun.spawned_le hLen)
  refine ⟨⟨h.delivered.placed, h.delivered.bytes⟩, h.length_le, nofun, fun n hn => ?_⟩
  cases hn
  refine ⟨?_, hRun.completed.symm⟩
  show s.bytes = _
  rw [h.delivered.bytes, hRun.completed, hAll]

/-- **One step.** -/
theorem pipelineInv_step {s' : Pipeline} {e : ReadEvent} (h : PipelineInv c s)
    (hStep : s.step c e = some s') : PipelineInv c s' := by
  cases e with
  | spawn =>
    simp only [Pipeline.step] at hStep
    split at hStep
    · rename_i hOpen
      cases hStep
      exact h.spawn (Option.isNone_iff_eq_none.mp hOpen.1) hOpen.2.1
    · cases hStep
  | answer i answer =>
    simp only [Pipeline.step] at hStep
    split at hStep
    · cases hStep
    rename_i r hr
    split at hStep
    · rename_i hOpen
      cases hStep
      exact h.answer (Option.isNone_iff_eq_none.mp hOpen.1) hr hOpen.2.2
    · cases hStep
  | deliver failure =>
    simp only [Pipeline.step] at hStep
    split at hStep
    -- only the read at the front of the window is delivered
    · rename_i r rest hNone hFlight
      split at hStep
      · cases hStep
      · cases hStep
        exact h.fail _
      · rename_i hDone
        cases hStep
        exact h.deliver hNone hFlight hDone failure
    · cases hStep
  | finish =>
    simp only [Pipeline.step] at hStep
    split at hStep
    · rename_i hOpen
      cases hStep
      exact h.finish (Option.isNone_iff_eq_none.mp hOpen.1) hOpen.2.1 hOpen.2.2
    · cases hStep

/-- **Pipelined reads are exact.** For every file, range, chunk size and window, and every schedule
of answers, what is delivered begins at the offset, has no gap and is the file's; on success it is
the range up to the end of the file. -/
theorem pipelined_read_exact (c : ReadCall) (s : Pipeline) (h : (readMachine c).Reachable s) :
    s.delivered = Pipeline.placed 0 (s.delivered.map (·.2)) ∧
      s.bytes = c.bytesAt 0 s.bytes.length ∧ s.bytes.length ≤ c.len ∧
      ∀ n, s.result = some (.ok n) → s.bytes = c.bytesAt 0 c.len ∧ n = s.bytes.length := by
  have hInv : PipelineInv c s := h.invariant (pipelineInv_initial c)
    fun _ _ _ _ _ hStep hInv => pipelineInv_step hInv hStep
  exact ⟨hInv.delivered.placed, hInv.delivered.bytes, hInv.length_le, hInv.success⟩

/-- Seven bytes, of which eight are asked for from the second on. -/
def sevenBytes : ReadCall :=
  { file := [1, 2, 3, 4, 5, 6, 7], offset := 1, len := 8, chunkSize := 4, window := 8 }

/-- The second chunk answers first and ends at the end of the file; the first one is answered in
two pieces. -/
def outOfOrder : List ReadEvent :=
  [.spawn, .spawn, .answer 1 (.ok [6, 7]), .answer 0 (.ok [2]), .answer 1 (.ok []),
    .answer 0 (.ok [3, 4, 5]), .deliver none, .deliver none]

theorem pipelined_read_exact_outOfOrder :
    ∃ s, (readMachine sevenBytes).Reachable s ∧ s.bytes = [2, 3, 4, 5, 6, 7] ∧
      s.bytes = sevenBytes.bytesAt 0 s.bytes.length := by
  have hReach := Lib.Machine.reachable_of_runFrom (m := readMachine sevenBytes) outOfOrder rfl
  exact ⟨_, hReach, rfl, (pipelined_read_exact sevenBytes _ hReach).2.1⟩

end NfsRs.Client.PipelinedRead
