import Mathlib.Data.UInt
import NfsRs.Error
import NfsRs.Lib.ByteFile
import NfsRs.Lib.List
import NfsRs.Lib.Machine

/-!
# NfsRs — batch writes

`write_all_with` cuts the caller's data into chunks and keeps a bounded number of
`write_chunk_with` futures active, each of which completes short writes in a loop. When all are
settled it commits the receipts in one batch, and writes everything again, twice at most, when
the commit meets another write verifier.

The machine takes the answers of the active chunks in any order, with any counts and errors.
Each answer comes with the number of bytes that the server took of that WRITE: the count it
acknowledges, nothing for a definite error, and any number where the client cannot know.

## Main results

- `batchInv_step` : every step keeps the accounts of the attempt.
- `write_all_accounted` : `Ok` means that receipts of one attempt hold every byte once and that
  their commit succeeded; an error behind bytes taken in the last attempt is uncertain.
- `rewrite_error_definite` : a definite error of a rewrite hides the bytes taken before it.
-/

namespace NfsRs.Client

/-! ## Requests and errors -/

/-- The acknowledgement of a WRITE; `receipt` is all that its commit needs besides the count. -/
structure WriteOutcome (ρ : Type*) where
  count : Nat
  receipt : ρ
  deriving DecidableEq, Repr

/-- A call of `write_all_with`; `concurrency` is the bound on active chunks. -/
structure WriteJob where
  protocol : NFSVersion
  offset : Nat
  data : List UInt8
  concurrency : Nat
  concurrency_pos : 0 < concurrency

def WriteJob.len (job : WriteJob) : Nat := job.data.length

/-- `WRITE_CONCURRENCY`. -/
def writeConcurrency : Nat := 8

/-- The outcome of an error names the verifier check. -/
def namesVerifier (e : NfsError) : Bool :=
  e.outcomeContext?.any fun c => c.operation == "write_verifier"

def writeFailure (error : NfsError) (protocol : NFSVersion) (accepted : Nat)
    (commit uncertain : Bool) : NfsError :=
  if accepted = 0 ∧ commit = false ∧ uncertain = false then error
  else
    .operationOutcome .uncertain .replaySensitive .sent .verifyThenResume (some accepted)
      { operation := if commit then "commit" else "write"
        protocol := protocol
        requestId := none }
      error

/-! ## State -/

/-- An acknowledged WRITE: its position in the data, the bytes sent, and the outcome. -/
structure PlacedWrite (ρ : Type*) where
  position : Nat
  sent : List UInt8
  outcome : WriteOutcome ρ

def PlacedWrite.range {ρ : Type*} (w : PlacedWrite ρ) : Nat × Nat :=
  (w.position, w.position + w.outcome.count)

/-- A `write_chunk_with` future over the data from `start` to before `stop`. -/
structure ChunkWrite (ρ : Type*) where
  start : Nat
  stop : Nat
  done : Nat
  receipts : List (PlacedWrite ρ)

/-- One iteration of the attempt loop. `dropped` records the ranges given up by failed chunks,
and `taken` the bytes that the server took. -/
structure BatchAttempt (ρ : Type*) where
  chunk : Nat
  /-- Start of the next range. -/
  next : Nat
  active : List (ChunkWrite ρ)
  accepted : Nat
  receipts : List (PlacedWrite ρ)
  failure : Option (Nat × NfsError)
  uncertain : Bool
  dropped : List (Nat × Nat)
  taken : Nat

inductive BatchPhase (ρ : Type*) where
  | starting
  | writing (a : BatchAttempt ρ)
  | committing (a : BatchAttempt ρ)
  /-- Returned, out of the attempt that ended last. -/
  | returned (last : Option (BatchAttempt ρ)) (result : Except NfsError Nat)

/-- A call of `commit_batch` and whether it succeeded. -/
structure CommitCall (ρ : Type*) where
  offset : Nat
  count : Nat
  writes : List (PlacedWrite ρ)
  ok : Bool

structure WriteBatch (ρ : Type*) where
  attempt : Nat
  phase : BatchPhase ρ
  /-- Bytes that the server took in all attempts. -/
  taken : Nat
  commits : List (CommitCall ρ)

variable {ρ : Type*} (job : WriteJob)

def WriteBatch.initial : WriteBatch ρ where
  attempt := 0
  phase :=
    if 2 ^ 64 ≤ job.offset + job.len then
      .returned none (.error (.invalidInput "write range overflows u64"))
    else if job.data.isEmpty then .returned none (.ok 0)
    else .starting
  taken := 0
  commits := []

/-! ## `write_chunk_with` -/

namespace ChunkWrite

variable (c : ChunkWrite ρ)

def position : Nat := c.start + c.done

def remaining : Nat := c.stop - c.position

/-- The bytes of the next WRITE. -/
def slice : List UInt8 := (job.data.drop c.position).take c.remaining

/-- The next WRITE, acknowledged. -/
def acknowledged (outcome : WriteOutcome ρ) : PlacedWrite ρ :=
  { position := c.position, sent := c.slice job, outcome := outcome }

/-- The next WRITE is answered: the loop goes on, or the future returns, with an error perhaps. -/
def answered (result : Except NfsError (WriteOutcome ρ)) :
    ChunkWrite ρ × Option (Option NfsError) :=
  match result with
  | .error e => (c, some (some e))
  | .ok outcome =>
    if outcome.count = 0 ∨ c.remaining < outcome.count then
      (c, some (some (writeFailure (.rpc "server returned an invalid write count") job.protocol
        c.done true false)))
    else
      let c' := { c with
        done := c.done + outcome.count
        receipts := c.receipts ++ [c.acknowledged job outcome] }
      (c', if c'.position < c'.stop then none else some none)

/-- What the server can have taken of the next WRITE, given its answer. -/
def Took (result : Except NfsError (WriteOutcome ρ)) (taken : Nat) : Prop :=
  taken ≤ c.remaining ∧
    match result with
    | .ok outcome => 0 < outcome.count ∧ outcome.count ≤ c.remaining → taken = outcome.count
    | .error e => e.isUncertain = false → taken = 0

instance (result : Except NfsError (WriteOutcome ρ)) (taken : Nat) :
    Decidable (c.Took result taken) := by
  unfold Took
  cases result <;> infer_instance

end ChunkWrite

/-! ## `write_all_with` -/

namespace BatchAttempt

def new (chunkSize : Nat) : BatchAttempt ρ where
  chunk := max chunkSize 1
  next := 0
  active := []
  accepted := 0
  receipts := []
  failure := none
  uncertain := false
  dropped := []
  taken := 0

variable (a : BatchAttempt ρ)

/-- The next range, if there is one, becomes active. -/
def launch : BatchAttempt ρ :=
  if a.next < job.len then
    { a with
      active := a.active ++ [⟨a.next, min job.len (a.next + a.chunk), 0, []⟩]
      next := a.next + a.chunk }
  else a

def launchUpTo : Nat → BatchAttempt ρ → BatchAttempt ρ
  | 0, a => a
  | n + 1, a => (a.launch job).launchUpTo n

/-- The error of the lowest range is kept. -/
def fail (start : Nat) (e : NfsError) : BatchAttempt ρ :=
  { a with
    uncertain := a.uncertain || e.isUncertain
    failure := if a.failure.all fun f => start < f.1 then some (start, e) else a.failure }

/-- A chunk that returned leaves the active ones. -/
def collect (k : Nat) (c : ChunkWrite ρ) (error : Option NfsError) : BatchAttempt ρ :=
  let a := { a with
    active := a.active.eraseIdx k
    accepted := a.accepted + c.done
    receipts := a.receipts ++ c.receipts
    dropped := if error.isSome then a.dropped ++ [(c.position, c.stop)] else a.dropped }
  let a := match error with
    | some e => a.fail (job.offset + c.start) e
    | none => a
  if a.failure.isNone then a.launch job else a

/-- Chunk `k` is answered. -/
def answered (k : Nat) (c : ChunkWrite ρ) (result : Except NfsError (WriteOutcome ρ))
    (taken : Nat) : BatchAttempt ρ :=
  let a := { a with taken := a.taken + taken }
  match c.answered job result with
  | (c', none) => { a with active := a.active.set k c' }
  | (c', some error) => a.collect job k c' error

/-- All chunks are settled: an error is returned, else the batch is committed. -/
def settled : BatchPhase ρ :=
  if a.active.isEmpty then
    match a.failure with
    | some (_, e) =>
      .returned (some a) (.error (writeFailure e job.protocol a.accepted false a.uncertain))
    | none => .committing a
  else .writing a

end BatchAttempt

inductive BatchEvent (ρ : Type*) where
  /-- An attempt begins with the chunk size of the mount. -/
  | start (chunkSize : Nat)
  | answer (k : Nat) (result : Except NfsError (WriteOutcome ρ)) (taken : Nat)
  | commitAnswered (result : Except NfsError Unit)

namespace WriteBatch

variable (s : WriteBatch ρ)

/-- The range of the commit, the whole file where the length does not fit. -/
def commitRange : Nat × Nat := if job.len < 2 ^ 32 then (job.offset, job.len) else (0, 0)

def commitAnswered (a : BatchAttempt ρ) (result : Except NfsError Unit) : WriteBatch ρ :=
  let call : CommitCall ρ :=
    { offset := (commitRange job).1
      count := (commitRange job).2
      writes := a.receipts
      ok := result.isOk }
  let s := { s with commits := s.commits ++ [call] }
  match result with
  | .ok _ => { s with phase := .returned (some a) (.ok job.len) }
  | .error e =>
    if s.attempt < 2 ∧ namesVerifier e then { s with attempt := s.attempt + 1, phase := .starting }
    else
      { s with
        phase := .returned (some a) (.error (writeFailure e job.protocol job.len true false)) }

def step : BatchEvent ρ → Option (WriteBatch ρ)
  | .start chunkSize =>
    match s.phase with
    | .starting =>
      some { s with
        phase := ((BatchAttempt.new chunkSize).launchUpTo job job.concurrency).settled job }
    | _ => none
  | .answer k result taken =>
    match s.phase with
    | .writing a =>
      (a.active[k]?).bind fun c =>
        if c.Took result taken then
          some { s with
            taken := s.taken + taken
            phase := (a.answered job k c result taken).settled job }
        else none
    | _ => none
  | .commitAnswered result =>
    match s.phase with
    | .committing a => some (s.commitAnswered job a result)
    | _ => none

end WriteBatch

/-- One call of `write_all_with`. -/
def writeAllMachine (ρ : Type*) (job : WriteJob) : Lib.Machine (WriteBatch ρ) (BatchEvent ρ) where
  init := .initial job
  step := WriteBatch.step job

/-! ## The accounts of an attempt -/

section accounts

variable {job} {c c' : ChunkWrite ρ} {a : BatchAttempt ρ} {s s' : WriteBatch ρ}

/-- How often the chunk's receipts and its remaining range hold a position. -/
def ChunkWrite.cover (c : ChunkWrite ρ) (i : Nat) : Nat :=
  Lib.cover i (c.receipts.map PlacedWrite.range) + Lib.cover i [(c.position, c.stop)]

/-- How often the receipts, the active chunks and the dropped ranges hold a position. -/
def BatchAttempt.cover (a : BatchAttempt ρ) (i : Nat) : Nat :=
  Lib.cover i (a.receipts.map PlacedWrite.range) + (a.active.map (·.cover i)).sum +
    Lib.cover i a.dropped

/-- The acknowledged bytes are the caller's. -/
structure PlacedOk (job : WriteJob) (w : PlacedWrite ρ) : Prop where
  within : w.position + w.outcome.count ≤ job.len
  bytes : w.sent.take w.outcome.count = (job.data.drop w.position).take w.outcome.count

structure ChunkOk (job : WriteJob) (c : ChunkWrite ρ) : Prop where
  busy : c.position < c.stop
  stop_le : c.stop ≤ job.len
  placed : ∀ w ∈ c.receipts, PlacedOk job w

/-- Bytes acknowledged by the active chunks. -/
def BatchAttempt.progress (a : BatchAttempt ρ) : Nat := (a.active.map (·.done)).sum

structure AttemptOk (job : WriteJob) (a : BatchAttempt ρ) : Prop where
  chunk : 1 ≤ a.chunk
  once : ∀ i < job.len, a.cover i = if i < a.next then 1 else 0
  active : ∀ c ∈ a.active, ChunkOk job c
  placed : ∀ w ∈ a.receipts, PlacedOk job w
  clean : a.failure = none → a.dropped = []
  accounts : a.uncertain = true ∨ a.taken = a.accepted + a.progress

/-- Without a failure the writing goes on while there are ranges. -/
def Busy (job : WriteJob) (a : BatchAttempt ρ) : Prop :=
  a.failure = none → a.active = [] → job.len ≤ a.next

/-! ## Chunks -/

/-- What an answer does to a chunk. -/
inductive ChunkStep (job : WriteJob) (c : ChunkWrite ρ) (taken : Nat) :
    ChunkWrite ρ × Option (Option NfsError) → Prop
  | goesOn (c' : ChunkWrite ρ) (hOk : ChunkOk job c') (hCover : ∀ i, c'.cover i = c.cover i)
      (hDone : c'.done = c.done + taken) : ChunkStep job c taken (c', none)
  | returns (c' : ChunkWrite ρ) (hPlaced : ∀ w ∈ c'.receipts, PlacedOk job w)
      (hCover : ∀ i, Lib.cover i (c'.receipts.map PlacedWrite.range) = c.cover i)
      (hDone : c'.done = c.done + taken) : ChunkStep job c taken (c', some none)
  | fails (e : NfsError) (hTook : e.isUncertain = true ∨ taken = 0) :
      ChunkStep job c taken (c, some (some e))

theorem isUncertain_writeFailure {error : NfsError} {protocol : NFSVersion} {accepted : Nat}
    {commit uncertain : Bool} (h : ¬ (accepted = 0 ∧ commit = false ∧ uncertain = false)) :
    (writeFailure error protocol accepted commit uncertain).isUncertain = true := by
  unfold writeFailure
  rw [if_neg h]
  rfl

/-- The receipt of a valid count is the front of the remaining range. -/
theorem placedOk_next (hOk : ChunkOk job c) {outcome : WriteOutcome ρ}
    (hLe : outcome.count ≤ c.remaining) : PlacedOk job (c.acknowledged job outcome) where
  within := by
    have hBusy := hOk.busy
    have hStop := hOk.stop_le
    unfold ChunkWrite.remaining at hLe
    show c.position + outcome.count ≤ job.len
    omega
  bytes := by
    show ((job.data.drop c.position).take c.remaining).take outcome.count = _
    rw [List.take_take, Nat.min_eq_left hLe]
    rfl

variable {k taken : Nat}

/-- An answer ends the chunk, or moves it on by what the server took. -/
theorem chunkStep_answered (hOk : ChunkOk job c) {result : Except NfsError (WriteOutcome ρ)}
    (hTook : c.Took result taken) : ChunkStep job c taken (c.answered job result) := by
  unfold ChunkWrite.answered
  cases result with
  | error e =>
    refine .fails e ?_
    cases hUncertain : e.isUncertain with
    | true => exact .inl rfl
    | false => exact .inr (hTook.2 hUncertain)
  | ok outcome =>
    dsimp only
    split
    next => exact .fails _ (.inl (isUncertain_writeFailure (by simp)))
    next hValid =>
      have hCount : taken = outcome.count := hTook.2 (by omega)
      have hBusy := hOk.busy
      have hLe : outcome.count ≤ c.stop - c.position := by
        unfold ChunkWrite.remaining at hValid
        omega
      have hPlaced : ∀ w ∈ c.receipts ++ [c.acknowledged job outcome], PlacedOk job w :=
        Lib.forall_mem_concat hOk.placed (placedOk_next hOk hLe)
      have hPosition : c.start + (c.done + outcome.count) = c.position + outcome.count := by
        unfold ChunkWrite.position
        omega
      -- the remaining range is cut behind the acknowledged bytes
      have hSplit : ∀ i, Lib.cover i
            ((c.receipts ++ [c.acknowledged job outcome]).map PlacedWrite.range) +
          Lib.cover i [(c.position + outcome.count, c.stop)] = c.cover i := by
        intro i
        have hCut := Lib.cover_split i (Nat.le_add_right c.position outcome.count)
          (show c.position + outcome.count ≤ c.stop by omega)
        unfold ChunkWrite.cover
        rw [List.map_append, Lib.cover_append, List.map_singleton]
        show _ + Lib.cover i [(c.position, c.position + outcome.count)] + _ = _
        omega
      split
      next hMore =>
        refine .goesOn _ ⟨hMore, hOk.stop_le, hPlaced⟩ (fun i => ?_) (by rw [hCount])
        rw [← hSplit i]
        show _ + Lib.cover i [(c.start + (c.done + outcome.count), c.stop)] = _
        rw [hPosition]
      next hEnd =>
        refine .returns _ hPlaced (fun i => ?_) (by rw [hCount])
        have hFull : c.position + outcome.count = c.stop := by
          have hNot : ¬ c.start + (c.done + outcome.count) < c.stop := hEnd
          omega
        have hNone : Lib.cover i [(c.position + outcome.count, c.stop)] = 0 := by
          rw [Lib.cover_singleton, if_neg (by omega)]
        rw [← hSplit i, hNone]
        rfl

/-! ## The attempt -/

/-- The next chunk goes out. -/
theorem AttemptOk.launch (h : AttemptOk job a) : AttemptOk job (a.launch job) := by
  unfold BatchAttempt.launch
  split
  next hNext =>
    have hChunk := h.chunk
    refine ⟨hChunk, ?_, Lib.forall_mem_concat h.active ⟨?_, ?_, nofun⟩, h.placed, h.clean, ?_⟩
    · intro i hi
      have hOld := h.once i hi
      unfold BatchAttempt.cover at hOld ⊢
      rw [List.map_append, List.sum_append]
      have hNew : ([⟨a.next, min job.len (a.next + a.chunk), 0, []⟩].map
          fun c : ChunkWrite ρ => c.cover i).sum =
            if a.next ≤ i ∧ i < min job.len (a.next + a.chunk) then 1 else 0 := by
        rw [List.map_singleton, List.sum_singleton]
        show 0 + Lib.cover i [(a.next + 0, min job.len (a.next + a.chunk))] = _
        rw [Nat.zero_add, Nat.add_zero, Lib.cover_singleton]
      rw [hNew]
      dsimp only
      split at hOld <;> split <;> split <;> omega
    · show a.next + 0 < min job.len (a.next + a.chunk)
      omega
    · exact Nat.min_le_left _ _
    · refine h.accounts.imp_right fun hTaken => ?_
      unfold BatchAttempt.progress at hTaken ⊢
      rw [List.map_append, List.sum_append]
      exact hTaken
  next => exact h

theorem busy_launch : Busy job (a.launch job) := by
  unfold BatchAttempt.launch
  split
  next =>
    intro _ hNone
    exact absurd hNone (by simp)
  next hEnd => exact fun _ _ => by omega

theorem AttemptOk.launchUpTo (n : Nat) (h : AttemptOk job a) :
    AttemptOk job (a.launchUpTo job n) := by
  induction n generalizing a with
  | zero => exact h
  | succ n ih => exact ih h.launch

theorem busy_launchUpTo {n : Nat} (hPos : 0 < n) : Busy job (a.launchUpTo job n) := by
  induction n generalizing a with
  | zero => omega
  | succ n ih =>
    cases n with
    | zero => exact busy_launch
    | succ n => exact ih (Nat.succ_pos n)

theorem taken_launch : (a.launch job).taken = a.taken := by
  unfold BatchAttempt.launch
  split <;> rfl

theorem taken_launchUpTo (n : Nat) : (a.launchUpTo job n).taken = a.taken := by
  induction n generalizing a with
  | zero => rfl
  | succ n ih => exact ih.trans taken_launch

theorem attemptOk_new (chunkSize : Nat) : AttemptOk job (.new chunkSize : BatchAttempt ρ) where
  chunk := Nat.le_max_right chunkSize 1
  once _ _ := rfl
  active := nofun
  placed := nofun
  clean _ := rfl
  accounts := .inr rfl

/-- A chunk returns with all its bytes acknowledged. -/
theorem AttemptOk.collect (h : AttemptOk job a) (hChunk : a.active[k]? = some c)
    (hPlaced : ∀ w ∈ c'.receipts, PlacedOk job w)
    (hCover : ∀ i, Lib.cover i (c'.receipts.map PlacedWrite.range) = c.cover i)
    (hDone : c'.done = c.done + taken) :
    AttemptOk job { a with
      taken := a.taken + taken
      active := a.active.eraseIdx k
      accepted := a.accepted + c'.done
      receipts := a.receipts ++ c'.receipts } where
  chunk := h.chunk
  once i hi := by
    have hOld := h.once i hi
    have hLeft := Lib.sum_map_eraseIdx (fun c : ChunkWrite ρ => c.cover i) hChunk
    have hSame := hCover i
    unfold BatchAttempt.cover at hOld ⊢
    rw [List.map_append, Lib.cover_append]
    dsimp only
    omega
  active c hc := h.active c (List.mem_of_mem_eraseIdx hc)
  placed w hw := (List.mem_append.mp hw).elim (h.placed w) (hPlaced w)
  clean := h.clean
  accounts := by
    refine h.accounts.imp_right fun hTaken => ?_
    have hLeft := Lib.sum_map_eraseIdx (fun c : ChunkWrite ρ => c.done) hChunk
    unfold BatchAttempt.progress at hTaken ⊢
    dsimp only
    omega

theorem failure_fail (start : Nat) (e : NfsError) : (a.fail start e).failure ≠ none := by
  unfold BatchAttempt.fail
  dsimp only
  split
  next => nofun
  next hNot =>
    intro hNone
    rw [hNone] at hNot
    exact hNot rfl

/-- A chunk returns with an error, its remaining range is given up. -/
theorem AttemptOk.collect_fail (h : AttemptOk job a) (hChunk : a.active[k]? = some c) {e : NfsError}
    (hTook : e.isUncertain = true ∨ taken = 0) (start : Nat) :
    AttemptOk job (BatchAttempt.fail { a with
      taken := a.taken + taken
      active := a.active.eraseIdx k
      accepted := a.accepted + c.done
      receipts := a.receipts ++ c.receipts
      dropped := a.dropped ++ [(c.position, c.stop)] } start e) where
  chunk := h.chunk
  once i hi := by
    -- the range that is given up joins `dropped`, and no byte is counted twice
    have hOld := h.once i hi
    have hLeft := Lib.sum_map_eraseIdx (fun c : ChunkWrite ρ => c.cover i) hChunk
    unfold BatchAttempt.cover at hOld ⊢
    unfold BatchAttempt.fail
    dsimp only
    rw [List.map_append, Lib.cover_append, Lib.cover_append]
    unfold ChunkWrite.cover at hLeft
    unfold ChunkWrite.cover at hOld ⊢
    omega
  active c hc := h.active c (List.mem_of_mem_eraseIdx hc)
  placed w hw := by
    rcases List.mem_append.mp hw with hOld | hNew
    · exact h.placed w hOld
    · exact (h.active c (List.mem_of_getElem? hChunk)).placed w hNew
  clean hNone := absurd hNone (failure_fail start e)
  accounts := by
    show (a.uncertain || e.isUncertain) = true ∨ _
    rcases hTook with hUncertain | hZero
    · exact .inl (by rw [hUncertain, Bool.or_true])
    · refine (h.accounts.imp (fun hOld => by rw [hOld, Bool.true_or]) fun hTaken => ?_)
      have hLeft := Lib.sum_map_eraseIdx (fun c : ChunkWrite ρ => c.done) hChunk
      unfold BatchAttempt.progress at hTaken ⊢
      unfold BatchAttempt.fail
      dsimp only
      omega

/-- A chunk under way takes an answer for a part of its range. -/
theorem AttemptOk.setActive (h : AttemptOk job a) (hChunk : a.active[k]? = some c)
    (hOk : ChunkOk job c') (hCover : ∀ i, c'.cover i = c.cover i)
    (hDone : c'.done = c.done + taken) :
    AttemptOk job { a with taken := a.taken + taken, active := a.active.set k c' } where
  chunk := h.chunk
  once i hi := by
    have hOld := h.once i hi
    have hMoved := Lib.sum_map_set (b := c') (fun c : ChunkWrite ρ => c.cover i) hChunk
    have hSame := hCover i
    unfold BatchAttempt.cover at hOld ⊢
    dsimp only
    omega
  active := Lib.forall_mem_set h.active hOk
  placed := h.placed
  clean := h.clean
  accounts := by
    refine h.accounts.imp_right fun hTaken => ?_
    have hMoved := Lib.sum_map_set (b := c') (fun c : ChunkWrite ρ => c.done) hChunk
    unfold BatchAttempt.progress at hTaken ⊢
    dsimp only
    omega

/-- **Every answer keeps the accounts of the attempt.** -/
theorem attemptOk_answered (h : AttemptOk job a) (hChunk : a.active[k]? = some c)
    {result : Except NfsError (WriteOutcome ρ)} (hTook : c.Took result taken) :
    AttemptOk job (a.answered job k c result taken) ∧ Busy job (a.answered job k c result taken) ∧
      (a.answered job k c result taken).taken = a.taken + taken := by
  have hStep := chunkStep_answered (h.active c (List.mem_of_getElem? hChunk)) hTook
  unfold BatchAttempt.answered
  generalize c.answered job result = x at hStep
  cases hStep with
  | goesOn c' hOk hCover hDone =>
    refine ⟨h.setActive hChunk hOk hCover hDone, fun _ hNone => ?_, rfl⟩
    -- the chunk that goes on is itself under way
    have hNil : a.active.set k c' = [] := hNone
    rw [List.set_eq_nil_iff] at hNil
    rw [hNil] at hChunk
    cases hChunk
  | returns c' hPlaced hCover hDone =>
    have hOk := h.collect hChunk hPlaced hCover hDone
    unfold BatchAttempt.collect
    dsimp only
    split
    next =>
      exact ⟨hOk.launch, busy_launch, taken_launch⟩
    next hFailed =>
      refine ⟨hOk, fun hNone => ?_, rfl⟩
      exact absurd (Option.isNone_iff_eq_none.mpr hNone) hFailed
  | fails e hTook =>
    have hOk := h.collect_fail hChunk hTook (job.offset + c.start)
    unfold BatchAttempt.collect
    dsimp only
    rw [if_neg (by simpa using failure_fail _ e)]
    exact ⟨hOk, fun hNone => absurd hNone (failure_fail _ e), rfl⟩

/-! ## The batch -/

/-- The receipts hold every byte once, and acknowledge the caller's bytes. -/
structure HoldsOnce (job : WriteJob) (writes : List (PlacedWrite ρ)) : Prop where
  once : ∀ i < job.len, Lib.cover i (writes.map PlacedWrite.range) = 1
  placed : ∀ w ∈ writes, PlacedOk job w

/-- What a result says. -/
structure ResultOk (job : WriteJob) (s : WriteBatch ρ) (last : Option (BatchAttempt ρ))
    (result : Except NfsError Nat) : Prop where
  ok : ∀ n, result = .ok n → n = job.len ∧
    (job.len = 0 ∨ ∃ call ∈ s.commits, call.ok = true ∧ HoldsOnce job call.writes)
  error : ∀ e, result = .error e → e.isUncertain = true ∨ s.taken = 0 ∨
    (s.attempt ≠ 0 ∧ ∃ a, last = some a ∧ a.taken = 0 ∧ a.uncertain = false)

/-- The bytes taken in the first attempt are those of the attempt under way. -/
def TakenOk (s : WriteBatch ρ) (taken : Nat) : Prop := s.attempt = 0 → s.taken = taken

def PhaseOk (job : WriteJob) (s : WriteBatch ρ) : BatchPhase ρ → Prop
  | .starting => TakenOk s 0
  | .writing a => AttemptOk job a ∧ Busy job a ∧ TakenOk s a.taken
  | .committing a => HoldsOnce job a.receipts
  | .returned last result => ResultOk job s last result

def BatchInv (job : WriteJob) (s : WriteBatch ρ) : Prop := PhaseOk job s s.phase

/-- All ranges are written and none is dropped. -/
theorem AttemptOk.holdsOnce (h : AttemptOk job a) (hBusy : Busy job a) (hNone : a.active = [])
    (hFailure : a.failure = none) : HoldsOnce job a.receipts where
  once i hi := by
    have hOnce := h.once i hi
    have hEnd := hBusy hFailure hNone
    unfold BatchAttempt.cover at hOnce
    rw [if_pos (by omega), hNone, h.clean hFailure] at hOnce
    simpa using hOnce
  placed := h.placed

/-- With no chunk active the attempt has receipts for the whole buffer, or an error. -/
theorem phaseOk_settled (h : AttemptOk job a) (hBusy : Busy job a) (hTaken : TakenOk s a.taken) :
    PhaseOk job s (a.settled job) := by
  unfold BatchAttempt.settled
  by_cases hEmpty : a.active.isEmpty = true
  case neg =>
    rw [if_neg hEmpty]
    exact ⟨h, hBusy, hTaken⟩
  have hNone : a.active = [] := List.isEmpty_iff.mp hEmpty
  rw [if_pos hEmpty]
  cases hFailure : a.failure with
  | none => exact h.holdsOnce hBusy hNone hFailure
  | some failure =>
    refine ⟨nofun, ?_⟩
    rintro _ ⟨⟩
    by_cases hRaw : a.accepted = 0 ∧ false = false ∧ a.uncertain = false
    · -- nothing was taken in this attempt
      have hZero : a.taken = 0 := by
        rcases h.accounts with hUncertain | hSum
        · exact absurd (hRaw.2.2.symm.trans hUncertain) Bool.false_ne_true
        · unfold BatchAttempt.progress at hSum
          rw [hNone, hRaw.1] at hSum
          exact hSum
      by_cases hFirst : s.attempt = 0
      · exact .inr (.inl ((hTaken hFirst).trans hZero))
      · exact .inr (.inr ⟨hFirst, a, rfl, hZero, hRaw.2.2⟩)
    · exact .inl (isUncertain_writeFailure hRaw)

theorem batchInv_commitAnswered (hOnce : HoldsOnce job a.receipts) (result : Except NfsError Unit) :
    BatchInv job (s.commitAnswered job a result) := by
  unfold WriteBatch.commitAnswered
  cases result with
  | ok _ =>
    refine ⟨?_, nofun⟩
    rintro _ ⟨⟩
    exact ⟨rfl, .inr ⟨_, List.mem_concat_self, rfl, hOnce⟩⟩
  | error e =>
    dsimp only
    split
    next => exact fun hZero => absurd hZero (Nat.succ_ne_zero _)
    next =>
      refine ⟨nofun, ?_⟩
      rintro _ ⟨⟩
      exact .inl (isUncertain_writeFailure (by simp))

/-- **Every step keeps the accounts.** -/
theorem batchInv_step (h : BatchInv job s) {e : BatchEvent ρ}
    (hStep : (writeAllMachine ρ job).step s e = some s') : BatchInv job s' := by
  change s.step job e = some s' at hStep
  unfold BatchInv at h
  cases e with
  | start chunkSize =>
    simp only [WriteBatch.step] at hStep
    split at hStep <;> cases hStep
    next hPhase =>
      rw [hPhase] at h
      have hOk : AttemptOk job ((BatchAttempt.new chunkSize).launchUpTo job job.concurrency) :=
        (attemptOk_new (ρ := ρ) chunkSize).launchUpTo _
      refine phaseOk_settled hOk (busy_launchUpTo job.concurrency_pos) fun hFirst => ?_
      rw [taken_launchUpTo]
      exact h hFirst
  | answer k result taken =>
    simp only [WriteBatch.step] at hStep
    split at hStep
    next a hPhase =>
      rw [hPhase] at h
      obtain ⟨hOk, -, hTaken⟩ := h
      obtain ⟨c, hChunk, hStep⟩ := Option.bind_eq_some_iff.mp hStep
      split at hStep <;> cases hStep
      next hTook =>
        -- what the server has taken grows by what this answer stands for
        obtain ⟨hOk', hBusy', hTaken'⟩ := attemptOk_answered hOk hChunk hTook
        refine phaseOk_settled hOk' hBusy' fun hFirst => ?_
        have hOld := hTaken hFirst
        show s.taken + taken = _
        omega
    next => cases hStep
  | commitAnswered result =>
    simp only [WriteBatch.step] at hStep
    split at hStep <;> cases hStep
    next a hPhase =>
      rw [hPhase] at h
      exact batchInv_commitAnswered h result

theorem batchInv_initial : BatchInv job (.initial job : WriteBatch ρ) := by
  unfold BatchInv WriteBatch.initial
  dsimp only
  split
  next =>
    refine ⟨nofun, ?_⟩
    rintro _ ⟨⟩
    exact .inr (.inl rfl)
  next =>
    split
    next hEmpty =>
      have hLen : job.len = 0 := by
        unfold WriteJob.len
        rw [List.isEmpty_iff.mp hEmpty]
        rfl
      refine ⟨?_, nofun⟩
      rintro _ ⟨⟩
      exact ⟨hLen.symm, .inl hLen⟩
    next => exact fun _ => rfl

end accounts

/-! ## Results -/

/-- **Batch writes are accounted for.** `Ok` is returned for all bytes, and, unless there are
none, behind a successful commit of receipts that hold every byte once. Where the server took
a byte in any attempt, the error returned is uncertain, provided that the attempt it comes
from is the first, or one in which the server took a byte or may have done so. -/
theorem write_all_accounted {ρ : Type*} (job : WriteJob) (s : WriteBatch ρ)
    (h : (writeAllMachine ρ job).Reachable s) (last : Option (BatchAttempt ρ))
    (result : Except NfsError Nat) (hReturned : s.phase = .returned last result) :
    (∀ n, result = .ok n → n = job.len ∧
      (job.len = 0 ∨ ∃ call ∈ s.commits, call.ok = true ∧ HoldsOnce job call.writes)) ∧
    ∀ e, result = .error e → 0 < s.taken →
      (∀ a, last = some a → s.attempt = 0 ∨ 0 < a.taken ∨ a.uncertain = true) →
        e.isUncertain = true := by
  have hInv : BatchInv job s :=
    h.invariant batchInv_initial fun _ _ _ _ _ hStep hInv => batchInv_step hInv hStep
  unfold BatchInv at hInv
  rw [hReturned] at hInv
  refine ⟨hInv.ok, fun e hError hTaken hLast => ?_⟩
  rcases hInv.error e hError with hUncertain | hNone | ⟨hLater, a, hSome, hZero, hCertain⟩
  · exact hUncertain
  · omega
  · rcases hLast a hSome with hFirst | hTook | hUncertain
    · exact absurd hFirst hLater
    · omega
    · exact absurd (hCertain.symm.trans hUncertain) Bool.false_ne_true

/-- Three bytes at offset 10. -/
def threeBytes : WriteJob where
  protocol := .nfsV4p1
  offset := 10
  data := [1, 2, 3]
  concurrency := writeConcurrency
  concurrency_pos := by decide

/-- A COMMIT with another verifier than the WRITEs had. -/
def verifierError : NfsError :=
  .outcomeError .uncertain .replaySensitive .verifyThenResume
    { operation := "write_verifier", protocol := .nfsV4p1, requestId := none }
    (.rpc "WRITE verifier changed before COMMIT")

/-- Chunks of two bytes; the second is done first, the first in two short writes. -/
def shortWrites : List (BatchEvent Unit) :=
  [.start 2, .answer 1 (.ok ⟨1, ()⟩) 1, .answer 0 (.ok ⟨1, ()⟩) 1, .answer 0 (.ok ⟨1, ()⟩) 1,
    .commitAnswered (.ok ())]

/-- The first chunk is refused behind a short write, the second is written. -/
def refusedHalfway : List (BatchEvent Unit) :=
  [.start 2, .answer 0 (.ok ⟨1, ()⟩) 1, .answer 0 (.error (.nfs4 .nospc)) 0,
    .answer 0 (.ok ⟨1, ()⟩) 1]

/-- A run that returns `Ok`, and one in which a plain refusal behind accepted bytes is returned as
an uncertain outcome. -/
theorem write_all_accounted_shortWrites :
    (∃ s, (writeAllMachine Unit threeBytes).runFrom (writeAllMachine Unit threeBytes).init
        shortWrites = some s ∧
      ∃ last, s.phase = .returned last (.ok 3) ∧
        ∃ call ∈ s.commits, call.ok = true ∧ HoldsOnce threeBytes call.writes) ∧
    ∃ s, (writeAllMachine Unit threeBytes).runFrom (writeAllMachine Unit threeBytes).init
        refusedHalfway = some s ∧
      s.taken = 2 ∧ ∃ last e, s.phase = .returned last (.error e) ∧ e.isUncertain = true := by
  constructor
  · refine ⟨_, rfl, _, rfl, ?_⟩
    have hAccounts := write_all_accounted threeBytes _
      (Lib.Machine.reachable_of_runFrom shortWrites rfl) _ (.ok 3) rfl
    exact ((hAccounts.1 3 rfl).2).resolve_left (by decide)
  · refine ⟨_, rfl, rfl, _, _, rfl, ?_⟩
    have hAccounts := write_all_accounted threeBytes _
      (Lib.Machine.reachable_of_runFrom refusedHalfway rfl) _ _ rfl
    exact hAccounts.2 _ rfl (by decide) fun _ _ => .inl rfl

/-- The data are accepted, the commit meets another verifier, and the rewrite is refused. -/
def refusedRewrite : List (BatchEvent Unit) :=
  [.start 4, .answer 0 (.ok ⟨3, ()⟩) 3, .commitAnswered (.error verifierError), .start 4,
    .answer 0 (.error (.nfs4 .nospc)) 0]

/-- **A definite error behind accepted bytes.** The server took all three bytes in the first
attempt, and the caller receives the plain status of the second. -/
theorem rewrite_error_definite :
    ∃ s, (writeAllMachine Unit threeBytes).runFrom (writeAllMachine Unit threeBytes).init
        refusedRewrite = some s ∧
      s.taken = 3 ∧ ∃ last, s.phase = .returned last (.error (.nfs4 .nospc)) ∧
        (NfsError.nfs4 .nospc).isUncertain = false :=
  ⟨_, rfl, rfl, _, rfl, rfl⟩

end NfsRs.Client
