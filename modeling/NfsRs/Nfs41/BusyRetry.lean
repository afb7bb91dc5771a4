import NfsRs.Nfs41.CompoundCall

/-!
# NfsRs — sending a busy NFSv4.1 COMPOUND again

A server that answers DELAY or GRACE has executed the operations in front of the one it refuses.
`can_retry_busy` compares the results with the request and allows the whole COMPOUND to be sent
again if none of the operations that succeeded is replay-sensitive. It looks at every result,
also behind a mutation, so that a response of some other request is an error in any case.

## Main results

- `canRetryBusy_iff` : the scan answers exactly for the responses of the request, and says
  whether a mutation was completed.
- `busy_retry_safe` : so neither it nor `compound_budgeted` repeats a completed mutation.
-/

namespace NfsRs.Nfs41

/-- The results answer a prefix of the operations, and the last one is the operation that failed
with the status of the COMPOUND. -/
structure AnswersBusy (ops : List EncodedOp) (status : Nfs4ErrorCode)
    (results : List OpResponse) : Prop where
  opcodes : results.map (·.opcode) <+: ops.map fun op => op.opcode.code
  failed : ∃ completed last, results = completed ++ [last] ∧ last.status = status ∧
    last.status ≠ .ok ∧ ∀ r ∈ completed, r.status = .ok

/-- No operation in front of the one that failed is replay-sensitive. -/
def CompletedSafe (ops : List EncodedOp) (results : List OpResponse) : Bool :=
  (ops.take (results.length - 1)).all fun op => op.opcode.opClass != .replaySensitive

namespace AnswersBusy

variable {ops : List EncodedOp} {status : Nfs4ErrorCode} {op : EncodedOp}
  {r : OpResponse} {results : List OpResponse}

theorem ne_nil (h : AnswersBusy ops status results) : results ≠ [] := by
  obtain ⟨completed, last, rfl, -⟩ := h.failed
  simp

theorem length_le (h : AnswersBusy ops status results) : results.length ≤ ops.length := by
  simpa using h.opcodes.length_le

/-- The operation that failed answers alone. -/
theorem single_iff (hBad : r.status ≠ .ok) :
    AnswersBusy (op :: ops) status (r :: results) ↔
      op.opcode.code = r.opcode ∧ results = [] ∧ r.status = status := by
  constructor
  · intro h
    obtain ⟨completed, last, hEq, hStatus, -, hOk⟩ := h.failed
    have hCode : r.opcode = op.opcode.code := (List.cons_prefix_cons.mp h.opcodes).1
    cases completed with
    | nil =>
      obtain ⟨rfl, rfl⟩ := List.cons.inj hEq
      exact ⟨hCode.symm, rfl, hStatus⟩
    | cons first _ =>
      have hFirst : r = first := (List.cons.inj hEq).1
      exact absurd (hOk first List.mem_cons_self) (hFirst ▸ hBad)
  · rintro ⟨hCode, rfl, hStatus⟩
    exact ⟨by simp [hCode], [], r, rfl, hStatus, hBad, by simp⟩

/-- Behind an operation that succeeded the rest answers the rest. -/
theorem cons_iff (hOk : r.status = .ok) :
    AnswersBusy (op :: ops) status (r :: results) ↔
      op.opcode.code = r.opcode ∧ AnswersBusy ops status results := by
  constructor
  · intro h
    obtain ⟨hCode, hRest⟩ := List.cons_prefix_cons.mp h.opcodes
    obtain ⟨completed, last, hEq, hStatus, hBad, hAll⟩ := h.failed
    cases completed with
    | nil =>
      have hLast : r = last := (List.cons.inj hEq).1
      exact absurd hOk (hLast ▸ hBad)
    | cons first completed =>
      exact ⟨hCode.symm, hRest, completed, last, (List.cons.inj hEq).2, hStatus, hBad,
        fun x hx => hAll x (List.mem_cons_of_mem _ hx)⟩
  · rintro ⟨hCode, hRest⟩
    obtain ⟨completed, last, rfl, hStatus, hBad, hAll⟩ := hRest.failed
    refine ⟨List.cons_prefix_cons.mpr ⟨hCode.symm, hRest.opcodes⟩, r :: completed, last, rfl,
      hStatus, hBad, ?_⟩
    simpa [hOk] using hAll

end AnswersBusy

variable {ops : List EncodedOp} {results : List OpResponse} {status : Nfs4ErrorCode}
    {b : CompoundBuilder} {resp : CompoundResponse}

theorem not_answersBusy_nil :
    ¬ AnswersBusy [] status results := fun h =>
  h.ne_nil (List.length_eq_zero_iff.mp (Nat.le_zero.mp h.length_le))

theorem completedSafe_cons {op : EncodedOp} {r : OpResponse} (h : results ≠ []) :
    CompletedSafe (op :: ops) (r :: results) =
      (op.opcode.opClass != .replaySensitive && CompletedSafe ops results) := by
  obtain ⟨r', rest, rfl⟩ := List.exists_cons_of_ne_nil h
  simp [CompletedSafe]

/-- The scan, from any of its results on. -/
theorem scanBusy_iff {total : Nat} {answer : Bool} :
    ∀ {ops : List EncodedOp} {results : List OpResponse} {index : Nat} {safe : Bool},
      index + results.length = total →
      (scanBusy total status index safe ops results = .ok answer ↔
        AnswersBusy ops status results ∧ answer = (safe && CompletedSafe ops results)) := by
  -- by induction on the operations, since the scan stops at the end of either list
  intro ops
  induction ops with
  | nil =>
    intro results index safe _
    simp [scanBusy, not_answersBusy_nil]
  | cons op ops ih =>
    intro results index safe hLen
    cases results with
    | nil =>
      have hNot : ¬ AnswersBusy (op :: ops) status [] := fun h => h.ne_nil rfl
      simp [scanBusy, hNot]
    | cons r results =>
      rw [List.length_cons] at hLen
      unfold scanBusy
      by_cases hCode : op.opcode.code = r.opcode
      · rw [if_neg (not_not.mpr hCode)]
        by_cases hOk : r.status = .ok
        · rw [if_neg (not_not.mpr hOk), ih (by omega), AnswersBusy.cons_iff hOk]
          constructor
          · rintro ⟨hRest, rfl⟩
            exact ⟨⟨hCode, hRest⟩, by rw [completedSafe_cons hRest.ne_nil, Bool.and_assoc]⟩
          · rintro ⟨⟨-, hRest⟩, rfl⟩
            exact ⟨hRest, by rw [completedSafe_cons hRest.ne_nil, Bool.and_assoc]⟩
        · rw [if_pos hOk, AnswersBusy.single_iff hOk]
          have hEnd : index + 1 = total ↔ results = [] := by
            rw [← List.length_eq_zero_iff]
            omega
          by_cases hLast : results = [] ∧ r.status = status
          · rw [if_neg (by simp [hEnd, hLast])]
            simp [hCode, hLast, CompletedSafe, eq_comm]
          · have hNot : index + 1 ≠ total ∨ r.status ≠ status := by
              simpa only [ne_eq, hEnd, ← not_and_or] using hLast
            rw [if_pos hNot]
            simp only [reduceCtorEq, false_iff]
            exact fun h => hLast h.1.2
      · rw [if_pos hCode]
        simp only [reduceCtorEq, false_iff]
        exact fun h => hCode (List.cons_prefix_cons.mp h.1.opcodes).1.symm

/-- **The answer of `can_retry_busy`.** -/
theorem canRetryBusy_iff {answer : Bool} :
    b.canRetryBusy resp = .ok answer ↔
      AnswersBusy b.ops resp.status resp.results ∧
        answer = CompletedSafe b.ops resp.results := by
  unfold CompoundBuilder.canRetryBusy
  split
  next hCount =>
    simp only [reduceCtorEq, false_iff]
    rintro ⟨hAnswers, -⟩
    rcases hCount with hEmpty | hLong
    · exact hAnswers.ne_nil (by simpa using hEmpty)
    · exact absurd hAnswers.length_le (by omega)
  next => rw [scanBusy_iff (by omega), Bool.true_and]

/-- A result that is not of the operation at its place is never looked at as one that is. -/
theorem completedSafe_getElem (h : AnswersBusy ops status results)
    (hSafe : CompletedSafe ops results = true) {i : Nat} {op : EncodedOp} {r : OpResponse}
    (hOp : ops[i]? = some op) (hResult : results[i]? = some r) (hOk : r.status = .ok) :
    op.opcode.opClass ≠ .replaySensitive := by
  obtain ⟨completed, last, rfl, -, hBad, -⟩ := h.failed
  -- only the last result has failed, so that one that succeeded is in front of it
  have hLt : i < completed.length := by
    by_contra hGe
    obtain ⟨hi, hGet⟩ := List.getElem?_eq_some_iff.mp hResult
    have hEq : i = completed.length := by
      rw [List.length_append, List.length_singleton] at hi
      omega
    subst hEq
    have hLast : last = r := by simpa using hGet
    exact hBad (hLast ▸ hOk)
  have hMem : op ∈ ops.take ((completed ++ [last]).length - 1) := by
    refine List.mem_of_getElem? (i := i) ?_
    rw [List.getElem?_take_of_lt (by simpa using hLt)]
    exact hOp
  simpa using List.all_eq_true.mp hSafe op hMem

/-- A busy SEQUENCE is a response of a request that begins with SEQUENCE. -/
theorem answersBusy_of_sequenceBusy {seq : EncodedOp} (hOps : b.ops = seq :: ops)
    (hSeq : seq.opcode = .sequence) (h : resp.sequenceBusy = true) :
    AnswersBusy b.ops resp.status resp.results := by
  unfold CompoundResponse.sequenceBusy at h
  split at h
  next r hResults =>
    simp only [Bool.and_eq_true, Bool.or_eq_true, beq_iff_eq] at h
    obtain ⟨⟨hCode, hBusy⟩, hStatus⟩ := h
    have hBad : r.status ≠ .ok := by rcases hBusy with hBusy | hBusy <;> rw [hBusy] <;> decide
    rw [hResults, hOps, AnswersBusy.single_iff hBad]
    exact ⟨by rw [hSeq, hCode], rfl, hStatus.symm⟩
  next => cases h

/-- `compound_budgeted` ends on a busy response that is not of its request. -/
theorem compoundVerdict_finish (hNot : ¬ AnswersBusy b.ops resp.status resp.results)
    (hBusy : resp.isBusy = true) {seq : EncodedOp} (hOps : b.ops = seq :: ops)
    (hSeq : seq.opcode = .sequence) (progressIndex : Option Nat) (ctx : SlotContext)
    (attempt : Nat) :
    ∃ settle flags result,
      compoundVerdict b progressIndex ctx attempt resp = .finish settle flags result ∧
        (progressIndex = none → ∃ e, result = .error e) := by
  have hStatus : resp.status ≠ .ok := by
    intro hOk
    rw [CompoundResponse.isBusy, hOk] at hBusy
    cases hBusy
  unfold compoundVerdict
  rw [if_neg fun h => hNot (answersBusy_of_sequenceBusy hOps hSeq h)]
  split
  · exact ⟨_, _, _, rfl, fun _ => ⟨_, rfl⟩⟩
  unfold compoundOutcome
  dsimp only
  split
  · -- the progress operation succeeded, and the caller gets the response
    rename_i hProgress
    refine ⟨_, _, _, rfl, fun hNone => ?_⟩
    simp [hNone] at hProgress
  unfold finishBusy
  dsimp only
  split
  · exact ⟨_, _, _, rfl, fun _ => ⟨_, rfl⟩⟩
  · exact ⟨_, _, _, rfl, fun _ => ⟨_, rfl⟩⟩
  · rename_i hCan
    exact absurd (canRetryBusy_iff.mp hCan).1 hNot

/-- **Busy retries are safe.** The retry is allowed only for a response of the request in which
every operation that succeeded may be repeated. A response of another request is an error, and
`compound_budgeted` does not send a request again for it. -/
theorem busy_retry_safe (b : CompoundBuilder) (resp : CompoundResponse) :
    (b.canRetryBusy resp = .ok true →
      AnswersBusy b.ops resp.status resp.results ∧
        ∀ (i : Nat) (op : EncodedOp) (r : OpResponse), b.ops[i]? = some op →
          resp.results[i]? = some r → r.status = .ok → op.opcode.opClass ≠ .replaySensitive) ∧
    (¬ AnswersBusy b.ops resp.status resp.results → ∃ e, b.canRetryBusy resp = .error e) ∧
    (∀ progressIndex ctx attempt settle e,
      compoundVerdict b progressIndex ctx attempt resp = .retryBusy settle e →
        b.canRetryBusy resp = .ok true) ∧
    ∀ seq ops, b.ops = seq :: ops → seq.opcode = .sequence → resp.isBusy = true →
      ¬ AnswersBusy b.ops resp.status resp.results → ∀ progressIndex ctx attempt,
        ∃ settle flags result,
          compoundVerdict b progressIndex ctx attempt resp = .finish settle flags result ∧
            (progressIndex = none → ∃ e, result = .error e) := by
  refine ⟨fun hCan => ?_, fun hNot => ?_, fun progressIndex ctx attempt settle e hRetry => ?_,
    fun seq ops hOps hSeq hBusy hNot progressIndex ctx attempt =>
      compoundVerdict_finish hNot hBusy hOps hSeq progressIndex ctx attempt⟩
  · obtain ⟨hAnswers, hSafe⟩ := canRetryBusy_iff.mp hCan
    exact ⟨hAnswers, fun i op r hOp hResult hOk =>
      completedSafe_getElem hAnswers hSafe.symm hOp hResult hOk⟩
  · cases hCan : b.canRetryBusy resp with
    | error e => exact ⟨e, rfl⟩
    | ok answer => exact absurd (canRetryBusy_iff.mp hCan).1 hNot
  · have hGoes := compoundVerdict_goesOn b progressIndex ctx attempt resp
    rw [hRetry] at hGoes
    exact hGoes.2.2.1

/-- A WRITE behind SEQUENCE and PUTFH. -/
def busyWrite : CompoundBuilder :=
  (((CompoundBuilder.new "write").sequence [] 1 0 0).op .putFh []).op .write []

/-- It is answered DELAY. -/
def writeDelayed : CompoundResponse :=
  { tag := "write", status := .delay, sessionGeneration := 1
    results := [⟨53, .ok, []⟩, ⟨22, .ok, []⟩, ⟨38, .delay, []⟩] }

theorem busy_retry_safe_writeDelayed :
    busyWrite.canRetryBusy writeDelayed = .ok true ∧
      AnswersBusy busyWrite.ops .delay writeDelayed.results :=
  ⟨rfl, ((busy_retry_safe busyWrite writeDelayed).1 rfl).1⟩

end NfsRs.Nfs41
