import NfsRs.Nfs41.DsWrite

/-!
# NfsRs — the fallback of pNFS writes

`write_pnfs` writes the stripes of a logical write to their data servers. It may return
`None`, and its caller then writes the data through the metadata server; and it may refresh
the layout and go over the stripes a second time. Either way the data is written again, so
it must be certain that no data server has written any of it, or may still.

`pnfs_write` takes a batch for rejected without a write when every stripe returned a plain
NFS4ERR_STALE, and returns busy as it is when every stripe returned that or a busy server.
A plain rejection is the answer to the last frame of a WRITE. It does not speak for an
earlier frame that got no answer when the server refused the last one at SEQUENCE: a lost
session, or DELAY to the end of the budget.

## Main results

- `writePnfs_safeFallback_iff` : the exact condition under which the fallback is safe.
- `refresh_behind_lost_frame` : a lost frame, a lost session and a stale handle, and the data
  is written again.
-/

namespace NfsRs.Nfs41

/-! ## The batch -/

/-- The stripes of a logical write, in the order of the plan, and what `pnfs_write` reads
beside them. `activeGeneration` is that of the layout manager once all stripes are settled. -/
structure Batch where
  stripes : List Stripe
  offset : Nat
  commitThruMds : Bool
  generation : Nat
  activeGeneration : Nat
  sessionId : Nat

/-- One stripe's end, `DsWriteCompletion`. -/
structure Completion where
  write : PlannedDsWrite
  ended : StripeEnd

inductive PnfsWriteOutcome where
  | notAttempted
  | attempted (result : Except NfsError PendingWrite)
  | refreshRequired

/-- How `pnfs_write` ended: its outcome, the receipt it registered, and whether it touched the
data. -/
structure PnfsWriteEnd where
  outcome : PnfsWriteOutcome
  registered : Option PendingWrite
  touched : Bool

namespace Completion

def reply? (c : Completion) : Option DsWriteReply := c.ended.result.toOption

def error? (c : Completion) : Option NfsError :=
  match c.ended.result with
  | .ok _ => none
  | .error e => some e

def diagnostic (info : PnfsInfo) (c : Completion) : String :=
  match c.ended.result with
  | .ok _ =>
      s!"stripe={c.write.stripeIndex} ds={c.write.dsAddr} attempted=true outcome=success"
  | .error e =>
      s!"stripe={c.write.stripeIndex} ds={c.write.dsAddr} attempted=true outcome=error error={info.display e}"

end Completion

def dsBatchDiagnostic (info : PnfsInfo) (completions : List Completion) : String :=
  "; ".intercalate (completions.map (Completion.diagnostic info))

/-- MDS fallback is safe only when every issued stripe has an authoritative NFS4ERR_STALE. -/
def dsBatchRejectedWithoutWrite (completions : List Completion) : Bool :=
  !completions.isEmpty && completions.all fun c => c.error?.any NfsError.isStale

namespace Batch

variable (info : PnfsInfo) (b : Batch)

/-- `settle_ds_batch`: every stripe is awaited, and the results are in the plan's order. -/
def completions : List Completion :=
  b.stripes.map fun stripe => { write := stripe.write, ended := writeDsComplete info stripe }

/-- The aggregate context: no one request is named. -/
def context : RequestContext :=
  { operation := "pnfs_write", protocol := info.protocol
    requestId := some (.nfs41Session b.sessionId 0 0) }

/-- The receipt of the stripes that are written. -/
def receipt (replies : List DsWriteReply) (count : Nat) (failed : Bool) : PendingWrite :=
  { offset := b.offset, count := count, generation := b.generation
    commitThruMds := b.commitThruMds, replies := replies, done := false, failed := failed }

/-- Every stripe is written. -/
def allWritten (replies : List DsWriteReply) : PnfsWriteOutcome × Option PendingWrite :=
  if b.generation ≠ b.activeGeneration then
    (.attempted (.error (uncertainPnfsWrite (b.context info)
      (.rpc "pNFS WRITE outcome crossed a session generation boundary"))), none)
  else
    let pending := b.receipt replies (replies.map DsWriteReply.written).sum false
    (.attempted (.ok pending), some pending)

/-- A part of the batch may be written: the receipt of what is known to be stays behind. -/
def partlyWritten (completions : List Completion) : PnfsWriteOutcome × Option PendingWrite :=
  let known := completions.filterMap Completion.reply?
  let stop := ((known.map fun r => r.fileOffset + r.written).max?).getD b.offset
  let source := ((completions.filterMap Completion.error?).find? fun e =>
    e.isExhausted || e.outcomeSource?.any NfsError.isServerBusy).getD
      (.rpc s!"pNFS DS WRITE results: {dsBatchDiagnostic info completions}")
  (.attempted (.error (uncertainPnfsWrite (b.context info) source)),
    if known.isEmpty then none else some (b.receipt known (stop - b.offset) true))

/-- `pnfs_write` once every stripe is settled. -/
def settle : PnfsWriteEnd :=
  let completions := b.completions info
  let ended : PnfsWriteOutcome × Option PendingWrite :=
    if completions.all fun c => c.error?.isNone then
      b.allWritten info (completions.filterMap Completion.reply?)
    else if dsBatchRejectedWithoutWrite completions then (.refreshRequired, none)
    else if completions.all fun c => c.error?.any NfsError.isRejection then
      (.attempted (.error (((completions.filterMap Completion.error?).find?
        NfsError.isExhausted).getD (.rpc "empty rejected DS batch"))), none)
    else b.partlyWritten info completions
  { outcome := ended.1, registered := ended.2
    touched := completions.any fun c => c.ended.touched }

end Batch

/-! ## The logical write -/

/-- How far `pnfs_write` comes before its first WRITE. -/
inductive PlanEnd where
  /-- The layout or the device is refused in a way that stops the write. -/
  | stopped (error : NfsError)
  /-- No layout, segment, device or plan that pNFS I/O could use. -/
  | noPlan
  /-- A data server of the plan cannot be reached. -/
  | unconnected
  | issued (batch : Batch)

def pnfsWrite (info : PnfsInfo) : PlanEnd → PnfsWriteEnd
  | .stopped e => { outcome := .attempted (.error e), registered := none, touched := false }
  | .noPlan => { outcome := .notAttempted, registered := none, touched := false }
  | .unconnected => { outcome := .refreshRequired, registered := none, touched := false }
  | .issued batch => batch.settle info

/-- What a pass of `write_pnfs_budgeted` meets. -/
structure PassEnv where
  /-- A registered write has failed and is not committed. -/
  failedPending : Bool
  plan : PlanEnd
  /-- `refresh_rejected_layout`, if the pass asks for it. -/
  refresh : Except NfsError Unit

/-- How a pass ended: `none` when it goes on behind a refreshed layout. -/
structure PassEnd where
  returns : Option (Option (Except NfsError PendingWrite))
  touched : Bool

def failedPendingError (info : PnfsInfo) : NfsError :=
  uncertainPnfsWrite { operation := "pnfs_write", protocol := info.protocol, requestId := none }
    (.rpc "previous pNFS write failed; close and recover before writing again")

/-- What the pass makes of the outcome of `pnfs_write`. -/
def PassEnv.conclude (p : PassEnv) :
    PnfsWriteOutcome → Option (Option (Except NfsError PendingWrite))
  | .notAttempted => some none
  | .attempted result => some (some result)
  | .refreshRequired =>
    match p.refresh with
    | .error e => some (some (.error e))
    | .ok _ => none

def PassEnv.run (info : PnfsInfo) (p : PassEnv) : PassEnd :=
  if p.failedPending then
    { returns := some (some (.error (failedPendingError info))), touched := false }
  else
    let ended := pnfsWrite info p.plan
    { returns := p.conclude ended.outcome, touched := ended.touched }

/-- How `write_pnfs` ended: `none` lets the caller write through the metadata server. `passes`
says of each pass over the stripes whether it touched the data. -/
structure WriteEnd where
  result : Option (Except NfsError PendingWrite)
  passes : List Bool

/-- The loop of `write_pnfs_budgeted` from a pass on. -/
def writePnfsFrom (info : PnfsInfo) (env : Nat → PassEnv) : (remaining attempt : Nat) → WriteEnd
  | 0, _ => { result := none, passes := [] }
  | remaining + 1, attempt =>
    let pass := (env attempt).run info
    match pass.returns with
    | some result => { result := result, passes := [pass.touched] }
    | none =>
      if attempt = 1 then { result := none, passes := [pass.touched] }
      else
        let rest := writePnfsFrom info env remaining (attempt + 1)
        { rest with passes := pass.touched :: rest.passes }

/-- `write_pnfs_budgeted`. -/
def writePnfs (info : PnfsInfo) (env : Nat → PassEnv) : WriteEnd := writePnfsFrom info env 2 0

/-! ## The property and its condition -/

/-- The caller is told success, or that the outcome is uncertain. -/
def Concluded : Option (Except NfsError PendingWrite) → Prop
  | some (.ok _) => True
  | some (.error e) => e.isUncertain = true
  | none => False

/-- **Safe fallback.** A pass that touched the data is the last one, and the write is not left
to the metadata server behind it. -/
def WriteEnd.SafeFallback (w : WriteEnd) : Prop :=
  ∀ i, w.passes[i]? = some true → i + 1 = w.passes.length ∧ Concluded w.result

/-- Every stripe's first WRITE is rejected, and one of them behind a frame whose result is
unknown. -/
def Batch.RejectedBehindFrame (info : PnfsInfo) (b : Batch) : Prop :=
  (∀ stripe ∈ b.stripes, (stripe.rejection? info).isSome = true) ∧
    ∃ stripe ∈ b.stripes, (stripe.firstAnswer info).unknown = true

/-- Every stripe's first WRITE is rejected as stale. -/
def Batch.AllStale (info : PnfsInfo) (b : Batch) : Prop :=
  ∀ stripe ∈ b.stripes, (stripe.rejection? info).any NfsError.isStale = true

/-- The pass issues a batch that is rejected behind a frame, and no refresh fails with an
uncertain outcome of its own. -/
def PassEnv.Exposed (info : PnfsInfo) (p : PassEnv) : Prop :=
  p.failedPending = false ∧ ∃ b, p.plan = .issued b ∧ b.RejectedBehindFrame info ∧
    (b.AllStale info → ∀ e, p.refresh = .error e → e.isUncertain = false)

/-- The pass ends behind a refreshed layout: a data server is not reached, or every stripe is
rejected as stale. -/
def PassEnv.Refreshes (info : PnfsInfo) (p : PassEnv) : Prop :=
  p.failedPending = false ∧ p.refresh = .ok () ∧
    (p.plan = .unconnected ∨
      ∃ b, p.plan = .issued b ∧ b.stripes ≠ [] ∧ b.AllStale info)

/-! ## What a batch comes to -/

section Batches

variable {info : PnfsInfo} {b : Batch}

theorem isUncertain_of_isExhausted {e : NfsError} (h : e.isExhausted = true) :
    e.isUncertain = false := by
  cases e <;> first | rfl | cases h

theorem error?_some {c : Completion} {e : NfsError} :
    c.error? = some e ↔ c.ended.result = .error e := by
  unfold Completion.error?
  cases c.ended.result with
  | ok reply => simp
  | error e' => simp

/-- A stripe's completion shows a plain rejection exactly when its first WRITE has it. -/
theorem completion_rejection (stripe : Stripe) :
    (Completion.error? ⟨stripe.write, writeDsComplete info stripe⟩).filter NfsError.isRejection =
      stripe.rejection? info := by
  cases hReject : stripe.rejection? info with
  | none =>
    have hNot := writeDsComplete_notRejected hReject
    rw [Option.filter_eq_none_iff]
    intro e he
    rw [hNot e (error?_some.mp he)]
    exact Bool.false_ne_true
  | some e =>
    have hResult : (writeDsComplete info stripe).result = .error e := by
      rw [writeDsComplete_rejected hReject]
    rw [error?_some.mpr hResult]
    exact Option.filter_some_pos (rejection?_some hReject).2.2

theorem completions_all {P : Completion → Bool} :
    (b.completions info).all P = true ↔
      ∀ stripe ∈ b.stripes, P ⟨stripe.write, writeDsComplete info stripe⟩ = true := by
  simp [Batch.completions, List.all_eq_true]

theorem completion_any_rejection (stripe : Stripe) :
    (Completion.error? ⟨stripe.write, writeDsComplete info stripe⟩).any NfsError.isRejection =
      (stripe.rejection? info).isSome := by
  rw [← completion_rejection, Option.isSome_filter]

theorem completion_any_stale (stripe : Stripe) :
    (Completion.error? ⟨stripe.write, writeDsComplete info stripe⟩).any NfsError.isStale =
      (stripe.rejection? info).any NfsError.isStale := by
  rw [← completion_rejection, Option.any_filter]
  congr 1
  funext e
  -- a stale error is a rejection
  simp only [NfsError.isRejection]
  cases e.isStale <;> simp

theorem rejectedWithoutWrite_iff :
    dsBatchRejectedWithoutWrite (b.completions info) = true ↔
      b.stripes ≠ [] ∧ b.AllStale info := by
  unfold dsBatchRejectedWithoutWrite Batch.AllStale
  rw [Bool.and_eq_true, completions_all]
  simp only [completion_any_stale]
  simp [Batch.completions]

theorem all_rejection_iff :
    ((b.completions info).all fun c => c.error?.any NfsError.isRejection) = true ↔
      ∀ stripe ∈ b.stripes, (stripe.rejection? info).isSome = true := by
  rw [completions_all]
  simp only [completion_any_rejection]

/-- A batch with a stripe that is not rejected ends in success or an uncertain error. -/
theorem settle_concluded
    (h : b.stripes = [] ∨ ∃ stripe ∈ b.stripes, stripe.rejection? info = none) :
    ∃ result, (b.settle info).outcome = .attempted result ∧ Concluded (some result) := by
  have hSome : ¬ (b.stripes ≠ [] ∧
      ∀ stripe ∈ b.stripes, (stripe.rejection? info).isSome = true) := by
    rintro ⟨hne, hAll⟩
    rcases h with hEmpty | ⟨stripe, hMem, hNone⟩
    · exact hne hEmpty
    · have hIs := hAll stripe hMem
      rw [hNone] at hIs
      cases hIs
  unfold Batch.settle
  dsimp only
  split
  · -- every stripe is written
    unfold Batch.allWritten
    split
    · exact ⟨_, rfl, rfl⟩
    · exact ⟨_, rfl, trivial⟩
  · rename_i hWritten
    -- not all written, so there is a stripe, and both other ends need every one rejected
    have hne : b.stripes ≠ [] := by
      intro hEmpty
      exact hWritten (by simp [Batch.completions, hEmpty])
    split
    · rename_i hStale
      obtain ⟨-, hAll⟩ := rejectedWithoutWrite_iff.mp hStale
      refine absurd ⟨hne, fun stripe hMem => ?_⟩ hSome
      exact Option.isSome_of_any (hAll stripe hMem)
    · split
      · rename_i hRejected
        exact absurd ⟨hne, all_rejection_iff.mp hRejected⟩ hSome
      · exact ⟨_, rfl, rfl⟩

theorem settle_touched_iff
    (hAll : ∀ stripe ∈ b.stripes, (stripe.rejection? info).isSome = true) :
    (b.settle info).touched = true ↔
      ∃ stripe ∈ b.stripes, (stripe.firstAnswer info).unknown = true := by
  have hStripe : ∀ stripe ∈ b.stripes,
      (writeDsComplete info stripe).touched = (stripe.firstAnswer info).unknown := by
    intro stripe hMem
    obtain ⟨e, he⟩ := Option.isSome_iff_exists.mp (hAll stripe hMem)
    rw [writeDsComplete_rejected he]
  unfold Batch.settle Batch.completions
  simp only [List.any_map, List.any_eq_true, Function.comp_apply]
  constructor
  · rintro ⟨stripe, hMem, hTouched⟩
    exact ⟨stripe, hMem, hStripe stripe hMem ▸ hTouched⟩
  · rintro ⟨stripe, hMem, hUnknown⟩
    exact ⟨stripe, hMem, (hStripe stripe hMem).symm ▸ hUnknown⟩

/-- A batch in which every stripe is rejected asks for a refresh, or returns busy as it is. -/
theorem settle_rejected (hne : b.stripes ≠ [])
    (hAll : ∀ stripe ∈ b.stripes, (stripe.rejection? info).isSome = true) :
    (b.AllStale info ∧ (b.settle info).outcome = .refreshRequired) ∨
      (¬ b.AllStale info ∧ ∃ e, (b.settle info).outcome = .attempted (.error e) ∧
        e.isUncertain = false) := by
  have hNotWritten : ¬ ((b.completions info).all fun c => c.error?.isNone) = true := by
    obtain ⟨stripe, hMem⟩ := List.exists_mem_of_ne_nil _ hne
    intro hWritten
    have hNone := completions_all.mp hWritten stripe hMem
    have hSome := hAll stripe hMem
    rw [← completion_any_rejection] at hSome
    rw [Option.isNone_iff_eq_none] at hNone
    rw [hNone] at hSome
    cases hSome
  unfold Batch.settle
  simp only [if_neg hNotWritten]
  by_cases hStale : b.AllStale info
  · rw [if_pos (rejectedWithoutWrite_iff.mpr ⟨hne, hStale⟩)]
    exact .inl ⟨hStale, rfl⟩
  · rw [if_neg (fun h => hStale (rejectedWithoutWrite_iff.mp h).2),
      if_pos (all_rejection_iff.mpr hAll)]
    refine .inr ⟨hStale, _, rfl, ?_⟩
    -- the error is a busy one, or stands for a batch that has none
    cases hFind : ((b.completions info).filterMap Completion.error?).find?
        NfsError.isExhausted with
    | none => rfl
    | some e => exact isUncertain_of_isExhausted (List.find?_some hFind)

end Batches

/-! ## What a pass comes to -/

section Passes

variable {info : PnfsInfo} {p : PassEnv}

/-- A batch either has a rejection on every stripe or concludes. -/
theorem rejected_or_not (info : PnfsInfo) (b : Batch) :
    (b.stripes ≠ [] ∧ ∀ stripe ∈ b.stripes, (stripe.rejection? info).isSome = true) ∨
      (b.stripes = [] ∨ ∃ stripe ∈ b.stripes, stripe.rejection? info = none) := by
  by_cases hne : b.stripes = []
  · exact .inr (.inl hne)
  · by_cases hAll : ∀ stripe ∈ b.stripes, (stripe.rejection? info).isSome = true
    · exact .inl ⟨hne, hAll⟩
    · simp only [not_forall] at hAll
      obtain ⟨stripe, hMem, hNone⟩ := hAll
      exact .inr (.inr ⟨stripe, hMem, Option.not_isSome_iff_eq_none.mp hNone⟩)

theorem settle_refreshRequired_iff {b : Batch} :
    (b.settle info).outcome = .refreshRequired ↔ b.stripes ≠ [] ∧ b.AllStale info := by
  rcases rejected_or_not info b with ⟨hne, hAll⟩ | hNot
  · rcases settle_rejected hne hAll with ⟨hStale, hOutcome⟩ | ⟨hStale, e, hOutcome, -⟩
    · exact iff_of_true hOutcome ⟨hne, hStale⟩
    · rw [hOutcome]
      exact iff_of_false nofun fun h => hStale h.2
  · obtain ⟨result, hOutcome, -⟩ := settle_concluded hNot
    rw [hOutcome]
    refine iff_of_false nofun fun ⟨hne, hStale⟩ => ?_
    rcases hNot with hEmpty | ⟨stripe, hMem, hNone⟩
    · exact hne hEmpty
    · have hAny := hStale stripe hMem
      rw [hNone] at hAny
      cases hAny

theorem run_of_plan (hPending : p.failedPending = false) :
    p.run info =
      { returns := p.conclude (pnfsWrite info p.plan).outcome
        touched := (pnfsWrite info p.plan).touched } := by
  unfold PassEnv.run
  rw [hPending]
  rfl

theorem run_failedPending (hPending : p.failedPending = true) :
    p.run info =
      { returns := some (some (.error (failedPendingError info))), touched := false } := by
  unfold PassEnv.run
  rw [hPending]
  rfl

/-- Nothing but an issued batch touches the data. -/
theorem issued_of_touched (h : (p.run info).touched = true) :
    p.failedPending = false ∧ ∃ b, p.plan = .issued b := by
  cases hPending : p.failedPending with
  | true =>
    rw [run_failedPending hPending] at h
    cases h
  | false =>
    rw [run_of_plan hPending] at h
    refine ⟨rfl, ?_⟩
    cases hPlan : p.plan with
    | issued b => exact ⟨b, rfl⟩
    | stopped e | noPlan | unconnected =>
      rw [hPlan] at h
      cases h

/-- An issued batch is exposed when its pass touches the data and does not conclude. -/
theorem exposed_issued_iff {b : Batch} (hPending : p.failedPending = false)
    (hPlan : p.plan = .issued b) :
    p.Exposed info ↔ (b.settle info).touched = true ∧
      ∀ result, p.conclude (b.settle info).outcome = some result → ¬ Concluded result := by
  have hExposed : p.Exposed info ↔ b.RejectedBehindFrame info ∧
      (b.AllStale info → ∀ e, p.refresh = .error e → e.isUncertain = false) := by
    constructor
    · rintro ⟨-, b', hb', h⟩
      cases hPlan.symm.trans hb'
      exact h
    · exact fun h => ⟨hPending, b, hPlan, h⟩
  rw [hExposed]
  -- a pass goes on behind a batch only when every stripe of it was rejected
  rcases rejected_or_not info b with ⟨hne, hAll⟩ | hNot
  · have hFrame : b.RejectedBehindFrame info ↔ (b.settle info).touched = true := by
      rw [settle_touched_iff hAll]
      exact ⟨fun h => h.2, fun h => ⟨hAll, h⟩⟩
    rw [hFrame]
    refine and_congr_right fun _ => ?_
    rcases settle_rejected hne hAll with ⟨hStale, hOutcome⟩ | ⟨hStale, e, hOutcome, hBusy⟩
    · -- the refresh decides
      rw [hOutcome]
      unfold PassEnv.conclude
      cases p.refresh with
      | ok u => simp
      | error e => simp [hStale, Concluded]
    · rw [hOutcome]
      refine iff_of_true (fun h => absurd h hStale) fun result hResult => ?_
      cases hResult
      simp [Concluded, hBusy]
  · obtain ⟨result, hOutcome, hConcluded⟩ := settle_concluded hNot
    refine iff_of_false ?_ fun h => ?_
    · rintro ⟨⟨hAll, stripe, hMem, -⟩, -⟩
      rcases hNot with hEmpty | ⟨stripe', hMem', hNone⟩
      · rw [hEmpty] at hMem
        cases hMem
      · have hSome := hAll stripe' hMem'
        rw [hNone] at hSome
        cases hSome
    · rw [hOutcome] at h
      exact h.2 _ rfl hConcluded

/-- A pass is exposed exactly when it touches the data and does not conclude the write. -/
theorem exposed_iff :
    p.Exposed info ↔ (p.run info).touched = true ∧
      ∀ result, (p.run info).returns = some result → ¬ Concluded result := by
  constructor
  · intro h
    obtain ⟨hPending, b, hPlan, -⟩ := id h
    rw [run_of_plan hPending, hPlan]
    exact (exposed_issued_iff hPending hPlan).mp h
  · intro h
    obtain ⟨hPending, b, hPlan⟩ := issued_of_touched h.1
    rw [run_of_plan hPending, hPlan] at h
    exact (exposed_issued_iff hPending hPlan).mpr h

theorem conclude_eq_none_iff {outcome : PnfsWriteOutcome} :
    p.conclude outcome = none ↔ outcome = .refreshRequired ∧ p.refresh = .ok () := by
  unfold PassEnv.conclude
  cases outcome with
  | notAttempted | attempted result => simp
  | refreshRequired => cases p.refresh <;> simp

theorem refreshes_iff : p.Refreshes info ↔ (p.run info).returns = none := by
  cases hPending : p.failedPending with
  | true =>
    rw [run_failedPending hPending]
    refine iff_of_false (fun h => ?_) nofun
    exact nomatch hPending.symm.trans h.1
  | false =>
    rw [run_of_plan hPending]
    simp only [conclude_eq_none_iff, PassEnv.Refreshes, hPending, true_and]
    rw [and_comm]
    refine and_congr_left fun _ => ?_
    cases hPlan : p.plan with
    | stopped e | noPlan => simp [pnfsWrite]
    | unconnected => simp [pnfsWrite]
    | issued b =>
      show _ ↔ (b.settle info).outcome = .refreshRequired
      rw [settle_refreshRequired_iff]
      simp

end Passes

/-! ## The fallback -/

theorem safeFallback_single {result : Option (Except NfsError PendingWrite)} {touched : Bool} :
    WriteEnd.SafeFallback { result := result, passes := [touched] } ↔
      (touched = true → Concluded result) := by
  constructor
  · intro h hTouched
    exact (h 0 (by rw [hTouched]; rfl)).2
  · intro h i hi
    cases i with
    | zero => exact ⟨rfl, h (Option.some.inj hi)⟩
    | succ i => cases hi

theorem safeFallback_cons {w : WriteEnd} {touched : Bool} (hne : w.passes ≠ []) :
    WriteEnd.SafeFallback { w with passes := touched :: w.passes } ↔
      touched = false ∧ w.SafeFallback := by
  have hPos := List.length_pos_iff.mpr hne
  constructor
  · intro h
    refine ⟨Bool.eq_false_iff.mpr fun hTouched => ?_, fun i hi => ?_⟩
    · have hLast := (h 0 (by rw [hTouched]; rfl)).1
      simp only [List.length_cons] at hLast
      omega
    · obtain ⟨hLast, hConcluded⟩ := h (i + 1) hi
      simp only [List.length_cons] at hLast
      exact ⟨by omega, hConcluded⟩
  · rintro ⟨hTouched, h⟩ i hi
    cases i with
    | zero => exact absurd (Option.some.inj hi) (by simp [hTouched])
    | succ i =>
      obtain ⟨hLast, hConcluded⟩ := h i hi
      exact ⟨by simp only [List.length_cons]; omega, hConcluded⟩

/-- **The fallback of pNFS writes is safe** exactly when no pass over the stripes is exposed:
the first one is not, and the second is not if the first goes on to it. -/
theorem writePnfs_safeFallback_iff (info : PnfsInfo) (env : Nat → PassEnv) :
    (writePnfs info env).SafeFallback ↔
      ¬ (env 0).Exposed info ∧ ((env 0).Refreshes info → ¬ (env 1).Exposed info) := by
  -- the last pass: whatever it leaves open goes to the metadata server
  have hLast : writePnfsFrom info env 1 1 =
      { result := ((env 1).run info).returns.getD none
        passes := [((env 1).run info).touched] } := by
    unfold writePnfsFrom
    cases hReturns : ((env 1).run info).returns <;> simp [hReturns]
  have hSecond : (writePnfsFrom info env 1 1).SafeFallback ↔ ¬ (env 1).Exposed info := by
    rw [hLast, exposed_iff, safeFallback_single]
    cases ((env 1).run info).returns with
    | some result => simp
    | none => simp [Concluded]
  rw [refreshes_iff, exposed_iff]
  unfold writePnfs writePnfsFrom
  cases hReturns : ((env 0).run info).returns with
  | some result => simp [hReturns, safeFallback_single]
  | none =>
    have hne : (writePnfsFrom info env 1 1).passes ≠ [] := by
      rw [hLast]
      exact List.cons_ne_nil _ _
    simp only [hReturns, if_neg Nat.zero_ne_one, Nat.zero_add]
    rw [safeFallback_cons hne, hSecond]
    simp

/-! ## Data written again -/

def sampleInfo : PnfsInfo :=
  { protocol := .nfsV4p1, authLen := 16, serverAddr := 0
    ioStateid := List.replicate 16 1, display := fun _ => "" }

/-- One RPC on a slot of a session, with the reply given. -/
def oneRound (generation : Nat) (transport : Nat → Rpc.IterEnv) (resp : CompoundResponse) :
    DsRounds :=
  .last (.ok ({ session := sessionOf generation, slotId := 0, sequenceId := 1 }, 0))
    { transport := transport, decoded := .ok resp, served := none } 16 .retryLimit

/-- SEQUENCE is accepted and PUTFH answers NFS4ERR_STALE. -/
def staleReply (generation : Nat) : CompoundResponse :=
  { tag := "ds-write", status := .stale, sessionGeneration := 0
    results := [sequenceOk generation, { opcode := 22, status := .stale, data := [] }] }

/-- The first frame of the WRITE gets no answer and the second is refused, for the session is
lost; on the next session the handle is stale. -/
def lostThenStale : ChunkEnv :=
  { mds := { call := { CompoundCall.initial 1 with phase := .done (.error (.rpc "")) }
             result := .error (.rpc ""), returned := rfl }
    connect := .ok 4096
    first := oneRound 1 answeredSecond (refusedWith .badsession)
    reconnect := .ok 4096
    second := oneRound 2 answeredFirst (staleReply 2) }

/-- A logical write of two bytes on one data server, all of whose WRITEs go that way; behind
the refresh there is no layout. -/
def lostFrameWrite (attempt : Nat) : PassEnv :=
  { failedPending := false
    plan :=
      if attempt = 0 then
        .issued
          { stripes := [{
              write := { fileOffset := 0, stripeIndex := 0, dsFh := [9], dsAddr := 1
                         dsOffset := 0, data := [1, 2], length_lt := by decide }
              chunks := fun _ _ => lostThenStale }]
            offset := 0, commitThruMds := false, generation := 1, activeGeneration := 1
            sessionId := 0 }
      else .noPlan
    refresh := .ok () }

/-- The frame without an answer may still be executed, and the data is left to the metadata
server. -/
theorem refresh_behind_lost_frame :
    (writePnfs sampleInfo lostFrameWrite).result = none ∧
      (writePnfs sampleInfo lostFrameWrite).passes = [true, false] ∧
      ¬ (writePnfs sampleInfo lostFrameWrite).SafeFallback := by
  have hPasses : (writePnfs sampleInfo lostFrameWrite).passes = [true, false] := rfl
  refine ⟨rfl, hPasses, fun hSafe => ?_⟩
  have hLast := (hSafe 0 (by rw [hPasses]; rfl)).1
  rw [hPasses] at hLast
  exact absurd hLast (by decide)

end NfsRs.Nfs41
