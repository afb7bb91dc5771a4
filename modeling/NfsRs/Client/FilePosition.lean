import NfsRs.Error
import NfsRs.Lib.Tasks

/-!
# NfsRs — the position of a file of the Python adapter

`read`, `readinto`, `write` and `seek` hold the relative gate while they look at the position,
transfer bytes and store the position behind them. A write whose outcome is uncertain sets
`position_uncertain`, and from then on these operations fail until a seek to an absolute offset
clears it. `tell` and `truncate` without a size take no gate and do not look at the flag: they
use the last position that was stored. In append mode a write starts at the end of the file.

The machine records every effect that depends on the position or moves it, in order (`log`).
-/

namespace NfsRs.Client.FilePosition

open NfsRs.Lib

/-! ## The record -/

/-- An effect, in the order in which they happen. -/
inductive Effect where
  /-- A relative read or write from `start` that moved this many bytes. -/
  | transfer (start count : Nat)
  /-- A relative write whose outcome is uncertain. -/
  | uncertain (start : Nat)
  /-- A seek to an absolute offset, or to one from the end of the file. -/
  | seekTo (position : Nat)
  | seekEnd (position : Nat)
  | seekCur (base position : Nat)
  | tell (position : Nat)
  | truncate (position : Nat)
  deriving DecidableEq, Repr

/-- The position after an effect, `none` while it is uncertain. -/
def Effect.next : Option Nat → Effect → Option Nat
  | _, .transfer start count => some (start + count)
  | _, .uncertain _ => none
  | _, .seekTo position => some position
  | _, .seekEnd position => some position
  | _, .seekCur _ position => some position
  | position, _ => position

/-- An effect that depends on the position has the one of the record so far. -/
def Effect.Coherent (position : Option Nat) : Effect → Prop
  | .transfer start _ | .uncertain start | .seekCur start _ => position = some start
  | .tell value | .truncate value => position = some value
  | .seekEnd _ => position ≠ none
  | .seekTo _ => True

def positionOf (start : Nat) (log : List Effect) : Option Nat := log.foldl Effect.next (some start)

/-- Every effect is coherent with those before it. -/
def CoherentLog (start : Nat) (log : List Effect) : Prop :=
  ∀ before effect after, log = before ++ effect :: after →
    effect.Coherent (positionOf start before)

@[simp] theorem positionOf_concat (start : Nat) (log : List Effect) (effect : Effect) :
    positionOf start (log ++ [effect]) = effect.next (positionOf start log) := by
  simp [positionOf]

theorem CoherentLog.concat {start : Nat} {log : List Effect} {effect : Effect}
    (h : CoherentLog start log) (hLast : effect.Coherent (positionOf start log)) :
    CoherentLog start (log ++ [effect]) := by
  intro before e after hSplit
  rcases List.eq_nil_or_concat after with rfl | ⟨front, last, rfl⟩
  · obtain ⟨rfl, hEq⟩ := List.append_inj' hSplit rfl
    cases hEq
    exact hLast
  · rw [List.concat_eq_append, ← List.cons_append, ← List.append_assoc] at hSplit
    exact h before e front (List.append_inj' hSplit rfl).1

/-! ## The operations -/

structure Shared where
  position : Nat
  uncertain : Bool
  /-- Holder of the relative gate. -/
  gate : Option Nat
  log : List Effect

inductive Whence where
  | set | cur | fromEnd
  deriving DecidableEq, Repr

inductive Op where
  /-- `read` and `readinto`. -/
  | read
  | write
  | seek (offset : Int) (whence : Whence)
  | truncate
  | tell
  deriving DecidableEq, Repr

inductive Phase where
  | start
  /-- A write in append mode behind the gate and the check: it asks for the size next. -/
  | appending (position : Nat)
  /-- Behind the gate and the check, with the position to start at. -/
  | held (position : Nat)
  /-- `truncate` with the size it loaded. -/
  | sized (position : Nat)
  | ended
  deriving DecidableEq, Repr

structure Task where
  op : Op
  phase : Phase
  deriving DecidableEq, Repr

/-- The error of a write, as far as the position depends on it. -/
inductive WriteError where
  | uncertain
  | confirmed (count : Nat)
  | other
  deriving DecidableEq, Repr

inductive Event where
  | go
  /-- The size of the file, for append mode and a seek from the end. -/
  | size (value : Nat)
  | done (count : Nat)
  | fail (error : WriteError)
  /-- An operation fails, or the future of a read is dropped. -/
  | abandon
  deriving DecidableEq, Repr

def u64Max : Nat := 2 ^ 64 - 1

/-- The gate is given back, with or without a new position. -/
def Shared.leave (s : Shared) : Shared := { s with gate := none }

def Shared.store (s : Shared) (position : Nat) (effect : Effect) : Shared :=
  { s with position := position, gate := none, log := s.log ++ [effect] }

/-- Take the gate and check the flag; `absolute` is the seek that ignores it. -/
def Shared.enter (s : Shared) (i : Nat) (absolute : Bool) : Option (Shared × Phase) :=
  if s.gate = none then
    if s.uncertain && !absolute then some (s, .ended)
    else some ({ s with gate := some i }, .held s.position)
  else none

/-- A write starts at the position, in append mode at the size that it has to ask for. -/
def Phase.ofWrite (append : Bool) : Phase → Phase
  | .held position => if append then .appending position else .held position
  | phase => phase

/-- The target of a seek, when it is an offset of `u64`. -/
def seekTarget (base : Nat) (offset : Int) : Option Nat :=
  let next : Int := base + offset
  if 0 ≤ next ∧ next ≤ u64Max then some next.toNat else none

def seekStep (s : Shared) (whence : Whence) (base : Nat) (offset : Int) : Shared :=
  match seekTarget base offset with
  | none => s.leave
  | some next =>
      match whence with
      | .set => { s.store next (.seekTo next) with uncertain := false }
      | .cur => s.store next (.seekCur base next)
      | .fromEnd => s.store next (.seekEnd next)

/-- The step of one task; a transfer does not reach past the offsets of `u64`. -/
def Task.step (append : Bool) (i : Nat) (s : Shared) (t : Task) (e : Event) :
    Option (Shared × Task) :=
  match t.op, t.phase, e with
  | .tell, .start, .go =>
      some ({ s with log := s.log ++ [.tell s.position] }, { t with phase := .ended })
  | .truncate, .start, .go => some (s, { t with phase := .sized s.position })
  | .truncate, .sized position, .go =>
      some ({ s with log := s.log ++ [.truncate position] }, { t with phase := .ended })
  | .truncate, .sized _, .abandon => some (s, { t with phase := .ended })
  | .read, .start, .go => (s.enter i false).map fun r => (r.1, { t with phase := r.2 })
  | .write, .start, .go =>
      (s.enter i false).map fun r => (r.1, { t with phase := r.2.ofWrite append })
  | .seek _ whence, .start, .go =>
      (s.enter i (whence == .set)).map fun r => (r.1, { t with phase := r.2 })
  | .write, .appending _, .size value => some (s, { t with phase := .held value })
  | .read, .held position, .done count | .write, .held position, .done count
  | .write, .held position, .fail (.confirmed count) =>
      if position + count ≤ u64Max then
        some (s.store (position + count) (.transfer position count), { t with phase := .ended })
      else none
  | .write, .held position, .fail .uncertain =>
      some ({ s with uncertain := true, gate := none, log := s.log ++ [.uncertain position] },
        { t with phase := .ended })
  | .write, .held _, .fail .other => some (s.leave, { t with phase := .ended })
  | .seek offset .set, .held _, .go =>
      some (seekStep s .set 0 offset, { t with phase := .ended })
  | .seek offset .cur, .held position, .go =>
      some (seekStep s .cur position offset, { t with phase := .ended })
  | .seek offset .fromEnd, .held _, .size value =>
      some (seekStep s .fromEnd value offset, { t with phase := .ended })
  | _, .held _, .abandon | _, .appending _, .abandon => some (s.leave, { t with phase := .ended })
  | _, _, _ => none

def positionProgram (append : Bool) (start : Nat) : Program Shared Task Event where
  init := ⟨⟨start, false, none, []⟩, []⟩
  entry t := t.phase == .start
  step := Task.step append

/-- `tell`, and `truncate` without a size, take effect while the position is certain and is the
one they loaded; and a write in append mode finds the end of the file at the position. -/
def PositionKnown (P : TaskPool Shared Task) : TaskEvent Task Event → Prop
  | .spawn _ => True
  | .step i e => match P.tasks[i]?, e with
    | some ⟨.tell, _⟩, _ => P.shared.uncertain = false
    | some ⟨.truncate, .sized position⟩, _ =>
        P.shared.uncertain = false ∧ P.shared.position = position
    | some ⟨.write, .appending position⟩, .size value => value = position
    | _, _ => True

instance (P : TaskPool Shared Task) (a : TaskEvent Task Event) :
    Decidable (PositionKnown P a) := by
  unfold PositionKnown
  split
  · infer_instance
  · split <;> infer_instance

/-! ## The invariant -/

variable {start : Nat}

/-- The stored position and the flag are what the record says. -/
structure PositionInv (start : Nat) (s : Shared) : Prop where
  log : CoherentLog start s.log
  known : s.uncertain = false → positionOf start s.log = some s.position
  lost : s.uncertain = true → positionOf start s.log = none

/-- A task behind the gate holds it, and has the position; only an absolute seek is there while
the position is uncertain. -/
def Task.Knows (s : Shared) (i : Nat) (t : Task) : Prop :=
  match t.phase with
  | .held position | .appending position => s.gate = some i ∧ position = s.position ∧
      (s.uncertain = true → ∃ offset, t.op = .seek offset .set)
  | _ => True

/-- What a step shows: the invariant, that the holder of the gate sees no change, and what the
task knows. -/
structure StepOk (start i : Nat) (s s' : Shared) (t' : Task) : Prop where
  inv : PositionInv start s'
  holder : ∀ j, j ≠ i → s.gate = some j →
    s'.gate = some j ∧ s'.position = s.position ∧ s'.uncertain = s.uncertain
  knows : t'.Knows s' i

variable {append : Bool} {i : Nat} {s s' : Shared}

variable {op : Op} {phase : Phase} {position : Nat}

/-- The gate is taken: only an absolute seek may enter with the position uncertain. -/
theorem StepOk.enter {absolute : Bool} (h : PositionInv start s)
    (hEnter : s.enter i absolute = some (s', phase))
    (hAbsolute : absolute = true → ∃ offset, op = .seek offset .set) :
    StepOk start i s s' ⟨op, phase⟩ := by
  unfold Shared.enter at hEnter
  split at hEnter
  next hFree =>
    have hHolder : ∀ j, j ≠ i → s.gate = some j → False := fun j _ hj =>
      absurd (hFree.symm.trans hj) nofun
    split at hEnter
    next =>
      cases hEnter
      exact ⟨h, fun j hNe hj => (hHolder j hNe hj).elim, trivial⟩
    next hCheck =>
      cases hEnter
      refine ⟨⟨h.log, h.known, h.lost⟩, fun j hNe hj => (hHolder j hNe hj).elim, rfl, rfl, ?_⟩
      intro hUncertain
      cases absolute with
      | true => exact hAbsolute rfl
      | false => exact absurd (by rw [show s.uncertain = true from hUncertain]; rfl) hCheck
  next => cases hEnter

/-- A write that asks for the size knows what it knew of the position. -/
theorem StepOk.ofWrite (append : Bool) (h : StepOk start i s s' ⟨op, phase⟩) :
    StepOk start i s s' ⟨op, phase.ofWrite append⟩ := by
  unfold Phase.ofWrite
  split
  · split
    · exact ⟨h.inv, h.holder, h.knows⟩
    · exact h
  · exact h

/-- The holder of the gate leaves it, and nothing else changes. -/
theorem StepOk.leave (h : PositionInv start s) (hGate : s.gate = some i) :
    StepOk start i s s.leave ⟨op, .ended⟩ :=
  ⟨⟨h.log, h.known, h.lost⟩,
    fun _ hNe hj => absurd (Option.some.inj (hj.symm.trans hGate)) hNe, trivial⟩

/-- The holder of the gate has an effect, stores the position and leaves. -/
theorem StepOk.effect {uncertain : Bool} {effect : Effect} (h : PositionInv start s)
    (hGate : s.gate = some i) (hCoherent : effect.Coherent (positionOf start s.log))
    (hNext : effect.next (positionOf start s.log) =
      if uncertain = true then none else some position) :
    StepOk start i s ⟨position, uncertain, none, s.log ++ [effect]⟩ ⟨op, .ended⟩ := by
  refine ⟨⟨h.log.concat hCoherent, fun hCertain => ?_, fun hLost => ?_⟩,
    fun j hNe hj => absurd (Option.some.inj (hj.symm.trans hGate)) hNe, trivial⟩
  · change uncertain = false at hCertain
    rw [positionOf_concat, hNext, hCertain]
    rfl
  · change uncertain = true at hLost
    rw [positionOf_concat, hNext, hLost]
    rfl

/-- A look at a known position changes nothing. -/
theorem StepOk.look {effect : Effect} (h : PositionInv start s)
    (hCoherent : effect.Coherent (positionOf start s.log))
    (hNext : effect.next (positionOf start s.log) = positionOf start s.log) :
    StepOk start i s { s with log := s.log ++ [effect] } ⟨op, .ended⟩ := by
  refine ⟨⟨h.log.concat hCoherent, fun hCertain => ?_, fun hLost => ?_⟩,
    fun _ _ hj => ⟨hj, rfl, rfl⟩, trivial⟩
  · rw [positionOf_concat, hNext]
    exact h.known hCertain
  · rw [positionOf_concat, hNext]
    exact h.lost hLost

/-- A seek stores its target, or leaves the position as it was. -/
theorem StepOk.seek {whence : Whence} {base : Nat} {offset : Int} (h : PositionInv start s)
    (hGate : s.gate = some i) (hCertain : whence ≠ .set → s.uncertain = false)
    (hBase : whence = .cur → base = s.position) :
    StepOk start i s (seekStep s whence base offset) ⟨op, .ended⟩ := by
  unfold seekStep
  split
  next => exact .leave h hGate
  next next _ =>
    cases whence with
    | set => exact .effect h hGate trivial rfl
    | cur =>
        have hKnown := hCertain nofun
        have hCoherent : (Effect.seekCur base next).Coherent (positionOf start s.log) := by
          rw [h.known hKnown, hBase rfl]
          rfl
        exact .effect h hGate hCoherent (by rw [hKnown]; rfl)
    | fromEnd =>
        have hKnown := hCertain nofun
        have hCoherent : (Effect.seekEnd next).Coherent (positionOf start s.log) := by
          rw [h.known hKnown]
          nofun
        exact .effect h hGate hCoherent (by rw [hKnown]; rfl)

/-- A task behind the gate that is no absolute seek has a known position. -/
theorem Task.Knows.certain (hOwn : Task.Knows s i ⟨op, .held position⟩)
    (hOp : ∀ offset, op ≠ .seek offset .set) : s.uncertain = false := by
  cases hFlag : s.uncertain with
  | false => rfl
  | true =>
      obtain ⟨offset, hSeek⟩ := hOwn.2.2 hFlag
      exact absurd hSeek (hOp offset)

/-- A transfer of the holder from the position it loaded. -/
theorem StepOk.transfer {count : Nat} (h : PositionInv start s)
    (hOwn : Task.Knows s i ⟨op, .held position⟩) (hOp : ∀ offset, op ≠ .seek offset .set) :
    StepOk start i s (s.store (position + count) (.transfer position count)) ⟨op, .ended⟩ := by
  have hCertain := hOwn.certain hOp
  obtain ⟨hGate, rfl, -⟩ := hOwn
  exact .effect h hGate (h.known hCertain) (by rw [hCertain]; rfl)

theorem Task.stepOk {e : Event} {t' : Task} (h : PositionInv start s)
    (hOwn : Task.Knows s i ⟨op, phase⟩) (hTell : op = .tell → s.uncertain = false)
    (hTruncate : ∀ position, op = .truncate → phase = .sized position →
      s.uncertain = false ∧ s.position = position)
    (hAppend : ∀ position value, op = .write → phase = .appending position → e = .size value →
      value = position) (hStep : Task.step append i s ⟨op, phase⟩ e = some (s', t')) :
    StepOk start i s s' t' := by
  unfold Task.step at hStep
  dsimp only at hStep
  split at hStep
  -- tell
  next =>
    cases hStep
    exact .look h (h.known (hTell rfl)) rfl
  -- truncate
  next =>
    cases hStep
    exact ⟨h, fun _ _ hj => ⟨hj, rfl, rfl⟩, trivial⟩
  next position =>
    cases hStep
    obtain ⟨hCertain, hPosition⟩ := hTruncate position rfl rfl
    exact .look h (hPosition ▸ h.known hCertain) rfl
  next =>
    cases hStep
    exact ⟨h, fun _ _ hj => ⟨hj, rfl, rfl⟩, trivial⟩
  -- the gate
  next =>
    obtain ⟨r, hEnter, hEq⟩ := Option.map_eq_some_iff.mp hStep
    cases hEq
    exact .enter h hEnter nofun
  next =>
    obtain ⟨r, hEnter, hEq⟩ := Option.map_eq_some_iff.mp hStep
    cases hEq
    exact (StepOk.enter h hEnter nofun).ofWrite append
  next offset whence =>
    obtain ⟨r, hEnter, hEq⟩ := Option.map_eq_some_iff.mp hStep
    cases hEq
    refine .enter h hEnter fun hSet => ⟨offset, ?_⟩
    rw [eq_of_beq hSet]
  -- append mode
  next position value =>
    cases hStep
    obtain rfl := hAppend position value rfl rfl rfl
    exact ⟨h, fun _ _ hj => ⟨hj, rfl, rfl⟩, hOwn⟩
  -- transfers
  next =>
    obtain ⟨-, hEq⟩ := Option.ite_none_right_eq_some.mp hStep
    cases hEq
    exact .transfer h hOwn nofun
  next =>
    obtain ⟨-, hEq⟩ := Option.ite_none_right_eq_some.mp hStep
    cases hEq
    exact .transfer h hOwn nofun
  next =>
    obtain ⟨-, hEq⟩ := Option.ite_none_right_eq_some.mp hStep
    cases hEq
    exact .transfer h hOwn nofun
  next =>
    cases hStep
    have hCertain := hOwn.certain nofun
    obtain ⟨hGate, rfl, -⟩ := hOwn
    exact .effect h hGate (h.known hCertain) rfl
  next =>
    cases hStep
    exact .leave h hOwn.1
  -- seeks
  next =>
    cases hStep
    exact .seek h hOwn.1 (fun hNe => absurd rfl hNe) nofun
  next =>
    cases hStep
    exact .seek h hOwn.1 (fun _ => hOwn.certain nofun) (fun _ => hOwn.2.1)
  next =>
    cases hStep
    exact .seek h hOwn.1 (fun _ => hOwn.certain nofun) nofun
  next =>
    cases hStep
    exact .leave h hOwn.1
  next =>
    cases hStep
    exact .leave h hOwn.1
  next => cases hStep

theorem StepOk.other {t' u : Task} {j : Nat} (h : StepOk start i s s' t') (hNe : j ≠ i)
    (hKnows : u.Knows s j) : u.Knows s' j := by
  unfold Task.Knows at hKnows ⊢
  split at hKnows
  on_goal 3 => trivial
  all_goals
    obtain ⟨hGate, hPosition, hOp⟩ := hKnows
    obtain ⟨hGate', hPosition', hUncertain'⟩ := h.holder j hNe hGate
    exact ⟨hGate', hPosition.trans hPosition'.symm, fun hLost => hOp (hUncertain' ▸ hLost)⟩

theorem stepOk_of_step {P : TaskPool Shared Task} {t t' : Task} {e : Event}
    (hHolds : Holds (PositionInv start) (fun s i t => t.Knows s i) P)
    (hOk : PositionKnown P (.step i e)) (hTask : P.tasks[i]? = some t)
    (hStep : t.step append i P.shared e = some (s', t')) :
    StepOk start i P.shared s' t' := by
  obtain ⟨op, phase⟩ := t
  simp only [PositionKnown, hTask] at hOk
  refine Task.stepOk hHolds.shared (hHolds.task i _ hTask) ?_ ?_ ?_ hStep
  · rintro rfl
    exact hOk
  · rintro position rfl rfl
    exact hOk
  · rintro position value rfl rfl rfl
    exact hOk

theorem positionOutline (append : Bool) (start : Nat) :
    Outline (positionProgram append start) PositionKnown (PositionInv start)
      fun s i t => t.Knows s i where
  init := by
    refine ⟨⟨?_, fun _ => rfl, nofun⟩, nofun⟩
    intro before effect after hSplit
    cases before <;> cases hSplit
  entry s i t _ hEntry := by
    have hStart : t.phase = .start := eq_of_beq hEntry
    unfold Task.Knows
    rw [hStart]
    trivial
  own P i t e s' t' hHolds hOk hTask hStep :=
    have hStepOk := stepOk_of_step hHolds hOk hTask hStep
    ⟨hStepOk.inv, hStepOk.knows⟩
  other P i t e s' t' j u hHolds hOk hTask hStep hNe hOther :=
    (stepOk_of_step hHolds hOk hTask hStep).other hNe (hHolds.task j u hOther)

/-! ## The property -/

/-- **Position coherence.** Where `tell` and `truncate` without a size take effect at a position
that is known, and the writes of append mode find the file ending at the position, every effect
that depends on the position has the one that the effects before it lead to, and there is none
while it is uncertain. -/
theorem position_coherent {P : TaskPool Shared Task}
    (h : (positionProgram append start).machine.ReachableIf PositionKnown P) :
    CoherentLog start P.shared.log ∧
      positionOf start P.shared.log =
        if P.shared.uncertain = true then none else some P.shared.position := by
  have hInv := ((positionOutline append start).holds h).shared
  refine ⟨hInv.log, ?_⟩
  split
  next hLost => exact hInv.lost hLost
  next hCertain => exact hInv.known (by simpa using hCertain)

/-- In append mode: a read of four bytes to the end of the file, a write there with an uncertain
outcome, a seek to 2, and a tell. -/
def seekAfterUncertain : List (TaskEvent Task Event) :=
  [.spawn ⟨.read, .start⟩, .step 0 .go, .step 0 (.done 4), .spawn ⟨.write, .start⟩, .step 1 .go,
    .step 1 (.size 4), .step 1 (.fail .uncertain), .spawn ⟨.seek 2 .set, .start⟩, .step 2 .go,
    .step 2 .go, .spawn ⟨.tell, .start⟩, .step 3 .go]

set_option maxRecDepth 8192 in
theorem position_coherent_seekAfterUncertain :
    ∃ P, (positionProgram true 0).machine.ReachableIf PositionKnown P ∧
      P.shared.log = [.transfer 0 4, .uncertain 4, .seekTo 2, .tell 2] ∧
      CoherentLog 0 P.shared.log ∧
      positionOf 0 P.shared.log =
        if P.shared.uncertain = true then none else some P.shared.position :=
  have hInit : (positionProgram true 0).machine.ReachableIf PositionKnown _ := .init
  have hReach := Machine.reachableIf_of_runChecked seekAfterUncertain hInit rfl
  ⟨_, hReach, rfl, position_coherent hReach⟩

/-- A write with an uncertain outcome, then a tell and a truncate without a size. -/
def tellUncertain : List (TaskEvent Task Event) :=
  [.spawn ⟨.write, .start⟩, .step 0 .go, .step 0 (.fail .uncertain), .spawn ⟨.tell, .start⟩,
    .step 1 .go, .spawn ⟨.truncate, .start⟩, .step 2 .go, .step 2 .go]

set_option maxRecDepth 8192 in
/-- While the position is uncertain, `tell` returns a value and `truncate` cuts the file. -/
theorem position_incoherent :
    ∃ P, (positionProgram false 0).machine.Reachable P ∧
      P.shared.log = [.uncertain 0, .tell 0, .truncate 0] ∧ ¬ CoherentLog 0 P.shared.log := by
  refine ⟨_, Machine.reachable_of_runFrom tellUncertain rfl, rfl, fun h => ?_⟩
  exact absurd (h [.uncertain 0] (.tell 0) [.truncate 0] rfl) nofun

end NfsRs.Client.FilePosition
