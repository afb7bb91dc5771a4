import NfsRs.Error
import NfsRs.Lib.Tasks
import NfsRs.Nfs40.State

/-!
# NfsRs — the lookup of an open lane by its filehandle

`for_fh` copies the list of owners of a filehandle and asks for the lane of each, the latest one
first. In between, lanes are registered, marked closing and removed, each map at a time of its
own. It returns at the first owner whose lane is gone, and it does not look at `closing`. READ
falls back on the anonymous stateid and WRITE fails when it returns nothing, and both fail when
the lane that it returns is closing.

## Main results

- `lookup_linearizable` : as long as no lane of the file is closing or leaves the table in the
  course of a call, nothing is returned only when no registered lane grants the access, and a
  lane that is returned is not closing.
- `lookup_misses_open` : otherwise READ goes anonymous and WRITE fails past an open that is
  usable from the beginning of the call to its end.
-/

namespace NfsRs.Nfs40

open Lib

/-! ## The program -/

structure OpenShared where
  /-- Every lane that was made. -/
  made : List OwnerLane
  /-- The lanes whose `closing` is set. -/
  closing : List Nat
  state : OpenState

/-- Who calls `for_fh`. -/
inductive Purpose where
  | lookup (access : Nat)
  | read
  | write
  deriving DecidableEq, Repr

inductive CallOutcome where
  /-- `for_fh` returns. -/
  | returned (lane : Option Nat)
  /-- READ or WRITE is sent with the stateid of the lane, or READ with the anonymous one. -/
  | sent (lane : Option Nat)
  | failed (error : NfsError)

def writeRequiresOpen : NfsError := .invalidInput "NFSv4.0 WRITE requires an open file"

def openStateClosing : NfsError := .invalidInput "NFSv4.0 open state is closing or closed"

namespace Purpose

def access : Purpose → Nat
  | .lookup access => access
  | .read => openRead
  | .write => openWrite

/-- What `None` leads to. -/
def absent : Purpose → CallOutcome
  | .lookup _ => .returned none
  | .read => .sent none
  | .write => .failed writeRequiresOpen

end Purpose

inductive CallPhase where
  /-- The list of owners is copied. -/
  | index
  /-- The owners still to ask for. -/
  | owners (rest : List Nat)
  /-- The mutex of a lane is taken to look at its access. -/
  | access (lane : Nat) (rest : List Nat)
  /-- READ or WRITE has its lane and takes its mutex. -/
  | guard (lane : Nat)
  | done (outcome : CallOutcome)

structure LaneCall where
  purpose : Purpose
  fh : List UInt8
  phase : CallPhase
  /-- The state at each access of the call, the last one first. -/
  moments : List OpenShared

inductive OpenTask where
  /-- `register` makes its lane, and lists its owner. -/
  | register (lane : OwnerLane)
  | listing (owner : Nat) (fh : List UInt8)
  /-- CLOSE marks its lane. -/
  | closing (lane : Nat)
  /-- `remove`, and its second part. -/
  | remove (owner : Nat) (fh : List UInt8)
  | unlisting (owner : Nat) (fh : List UInt8)
  /-- `clear`, and its second part. -/
  | clear
  | clearing
  | call (c : LaneCall)
  | done

namespace LaneCall

variable (c : LaneCall) (s : OpenShared)

def goto (phase : CallPhase) : LaneCall := { c with phase := phase, moments := s :: c.moments }

/-- `for_fh` has its lane. -/
def found (lane : Nat) : CallPhase :=
  match c.purpose with
  | .lookup _ => .done (.returned (some lane))
  | _ => .guard lane

def step : Option LaneCall :=
  match c.phase with
  | .index =>
    match s.state.byFh.lookup c.fh with
    | none => some (c.goto s (.done c.purpose.absent))
    | some owners => some (c.goto s (.owners owners.reverse))
  | .owners [] => some (c.goto s (.done c.purpose.absent))
  | .owners (owner :: rest) =>
    match s.state.byOwner owner with
    | none => some (c.goto s (.done c.purpose.absent))
    | some lane => some (c.goto s (.access lane rest))
  | .access lane rest =>
    s.made[lane]?.map fun l =>
      if l.grants c.purpose.access then c.goto s (c.found lane) else c.goto s (.owners rest)
  | .guard lane =>
    if lane ∈ s.closing then some (c.goto s (.done (.failed openStateClosing)))
    else some (c.goto s (.done (.sent (some lane))))
  | .done _ => none

end LaneCall

/-- A lane is made with an owner of its own. -/
def OpenTask.step (s : OpenShared) : OpenTask → Option (OpenShared × OpenTask)
  | .register lane =>
    if s.made.any (·.owner = lane.owner) then none
    else some
      ({ s with
          made := s.made ++ [lane], state := s.state.registerLane lane.owner s.made.length },
        .listing lane.owner lane.fh)
  | .listing owner fh => some ({ s with state := s.state.registerOwner owner fh }, .done)
  | .closing lane => some ({ s with closing := lane :: s.closing }, .done)
  | .remove owner fh => some ({ s with state := s.state.removeLane owner }, .unlisting owner fh)
  | .unlisting owner fh => some ({ s with state := s.state.removeOwner owner fh }, .done)
  | .clear => some ({ s with state := s.state.clearLanes }, .clearing)
  | .clearing => some ({ s with state := s.state.clearOwners }, .done)
  | .call c => (c.step s).map fun c' => (s, .call c')
  | .done => none

def OpenTask.entry : OpenTask → Bool
  | .register _ | .closing _ | .remove _ _ | .clear => true
  | .call ⟨_, _, .index, []⟩ => true
  | _ => false

def openProgram : Program OpenShared OpenTask Unit where
  init := ⟨⟨[], [], .empty⟩, []⟩
  entry := OpenTask.entry
  step _ s t _ := t.step s

/-! ## The condition -/

namespace OpenShared

variable (s : OpenShared)

def grants (lane : Nat) (required : Nat) : Bool := s.made[lane]?.any (·.grants required)

/-- A lane of the file that both maps have. -/
def registered (fh : List UInt8) : List Nat := s.state.registered fh

/-- No lane of the file is closing, or half removed. -/
def quiet (fh : List UInt8) : Bool :=
  ((s.state.byFh.lookup fh).getD []).all fun owner =>
    (s.state.byOwner owner).any fun lane => !s.closing.contains lane

end OpenShared

/-- The next step of the task marks a lane of the file, or removes it. -/
def OpenTask.disturbs (s : OpenShared) (fh : List UInt8) : OpenTask → Bool
  | .closing lane => s.made[lane]?.any (·.fh = fh)
  | .remove owner _ => ((s.state.byOwner owner).bind (s.made[·]?)).any (·.fh = fh)
  | .clear => true
  | _ => false

/-- `for_fh` has copied the list of owners of the file, and the call goes on. -/
def OpenTask.looksAt : OpenTask → Option (List UInt8)
  | .call c =>
    match c.phase with
    | .index | .done _ => none
    | _ => some c.fh
  | _ => none

/-- **The file is left alone.** When a call copies the list of owners no lane of the file is
closing or half removed, and none becomes so before the call is over. -/
def FileLeftAlone (P : TaskPool OpenShared OpenTask) : TaskEvent OpenTask Unit → Prop
  | .spawn _ => True
  | .step i _ =>
    (P.tasks[i]?).all (fun t =>
      (P.tasks.all fun u => u.looksAt.all fun fh => !t.disturbs P.shared fh) &&
      match t with
      | .call ⟨_, fh, .index, _⟩ => P.shared.quiet fh
      | _ => true) = true

instance (P : TaskPool OpenShared OpenTask) : ∀ a, Decidable (FileLeftAlone P a)
  | .spawn _ => .isTrue trivial
  | .step _ _ => inferInstanceAs (Decidable (_ = true))

/-! ## The outline -/

/-- An owner has one lane, and is listed under the filehandle of its lane. -/
structure OpenInv (s : OpenShared) : Prop where
  lane : ∀ o l, s.state.byOwner o = some l → ∃ lane, s.made[l]? = some lane ∧ lane.owner = o
  unique : ∀ (l l' : Nat) (a b : OwnerLane), s.made[l]? = some a → s.made[l']? = some b →
    a.owner = b.owner → l = l'
  listed : ∀ fh owners o, s.state.byFh.lookup fh = some owners → o ∈ owners →
    ∃ lane ∈ s.made, lane.owner = o ∧ lane.fh = fh

/-- The lane of an owner of the file, which stays as it is while the file is left alone. -/
structure HeldLane (s : OpenShared) (fh : List UInt8) (owner l : Nat) : Prop where
  made : ∃ lane, s.made[l]? = some lane ∧ lane.owner = owner ∧ lane.fh = fh
  byOwner : s.state.byOwner owner = some l
  notClosing : l ∉ s.closing

/-- At some moment of the call no registered lane granted the access. -/
def LaneCall.NoneGranted (c : LaneCall) : Prop :=
  ∃ T ∈ c.moments, ∀ l ∈ T.registered c.fh, T.grants l c.purpose.access = false

/-- At the last moment of the call the lane granted the access and was not closing. -/
def LaneCall.Granted (c : LaneCall) (l : Nat) : Prop :=
  ∃ T, c.moments.head? = some T ∧ T.grants l c.purpose.access = true ∧ l ∉ T.closing

/-- What the end of a call says about the table. -/
def LaneCall.Linearized (c : LaneCall) : CallOutcome → Prop
  | .returned none | .sent none => c.NoneGranted
  | .returned (some l) | .sent (some l) => c.Granted l
  | .failed error => error = writeRequiresOpen ∧ c.NoneGranted

/-- The owners still to ask for: all have their lanes, and they include every lane that granted
the access when the list was copied. -/
structure Walking (s : OpenShared) (c : LaneCall) (rest : List Nat) : Prop where
  held : ∀ o ∈ rest, ∃ l, HeldLane s c.fh o l
  copied : ∃ T ∈ c.moments, T.made <+: s.made ∧
    ∀ l ∈ T.registered c.fh, T.grants l c.purpose.access = true →
      ∃ lane, T.made[l]? = some lane ∧ lane.owner ∈ rest

def CallInv (s : OpenShared) (c : LaneCall) : Prop :=
  match c.phase with
  | .index => True
  | .owners rest => Walking s c rest
  | .access l rest => ∃ owner, HeldLane s c.fh owner l ∧ Walking s c (owner :: rest)
  | .guard l => (∃ owner, HeldLane s c.fh owner l) ∧ s.grants l c.purpose.access = true
  | .done outcome => c.Linearized outcome

def OpenTaskInv (s : OpenShared) (_ : Nat) : OpenTask → Prop
  | .listing owner fh => ∃ lane ∈ s.made, lane.owner = owner ∧ lane.fh = fh
  | .call c => CallInv s c
  | _ => True

/-! ## The table -/

section table

variable {s s' : OpenShared} {t t' : OpenTask} {fh : List UInt8} {o l : Nat}

theorem made_grows (h : t.step s = some (s', t')) : s.made <+: s'.made := by
  cases t with
  | register lane =>
    obtain ⟨-, hEq⟩ := Option.ite_none_left_eq_some.mp h
    cases hEq
    exact List.prefix_append _ _
  | call c =>
    obtain ⟨c', -, hEq⟩ := Option.map_eq_some_iff.mp h
    cases hEq
    exact List.prefix_rfl
  | done => cases h
  | _ => cases h; exact List.prefix_rfl

theorem getElem?_of_grows {T : OpenShared} {lane : OwnerLane} (h : T.made <+: s.made)
    (hl : T.made[l]? = some lane) : s.made[l]? = some lane := by
  obtain ⟨more, hMore⟩ := h
  rw [← hMore, List.getElem?_append_left (List.getElem?_eq_some_iff.mp hl).1]
  exact hl

theorem OpenInv.init : OpenInv openProgram.init.shared :=
  ⟨nofun, nofun, nofun⟩

/-- A lane with a new owner. -/
theorem OpenInv.register (h : OpenInv s) {lane : OwnerLane}
    (hNew : s.made.any (·.owner = lane.owner) = false) :
    OpenInv { s with
      made := s.made ++ [lane], state := s.state.registerLane lane.owner s.made.length } where
  lane o l hl := by
    rw [OpenState.byOwner_registerLane] at hl
    split at hl
    next ho =>
      cases hl
      exact ⟨lane, List.getElem?_concat_length, ho.symm⟩
    next =>
      obtain ⟨a, ha, hOwner⟩ := h.lane o l hl
      exact ⟨a, getElem?_of_grows (List.prefix_append _ _) ha, hOwner⟩
  unique l l' a b ha hb hab := by
    have hOld : ∀ (l : Nat) (a : OwnerLane), s.made[l]? = some a → a.owner ≠ lane.owner := by
      intro l a ha hOwner
      have hAny : s.made.any (·.owner = lane.owner) = true :=
        List.any_eq_true.mpr ⟨a, List.mem_of_getElem? ha, decide_eq_true hOwner⟩
      exact absurd (hNew.symm.trans hAny) (by decide)
    rcases of_getElem?_concat ha with hOldA | ⟨hl, hNewA⟩ <;>
      rcases of_getElem?_concat hb with hOldB | ⟨hl', hNewB⟩
    · exact h.unique l l' a b hOldA hOldB hab
    · exact absurd (hab.trans (by rw [hNewB])) (hOld l a hOldA)
    · exact absurd (hab.symm.trans (by rw [hNewA])) (hOld l' b hOldB)
    · exact hl.trans hl'.symm
  listed fh owners o hOwners ho := by
    obtain ⟨a, hMem, ha⟩ := h.listed fh owners o hOwners ho
    exact ⟨a, List.mem_append_left _ hMem, ha⟩

/-- **The table under every step.** -/
theorem OpenInv.step (h : OpenInv s) {i : Nat} (hTask : OpenTaskInv s i t)
    (hStep : t.step s = some (s', t')) : OpenInv s' := by
  cases t with
  | register lane =>
    obtain ⟨hNew, hEq⟩ := Option.ite_none_left_eq_some.mp hStep
    cases hEq
    exact h.register (by simpa using hNew)
  | listing owner fh =>
    cases hStep
    refine ⟨h.lane, h.unique, fun fh' owners o hOwners ho => ?_⟩
    -- an owner in the list of a file is the new one, or was there before
    rcases OpenState.of_registerOwner hOwners ho with ⟨rfl, rfl⟩ | ⟨before, hBefore, ho⟩
    · exact hTask
    · exact h.listed fh' before o hBefore ho
  | closing lane => cases hStep; exact ⟨h.lane, h.unique, h.listed⟩
  | remove owner fh =>
    cases hStep
    refine ⟨fun o l hl => ?_, h.unique, h.listed⟩
    rw [OpenState.byOwner_removeLane] at hl
    split at hl
    · cases hl
    · exact h.lane o l hl
  | unlisting owner fh =>
    cases hStep
    refine ⟨fun o l hl => h.lane o l (by rwa [OpenState.byOwner_removeOwner] at hl), h.unique,
      fun fh' owners o hOwners ho => ?_⟩
    obtain ⟨before, hBefore, ho⟩ := OpenState.of_removeOwner hOwners ho
    exact h.listed fh' before o hBefore ho
  | clear => cases hStep; exact ⟨nofun, h.unique, h.listed⟩
  | clearing => cases hStep; exact ⟨h.lane, h.unique, nofun⟩
  | call c =>
    obtain ⟨c', -, hEq⟩ := Option.map_eq_some_iff.mp hStep
    cases hEq
    exact h
  | done => cases hStep

/-- A step that does not disturb the file leaves its lanes. -/
theorem HeldLane.step (h : HeldLane s fh o l) (hStep : t.step s = some (s', t'))
    (hQuiet : t.disturbs s fh = false) : HeldLane s' fh o l := by
  obtain ⟨lane, hl, hOwner, hFh⟩ := h.made
  have hMade : ∃ lane, s'.made[l]? = some lane ∧ lane.owner = o ∧ lane.fh = fh :=
    ⟨lane, getElem?_of_grows (made_grows hStep) hl, hOwner, hFh⟩
  cases t with
  | register new =>
    obtain ⟨hNew, hEq⟩ := Option.ite_none_left_eq_some.mp hStep
    cases hEq
    refine ⟨hMade, ?_, h.notClosing⟩
    rw [OpenState.byOwner_registerLane, if_neg ?_]
    · exact h.byOwner
    · intro ho
      exact hNew (List.any_eq_true.mpr
        ⟨lane, List.mem_of_getElem? hl, decide_eq_true (hOwner.trans ho)⟩)
  | listing owner fh => cases hStep; exact ⟨hMade, h.byOwner, h.notClosing⟩
  | closing other =>
    cases hStep
    refine ⟨hMade, h.byOwner, fun hMem => ?_⟩
    rcases List.mem_cons.mp hMem with rfl | hOld
    · simp [OpenTask.disturbs, hl, hFh] at hQuiet
    · exact h.notClosing hOld
  -- an owner is removed together with its lane, which would disturb the file
  | remove owner fh' =>
    cases hStep
    refine ⟨hMade, ?_, h.notClosing⟩
    rw [OpenState.byOwner_removeLane, if_neg ?_]
    · exact h.byOwner
    · rintro rfl
      simp [OpenTask.disturbs, h.byOwner, hl, hFh] at hQuiet
  | unlisting owner fh =>
    cases hStep
    exact ⟨hMade, OpenState.byOwner_removeOwner.trans h.byOwner, h.notClosing⟩
  | clear => cases hQuiet
  | clearing => cases hStep; exact ⟨hMade, h.byOwner, h.notClosing⟩
  | call c =>
    obtain ⟨c', -, hEq⟩ := Option.map_eq_some_iff.mp hStep
    cases hEq
    exact h
  | done => cases hStep

end table

/-! ## The calls -/

section calls

variable {s s' : OpenShared} {c c' : LaneCall} {o l : Nat} {rest : List Nat}

theorem Walking.kept (h : Walking s c rest)
    (hHeld : ∀ o l, HeldLane s c.fh o l → HeldLane s' c.fh o l) (hMade : s.made <+: s'.made) :
    Walking s' c rest := by
  refine ⟨fun o ho => ?_, ?_⟩
  · obtain ⟨l, hl⟩ := h.held o ho
    exact ⟨l, hHeld o l hl⟩
  · obtain ⟨T, hT, hPrefix, hCopied⟩ := h.copied
    exact ⟨T, hT, hPrefix.trans hMade, hCopied⟩

theorem grants_of_grows {required : Nat} (h : s.made <+: s'.made)
    (hGrants : s.grants l required = true) : s'.grants l required = true := by
  cases hl : s.made[l]? with
  | none =>
    rw [OpenShared.grants, hl] at hGrants
    cases hGrants
  | some lane =>
    rw [OpenShared.grants, hl] at hGrants
    rw [OpenShared.grants, getElem?_of_grows h hl]
    exact hGrants

/-- The whole list has been asked for. -/
theorem Walking.noneGranted (h : Walking s c []) (phase : CallPhase) :
    (c.goto s phase).NoneGranted := by
  obtain ⟨T, hT, -, hCopied⟩ := h.copied
  refine ⟨T, List.mem_cons_of_mem s hT, fun l hl => ?_⟩
  by_contra hGrants
  obtain ⟨lane, -, hMem⟩ := hCopied l hl ((Bool.not_eq_false _).mp hGrants)
  cases hMem

/-- `for_fh` returns nothing. -/
theorem CallInv.absent (h : ∀ phase, (c.goto s phase).NoneGranted) :
    CallInv s (c.goto s (.done c.purpose.absent)) := by
  obtain ⟨purpose, fh, phase, moments⟩ := c
  cases purpose with
  | lookup _ | read => exact h _
  | write => exact ⟨rfl, h _⟩

/-- The list is copied. -/
theorem Walking.start (hInv : OpenInv s) {owners : List Nat}
    (hOwners : s.state.byFh.lookup c.fh = some owners) (hQuiet : s.quiet c.fh = true)
    (phase : CallPhase) : Walking s (c.goto s phase) owners.reverse := by
  refine ⟨fun o ho => ?_, s, List.mem_cons_self, List.prefix_rfl, fun l hl _ => ?_⟩
  · have ho := List.mem_reverse.mp ho
    rw [OpenShared.quiet, hOwners] at hQuiet
    have hLane := List.all_eq_true.mp hQuiet o ho
    obtain ⟨l, hl, hClosing⟩ : ∃ l, s.state.byOwner o = some l ∧ l ∉ s.closing := by
      cases hBy : s.state.byOwner o with
      | none =>
        rw [hBy] at hLane
        cases hLane
      | some l =>
        rw [hBy] at hLane
        exact ⟨l, rfl, by simpa using hLane⟩
    obtain ⟨lane, hMade, hOwner⟩ := hInv.lane o l hl
    obtain ⟨lane', hMem, hOwner', hFh⟩ := hInv.listed _ _ o hOwners ho
    obtain ⟨l', hMade'⟩ := List.getElem?_of_mem hMem
    have hEq := hInv.unique l l' lane lane' hMade hMade' (hOwner.trans hOwner'.symm)
    subst hEq
    exact ⟨l, ⟨lane', hMade', hOwner', hFh⟩, hl, hClosing⟩
  · obtain ⟨owners', hOwners', o, ho, hl⟩ := OpenState.mem_registered.mp hl
    obtain ⟨lane, hMade, hOwner⟩ := hInv.lane o l hl
    cases hOwners.symm.trans hOwners'
    exact ⟨lane, hMade, List.mem_reverse.mpr (hOwner ▸ ho)⟩

/-- One owner less: its lane did not grant the access. -/
theorem Walking.next (h : Walking s c (o :: rest)) (hInv : OpenInv s) {lane : OwnerLane}
    (hMade : s.made[l]? = some lane) (hOwner : lane.owner = o)
    (hGrants : lane.grants c.purpose.access = false) (phase : CallPhase) :
    Walking s (c.goto s phase) rest := by
  refine ⟨fun o ho => h.held o (List.mem_cons_of_mem _ ho), ?_⟩
  obtain ⟨T, hT, hPrefix, hCopied⟩ := h.copied
  refine ⟨T, List.mem_cons_of_mem s hT, hPrefix, fun l' hl' hGrants' => ?_⟩
  obtain ⟨lane', hMade', hMem⟩ := hCopied l' hl' hGrants'
  refine ⟨lane', hMade', (List.mem_cons.mp hMem).resolve_left fun hEq => ?_⟩
  have hNow := getElem?_of_grows hPrefix hMade'
  have hSame := hInv.unique l' l lane' lane hNow hMade (hEq.trans hOwner.symm)
  subst hSame
  cases hNow.symm.trans hMade
  rw [OpenShared.grants, hMade'] at hGrants'
  exact absurd (hGrants.symm.trans hGrants') (by decide)

/-- **A call's own step.** -/
theorem CallInv.own (h : CallInv s c) (hInv : OpenInv s)
    (hQuiet : c.phase = .index → s.quiet c.fh = true) (hStep : c.step s = some c') :
    CallInv s c' := by
  obtain ⟨purpose, fh, phase, moments⟩ := c
  cases phase with
  | index =>
    simp only [LaneCall.step] at hStep
    split at hStep
    next hNone =>
      cases hStep
      refine CallInv.absent fun _ => ⟨s, List.mem_cons_self, fun l hl => ?_⟩
      obtain ⟨owners, hOwners, -⟩ := OpenState.mem_registered.mp hl
      cases hNone.symm.trans hOwners
    next owners hOwners =>
      cases hStep
      exact Walking.start hInv hOwners (hQuiet rfl) _
  -- the copied owners are looked up one at a time; the file is quiet, so each still has its lane
  | owners rest =>
    cases rest with
    | nil =>
      cases hStep
      exact CallInv.absent (Walking.noneGranted h)
    | cons o rest =>
      have hWalking : Walking s ⟨purpose, fh, .owners (o :: rest), moments⟩ (o :: rest) := h
      obtain ⟨l, hl⟩ := hWalking.held o List.mem_cons_self
      simp only [LaneCall.step, hl.byOwner, Option.some.injEq] at hStep
      subst hStep
      obtain ⟨T, hT, hCopied⟩ := hWalking.copied
      exact ⟨o, hl, hWalking.held, T, List.mem_cons_of_mem s hT, hCopied⟩
  | access l rest =>
    obtain ⟨o, hHeld, hWalking⟩ := h
    obtain ⟨lane, hMade, hOwner, hFh⟩ := hHeld.made
    simp only [LaneCall.step, hMade, Option.map_some, Option.some.injEq] at hStep
    split at hStep
    next hGrants =>
      subst hStep
      have hNow : s.grants l purpose.access = true := by
        rw [OpenShared.grants, hMade]
        exact hGrants
      cases purpose with
      | lookup access => exact ⟨s, rfl, hNow, hHeld.notClosing⟩
      | read | write => exact ⟨⟨o, hHeld⟩, hNow⟩
    next hGrants =>
      subst hStep
      exact hWalking.next hInv hMade hOwner (by simpa using hGrants) _
  -- READ and WRITE look at `closing` once more under the mutex of the lane
  | guard l =>
    obtain ⟨⟨o, hHeld⟩, hGrants⟩ := h
    simp only [LaneCall.step, if_neg hHeld.notClosing, Option.some.injEq] at hStep
    subst hStep
    exact ⟨s, rfl, hGrants, hHeld.notClosing⟩
  | done outcome => cases hStep

/-- **A call while the others step.** -/
theorem CallInv.other (h : CallInv s c) {t t' : OpenTask} (hStep : t.step s = some (s', t'))
    (hQuiet : ∀ fh, (OpenTask.call c).looksAt = some fh → t.disturbs s fh = false) :
    CallInv s' c := by
  obtain ⟨purpose, fh, phase, moments⟩ := c
  have hMade := made_grows hStep
  cases phase with
  | index => trivial
  | owners rest =>
    exact Walking.kept h (fun o l hl => hl.step hStep (hQuiet fh rfl)) hMade
  | access l rest =>
    obtain ⟨o, hHeld, hWalking⟩ := h
    exact ⟨o, hHeld.step hStep (hQuiet fh rfl),
      hWalking.kept (fun o l hl => hl.step hStep (hQuiet fh rfl)) hMade⟩
  | guard l =>
    obtain ⟨⟨o, hHeld⟩, hGrants⟩ := h
    exact ⟨⟨o, hHeld.step hStep (hQuiet fh rfl)⟩, grants_of_grows hMade hGrants⟩
  | done outcome => exact h

end calls

/-! ## The theorem -/

section outline

variable {i j : Nat} {s' : OpenShared} {t t' u : OpenTask} {P : TaskPool OpenShared OpenTask}

/-- The two parts of the condition. -/
theorem FileLeftAlone.parts (h : FileLeftAlone P (.step i ())) (ht : P.tasks[i]? = some t) :
    (∀ u ∈ P.tasks, ∀ fh, u.looksAt = some fh → t.disturbs P.shared fh = false) ∧
      ∀ c, t = .call c → c.phase = .index → P.shared.quiet c.fh = true := by
  simp only [FileLeftAlone, ht, Option.all_some, Bool.and_eq_true, List.all_eq_true] at h
  obtain ⟨hAll, hIndex⟩ := h
  refine ⟨fun u hu fh hLooks => ?_, ?_⟩
  · have hNot := hAll u hu
    rw [hLooks] at hNot
    simpa using hNot
  · rintro ⟨purpose, fh, phase, moments⟩ rfl hPhase
    cases hPhase
    exact hIndex

theorem lookup_own (hHolds : Holds OpenInv OpenTaskInv P) (hok : FileLeftAlone P (.step i ()))
    (ht : P.tasks[i]? = some t) (hStep : t.step P.shared = some (s', t')) :
    OpenInv s' ∧ OpenTaskInv s' i t' := by
  have hTask := hHolds.task i t ht
  refine ⟨hHolds.shared.step hTask hStep, ?_⟩
  cases t with
  | register lane =>
    obtain ⟨-, hEq⟩ := Option.ite_none_left_eq_some.mp hStep
    cases hEq
    exact ⟨lane, List.mem_append_right _ List.mem_cons_self, rfl, rfl⟩
  | call c =>
    obtain ⟨c', hNext, hEq⟩ := Option.map_eq_some_iff.mp hStep
    cases hEq
    exact CallInv.own hTask hHolds.shared ((hok.parts ht).2 c rfl) hNext
  | done => cases hStep
  | _ => cases hStep; trivial

theorem lookup_other (hHolds : Holds OpenInv OpenTaskInv P)
    (hok : FileLeftAlone P (.step i ())) (ht : P.tasks[i]? = some t)
    (hStep : t.step P.shared = some (s', t')) (hu : P.tasks[j]? = some u) :
    OpenTaskInv s' j u := by
  have hOther := hHolds.task j u hu
  cases u with
  | listing owner fh =>
    obtain ⟨lane, hMem, hLane⟩ := hOther
    exact ⟨lane, (made_grows hStep).subset hMem, hLane⟩
  | call c =>
    exact CallInv.other hOther hStep fun fh hLooks =>
      (hok.parts ht).1 _ (List.mem_of_getElem? hu) fh hLooks
  | _ => trivial

theorem lookup_outline : Outline openProgram FileLeftAlone OpenInv OpenTaskInv where
  init := ⟨.init, nofun⟩
  entry := by
    intro s i t _ hEntry
    cases t with
    | listing _ _ => cases hEntry
    | call c =>
      obtain ⟨purpose, fh, phase, moments⟩ := c
      cases phase with
      | index => trivial
      | _ => cases hEntry
    | _ => trivial
  own _ _ _ _ _ _ hHolds hok ht hStep := lookup_own hHolds hok ht hStep
  other _ _ _ _ _ _ _ _ hHolds hok ht hStep _ hu := lookup_other hHolds hok ht hStep hu

/-- **The lookup.** In every run that leaves the file of a call alone: `for_fh` returns nothing,
READ goes anonymous and WRITE fails only if at some moment of the call no registered lane of the
file granted the access; a lane that is returned, or whose stateid is sent, grants the access and
is not closing; and no call fails for a closing lane. -/
theorem lookup_linearizable (h : openProgram.machine.ReachableIf FileLeftAlone P) {c : LaneCall}
    (hc : OpenTask.call c ∈ P.tasks) {outcome : CallOutcome} (hDone : c.phase = .done outcome) :
    c.Linearized outcome := by
  obtain ⟨i, hi⟩ := List.getElem?_of_mem hc
  have hCall : CallInv P.shared c := (lookup_outline.holds h).task i _ hi
  rw [CallInv, hDone] at hCall
  exact hCall

end outline

/-! ## Runs -/

/-- Two opens of one file: the first one for both, the second one for writing. -/
def twoOpens : List (TaskEvent OpenTask Unit) :=
  [.spawn (.register ⟨1, [7], openBoth⟩), .step 0 (), .step 0 (),
    .spawn (.register ⟨2, [7], openWrite⟩), .step 1 (), .step 1 ()]

def newCall (purpose : Purpose) : OpenTask := .call ⟨purpose, [7], .index, []⟩

/-- READ passes the lane that grants no reading. -/
def readsFirst : List (TaskEvent OpenTask Unit) :=
  twoOpens ++ [.spawn (newCall .read)] ++ List.replicate 6 (.step 2 ())

theorem lookup_linearizable_readsFirst :
    ∃ P c, openProgram.machine.ReachableIf FileLeftAlone P ∧ OpenTask.call c ∈ P.tasks ∧
      c.phase = .done (.sent (some 0)) ∧ c.Linearized (.sent (some 0)) :=
  have hInit : openProgram.machine.ReachableIf FileLeftAlone _ := .init
  have hReach := Machine.reachableIf_of_runChecked readsFirst hInit rfl
  have hCall := List.mem_of_getElem? (i := 2) rfl
  ⟨_, _, hReach, hCall, rfl, lookup_linearizable hReach hCall rfl⟩

/-- The second open is removed behind the copy of the list. -/
def removedBehind (purpose : Purpose) : List (TaskEvent OpenTask Unit) :=
  twoOpens ++ [.spawn (newCall purpose), .step 2 (), .spawn (.remove 2 [7]), .step 3 (),
    .step 3 (), .step 2 ()]

/-- A failed CLOSE leaves the second open closing. -/
def leftClosing : List (TaskEvent OpenTask Unit) :=
  twoOpens ++ [.spawn (.closing 1), .step 2 (), .spawn (newCall .write)] ++
    List.replicate 4 (.step 3 ())

/-- The first open is usable: registered, good for both, and not closing. -/
def firstUsable (s : OpenShared) : Bool :=
  (s.registered [7]).contains 0 && s.grants 0 openRead && s.grants 0 openWrite &&
    !s.closing.contains 0

/-- **A usable open is missed.** The first open is usable at every moment of the call, and READ
goes anonymous and WRITE fails, because another open of the file has been removed; or WRITE fails
because another one is closing. -/
theorem lookup_misses_open :
    (∃ P c, openProgram.machine.Reachable P ∧ OpenTask.call c ∈ P.tasks ∧
      c.phase = .done (.sent none) ∧ ∀ T ∈ P.shared :: c.moments, firstUsable T = true) ∧
    (∃ P c, openProgram.machine.Reachable P ∧ OpenTask.call c ∈ P.tasks ∧
      c.phase = .done (.failed writeRequiresOpen) ∧
        ∀ T ∈ P.shared :: c.moments, firstUsable T = true) ∧
    ∃ P c, openProgram.machine.Reachable P ∧ OpenTask.call c ∈ P.tasks ∧
      c.phase = .done (.failed openStateClosing) ∧
        ∀ T ∈ P.shared :: c.moments, firstUsable T = true :=
  ⟨⟨_, _, Machine.reachable_of_runFrom (removedBehind .read) rfl,
      List.mem_of_getElem? (i := 2) rfl, rfl, List.all_eq_true.mp rfl⟩,
    ⟨_, _, Machine.reachable_of_runFrom (removedBehind .write) rfl,
      List.mem_of_getElem? (i := 2) rfl, rfl, List.all_eq_true.mp rfl⟩,
    ⟨_, _, Machine.reachable_of_runFrom leftClosing rfl,
      List.mem_of_getElem? (i := 3) rfl, rfl, List.all_eq_true.mp rfl⟩⟩

end NfsRs.Nfs40
