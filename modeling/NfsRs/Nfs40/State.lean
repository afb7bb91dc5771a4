import NfsRs.Lib.Table

/-!
# NfsRs — the table of NFSv4.0 opens

`OpenState` finds an open lane by its owner and lists the owners of each filehandle. Each of its
two maps has a lock of its own, which is held for one access. So the definitions below are the
critical sections of the functions, and the functions are made of them by the machines that use
the table.

A lane is shared (`Arc<Mutex<…>>`); it is named by its position among all lanes ever made. What is
fixed about a lane is here, and what changes behind its mutex is with the machine that is about
it.

## Main results

- `OpenState.mem_registered` : a lane of a filehandle is registered when both maps have it.
-/

namespace NfsRs.Nfs40

open Lib

/-! ## Opens -/

/-- The fields that never change; `owner` comes from `next_owner`, so no two lanes share it. -/
structure OwnerLane where
  owner : Nat
  fh : List UInt8
  access : Nat
  deriving DecidableEq, Repr

def openRead : Nat := 1
def openWrite : Nat := 2
def openBoth : Nat := 3

/-- The test in `for_fh`. -/
def OwnerLane.grants (lane : OwnerLane) (required : Nat) : Bool :=
  lane.access &&& required != 0

structure OpenState where
  lanes : Table Nat Nat
  byFh : Table (List UInt8) (List Nat)

namespace OpenState

def empty : OpenState := ⟨∅, ∅⟩

variable (s : OpenState) (owner : Nat) (fh : List UInt8)

/-- `register`: the lane, and then the owner under its filehandle. -/
def registerLane (lane : Nat) : OpenState := { s with lanes := s.lanes.insert owner lane }

def registerOwner : OpenState :=
  { s with byFh := s.byFh.insert fh ((s.byFh.lookup fh).getD [] ++ [owner]) }

def byOwner : Option Nat := s.lanes.lookup owner

/-- `remove`: the lane, and then the owner, with the list when it is empty. -/
def removeLane : OpenState := { s with lanes := s.lanes.erase owner }

def removeOwner : OpenState :=
  match s.byFh.lookup fh with
  | none => s
  | some owners =>
    match owners.filter (· ≠ owner) with
    | [] => { s with byFh := s.byFh.erase fh }
    | kept => { s with byFh := s.byFh.insert fh kept }

/-- `clear`. -/
def clearLanes : OpenState := { s with lanes := ∅ }

def clearOwners : OpenState := { s with byFh := ∅ }

/-- The lanes of the file that both maps have. -/
def registered : List Nat := ((s.byFh.lookup fh).getD []).filterMap s.byOwner

variable {s owner fh} {lane o : Nat} {owners : List Nat} {fh' : List UInt8}

theorem mem_registered : lane ∈ s.registered fh ↔
    ∃ owners, s.byFh.lookup fh = some owners ∧ ∃ o ∈ owners, s.byOwner o = some lane := by
  unfold registered
  cases s.byFh.lookup fh with
  | none => simp
  | some owners => simp

theorem byOwner_registerLane :
    (s.registerLane owner lane).byOwner o = if o = owner then some lane else s.byOwner o :=
  Table.lookup_insert_eq

theorem byOwner_removeLane :
    (s.removeLane owner).byOwner o = if o = owner then none else s.byOwner o :=
  Table.lookup_erase_eq

theorem byOwner_removeOwner : (s.removeOwner owner fh).byOwner o = s.byOwner o := by
  unfold removeOwner
  split
  · rfl
  · split <;> rfl

/-- An owner listed behind `register` is the new one or was listed before. -/
theorem of_registerOwner (h : (s.registerOwner owner fh).byFh.lookup fh' = some owners)
    (ho : o ∈ owners) :
    (o = owner ∧ fh' = fh) ∨ ∃ before, s.byFh.lookup fh' = some before ∧ o ∈ before := by
  rw [registerOwner, Table.lookup_insert_eq] at h
  split at h
  next hFh =>
    cases h
    rcases List.mem_append.mp ho with hOld | hNew
    · right
      rw [hFh]
      cases hBefore : s.byFh.lookup fh with
      | none =>
        rw [hBefore] at hOld
        cases hOld
      | some before =>
        rw [hBefore] at hOld
        exact ⟨before, rfl, hOld⟩
    · exact .inl ⟨List.mem_singleton.mp hNew, hFh⟩
  next => exact .inr ⟨owners, h, ho⟩

/-- An owner listed behind `remove` was listed before. -/
theorem of_removeOwner (h : (s.removeOwner owner fh).byFh.lookup fh' = some owners)
    (ho : o ∈ owners) : ∃ before, s.byFh.lookup fh' = some before ∧ o ∈ before := by
  unfold removeOwner at h
  split at h
  next => exact ⟨owners, h, ho⟩
  next before hBefore =>
    split at h
    next =>
      rw [Table.lookup_erase_eq] at h
      split at h
      next => cases h
      next => exact ⟨owners, h, ho⟩
    next kept _ hKept =>
      rw [Table.lookup_insert_eq] at h
      split at h
      next hFh =>
        cases h
        rw [hFh]
        exact ⟨before, hBefore, List.mem_of_mem_filter ho⟩
      next => exact ⟨owners, h, ho⟩

end OpenState

end NfsRs.Nfs40
