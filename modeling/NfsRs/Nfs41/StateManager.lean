import Mathlib.Logic.Function.Basic
import NfsRs.Nfs41.Layout

/-!
# NfsRs — the open states of a mount

`StateManager` keeps the stateid of every open file, counted by users and owned by the
session generation that granted it. Lookups and registration compare an entry's generation
with the active one, which session recovery moves on before it drops the entries.
-/

namespace NfsRs.Nfs41

/-! ## Stateids and access modes -/

/-- A `stateid4`, its sixteen bytes as a number, with the session generation that granted
it. -/
structure StateId where
  raw : Nat
  generation : Nat
  deriving DecidableEq, Repr

inductive AccessMode where
  | read | write | both
  deriving DecidableEq, Repr

namespace AccessMode

/-- This mode is enough for the requested one. -/
def covers : AccessMode → AccessMode → Bool
  | .both, _ | .read, .read | .write, .write => true
  | _, _ => false

/-- The mode that covers both. -/
def upgrade : AccessMode → AccessMode → AccessMode
  | .both, _ | _, .both | .read, .write | .write, .read => .both
  | .read, .read => .read
  | .write, .write => .write

end AccessMode

/-! ## The manager -/

/-- State of one opened file. The entry belongs to the generation of its stateid. -/
structure OpenState where
  stateid : StateId
  access : AccessMode
  refCount : Nat
  generation : Nat
  owned : stateid.generation = generation
  deriving DecidableEq, Repr

structure StateManager where
  openFiles : FileHandle → Option OpenState
  activeGeneration : Nat

namespace StateManager

def new : StateManager := { openFiles := fun _ => none, activeGeneration := 1 }

variable (m : StateManager)

/-- The second half of `transition_to`. -/
def clear : StateManager := { m with openFiles := fun _ => none }

def hasOpen (fh : FileHandle) (access : AccessMode) : Option StateId :=
  (m.openFiles fh).bind fun state =>
    if 0 < state.refCount ∧ state.generation = m.activeGeneration ∧
        state.access.covers access = true then
      some state.stateid
    else none

def registerOpen (fh : FileHandle) (stateid : StateId) (access : AccessMode) :
    Except NfsError StateManager :=
  if stateid.generation ≠ m.activeGeneration then
    .error (.rpc s!"cannot register OPEN from generation {stateid.generation}, active {m.activeGeneration}")
  else
    let state : OpenState :=
      match m.openFiles fh with
      | some existing =>
          { stateid := stateid
            access := existing.access.upgrade access
            refCount := existing.refCount + 1
            generation := stateid.generation
            owned := rfl }
      | none =>
          { stateid := stateid
            access := access
            refCount := 1
            generation := stateid.generation
            owned := rfl }
    .ok { m with openFiles := Function.update m.openFiles fh (some state) }

/-- Drop one user. The last release answers the stateid to CLOSE and keeps the entry, and so
does a release after it. -/
def release (fh : FileHandle) : Option StateId × StateManager :=
  match m.openFiles fh with
  | none => (none, m)
  | some state =>
      if state.refCount = 0 then (some state.stateid, m)
      else
        let released := { state with refCount := state.refCount - 1 }
        (if released.refCount = 0 then some state.stateid else none,
          { m with openFiles := Function.update m.openFiles fh (some released) })

/-- Forget a pending final release once the matching CLOSE completed. -/
def closeSucceeded (fh : FileHandle) (stateid : StateId) : StateManager :=
  match m.openFiles fh with
  | none => m
  | some state =>
      if state.refCount = 0 ∧ state.stateid = stateid then
        { m with openFiles := Function.update m.openFiles fh none }
      else m

variable {m} {fh : FileHandle} {stateid : StateId}

theorem release_generation : (m.release fh).2.activeGeneration = m.activeGeneration := by
  unfold release
  split
  · rfl
  · split <;> rfl

theorem closeSucceeded_generation :
    (m.closeSucceeded fh stateid).activeGeneration = m.activeGeneration := by
  unfold closeSucceeded
  split
  · rfl
  · split <;> rfl

end StateManager

end NfsRs.Nfs41
