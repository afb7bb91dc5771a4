import NfsRs.Lib.List
import NfsRs.Lib.Machine
import NfsRs.Nfs41.StateManager

/-!
# NfsRs — opens and closes of one file

Every OPEN that the server grants leaves an open state there until a CLOSE removes it. The
client keeps one entry per file in `StateManager`, but opens a file under two open-owners:
`open` uses `nfs-rs`, `create_with_access` and `create_guarded` use `nfs-rs-create`. This file
puts both sides together for one file and one session generation: any number of calls that
open and close it, the server executing their requests in any order, replies lost, callers
dropped, and the teardown that drains the table.

The operations of the table touch the entry of one file each (`drain` does for each entry
what it does for this one), so one file is enough.

The server is the one of RFC 8881: an OPEN by an owner that has the file open keeps `other`,
counts the seqid on (past its wrap, which leaves out zero) and adds the access; a CLOSE with
the current seqid removes the state and any other seqid is refused.
-/

namespace NfsRs.Nfs41

/-! ## Stateids of the server -/

/-- The leading four bytes of a `stateid4`. -/
def StateId.seqid (s : StateId) : Nat := s.raw / 2 ^ 96

/-- The trailing twelve bytes of a `stateid4`, which name the state. -/
def StateId.other (s : StateId) : Nat := s.raw % 2 ^ 96

/-- The open-owners that the client uses, `nfs-rs` and `nfs-rs-create`. -/
inductive OpenOwner where
  | nfsRs | nfsRsCreate
  deriving DecidableEq, Repr

/-- An open state of the server. -/
structure ServerOpen where
  other : Nat
  seqid : Nat
  access : AccessMode
  isOther : other < 2 ^ 96
  deriving DecidableEq, Repr

namespace ServerOpen

/-- The stateid as granted in the first generation. -/
def stateid (st : ServerOpen) : StateId :=
  { raw := st.seqid * 2 ^ 96 + st.other, generation := 1 }

/-- The seqid after this one; zero is left out at the wrap. -/
def nextSeqid (seqid : Nat) : Nat := if seqid = 2 ^ 32 - 1 then 1 else seqid + 1

/-- An OPEN by the owner of the state. -/
def reopen (st : ServerOpen) (access : AccessMode) : ServerOpen :=
  { st with seqid := nextSeqid st.seqid, access := st.access.upgrade access }

/-- A CLOSE with this stateid removes the state. -/
def closedBy (st : ServerOpen) (sid : StateId) : Bool :=
  decide (sid.other = st.other) && (decide (sid.seqid = 0) || decide (sid.seqid = st.seqid))

theorem stateid_other (st : ServerOpen) : st.stateid.other = st.other := by
  have hLt := st.isOther
  show (st.seqid * 2 ^ 96 + st.other) % 2 ^ 96 = st.other
  omega

theorem stateid_seqid (st : ServerOpen) : st.stateid.seqid = st.seqid := by
  have hLt := st.isOther
  show (st.seqid * 2 ^ 96 + st.other) / 2 ^ 96 = st.seqid
  omega

end ServerOpen

/-! ## State -/

/-- The functions that open a file. -/
inductive OpenEntryPoint where
  | openFile | createWithAccess | createGuarded
  deriving DecidableEq, Repr

def OpenEntryPoint.owner : OpenEntryPoint → OpenOwner
  | .openFile => .nfsRs
  | .createWithAccess => .nfsRsCreate
  | .createGuarded => .nfsRsCreate

inductive OpenPhase where
  | asked
  /-- The server has executed the OPEN; the caller has not registered it. -/
  | granted (stateid : StateId)
  | done
  deriving DecidableEq, Repr

structure OpenCall where
  entryPoint : OpenEntryPoint
  access : AccessMode
  phase : OpenPhase
  deriving DecidableEq, Repr

inductive ClosePhase where
  /-- `release` answered the stateid. -/
  | released
  | sent
  /-- The server has removed the state. -/
  | executed
  | done
  deriving DecidableEq, Repr

/-- A CLOSE of `close_file_inner`, or one of `teardown`, which leaves the table alone. -/
structure CloseCall where
  stateid : StateId
  teardown : Bool
  phase : ClosePhase
  deriving DecidableEq, Repr

/-- An OPEN that the server executed. -/
structure Grant where
  owner : OpenOwner
  stateid : StateId
  deriving DecidableEq, Repr

/-- One file at the client and at the server. `granted` (in the order of execution),
`closeSent`, `answered` (granted calls with their stateids in the order of execution, those
given up left out), `unregistered` (the answered ones that have not registered) and `users`
(registrations that no release has taken back) record what happened and are read by no
step. -/
structure OpenFile where
  table : StateManager
  server : OpenOwner → Option ServerOpen
  opens : List OpenCall
  closes : List CloseCall
  /-- Drained by `teardown`, CLOSE not yet sent. -/
  held : Option StateId
  drained : Bool
  granted : List Grant
  closeSent : List StateId
  answered : List (Nat × StateId)
  unregistered : List (Nat × StateId)
  users : Nat

inductive OpenEvent where
  | start (entryPoint : OpenEntryPoint) (access : AccessMode)
  /-- The server executes the OPEN; a new state is named `other`. -/
  | grant (i other : Nat)
  /-- The OPEN is refused or never executed. -/
  | refuse (i : Nat)
  | register (i : Nat)
  /-- The reply is lost, a later operation of the COMPOUND fails, its result does not decode,
  or the caller is dropped: the granted OPEN is not registered. -/
  | giveUp (i : Nat)
  /-- `close_file_inner` reaches `release`. -/
  | release
  | sendClose (j : Nat)
  /-- The CLOSE ends in an error before it is executed. -/
  | closeFail (j : Nat)
  | serverClose (j : Nat)
  | closeSucceeded (j : Nat)
  /-- The CLOSE was executed, and its caller never learns it. -/
  | closeLost (j : Nat)
  | drain
  | sendDrained
  /-- The CLOSE of a drained stateid fails before it is sent. -/
  | failDrained
  deriving DecidableEq, Repr

/-! ## Steps -/

namespace OpenFile

def init : OpenFile :=
  { table := .new
    server := fun _ => none
    opens := []
    closes := []
    held := none
    drained := false
    granted := []
    closeSent := []
    answered := []
    unregistered := []
    users := 0 }

/-- Call `i`, if the phase satisfies `p`. -/
def openAt (s : OpenFile) (i : Nat) (p : OpenPhase → Bool) : Option OpenCall :=
  s.opens[i]?.filter fun c => p c.phase

def closeAt (s : OpenFile) (j : Nat) (phases : List ClosePhase) : Option CloseCall :=
  s.closes[j]?.filter fun c => c.phase ∈ phases

def setOpen (s : OpenFile) (i : Nat) (c : OpenCall) (phase : OpenPhase) : OpenFile :=
  { s with opens := s.opens.set i { c with phase := phase } }

def setClose (s : OpenFile) (j : Nat) (c : CloseCall) (phase : ClosePhase) : OpenFile :=
  { s with closes := s.closes.set j { c with phase := phase } }

/-- The state that the server has after an OPEN of the owner. -/
def serverOpen (s : OpenFile) (owner : OpenOwner) (access : AccessMode) (other : Nat)
    (hOther : other < 2 ^ 96) : ServerOpen :=
  match s.server owner with
  | some st => st.reopen access
  | none => { other := other, seqid := 1, access := access, isOther := hOther }

/-- The name `other` was never given out. -/
def fresh (s : OpenFile) (other : Nat) : Bool :=
  s.granted.all fun g => decide (g.stateid.other ≠ other)

/-- The server executes the OPEN of call `i`. -/
def grant (s : OpenFile) (i : Nat) (c : OpenCall) (st : ServerOpen) : OpenFile :=
  { s with
    server := Function.update s.server c.entryPoint.owner (some st)
    opens := s.opens.set i { c with phase := .granted st.stateid }
    granted := s.granted ++ [{ owner := c.entryPoint.owner, stateid := st.stateid }]
    answered := s.answered ++ [(i, st.stateid)]
    unregistered := s.unregistered ++ [(i, st.stateid)] }

/-- Call `i` is over with its grant. -/
def dequeue (s : OpenFile) (i : Nat) (c : OpenCall) : OpenFile :=
  { s with
    opens := s.opens.set i { c with phase := .done }
    unregistered := s.unregistered.filter fun q => q.1 ≠ i }

/-- Call `i` ends without registering its grant. -/
def giveUp (s : OpenFile) (i : Nat) (c : OpenCall) : OpenFile :=
  { s.dequeue i c with answered := s.answered.filter fun q => q.1 ≠ i }

/-- The owner whose state a CLOSE removes. -/
def closeOwner? (s : OpenFile) (sid : StateId) : Option OpenOwner :=
  [OpenOwner.nfsRs, .nfsRsCreate].find? fun o => (s.server o).any (·.closedBy sid)

/-- One step of the file with handle `fh`. -/
def step (fh : FileHandle) (s : OpenFile) : OpenEvent → Option OpenFile
  | .start entryPoint access =>
    some { s with
      opens := s.opens ++ [{ entryPoint := entryPoint, access := access, phase := .asked }] }
  | .grant i other =>
    (s.openAt i (· = .asked)).bind fun c =>
      if hOther : other < 2 ^ 96 ∧ s.fresh other = true then
        some (s.grant i c (s.serverOpen c.entryPoint.owner c.access other hOther.1))
      else none
  | .refuse i => (s.openAt i (· = .asked)).map fun c => s.setOpen i c .done
  | .register i =>
    s.opens[i]?.bind fun c =>
      match c.phase with
      | .granted sid =>
        match s.table.registerOpen fh sid c.access with
        | .ok table => some { s.dequeue i c with table := table, users := s.users + 1 }
        | .error _ => some (s.dequeue i c)
      | _ => none
  | .giveUp i =>
    s.opens[i]?.bind fun c =>
      match c.phase with
      | .granted _ => some (s.giveUp i c)
      | _ => none
  | .release =>
    match s.table.release fh with
    | (some sid, table) =>
      some { s with
        table := table
        closes := s.closes ++ [{ stateid := sid, teardown := false, phase := .released }]
        users := s.users - 1 }
    | (none, table) => some { s with table := table, users := s.users - 1 }
  | .sendClose j =>
    (s.closeAt j [.released]).map fun c =>
      { s.setClose j c .sent with closeSent := s.closeSent ++ [c.stateid] }
  | .closeFail j => (s.closeAt j [.released, .sent]).map fun c => s.setClose j c .done
  | .serverClose j =>
    (s.closeAt j [.sent]).map fun c =>
      match s.closeOwner? c.stateid with
      | some o => { s.setClose j c .executed with server := Function.update s.server o none }
      | none => s.setClose j c .done
  | .closeSucceeded j =>
    (s.closeAt j [.executed]).bind fun c =>
      if c.teardown then none
      else some { s.setClose j c .done with table := s.table.closeSucceeded fh c.stateid }
  | .closeLost j => (s.closeAt j [.executed]).map fun c => s.setClose j c .done
  | .drain =>
    if s.drained then none
    else
      some { s with
        table := s.table.clear
        held := (s.table.openFiles fh).map (·.stateid)
        drained := true
        users := 0 }
  | .sendDrained =>
    s.held.map fun sid =>
      { s with
        held := none
        closes := s.closes ++ [{ stateid := sid, teardown := true, phase := .sent }]
        closeSent := s.closeSent ++ [sid] }
  | .failDrained => s.held.map fun _ => { s with held := none }

end OpenFile

/-- The opens and closes of the file with handle `fh`. -/
def openMachine (fh : FileHandle) : Lib.Machine OpenFile OpenEvent where
  init := .init
  step := OpenFile.step fh

/-! ## The entry of the file -/

namespace StateManager

variable {m : StateManager} {fh : FileHandle}

/-- An entry as `register_open` leaves it. -/
structure Registered (old : Option OpenState) (sid : StateId) (access : AccessMode)
    (e : OpenState) : Prop where
  stateid : e.stateid = sid
  refCount : e.refCount = (old.elim 0 (·.refCount)) + 1
  fresh : old = none → e.access = access
  upgraded : ∀ o, old = some o → e.access = o.access.upgrade access

theorem registerOpen_entry (m : StateManager) (fh : FileHandle) {sid : StateId}
    (access : AccessMode)
    (hGen : sid.generation = m.activeGeneration) :
    ∃ m' e, m.registerOpen fh sid access = .ok m' ∧ m'.openFiles fh = some e ∧
      Registered (m.openFiles fh) sid access e ∧ m'.activeGeneration = m.activeGeneration := by
  unfold registerOpen
  rw [if_neg (not_not.mpr hGen)]
  refine ⟨_, _, rfl, Function.update_self .., ?_, rfl⟩
  cases hOld : m.openFiles fh with
  | none => exact ⟨rfl, rfl, fun _ => rfl, nofun⟩
  | some o => exact ⟨rfl, rfl, nofun, fun o' ho => by rw [← Option.some.inj ho]⟩

/-- `release` drops one user of the entry and answers its stateid with the last one. -/
theorem release_entry {e : OpenState} (h : m.openFiles fh = some e) :
    ∃ e', (m.release fh).2.openFiles fh = some e' ∧ e'.stateid = e.stateid ∧
      e'.access = e.access ∧ e'.refCount = e.refCount - 1 ∧
      (m.release fh).1 = if e'.refCount = 0 then some e.stateid else none := by
  unfold release
  rw [h]
  dsimp only
  by_cases hZero : e.refCount = 0
  · rw [if_pos hZero]
    refine ⟨e, h, rfl, rfl, by omega, ?_⟩
    rw [if_pos hZero]
  · rw [if_neg hZero]
    exact ⟨_, Function.update_self .., rfl, rfl, rfl, rfl⟩

theorem release_none (h : m.openFiles fh = none) : m.release fh = (none, m) := by
  unfold release
  rw [h]

/-- `close_succeeded` keeps the entry or forgets a pending final release of the stateid. -/
theorem closeSucceeded_entry (m : StateManager) (fh : FileHandle) (sid : StateId) :
    (m.closeSucceeded fh sid).openFiles fh = m.openFiles fh ∨
      (m.closeSucceeded fh sid).openFiles fh = none ∧
        ∃ e, m.openFiles fh = some e ∧ e.refCount = 0 ∧ e.stateid = sid := by
  unfold closeSucceeded
  cases hEntry : m.openFiles fh with
  | none => exact .inl hEntry
  | some e =>
    dsimp only
    by_cases hPending : e.refCount = 0 ∧ e.stateid = sid
    · rw [if_pos hPending]
      exact .inr ⟨Function.update_self .., e, rfl, hPending.1, hPending.2⟩
    · rw [if_neg hPending]
      exact .inl hEntry

end StateManager

/-! ## What a step can do -/

/-- States come and go for the one owner that has any. -/
theorem owned_update {server : OpenOwner → Option ServerOpen} {o : OpenOwner}
    (h : ∀ o' st, server o' = some st → o' = o) (new : Option ServerOpen) (o' : OpenOwner)
    (st : ServerOpen) (hState : Function.update server o new o' = some st) : o' = o := by
  by_cases hEq : o' = o
  · exact hEq
  · rw [Function.update_of_ne hEq] at hState
    exact h o' st hState

namespace OpenFile

theorem openAt_eq_some {s : OpenFile} {i : Nat} {p : OpenPhase → Bool} {c : OpenCall} :
    s.openAt i p = some c ↔ s.opens[i]? = some c ∧ p c.phase = true := by
  simp [openAt, Option.filter_eq_some_iff]

theorem closeAt_eq_some {s : OpenFile} {j : Nat} {phases : List ClosePhase} {c : CloseCall} :
    s.closeAt j phases = some c ↔ s.closes[j]? = some c ∧ c.phase ∈ phases := by
  simp [closeAt, Option.filter_eq_some_iff]

/-- What a step can do to the file. -/
inductive Move (fh : FileHandle) (s : OpenFile) : OpenEvent → OpenFile → Prop
  | start (entryPoint : OpenEntryPoint) (access : AccessMode) :
      Move fh s (.start entryPoint access) { s with
        opens := s.opens ++ [{ entryPoint := entryPoint, access := access, phase := .asked }] }
  | grant {i other : Nat} {c : OpenCall} (hc : s.opens[i]? = some c) (hPhase : c.phase = .asked)
      (hOther : other < 2 ^ 96) (hFresh : ∀ g ∈ s.granted, g.stateid.other ≠ other) :
      Move fh s (.grant i other)
        (s.grant i c (s.serverOpen c.entryPoint.owner c.access other hOther))
  | refuse {i : Nat} {c : OpenCall} (hc : s.opens[i]? = some c) (hPhase : c.phase = .asked) :
      Move fh s (.refuse i) (s.setOpen i c .done)
  | register {i : Nat} {c : OpenCall} {sid : StateId} {table : StateManager}
      (hc : s.opens[i]? = some c) (hPhase : c.phase = .granted sid)
      (hTable : s.table.registerOpen fh sid c.access = .ok table) :
      Move fh s (.register i) { s.dequeue i c with table := table, users := s.users + 1 }
  | registerFail {i : Nat} {c : OpenCall} {sid : StateId} {e : NfsError}
      (hc : s.opens[i]? = some c) (hPhase : c.phase = .granted sid)
      (hTable : s.table.registerOpen fh sid c.access = .error e) :
      Move fh s (.register i) (s.dequeue i c)
  | giveUp {i : Nat} {c : OpenCall} {sid : StateId} (hc : s.opens[i]? = some c)
      (hPhase : c.phase = .granted sid) : Move fh s (.giveUp i) (s.giveUp i c)
  | releaseNone (hEntry : s.table.openFiles fh = none) :
      Move fh s .release { s with users := s.users - 1 }
  | release {e : OpenState} (hEntry : s.table.openFiles fh = some e)
      (hMore : (s.table.release fh).1 = none) :
      Move fh s .release { s with table := (s.table.release fh).2, users := s.users - 1 }
  | releaseLast {e : OpenState} (hEntry : s.table.openFiles fh = some e)
      (hLast : (s.table.release fh).1 = some e.stateid) :
      Move fh s .release { s with
        table := (s.table.release fh).2
        closes := s.closes ++ [{ stateid := e.stateid, teardown := false, phase := .released }]
        users := s.users - 1 }
  | sendClose {j : Nat} {c : CloseCall} (hc : s.closes[j]? = some c)
      (hPhase : c.phase = .released) :
      Move fh s (.sendClose j)
        { s.setClose j c .sent with closeSent := s.closeSent ++ [c.stateid] }
  /-- The CLOSE is over without an effect on the table. -/
  | endClose {a : OpenEvent} {j : Nat} {c : CloseCall} (hc : s.closes[j]? = some c) :
      Move fh s a (s.setClose j c .done)
  | serverClose {j : Nat} {c : CloseCall} {o : OpenOwner} {st : ServerOpen}
      (hc : s.closes[j]? = some c) (hPhase : c.phase = .sent) (hState : s.server o = some st)
      (hClosed : st.closedBy c.stateid = true) :
      Move fh s (.serverClose j)
        { s.setClose j c .executed with server := Function.update s.server o none }
  | closeSucceeded {j : Nat} {c : CloseCall} (hc : s.closes[j]? = some c)
      (hPhase : c.phase = .executed) :
      Move fh s (.closeSucceeded j)
        { s.setClose j c .done with table := s.table.closeSucceeded fh c.stateid }
  | drain (hDrained : s.drained = false) :
      Move fh s .drain { s with
        table := s.table.clear
        held := (s.table.openFiles fh).map (·.stateid)
        drained := true
        users := 0 }
  | sendDrained {sid : StateId} (hHeld : s.held = some sid) :
      Move fh s .sendDrained { s with
        held := none
        closes := s.closes ++ [{ stateid := sid, teardown := true, phase := .sent }]
        closeSent := s.closeSent ++ [sid] }
  | failDrained : Move fh s .failDrained { s with held := none }

/-- Every step of the file is one of the moves: the other proofs look at moves only. -/
theorem move_of_step {fh : FileHandle} {s s' : OpenFile} {a : OpenEvent}
    (hstep : s.step fh a = some s') : s.Move fh a s' := by
  cases a with
  | start entryPoint access =>
    obtain rfl := Option.some.inj hstep
    exact .start entryPoint access
  | grant i other =>
    obtain ⟨c, hAt, hrest⟩ := Option.bind_eq_some_iff.mp hstep
    obtain ⟨hc, hPhase⟩ := openAt_eq_some.mp hAt
    split at hrest
    next hOther =>
      obtain rfl := Option.some.inj hrest
      refine .grant hc (of_decide_eq_true hPhase) hOther.1 fun g hg => ?_
      exact of_decide_eq_true (List.all_eq_true.mp hOther.2 g hg)
    next => cases hrest
  | refuse i =>
    obtain ⟨c, hAt, rfl⟩ := Option.map_eq_some_iff.mp hstep
    obtain ⟨hc, hPhase⟩ := openAt_eq_some.mp hAt
    exact .refuse hc (of_decide_eq_true hPhase)
  -- the table refuses a stateid of another generation; the OPEN then fails
  | register i =>
    obtain ⟨c, hc, hrest⟩ := Option.bind_eq_some_iff.mp hstep
    split at hrest
    next sid hPhase =>
      split at hrest
      next table hTable =>
        obtain rfl := Option.some.inj hrest
        exact .register hc hPhase hTable
      next e hTable =>
        obtain rfl := Option.some.inj hrest
        exact .registerFail hc hPhase hTable
    next => cases hrest
  | giveUp i =>
    obtain ⟨c, hc, hrest⟩ := Option.bind_eq_some_iff.mp hstep
    split at hrest
    next sid hPhase =>
      obtain rfl := Option.some.inj hrest
      exact .giveUp hc hPhase
    next => cases hrest
  -- only the release that takes the count to 0 hands the stateid out, for the CLOSE
  | release =>
    cases hEntry : s.table.openFiles fh with
    | none =>
      simp only [step, StateManager.release_none hEntry] at hstep
      obtain rfl := Option.some.inj hstep
      exact .releaseNone hEntry
    | some e =>
      obtain ⟨e', -, -, -, -, hAnswer⟩ := StateManager.release_entry hEntry
      simp only [step] at hstep
      split at hstep
      next sid table hRelease =>
        obtain rfl := Option.some.inj hstep
        have hFirst : (s.table.release fh).1 = some sid := by rw [hRelease]
        have hSecond : table = (s.table.release fh).2 := by rw [hRelease]
        have hSid : sid = e.stateid := by
          rw [hAnswer] at hFirst
          split at hFirst
          · exact (Option.some.inj hFirst).symm
          · cases hFirst
        rw [hSid] at hFirst ⊢
        rw [hSecond]
        exact .releaseLast hEntry hFirst
      next table hRelease =>
        obtain rfl := Option.some.inj hstep
        have hFirst : (s.table.release fh).1 = none := by rw [hRelease]
        have hSecond : table = (s.table.release fh).2 := by rw [hRelease]
        rw [hSecond]
        exact .release hEntry hFirst
  | sendClose j =>
    obtain ⟨c, hAt, rfl⟩ := Option.map_eq_some_iff.mp hstep
    obtain ⟨hc, hPhase⟩ := closeAt_eq_some.mp hAt
    exact .sendClose hc (List.mem_singleton.mp hPhase)
  | closeFail j =>
    obtain ⟨c, hAt, rfl⟩ := Option.map_eq_some_iff.mp hstep
    exact .endClose (closeAt_eq_some.mp hAt).1
  -- the server looks the stateid up under both open owners, and may not know it any more
  | serverClose j =>
    obtain ⟨c, hAt, rfl⟩ := Option.map_eq_some_iff.mp hstep
    obtain ⟨hc, hPhase⟩ := closeAt_eq_some.mp hAt
    cases hOwner : s.closeOwner? c.stateid with
    | none => exact .endClose hc
    | some o =>
      have hFind : [OpenOwner.nfsRs, .nfsRsCreate].find?
          (fun o => (s.server o).any (·.closedBy c.stateid)) = some o := hOwner
      have hAny := List.find?_some hFind
      obtain ⟨st, hState, hClosed⟩ := (Option.any_eq_true _ _).mp hAny
      exact .serverClose hc (List.mem_singleton.mp hPhase) hState hClosed
  | closeSucceeded j =>
    obtain ⟨c, hAt, hrest⟩ := Option.bind_eq_some_iff.mp hstep
    obtain ⟨hc, hPhase⟩ := closeAt_eq_some.mp hAt
    split at hrest
    next => cases hrest
    next =>
      obtain rfl := Option.some.inj hrest
      exact .closeSucceeded hc (List.mem_singleton.mp hPhase)
  | closeLost j =>
    obtain ⟨c, hAt, rfl⟩ := Option.map_eq_some_iff.mp hstep
    exact .endClose (closeAt_eq_some.mp hAt).1
  | drain =>
    simp only [step] at hstep
    split at hstep
    next => cases hstep
    next hDrained =>
      obtain rfl := Option.some.inj hstep
      exact .drain (by simpa using hDrained)
  | sendDrained =>
    obtain ⟨sid, hHeld, rfl⟩ := Option.map_eq_some_iff.mp hstep
    exact .sendDrained hHeld
  | failDrained =>
    obtain ⟨sid, -, rfl⟩ := Option.map_eq_some_iff.mp hstep
    exact .failDrained

/-- The stateid of an OPEN names the state that the owner has then. -/
theorem serverOpen_other (s : OpenFile) (owner : OpenOwner) (access : AccessMode) {other : Nat}
    (hOther : other < 2 ^ 96) :
    (∃ st, s.server owner = some st ∧
        s.serverOpen owner access other hOther = st.reopen access) ∨
      s.server owner = none ∧ (s.serverOpen owner access other hOther).other = other ∧
        (s.serverOpen owner access other hOther).seqid = 1 ∧
        (s.serverOpen owner access other hOther).access = access := by
  unfold serverOpen
  cases s.server owner with
  | none => exact .inr ⟨rfl, rfl, rfl, rfl⟩
  | some st => exact .inl ⟨st, rfl, rfl⟩

end OpenFile

end NfsRs.Nfs41
