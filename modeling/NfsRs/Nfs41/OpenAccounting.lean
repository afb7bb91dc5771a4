import NfsRs.Nfs41.OpenTable

/-!
# NfsRs — accounting for granted opens

An open state that the server granted must not be forgotten: the table of the client records
it, a running call holds it, or a CLOSE for it was sent. The table has one entry per file, and
`register_open` replaces the stateid in it. That is right for a later OPEN of the same owner,
whose stateid names the same state, and wrong for an OPEN of the other owner: the first
stateid is dropped, no CLOSE for it is ever sent, and the references of the first open remain
counted in the entry of the second.

Three more ways lose a grant: a call that fails or is dropped between the execution of its
OPEN and `register_open`; a registration that comes after a CLOSE and an OPEN of another call
and puts a dead stateid over a live one; and a CLOSE of `teardown` that is never sent.

## Main results

- `accountInv_step` : what every step under the condition keeps.
- `opens_accounted` : with one owner, in runs without these losses, every granted open is
  recorded, held by a call, or had a CLOSE sent, and the entry stays while users remain.
- `replaced_owner_forgotten` : `open` followed by `create_with_access` of the same file loses
  the first stateid.
-/

namespace NfsRs.Nfs41

namespace OpenFile

/-- The table records the state named `other`. -/
def Records (fh : FileHandle) (s : OpenFile) (other : Nat) : Prop :=
  ∃ e, s.table.openFiles fh = some e ∧ e.stateid.other = other

/-- A CLOSE of the state named `other` was sent. -/
def CloseSent (s : OpenFile) (other : Nat) : Prop := ∃ sid ∈ s.closeSent, sid.other = other

/-- A call that opens the file, or the teardown, holds a stateid of the state. -/
def Holds (s : OpenFile) (other : Nat) : Prop :=
  (∃ c ∈ s.opens, ∃ sid, c.phase = .granted sid ∧ sid.other = other) ∨
    ∃ sid, s.held = some sid ∧ sid.other = other

/-- Some call has a grant that it has not registered. -/
def unregisteredCall (s : OpenFile) : Bool :=
  s.opens.any fun c => match c.phase with
    | .granted _ => true
    | _ => false

/-- A CLOSE with this stateid would remove a state. -/
def wouldClose (s : OpenFile) (j : Nat) : Bool :=
  s.closes[j]?.any fun c => (s.closeOwner? c.stateid).isSome

/-- The state of call `i`'s grant is recorded by the table. -/
def recordsGrant (fh : FileHandle) (s : OpenFile) (i : Nat) : Bool :=
  s.opens[i]?.any fun c => match c.phase with
    | .granted sid => (s.table.openFiles fh).any fun e => decide (e.stateid.other = sid.other)
    | _ => false

end OpenFile

/-- Every granted open is accounted for, and the entry stays while users remain. -/
structure OpensAccounted (fh : FileHandle) (s : OpenFile) : Prop where
  granted : ∀ g ∈ s.granted, s.Records fh g.stateid.other ∨ s.CloseSent g.stateid.other ∨
    s.Holds g.stateid.other
  referenced : 0 < s.users → ∃ e, s.table.openFiles fh = some e ∧ e.refCount = s.users

/-- Every open of the file is by owner `o`; a granted OPEN is given up only while the table
records its state; the server executes no CLOSE while an OPEN is granted and unregistered;
and `teardown` sends the CLOSE of what it drained. -/
def NoGrantLost (fh : FileHandle) (o : OpenOwner) (s : OpenFile) : OpenEvent → Prop
  | .start entryPoint _ => entryPoint.owner = o
  | .giveUp i => s.recordsGrant fh i = true
  | .serverClose j => s.wouldClose j = true → s.unregisteredCall = false
  | .failDrained => False
  | _ => True

instance (fh : FileHandle) (o : OpenOwner) (s : OpenFile) (a : OpenEvent) :
    Decidable (NoGrantLost fh o s a) := by
  unfold NoGrantLost
  split <;> infer_instance

/-! ## The invariant -/

structure AccountInv (fh : FileHandle) (o : OpenOwner) (s : OpenFile) : Prop where
  generation : s.table.activeGeneration = 1
  owner : ∀ c ∈ s.opens, c.entryPoint.owner = o
  owned : ∀ o' st, s.server o' = some st → o' = o
  /-- A grant that no call has registered names the state of the owner. -/
  live : ∀ c ∈ s.opens, ∀ sid, c.phase = .granted sid → sid.generation = 1 ∧
    ∃ st, s.server o = some st ∧ st.other = sid.other
  /-- Only a CLOSE removes a state. -/
  closed : ∀ g ∈ s.granted, s.CloseSent g.stateid.other ∨
    ∃ st, s.server o = some st ∧ st.other = g.stateid.other
  sent : ∀ c ∈ s.closes, c.phase = .sent ∨ c.phase = .executed → c.stateid ∈ s.closeSent
  notHeld : s.drained = false → s.held = none
  accounted : ∀ g ∈ s.granted, s.Records fh g.stateid.other ∨ s.CloseSent g.stateid.other ∨
    s.Holds g.stateid.other
  counted : (s.table.openFiles fh).elim 0 (·.refCount) = s.users

theorem accountInv_init (fh : FileHandle) (o : OpenOwner) : AccountInv fh o .init where
  generation := rfl
  owner := nofun
  owned := nofun
  live := nofun
  closed := nofun
  sent := nofun
  notHeld := fun _ => rfl
  accounted := nofun
  counted := rfl

namespace AccountInv

variable {fh : FileHandle} {o : OpenOwner} {s : OpenFile}

variable {i j : Nat} {c : OpenCall} {sid : StateId}

/-- A grant held by another call stays held when call `i` moves. -/
theorem holds_set {s' : OpenFile} {c' : OpenCall} {other : Nat} (hc : s.opens[i]? = some c)
    (hOpens : s'.opens = s.opens.set i c') (hHeld : s'.held = s.held)
    (hOther : ∀ sid, c.phase = .granted sid → sid.other ≠ other) (h : s.Holds other) :
    s'.Holds other := by
  rcases h with ⟨x, hx, sid, hGranted, hSid⟩ | hHold
  · obtain ⟨k, hk⟩ := List.getElem?_of_mem hx
    have hki : i ≠ k := by
      rintro rfl
      rw [hc, Option.some.injEq] at hk
      subst hk
      exact hOther sid hGranted hSid
    refine .inl ⟨x, ?_, sid, hGranted, hSid⟩
    rw [hOpens]
    exact List.mem_of_getElem? (by rw [List.getElem?_set_ne hki]; exact hk)
  · exact .inr (by rw [hHeld]; exact hHold)

/-! ## Opens -/

theorem start (h : AccountInv fh o s) {entryPoint : OpenEntryPoint} (access : AccessMode)
    (hOwner : entryPoint.owner = o) :
    AccountInv fh o { s with
      opens := s.opens ++ [{ entryPoint := entryPoint, access := access, phase := .asked }] } :=
  { h with
    owner := Lib.forall_mem_concat h.owner hOwner
    live := Lib.forall_mem_concat h.live nofun
    accounted := by
      intro g hg
      rcases h.accounted g hg with hRec | hSent | ⟨c, hc, hHold⟩ | hHeld
      · exact .inl hRec
      · exact .inr (.inl hSent)
      · exact .inr (.inr (.inl ⟨c, List.mem_append_left _ hc, hHold⟩))
      · exact .inr (.inr (.inr hHeld)) }

/-- A call without a grant ends. -/
theorem refuse (h : AccountInv fh o s) (hc : s.opens[i]? = some c) (hPhase : c.phase = .asked) :
    AccountInv fh o (s.setOpen i c .done) :=
  { h with
    owner := Lib.forall_mem_set h.owner (h.owner c (List.mem_of_getElem? hc))
    live := Lib.forall_mem_set h.live nofun
    accounted := by
      intro g hg
      rcases h.accounted g hg with hRec | hSent | hHold
      · exact .inl hRec
      · exact .inr (.inl hSent)
      · refine .inr (.inr (holds_set hc rfl rfl ?_ hHold))
        intro sid hGranted
        rw [hPhase] at hGranted
        cases hGranted }

/-- The server executes an OPEN: the call holds a stateid of the owner's state. -/
theorem grant (h : AccountInv fh o s) {other : Nat} (hc : s.opens[i]? = some c)
    (hPhase : c.phase = .asked) (hOther : other < 2 ^ 96) :
    AccountInv fh o (s.grant i c (s.serverOpen c.entryPoint.owner c.access other hOther)) := by
  have hMem := List.mem_of_getElem? hc
  have hLt := (List.getElem?_eq_some_iff.mp hc).1
  have hOwner := h.owner c hMem
  rw [hOwner]
  generalize hSt : s.serverOpen o c.access other hOther = st
  have hNew : Function.update s.server c.entryPoint.owner (some st) o = some st := by
    rw [hOwner, Function.update_self]
  -- a state that the owner has already keeps its name
  have hKeep : ∀ st₀, s.server o = some st₀ → st.other = st₀.other := by
    intro st₀ hst₀
    rcases s.serverOpen_other o c.access hOther with ⟨st₁, hst₁, hEq⟩ | ⟨hNone, -⟩
    · rw [hst₀, Option.some.injEq] at hst₁
      rw [← hSt, hEq, hst₁]
      rfl
    · rw [hst₀] at hNone
      cases hNone
  exact { h with
    owner := Lib.forall_mem_set h.owner hOwner
    owned := by
      obtain rfl := hOwner
      exact owned_update h.owned (some st)
    live := by
      refine Lib.forall_mem_set (fun x hx sid hGranted => ?_) fun sid hGranted => ?_
      · obtain ⟨hGen, st₀, hst₀, hName⟩ := h.live x hx sid hGranted
        exact ⟨hGen, st, hNew, (hKeep st₀ hst₀).trans hName⟩
      · obtain rfl : st.stateid = sid := OpenPhase.granted.inj hGranted
        exact ⟨rfl, st, hNew, st.stateid_other.symm⟩
    closed := by
      refine Lib.forall_mem_concat (fun g hg => ?_) (.inr ⟨st, hNew, st.stateid_other.symm⟩)
      rcases h.closed g hg with hSent | ⟨st₀, hst₀, hName⟩
      · exact .inl hSent
      · exact .inr ⟨st, hNew, (hKeep st₀ hst₀).trans hName⟩
    accounted := by
      refine Lib.forall_mem_concat (fun g hg => ?_) ?_
      · rcases h.accounted g hg with hRec | hSent | hHold
        · exact .inl hRec
        · exact .inr (.inl hSent)
        · refine .inr (.inr (holds_set hc rfl rfl ?_ hHold))
          intro sid hGranted
          rw [hPhase] at hGranted
          cases hGranted
      · exact .inr (.inr (.inl ⟨_, List.mem_of_getElem? (List.getElem?_set_self hLt), st.stateid,
          rfl, rfl⟩)) }

/-- Another table in which a granted state is lost only after its CLOSE was sent. -/
theorem withTable (h : AccountInv fh o s) {table : StateManager} (users : Nat)
    (hGen : table.activeGeneration = s.table.activeGeneration)
    (hCounted : (table.openFiles fh).elim 0 (·.refCount) = users)
    (hKept : ∀ g ∈ s.granted, s.Records fh g.stateid.other → s.CloseSent g.stateid.other ∨
      ∃ e, table.openFiles fh = some e ∧ e.stateid.other = g.stateid.other) :
    AccountInv fh o { s with table := table, users := users } :=
  { h with
    generation := hGen.trans h.generation
    accounted := by
      intro g hg
      rcases h.accounted g hg with hRec | hRest
      · rcases hKept g hg hRec with hSent | hTable
        · exact .inr (.inl hSent)
        · exact .inl hTable
      · exact .inr hRest
    counted := hCounted }

/-- A call whose grant the table records is over. -/
theorem dequeue (h : AccountInv fh o s) (hc : s.opens[i]? = some c)
    (hPhase : c.phase = .granted sid) (hRecords : s.Records fh sid.other) :
    AccountInv fh o (s.dequeue i c) :=
  { h with
    owner := Lib.forall_mem_set h.owner (h.owner c (List.mem_of_getElem? hc))
    live := Lib.forall_mem_set h.live nofun
    accounted := by
      intro g hg
      rcases h.accounted g hg with hRec | hSent | hHold
      · exact .inl hRec
      · exact .inr (.inl hSent)
      · by_cases hOwn : sid.other = g.stateid.other
        · rw [← hOwn]
          exact .inl hRecords
        · refine .inr (.inr (holds_set hc rfl rfl ?_ hHold))
          intro sid' hGranted
          rw [hPhase] at hGranted
          cases hGranted
          exact hOwn }

/-- Registration replaces a stateid by one of the same state, or one whose CLOSE was sent. -/
theorem register (h : AccountInv fh o s) {table : StateManager} (hc : s.opens[i]? = some c)
    (hPhase : c.phase = .granted sid) (hTable : s.table.registerOpen fh sid c.access = .ok table) :
    AccountInv fh o { s.dequeue i c with table := table, users := s.users + 1 } := by
  obtain ⟨hGen, st, hState, hName⟩ := h.live c (List.mem_of_getElem? hc) sid hPhase
  obtain ⟨table', e, hOk, hEntry, hRegistered, hActive⟩ :=
    StateManager.registerOpen_entry s.table fh c.access (hGen.trans h.generation.symm)
  obtain rfl : table = table' := Except.ok.inj (hTable.symm.trans hOk)
  have hCount : e.refCount = s.users + 1 := by
    rw [hRegistered.refCount, h.counted]
  have hSid : e.stateid.other = sid.other := by
    rw [hRegistered.stateid]
  have hNew : AccountInv fh o { s with table := table, users := s.users + 1 } := by
    refine h.withTable _ hActive (by rw [hEntry]; exact hCount) fun g hg _ => ?_
    rcases h.closed g hg with hSent | ⟨st', hState', hName'⟩
    · exact .inl hSent
    · rw [hState, Option.some.injEq] at hState'
      subst hState'
      exact .inr ⟨e, hEntry, hSid.trans (hName.symm.trans hName')⟩
  exact hNew.dequeue hc hPhase ⟨e, hEntry, hSid⟩

/-- Within the generation a registration is never refused. -/
theorem no_registerFail (h : AccountInv fh o s) {err : NfsError} (hc : s.opens[i]? = some c)
    (hPhase : c.phase = .granted sid) : s.table.registerOpen fh sid c.access ≠ .error err := by
  intro hFail
  obtain ⟨hGen, -⟩ := h.live c (List.mem_of_getElem? hc) sid hPhase
  obtain ⟨table, -, hOk, -⟩ :=
    StateManager.registerOpen_entry s.table fh c.access (hGen.trans h.generation.symm)
  rw [hOk] at hFail
  cases hFail

theorem giveUp (h : AccountInv fh o s) (hc : s.opens[i]? = some c) (hPhase : c.phase = .granted sid)
    (hRecorded : s.recordsGrant fh i = true) : AccountInv fh o (s.giveUp i c) := by
  unfold OpenFile.recordsGrant at hRecorded
  rw [hc, Option.any_some, hPhase] at hRecorded
  obtain ⟨e, hEntry, hOther⟩ := (Option.any_eq_true _ _).mp hRecorded
  exact { h.dequeue hc hPhase ⟨e, hEntry, of_decide_eq_true hOther⟩ with }

/-! ## Closes -/

/-- `release` keeps the entry with one user less. -/
theorem release (h : AccountInv fh o s) {e : OpenState}
    (hEntry : s.table.openFiles fh = some e) :
    AccountInv fh o { s with table := (s.table.release fh).2, users := s.users - 1 } := by
  obtain ⟨e', hEntry', hSid, -, hCount, -⟩ := StateManager.release_entry hEntry
  have hUsers : e.refCount = s.users := by
    have hCounted := h.counted
    rw [hEntry] at hCounted
    exact hCounted
  refine h.withTable _ StateManager.release_generation ?_ fun g _ hRec => .inr ?_
  · rw [hEntry']
    show e'.refCount = s.users - 1
    omega
  · obtain ⟨e₀, he₀, hOther⟩ := hRec
    rw [hEntry, Option.some.injEq] at he₀
    subst he₀
    exact ⟨e', hEntry', by rw [hSid]; exact hOther⟩

/-- A CLOSE that is over, or that has been sent, changes no entry. -/
theorem withCloses (h : AccountInv fh o s) {closes : List CloseCall}
    (hSent : ∀ c ∈ closes, c.phase = .sent ∨ c.phase = .executed → c.stateid ∈ s.closeSent) :
    AccountInv fh o { s with closes := closes } :=
  { h with sent := hSent }

/-- One more CLOSE is on its way. -/
theorem withCloseSent (h : AccountInv fh o s) (sid : StateId) :
    AccountInv fh o { s with closeSent := s.closeSent ++ [sid] } := by
  have hMono : ∀ other, s.CloseSent other →
      OpenFile.CloseSent { s with closeSent := s.closeSent ++ [sid] } other :=
    fun _ ⟨x, hx, hOther⟩ => ⟨x, List.mem_append_left _ hx, hOther⟩
  exact { h with
    closed := fun g hg => (h.closed g hg).imp_left (hMono _)
    sent := fun c hc hPhase => List.mem_append_left _ (h.sent c hc hPhase)
    accounted := fun g hg => (h.accounted g hg).imp_right (Or.imp_left (hMono _)) }

theorem sendClose (h : AccountInv fh o s) (c : CloseCall) :
    AccountInv fh o { s.setClose j c .sent with closeSent := s.closeSent ++ [c.stateid] } := by
  have hSent := h.withCloseSent c.stateid
  exact hSent.withCloses <| Lib.forall_mem_set hSent.sent fun _ =>
    List.mem_append_right _ (List.mem_singleton_self _)

theorem setDone (h : AccountInv fh o s) (c : CloseCall) : AccountInv fh o (s.setClose j c .done) :=
  h.withCloses <| Lib.forall_mem_set h.sent (by rintro (hSent | hExecuted) <;> contradiction)

/-- The server removes the owner's state, which no call holds, after its CLOSE was sent. -/
theorem serverClose (h : AccountInv fh o s) {c : CloseCall} {o' : OpenOwner} {st : ServerOpen}
    (hc : s.closes[j]? = some c) (hPhase : c.phase = .sent) (hState : s.server o' = some st)
    (hClosed : st.closedBy c.stateid = true) (hNone : s.unregisteredCall = false) :
    AccountInv fh o
      { s.setClose j c .executed with server := Function.update s.server o' none } := by
  obtain rfl := h.owned o' st hState
  have hSent := h.sent c (List.mem_of_getElem? hc) (.inl hPhase)
  have hOther : c.stateid.other = st.other := by
    simp only [ServerOpen.closedBy, Bool.and_eq_true, decide_eq_true_eq] at hClosed
    exact hClosed.1
  have hCalls : ∀ x ∈ s.opens, ∀ sid, x.phase ≠ .granted sid := by
    intro x hx sid hGranted
    have hAny := List.any_eq_false.mp hNone x hx
    rw [hGranted] at hAny
    exact hAny rfl
  have hCloses := h.withCloses <| Lib.forall_mem_set (i := j) (b := { c with phase := .executed })
    h.sent fun _ => hSent
  exact { hCloses with
    owned := owned_update h.owned none
    live := fun x hx sid hGranted => absurd hGranted (hCalls x hx sid)
    closed := by
      intro g hg
      rcases h.closed g hg with hDone | ⟨st', hState', hName⟩
      · exact .inl hDone
      · rw [hState, Option.some.injEq] at hState'
        subst hState'
        exact .inl ⟨c.stateid, hSent, hOther.trans hName⟩ }

/-- A CLOSE that succeeded takes its own stateid out of the table. -/
theorem closeSucceeded (h : AccountInv fh o s) {c : CloseCall} (hc : s.closes[j]? = some c)
    (hPhase : c.phase = .executed) :
    AccountInv fh o
      { s.setClose j c .done with table := s.table.closeSucceeded fh c.stateid } := by
  have hSent := h.sent c (List.mem_of_getElem? hc) (.inr hPhase)
  refine (h.setDone c).withTable s.users StateManager.closeSucceeded_generation ?_ ?_
  · rcases StateManager.closeSucceeded_entry s.table fh c.stateid with
      hKept | ⟨hGone, e, hEntry, hZero, -⟩
    · rw [hKept]
      exact h.counted
    · have hCounted := h.counted
      rw [hEntry] at hCounted
      rw [hGone]
      exact hZero.symm.trans hCounted
  · intro g _ hRec
    rcases StateManager.closeSucceeded_entry s.table fh c.stateid with
      hKept | ⟨-, e, hEntry, -, hSid⟩
    · rw [hKept]
      exact .inr hRec
    · obtain ⟨e₀, he₀, hOther⟩ := hRec
      obtain rfl : e = e₀ := Option.some.inj (hEntry.symm.trans he₀)
      exact .inl ⟨c.stateid, hSent, by rw [← hSid]; exact hOther⟩

/-! ## Teardown -/

/-- What the table recorded is held until its CLOSE is sent. -/
theorem drain (h : AccountInv fh o s) (hDrained : s.drained = false) :
    AccountInv fh o { s with
      table := s.table.clear
      held := (s.table.openFiles fh).map (·.stateid)
      drained := true
      users := 0 } where
  generation := h.generation
  owner := h.owner
  owned := h.owned
  live := h.live
  closed := h.closed
  sent := h.sent
  notHeld := nofun
  accounted := by
    intro g hg
    rcases h.accounted g hg with ⟨e, hEntry, hOther⟩ | hSent | hCall | ⟨sid, hHeld, -⟩
    · refine .inr (.inr (.inr ⟨e.stateid, ?_, hOther⟩))
      show (s.table.openFiles fh).map (·.stateid) = some e.stateid
      rw [hEntry]
      rfl
    · exact .inr (.inl hSent)
    · exact .inr (.inr (.inl hCall))
    · rw [h.notHeld hDrained] at hHeld
      cases hHeld
  counted := rfl

/-- The teardown sends the CLOSE of the stateid it holds. -/
theorem sendDrained (h : AccountInv fh o s) (hHeld : s.held = some sid) :
    AccountInv fh o { s with
      held := none
      closes := s.closes ++ [{ stateid := sid, teardown := true, phase := .sent }]
      closeSent := s.closeSent ++ [sid] } := by
  have hSent := h.withCloseSent sid
  have hNew : sid ∈ s.closeSent ++ [sid] := List.mem_append_right _ (List.mem_singleton_self _)
  have hCloses := hSent.withCloses <| Lib.forall_mem_concat
    (b := { stateid := sid, teardown := true, phase := .sent }) hSent.sent fun _ => hNew
  exact { hCloses with
    notHeld := fun _ => rfl
    accounted := by
      intro g hg
      rcases hCloses.accounted g hg with hRec | hDone | hCall | ⟨sid', hHeld', hOther⟩
      · exact .inl hRec
      · exact .inr (.inl hDone)
      · exact .inr (.inr (.inl hCall))
      · obtain rfl : sid = sid' := Option.some.inj (hHeld.symm.trans hHeld')
        exact .inr (.inl ⟨sid, hNew, hOther⟩) }

end AccountInv

/-! ## Whole runs -/

/-- The state that `serverClose` removes is one that the condition speaks of. -/
theorem wouldClose_of {s : OpenFile} {j : Nat} {c : CloseCall} {o : OpenOwner} {st : ServerOpen}
    (hc : s.closes[j]? = some c) (hState : s.server o = some st)
    (hClosed : st.closedBy c.stateid = true) : s.wouldClose j = true := by
  unfold OpenFile.wouldClose
  rw [hc, Option.any_some, OpenFile.closeOwner?, List.find?_isSome]
  refine ⟨o, ?_, by rw [hState]; exact hClosed⟩
  cases o <;> decide

theorem accountInv_step {fh : FileHandle} {o : OpenOwner} {s s' : OpenFile} {a : OpenEvent}
    (h : AccountInv fh o s) (hOk : NoGrantLost fh o s a) (hstep : s.step fh a = some s') :
    AccountInv fh o s' := by
  cases OpenFile.move_of_step hstep with
  | start entryPoint access => exact h.start access hOk
  | grant hc hPhase hOther _ => exact h.grant hc hPhase hOther
  | refuse hc hPhase => exact h.refuse hc hPhase
  | register hc hPhase hTable => exact h.register hc hPhase hTable
  | registerFail hc hPhase hTable => exact absurd hTable (h.no_registerFail hc hPhase)
  | giveUp hc hPhase => exact h.giveUp hc hPhase hOk
  | releaseNone hEntry =>
    refine h.withTable _ rfl ?_ fun _ _ => .inr
    have hCounted := h.counted
    rw [hEntry] at hCounted ⊢
    change 0 = s.users at hCounted
    show 0 = s.users - 1
    omega
  | release hEntry _ => exact h.release hEntry
  | releaseLast hEntry _ =>
    have hRelease := h.release hEntry
    exact hRelease.withCloses <| Lib.forall_mem_concat hRelease.sent
      (by rintro (hSent | hExecuted) <;> contradiction)
  | sendClose hc _ => exact h.sendClose _
  | endClose hc => exact h.setDone _
  | serverClose hc hPhase hState hClosed =>
    exact h.serverClose hc hPhase hState hClosed (hOk (wouldClose_of hc hState hClosed))
  | closeSucceeded hc hPhase => exact h.closeSucceeded hc hPhase
  | drain hDrained => exact h.drain hDrained
  | sendDrained hHeld => exact h.sendDrained hHeld
  | failDrained => exact absurd hOk not_false

/-- **Open-state accounting.** Where one owner opens the file and no grant is given up, closed
under a caller or left by the teardown, every granted open is recorded by the table, held by
a call, or had a CLOSE sent; and the entry stays with the count of its users. -/
theorem opens_accounted (fh : FileHandle) (o : OpenOwner) {s : OpenFile}
    (h : (openMachine fh).ReachableIf (NoGrantLost fh o) s) : OpensAccounted fh s := by
  have hInv : AccountInv fh o s :=
    h.invariant (accountInv_init fh o) fun _ _ _ _ hOk hstep hInv => accountInv_step hInv hOk hstep
  refine ⟨hInv.accounted, fun hUsers => ?_⟩
  have hCounted := hInv.counted
  cases hEntry : s.table.openFiles fh with
  | none =>
    rw [hEntry] at hCounted
    change 0 = s.users at hCounted
    omega
  | some e =>
    rw [hEntry] at hCounted
    exact ⟨e, rfl, hCounted⟩

/-- Two opens of one owner, both released, and the CLOSE behind the second release; then a third
open, whose state the teardown closes. -/
def sharedRun : List OpenEvent :=
  [.start .openFile .read, .start .openFile .both, .grant 0 7, .grant 1 8, .register 0,
   .register 1, .release, .release, .sendClose 0, .serverClose 0, .closeSucceeded 0,
   .start .openFile .read, .grant 2 9, .register 2, .drain, .sendDrained, .serverClose 1]

/-- At the end of the run the server has no state left, and every open of it was closed. -/
theorem opens_accounted_sharedRun :
    ∃ s : OpenFile, (openMachine [1]).ReachableIf (NoGrantLost [1] .nfsRs) s ∧
      s.granted.length = 3 ∧ s.closeSent.length = 2 ∧ (s.server .nfsRs).isNone = true ∧
      OpensAccounted [1] s := by
  have hrun : ((openMachine [1]).runChecked (NoGrantLost [1] .nfsRs) (openMachine [1]).init
      sharedRun).any (fun s => decide (s.granted.length = 3 ∧ s.closeSent.length = 2 ∧
        (s.server .nfsRs).isNone = true)) = true := by
    decide +kernel
  obtain ⟨s, hs, hEnd⟩ := (Option.any_eq_true _ _).mp hrun
  obtain ⟨hGranted, hSent, hNone⟩ := of_decide_eq_true hEnd
  have hReach := Lib.Machine.reachableIf_of_runChecked sharedRun .init hs
  exact ⟨s, hReach, hGranted, hSent, hNone, opens_accounted [1] .nfsRs hReach⟩

/-! ## Two owners -/

/-- `open` of a file and `create_with_access` of the same file, both registered. -/
def twoOwnersRun : List OpenEvent :=
  [.start .openFile .read, .grant 0 7, .register 0, .start .createWithAccess .both, .grant 1 8,
   .register 1]

/-- **Two owners, one entry.** After `open` and `create_with_access` of one file the server has
both states; the first is not in the table, no call holds it, and no CLOSE for it was sent. -/
theorem replaced_owner_forgotten :
    ∃ s : OpenFile, (openMachine [1]).Reachable s ∧ (s.server .nfsRs).isSome = true ∧
      (s.server .nfsRsCreate).isSome = true ∧ ¬OpensAccounted [1] s := by
  have hrun : ((openMachine [1]).runFrom (openMachine [1]).init twoOwnersRun).any (fun s =>
      (s.server .nfsRs).isSome && (s.server .nfsRsCreate).isSome &&
      (s.granted.any fun g => decide (g.stateid.other = 7)) &&
      (s.table.openFiles [1]).all (fun e => decide (e.stateid.other ≠ 7)) &&
      s.closeSent.isEmpty && (s.opens.all fun c => decide (c.phase = .done)) &&
      s.held.isNone) = true := by
    decide +kernel
  obtain ⟨s, hs, hEnd⟩ := (Option.any_eq_true _ _).mp hrun
  simp only [Bool.and_eq_true] at hEnd
  obtain ⟨⟨⟨⟨⟨⟨hFirst, hSecond⟩, hGranted⟩, hTable⟩, hSent⟩, hOpens⟩, hHeld⟩ := hEnd
  refine ⟨s, Lib.Machine.reachable_of_runFrom twoOwnersRun hs, hFirst, hSecond, fun hAll => ?_⟩
  obtain ⟨g, hg, hSeven⟩ := List.any_eq_true.mp hGranted
  have hSeven := of_decide_eq_true hSeven
  rcases hAll.granted g hg with ⟨e, hEntry, hOther⟩ | ⟨sid, hMem, -⟩ | ⟨c, hc, sid, hPhase, -⟩ |
    ⟨sid, hIs, -⟩
  · rw [hEntry] at hTable
    exact of_decide_eq_true hTable (hOther.trans hSeven)
  · rw [List.isEmpty_iff.mp hSent] at hMem
    cases hMem
  · have hDone := of_decide_eq_true (List.all_eq_true.mp hOpens c hc)
    rw [hPhase] at hDone
    cases hDone
  · rw [hIs] at hHeld
    cases hHeld

end NfsRs.Nfs41
