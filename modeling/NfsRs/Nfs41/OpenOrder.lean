import NfsRs.Nfs41.OpenTable

/-!
# NfsRs — the order of registrations

Calls that open one file run side by side, and each registers its stateid after its reply. The
server counts the seqid on with every OPEN it executes, so the stateid that the table ought to
end with is that of the OPEN executed last. `register_open` compares no seqids: it puts the
stateid it is given over the recorded one, and the order of registrations decides.

The access that the entry records is wrong in a second race. A final release leaves the entry,
with its access, until the CLOSE is answered. When the server has executed the CLOSE and an
OPEN after it is registered first, `register_open` adds the old access to that of a new state,
and `has_open` hands out the new stateid for a mode that the server did not grant.

## Main results

- `orderInv_step` : what every step keeps when registrations follow the order of execution.
- `opens_ordered` : in runs of one owner that register in the order of execution, and not over
  the entry of a closed state, the recorded stateid is that of the OPEN executed last and
  `has_open` answers only for modes that the server grants, whatever releases and CLOSEs
  happen in between.
- `registered_out_of_order` : two opens registered in the other order leave the older stateid.
-/

namespace NfsRs.Nfs41

/-! ## Access modes -/

namespace AccessMode

variable {a b c : AccessMode}

theorem covers_trans (hab : a.covers b = true) (hbc : b.covers c = true) :
    a.covers c = true := by
  revert hab hbc
  cases a <;> cases b <;> cases c <;> decide

theorem upgrade_covers (h : a.covers c = true) (b : AccessMode) :
    (a.upgrade b).covers c = true := by
  revert h
  cases a <;> cases b <;> cases c <;> decide

theorem upgrade_covers_right (a b : AccessMode) : (a.upgrade b).covers b = true := by
  cases a <;> cases b <;> decide

theorem covers_upgrade (ha : c.covers a = true) (hb : c.covers b = true) :
    c.covers (a.upgrade b) = true := by
  revert ha hb
  cases a <;> cases b <;> cases c <;> decide

end AccessMode

/-- What `has_open` answers. -/
theorem StateManager.hasOpen_entry {m : StateManager} {fh : FileHandle} {mode : AccessMode}
    {sid : StateId} (h : m.hasOpen fh mode = some sid) :
    ∃ e, m.openFiles fh = some e ∧ e.stateid = sid ∧ 0 < e.refCount ∧
      e.access.covers mode = true := by
  obtain ⟨e, hEntry, hPick⟩ := Option.bind_eq_some_iff.mp h
  split at hPick
  next hUsable => exact ⟨e, hEntry, Option.some.inj hPick, hUsable.1, hUsable.2.2⟩
  next => cases hPick

/-! ## The property -/

/-- With all answered opens registered, the recorded stateid is that of the OPEN executed
last; and a stateid is handed out for a mode only if the server's state grants it. -/
structure OpensOrdered (fh : FileHandle) (o : OpenOwner) (s : OpenFile) : Prop where
  latest : (∀ c ∈ s.opens, ∀ sid, c.phase ≠ .granted sid) → ∀ e,
    s.table.openFiles fh = some e → s.answered.getLast?.map (·.2) = some e.stateid
  usable : ∀ mode sid, s.table.hasOpen fh mode = some sid →
    ∃ st, s.server o = some st ∧ st.other = sid.other ∧ st.access.covers mode = true

namespace OpenFile

/-- Call `i` is the next one to register, and the entry, if any, is of the same state. -/
def registersInOrder (fh : FileHandle) (s : OpenFile) (i : Nat) : Bool :=
  s.unregistered.head?.any fun q =>
    decide (q.1 = i) && (s.table.openFiles fh).all fun e => decide (e.stateid.other = q.2.other)

/-- A further OPEN of the owner does not wrap the seqid. -/
def seqidLeft (s : OpenFile) (o : OpenOwner) : Bool :=
  (s.server o).all fun st => decide (st.seqid < 2 ^ 32 - 1)

end OpenFile

/-- Every open of the file is by owner `o`, no seqid wraps, and calls register in the order in
which their OPENs were executed, never over the entry of another state. -/
def InOrder (fh : FileHandle) (o : OpenOwner) (s : OpenFile) : OpenEvent → Prop
  | .start entryPoint _ => entryPoint.owner = o
  | .grant _ _ => s.seqidLeft o = true
  | .register i => s.registersInOrder fh i = true
  | _ => True

instance (fh : FileHandle) (o : OpenOwner) (s : OpenFile) (a : OpenEvent) :
    Decidable (InOrder fh o s a) := by
  rcases a <;> unfold InOrder <;> infer_instance

/-! ## The invariant -/

namespace OpenFile

/-- A stateid that was granted. -/
def Known (s : OpenFile) (sid : StateId) : Prop :=
  sid.generation = 1 ∧ 1 ≤ sid.seqid ∧ ∃ g ∈ s.granted, g.stateid.other = sid.other

/-- The stateid is that of a CLOSE, or one that the teardown holds. -/
def Retired (s : OpenFile) (sid : StateId) : Prop :=
  (∃ c ∈ s.closes, c.stateid = sid) ∨ s.held = some sid

/-- The stateid has been registered: the entry has it, or it is retired. -/
def Kept (fh : FileHandle) (s : OpenFile) (sid : StateId) : Prop :=
  (∃ e, s.table.openFiles fh = some e ∧ e.stateid = sid) ∨ s.Retired sid

/-- Against the current state, the stateid is older than every unregistered one. -/
def Behind (o : OpenOwner) (s : OpenFile) (sid : StateId) : Prop :=
  ∀ st, s.server o = some st → st.other = sid.other →
    sid.seqid ≤ st.seqid ∧ ∀ q ∈ s.unregistered, sid.seqid < q.2.seqid

/-- An unregistered stateid, with its call and the state of the server. -/
def Queued (o : OpenOwner) (s : OpenFile) (q : Nat × StateId) : Prop :=
  ∃ c st, s.opens[q.1]? = some c ∧ c.phase = .granted q.2 ∧ s.server o = some st ∧
    st.other = q.2.other ∧ q.2.seqid ≤ st.seqid ∧ st.access.covers c.access = true

/-- The registered opens come before the unregistered ones, and the entry has the last. -/
def Answered (fh : FileHandle) (s : OpenFile) : Prop :=
  ∃ registered, s.answered = registered ++ s.unregistered ∧
    (∀ q ∈ registered, ∃ c, s.opens[q.1]? = some c ∧ c.phase = .done) ∧
    ∀ e, s.table.openFiles fh = some e → registered.getLast?.map (·.2) = some e.stateid

end OpenFile

structure OrderInv (fh : FileHandle) (o : OpenOwner) (s : OpenFile) : Prop where
  generation : s.table.activeGeneration = 1
  owner : ∀ c ∈ s.opens, c.entryPoint.owner = o
  owned : ∀ o' st, s.server o' = some st → o' = o
  counted : ∀ st, s.server o = some st → 1 ≤ st.seqid
  queued : ∀ q ∈ s.unregistered, s.Queued o q ∧ s.Known q.2
  increasing : s.unregistered.Pairwise fun q r => q.2.seqid < r.2.seqid
  kept : ∀ sid, s.Kept fh sid → s.Known sid ∧ s.Behind o sid
  /-- A CLOSE never has the stateid of an entry in use. -/
  retired : ∀ sid, s.Retired sid → ∀ e, s.table.openFiles fh = some e → 0 < e.refCount →
    e.stateid.other = sid.other → sid.seqid < e.stateid.seqid
  inUse : ∀ e, s.table.openFiles fh = some e → 0 < e.refCount →
    ∃ st, s.server o = some st ∧ st.other = e.stateid.other
  access : ∀ e st, s.table.openFiles fh = some e → s.server o = some st →
    st.other = e.stateid.other → st.access.covers e.access = true
  answered : s.Answered fh

theorem orderInv_init (fh : FileHandle) (o : OpenOwner) : OrderInv fh o .init where
  generation := rfl
  owner := nofun
  owned := nofun
  counted := nofun
  queued := nofun
  increasing := .nil
  kept := by rintro sid (⟨e, hEntry, -⟩ | ⟨c, hc, -⟩ | hHeld) <;> contradiction
  retired := nofun
  inUse := nofun
  access := nofun
  answered := ⟨[], rfl, nofun, nofun⟩

namespace OrderInv

variable {fh : FileHandle} {o : OpenOwner} {s : OpenFile}

/-! ## Opens that change no entry -/

variable {i j : Nat} {c : OpenCall} {sid : StateId}

/-- A registered open is done: the call that moves is another one. -/
theorem answered_set (h : s.Answered fh) {s' : OpenFile} {c' : OpenCall} (hc : s.opens[i]? = some c)
    (hPhase : c.phase ≠ .done) (hOpens : s'.opens = s.opens.set i c') (hTable : s'.table = s.table)
    (hAnswered : ∀ registered, (∀ q ∈ registered, q.1 ≠ i) →
      s.answered = registered ++ s.unregistered → s'.answered = registered ++ s'.unregistered) :
    s'.Answered fh := by
  obtain ⟨registered, hEq, hDone, hLast⟩ := h
  have hNe : ∀ q ∈ registered, q.1 ≠ i := by
    rintro q hq rfl
    obtain ⟨x, hx, hIsDone⟩ := hDone q hq
    rw [hc, Option.some.injEq] at hx
    exact hPhase (hx ▸ hIsDone)
  refine ⟨registered, hAnswered registered hNe hEq, fun q hq => ?_, by rw [hTable]; exact hLast⟩
  obtain ⟨x, hx, hIsDone⟩ := hDone q hq
  exact ⟨x, by rw [hOpens, List.getElem?_set_ne (hNe q hq).symm]; exact hx, hIsDone⟩

/-- An unregistered stateid stays so when another call moves and the state grows. -/
theorem queued_set {s' : OpenFile} {c' : OpenCall} {q : Nat × StateId} (h : s.Queued o q)
    (hNe : q.1 ≠ i) (hOpens : s'.opens = s.opens.set i c')
    (hServer : ∀ st, s.server o = some st → ∃ st', s'.server o = some st' ∧
      st'.other = st.other ∧ st.seqid ≤ st'.seqid ∧
      ∀ mode, st.access.covers mode = true → st'.access.covers mode = true) : s'.Queued o q := by
  obtain ⟨c, st, hc, hPhase, hState, hOther, hSeqid, hAccess⟩ := h
  obtain ⟨st', hState', hOther', hSeqid', hAccess'⟩ := hServer st hState
  refine ⟨c, st', ?_, hPhase, hState', hOther'.trans hOther, by omega, hAccess' _ hAccess⟩
  rw [hOpens, List.getElem?_set_ne hNe.symm]
  exact hc

theorem start (h : OrderInv fh o s) {entryPoint : OpenEntryPoint} (access : AccessMode)
    (hOwner : entryPoint.owner = o) :
    OrderInv fh o { s with
      opens := s.opens ++ [{ entryPoint := entryPoint, access := access, phase := .asked }] } := by
  have hOld : ∀ {i : Nat} {c : OpenCall}, s.opens[i]? = some c →
      (s.opens ++ [{ entryPoint := entryPoint, access := access, phase := .asked }])[i]? =
        some c := fun hc => by
    rw [List.getElem?_append_left (List.getElem?_eq_some_iff.mp hc).1]
    exact hc
  exact { h with
    owner := Lib.forall_mem_concat h.owner hOwner
    queued := by
      intro q hq
      obtain ⟨⟨c, st, hc, hRest⟩, hKnown⟩ := h.queued q hq
      exact ⟨⟨c, st, hOld hc, hRest⟩, hKnown⟩
    answered := by
      obtain ⟨registered, hEq, hDone, hLast⟩ := h.answered
      refine ⟨registered, hEq, fun q hq => ?_, hLast⟩
      obtain ⟨c, hc, hIsDone⟩ := hDone q hq
      exact ⟨c, hOld hc, hIsDone⟩ }

/-- Call `i` is asked, so no unregistered stateid is its. -/
theorem ne_of_asked (h : OrderInv fh o s) (hc : s.opens[i]? = some c) (hPhase : c.phase = .asked) :
    ∀ q ∈ s.unregistered, q.1 ≠ i := by
  rintro q hq rfl
  obtain ⟨⟨x, -, hx, hGranted, -⟩, -⟩ := h.queued q hq
  rw [hc, Option.some.injEq] at hx
  rw [← hx, hPhase] at hGranted
  cases hGranted

theorem refuse (h : OrderInv fh o s) (hc : s.opens[i]? = some c) (hPhase : c.phase = .asked) :
    OrderInv fh o (s.setOpen i c .done) :=
  { h with
    owner := Lib.forall_mem_set h.owner (h.owner c (List.mem_of_getElem? hc))
    queued := by
      intro q hq
      obtain ⟨hQueued, hKnown⟩ := h.queued q hq
      refine ⟨queued_set hQueued (h.ne_of_asked hc hPhase q hq) rfl ?_, hKnown⟩
      exact fun st hState => ⟨st, hState, rfl, Nat.le_refl _, fun _ hCovers => hCovers⟩
    answered := answered_set h.answered hc (by rw [hPhase]; nofun) rfl rfl fun _ _ hEq => hEq }

/-- A call without a reply leaves the queue. -/
theorem giveUp (h : OrderInv fh o s) (hc : s.opens[i]? = some c) (hPhase : c.phase = .granted sid) :
    OrderInv fh o (s.giveUp i c) := by
  have hMem : ∀ q, q ∈ s.unregistered.filter (fun q => q.1 ≠ i) →
      q ∈ s.unregistered ∧ q.1 ≠ i := fun q hq =>
    (List.mem_filter.mp hq).imp_right of_decide_eq_true
  exact { h with
    owner := Lib.forall_mem_set h.owner (h.owner c (List.mem_of_getElem? hc))
    queued := by
      intro q hq
      obtain ⟨hIn, hNe⟩ := hMem q hq
      obtain ⟨hQueued, hKnown⟩ := h.queued q hIn
      refine ⟨queued_set hQueued hNe rfl ?_, hKnown⟩
      exact fun st hState => ⟨st, hState, rfl, Nat.le_refl _, fun _ hCovers => hCovers⟩
    increasing := h.increasing.filter _
    kept := by
      intro sid' hKept
      obtain ⟨hKnown, hBehind⟩ := h.kept sid' hKept
      refine ⟨hKnown, fun st hState hOther => ?_⟩
      obtain ⟨hLe, hLt⟩ := hBehind st hState hOther
      exact ⟨hLe, fun q hq => hLt q (hMem q hq).1⟩
    answered := by
      refine answered_set h.answered hc (by rw [hPhase]; nofun) rfl rfl fun registered hNe hEq => ?_
      show s.answered.filter (fun q => q.1 ≠ i) = _ ++ s.unregistered.filter (fun q => q.1 ≠ i)
      rw [hEq, List.filter_append, List.filter_eq_self.mpr]
      exact fun q hq => decide_eq_true (hNe q hq) }

/-! ## Grants -/

/-- What an OPEN of the owner makes of its state. -/
structure Granted (o : OpenOwner) (s : OpenFile) (access : AccessMode) (st : ServerOpen) :
    Prop where
  covers : st.access.covers access = true
  counted : 1 ≤ st.seqid
  /-- A stateid of the state is older than the new one. -/
  newer : ∀ st₀, s.server o = some st₀ → st.other = st₀.other ∧ st₀.seqid < st.seqid ∧
    ∀ mode, st₀.access.covers mode = true → st.access.covers mode = true
  /-- A new state has a new name. -/
  new : s.server o = none → ∀ sid, s.Known sid → st.other ≠ sid.other

/-- What the server grants is newer than all it has granted the owner. -/
theorem granted_serverOpen {other : Nat} (access : AccessMode) (hOther : other < 2 ^ 96)
    (hFresh : ∀ g ∈ s.granted, g.stateid.other ≠ other) (hLeft : s.seqidLeft o = true) :
    Granted o s access (s.serverOpen o access other hOther) := by
  rcases s.serverOpen_other o access hOther with ⟨st, hState, hEq⟩ |
    ⟨hNone, hName, hSeqid, hAccess⟩
  · rw [hEq]
    have hLt : st.seqid < 2 ^ 32 - 1 := by
      unfold OpenFile.seqidLeft at hLeft
      rw [hState, Option.all_some] at hLeft
      exact of_decide_eq_true hLeft
    have hNext : (st.reopen access).seqid = st.seqid + 1 := if_neg (by omega)
    refine ⟨AccessMode.upgrade_covers_right _ _, by omega, fun st₀ hst₀ => ?_, fun hNone => ?_⟩
    · rw [hState, Option.some.injEq] at hst₀
      subst hst₀
      exact ⟨rfl, by omega, fun mode hCovers => AccessMode.upgrade_covers hCovers _⟩
    · rw [hState] at hNone
      cases hNone
  · refine ⟨?_, by omega, fun st₀ hst₀ => ?_, fun _ sid hKnown => ?_⟩
    · rw [hAccess]
      cases access <;> decide
    · rw [hNone] at hst₀
      cases hst₀
    · obtain ⟨-, -, g, hg, hSame⟩ := hKnown
      rw [hName, ← hSame]
      exact (hFresh g hg).symm

/-- The server executes an OPEN. -/
theorem grant (h : OrderInv fh o s) {st : ServerOpen} (hc : s.opens[i]? = some c)
    (hPhase : c.phase = .asked) (hSt : Granted o s c.access st) :
    OrderInv fh o (s.grant i c st) := by
  have hOwner := h.owner c (List.mem_of_getElem? hc)
  have hLt := (List.getElem?_eq_some_iff.mp hc).1
  have hNew : Function.update s.server c.entryPoint.owner (some st) o = some st := by
    rw [hOwner, Function.update_self]
  have hKnown : ∀ sid, s.Known sid → (s.grant i c st).Known sid :=
    fun sid ⟨hGen, hSeqid, g, hg, hName⟩ =>
      ⟨hGen, hSeqid, g, List.mem_append_left _ hg, hName⟩
  -- a stateid granted before is of another state or older
  have hOlder : ∀ sid, s.Known sid → s.Behind o sid → st.other = sid.other →
      sid.seqid < st.seqid := by
    intro sid hSid hBehind hName
    cases hState : s.server o with
    | none => exact absurd hName (hSt.new hState sid hSid)
    | some st₀ =>
      obtain ⟨hSame, hSeqid, -⟩ := hSt.newer st₀ hState
      have hLe := (hBehind st₀ hState (hSame.symm.trans hName)).1
      omega
  have hSeqid : st.stateid.seqid = st.seqid := st.stateid_seqid
  exact { h with
    owner := Lib.forall_mem_set h.owner hOwner
    owned := by
      obtain rfl := hOwner
      exact owned_update h.owned (some st)
    counted := by
      intro st' hState
      obtain rfl : st = st' := Option.some.inj (hNew.symm.trans hState)
      exact hSt.counted
    queued := by
      refine Lib.forall_mem_concat (fun q hq => ?_) ⟨?_, ?_⟩
      · obtain ⟨hQueued, hIs⟩ := h.queued q hq
        refine ⟨queued_set hQueued (h.ne_of_asked hc hPhase q hq) rfl ?_, hKnown _ hIs⟩
        intro st₀ hState
        obtain ⟨hSame, hLess, hMore⟩ := hSt.newer st₀ hState
        exact ⟨st, hNew, hSame, Nat.le_of_lt hLess, hMore⟩
      · exact ⟨_, st, List.getElem?_set_self hLt, rfl, hNew, st.stateid_other.symm,
          Nat.le_of_eq hSeqid, hSt.covers⟩
      · exact ⟨rfl, by rw [hSeqid]; exact hSt.counted, _,
          List.mem_append_right _ (List.mem_singleton_self _), rfl⟩
    increasing := by
      refine List.pairwise_append.mpr
        ⟨h.increasing, List.pairwise_singleton _ _, fun q hq r hr => ?_⟩
      rw [List.mem_singleton.mp hr]
      obtain ⟨⟨-, st₀, -, -, hState, -, hLe, -⟩, -⟩ := h.queued q hq
      have hLess := (hSt.newer st₀ hState).2.1
      show q.2.seqid < st.stateid.seqid
      omega
    kept := by
      intro sid hKept
      obtain ⟨hSid, hBehind⟩ := h.kept sid hKept
      refine ⟨hKnown sid hSid, fun st' hState hName => ?_⟩
      obtain rfl : st = st' := Option.some.inj (hNew.symm.trans hState)
      have hLess := hOlder sid hSid hBehind hName
      refine ⟨Nat.le_of_lt hLess,
        Lib.forall_mem_concat (fun q hq => ?_) (by rw [hSeqid]; exact hLess)⟩
      obtain ⟨⟨-, st₀, -, -, hState₀, -⟩, -⟩ := h.queued q hq
      exact (hBehind st₀ hState₀ ((hSt.newer st₀ hState₀).1.symm.trans hName)).2 q hq
    inUse := by
      intro e hEntry hUsed
      obtain ⟨st₀, hState, hName⟩ := h.inUse e hEntry hUsed
      exact ⟨st, hNew, (hSt.newer st₀ hState).1.trans hName⟩
    access := by
      intro e st' hEntry hState hName
      obtain rfl : st = st' := Option.some.inj (hNew.symm.trans hState)
      cases hOld : s.server o with
      | none =>
        obtain ⟨hIs, -⟩ := h.kept e.stateid (.inl ⟨e, hEntry, rfl⟩)
        exact absurd hName (hSt.new hOld e.stateid hIs)
      | some st₀ =>
        obtain ⟨hSame, -, hMore⟩ := hSt.newer st₀ hOld
        exact hMore _ (h.access e st₀ hEntry hOld (hSame.symm.trans hName))
    answered := by
      refine answered_set h.answered hc (by rw [hPhase]; nofun) rfl rfl fun registered _ hEq => ?_
      show s.answered ++ [_] = registered ++ (s.unregistered ++ [_])
      rw [hEq, List.append_assoc] }

/-! ## Registrations -/

/-- The call that registers in order is the head of the queue, and leaves its tail. -/
theorem queue_of_next (h : OrderInv fh o s) (hc : s.opens[i]? = some c)
    (hPhase : c.phase = .granted sid) (hNext : s.registersInOrder fh i = true) :
    ∃ rest, s.unregistered = (i, sid) :: rest ∧ (s.dequeue i c).unregistered = rest ∧
      (∀ r ∈ rest, sid.seqid < r.2.seqid ∧ r.1 ≠ i) ∧
      ∀ e, s.table.openFiles fh = some e → e.stateid.other = sid.other := by
  obtain ⟨⟨k, qsid⟩, hHead, hIs⟩ := (Option.any_eq_true _ _).mp hNext
  rw [Bool.and_eq_true, decide_eq_true_eq] at hIs
  obtain ⟨hk, hSame⟩ := hIs
  obtain rfl : k = i := hk
  obtain ⟨rest, hQueue⟩ : ∃ rest, s.unregistered = (k, qsid) :: rest := by
    obtain ⟨rest, hRest⟩ := List.head?_eq_some_iff.mp hHead
    exact ⟨rest, hRest⟩
  -- the stateid in the queue is the one of the call
  have hCall : ∀ r ∈ s.unregistered, r.1 = k → r.2 = sid := by
    intro r hr hrk
    obtain ⟨⟨x, -, hx, hGranted, -⟩, -⟩ := h.queued r hr
    rw [hrk, hc, Option.some.injEq] at hx
    rw [← hx, hPhase] at hGranted
    exact (OpenPhase.granted.inj hGranted).symm
  obtain rfl : qsid = sid := hCall (k, qsid) (by rw [hQueue]; exact List.mem_cons_self) rfl
  have hInc := h.increasing
  rw [hQueue, List.pairwise_cons] at hInc
  have hRest : ∀ r ∈ rest, qsid.seqid < r.2.seqid ∧ r.1 ≠ k := by
    intro r hr
    have hLess := hInc.1 r hr
    refine ⟨hLess, fun hrk => ?_⟩
    have hEq := hCall r (by rw [hQueue]; exact List.mem_cons_of_mem _ hr) hrk
    rw [hEq] at hLess
    exact Nat.lt_irrefl _ hLess
  refine ⟨rest, hQueue, ?_, hRest, fun e hEntry => ?_⟩
  · show s.unregistered.filter (fun q => q.1 ≠ k) = rest
    rw [hQueue, List.filter_cons_of_neg (by simp), List.filter_eq_self]
    exact fun r hr => decide_eq_true (hRest r hr).2
  · rw [hEntry] at hSame
    exact of_decide_eq_true hSame

/-- The call registered next replaces an older stateid of the same state. -/
theorem register (h : OrderInv fh o s) {table : StateManager} (hc : s.opens[i]? = some c)
    (hPhase : c.phase = .granted sid) (hTable : s.table.registerOpen fh sid c.access = .ok table)
    (hNext : s.registersInOrder fh i = true) :
    OrderInv fh o { s.dequeue i c with table := table, users := s.users + 1 } := by
  -- the call is the head of the queue: the seqids of the rest are above its own
  obtain ⟨rest, hQueue, hDequeue, hRest, hSame⟩ := h.queue_of_next hc hPhase hNext
  have hHead : (i, sid) ∈ s.unregistered := by
    rw [hQueue]
    exact List.mem_cons_self
  have hTail : ∀ q ∈ rest, q ∈ s.unregistered := by
    intro q hq
    rw [hQueue]
    exact List.mem_cons_of_mem _ hq
  obtain ⟨⟨c', st, hc', -, hState, hName, hSeqid, hAccess⟩, hKnown⟩ := h.queued _ hHead
  obtain rfl : c = c' := Option.some.inj (hc.symm.trans hc')
  obtain ⟨table', e, hOk, hEntry, hRegistered, hActive⟩ :=
    StateManager.registerOpen_entry s.table fh c.access (hKnown.1.trans h.generation.symm)
  obtain rfl : table = table' := Except.ok.inj (hTable.symm.trans hOk)
  have hIs : ∀ e', table.openFiles fh = some e' → e' = e :=
    fun e' he' => Option.some.inj (he'.symm.trans hEntry)
  have hSt : ∀ st', s.server o = some st' → st' = st :=
    fun st' hst' => Option.some.inj (hst'.symm.trans hState)
  have hLt := (List.getElem?_eq_some_iff.mp hc).1
  exact { h with
    generation := hActive.trans h.generation
    owner := Lib.forall_mem_set h.owner (h.owner c (List.mem_of_getElem? hc))
    queued := by
      show ∀ q ∈ (s.dequeue i c).unregistered, _
      rw [hDequeue]
      intro q hq
      obtain ⟨hQueued, hIn⟩ := h.queued q (hTail q hq)
      refine ⟨queued_set hQueued (hRest q hq).2 rfl ?_, hIn⟩
      exact fun st' hState' => ⟨st', hState', rfl, Nat.le_refl _, fun _ hCovers => hCovers⟩
    increasing := h.increasing.filter _
    kept := by
      rintro sid' (⟨e', he', rfl⟩ | hRetired)
      · rw [hIs e' he', hRegistered.stateid]
        refine ⟨hKnown, fun st' hState' _ => ?_⟩
        rw [hSt st' hState']
        refine ⟨hSeqid, ?_⟩
        show ∀ q ∈ (s.dequeue i c).unregistered, _
        rw [hDequeue]
        exact fun q hq => (hRest q hq).1
      · obtain ⟨hIn, hBehind⟩ := h.kept sid' (.inr hRetired)
        refine ⟨hIn, fun st' hState' hName' => ?_⟩
        obtain ⟨hLe, hLess⟩ := hBehind st' hState' hName'
        refine ⟨hLe, ?_⟩
        show ∀ q ∈ (s.dequeue i c).unregistered, _
        rw [hDequeue]
        exact fun q hq => hLess q (hTail q hq)
    -- a retired stateid of this state is behind every queued one, so behind the new entry
    retired := by
      intro sid' hRetired e' he' _ hOther
      rw [hIs e' he', hRegistered.stateid] at hOther ⊢
      obtain ⟨-, hBehind⟩ := h.kept sid' (.inr hRetired)
      exact (hBehind st hState (hName.trans hOther)).2 _ hHead
    inUse := by
      intro e' he' _
      rw [hIs e' he', hRegistered.stateid]
      exact ⟨st, hState, hName⟩
    access := by
      intro e' st' he' hState' _
      rw [hIs e' he', hSt st' hState']
      cases hOld : s.table.openFiles fh with
      | none =>
        rw [hRegistered.fresh hOld]
        exact hAccess
      | some e₀ =>
        rw [hRegistered.upgraded e₀ hOld]
        have hOther : st.other = e₀.stateid.other := hName.trans (hSame e₀ hOld).symm
        exact AccessMode.covers_upgrade (h.access e₀ st hOld hState hOther) hAccess
    answered := by
      obtain ⟨registered, hEq, hDone, -⟩ := h.answered
      refine ⟨registered ++ [(i, sid)], ?_, Lib.forall_mem_concat (fun q hq => ?_) ?_, ?_⟩
      · show s.answered = _ ++ (s.dequeue i c).unregistered
        rw [hDequeue, hEq, hQueue, List.append_assoc, List.singleton_append]
      · obtain ⟨x, hx, hIsDone⟩ := hDone q hq
        by_cases hqi : i = q.1
        · subst hqi
          exact ⟨_, List.getElem?_set_self hLt, rfl⟩
        · exact ⟨x, by rw [← hx]; exact List.getElem?_set_ne hqi, hIsDone⟩
      · exact ⟨_, List.getElem?_set_self hLt, rfl⟩
      · intro e' he'
        rw [hIs e' he', hRegistered.stateid, List.getLast?_concat]
        rfl }

/-! ## Releases, CLOSEs and the teardown -/

/-- Steps that take no stateid but the recorded one out of the table, and that one only when
its last user has gone. -/
theorem retire (h : OrderInv fh o s) {table : StateManager} {closes : List CloseCall}
    {held : Option StateId} {drained : Bool} {closeSent : List StateId} {users : Nat}
    (hGen : table.activeGeneration = s.table.activeGeneration)
    (hEntry : ∀ e', table.openFiles fh = some e' → ∃ e, s.table.openFiles fh = some e ∧
      e'.stateid = e.stateid ∧ e'.access = e.access ∧ e'.refCount ≤ e.refCount)
    (hRetired : ∀ sid, (∃ c ∈ closes, c.stateid = sid) ∨ held = some sid → s.Retired sid ∨
      (∃ e, s.table.openFiles fh = some e ∧ e.stateid = sid) ∧
        ∀ e', table.openFiles fh = some e' → e'.refCount = 0) :
    OrderInv fh o { s with
      table := table, closes := closes, held := held, drained := drained
      closeSent := closeSent, users := users } :=
  { h with
    generation := hGen.trans h.generation
    kept := by
      -- a stateid that is kept or retired now was so before
      rintro sid (⟨e', he', rfl⟩ | hIs)
      · obtain ⟨e, he, hSid, -⟩ := hEntry e' he'
        rw [hSid]
        exact h.kept _ (.inl ⟨e, he, rfl⟩)
      · rcases hRetired sid hIs with hOld | ⟨hRecorded, -⟩
        · exact h.kept sid (.inr hOld)
        · exact h.kept sid (.inl hRecorded)
    retired := by
      intro sid hIs e' he' hUsed hOther
      rcases hRetired sid hIs with hOld | ⟨-, hUnused⟩
      · obtain ⟨e, he, hSid, -, hCount⟩ := hEntry e' he'
        rw [hSid] at hOther ⊢
        exact h.retired sid hOld e he (by omega) hOther
      · have hZero := hUnused e' he'
        omega
    inUse := by
      intro e' he' hUsed
      obtain ⟨e, he, hSid, -, hCount⟩ := hEntry e' he'
      rw [hSid]
      exact h.inUse e he (by omega)
    access := by
      intro e' st he' hState hOther
      obtain ⟨e, he, hSid, hAccess, -⟩ := hEntry e' he'
      rw [hAccess]
      rw [hSid] at hOther
      exact h.access e st he hState hOther
    answered := by
      obtain ⟨registered, hEq, hDone, hLast⟩ := h.answered
      refine ⟨registered, hEq, hDone, fun e' he' => ?_⟩
      obtain ⟨e, he, hSid, -⟩ := hEntry e' he'
      rw [hSid]
      exact hLast e he }

/-- The entries of the same table. -/
theorem sameEntry {m : StateManager} : ∀ e', m.openFiles fh = some e' → ∃ e,
    m.openFiles fh = some e ∧ e'.stateid = e.stateid ∧ e'.access = e.access ∧
      e'.refCount ≤ e.refCount :=
  fun e' he' => ⟨e', he', rfl, rfl, Nat.le_refl _⟩

/-- A CLOSE in another phase is a CLOSE with the same stateid. -/
theorem retired_set {c : CloseCall} {phase : ClosePhase} (hc : s.closes[j]? = some c)
    (h : (∃ x ∈ s.closes.set j { c with phase := phase }, x.stateid = sid) ∨ s.held = some sid) :
    s.Retired sid := by
  rcases h with ⟨x, hx, hSid⟩ | hHeld
  · rcases List.mem_or_eq_of_mem_set hx with hOld | rfl
    · exact .inl ⟨x, hOld, hSid⟩
    · exact .inl ⟨c, List.mem_of_getElem? hc, hSid⟩
  · exact .inr hHeld

theorem setClose (h : OrderInv fh o s) {c : CloseCall} (phase : ClosePhase)
    (hc : s.closes[j]? = some c) (closeSent : List StateId) :
    OrderInv fh o { s.setClose j c phase with closeSent := closeSent } :=
  h.retire rfl sameEntry fun _ hIs => .inl (retired_set hc hIs)

/-- A user leaves, and the last one takes the stateid to its CLOSE. -/
theorem release (h : OrderInv fh o s) {e : OpenState} {closes : List CloseCall}
    (hEntry : s.table.openFiles fh = some e)
    (hCloses : ∀ c ∈ closes, c ∈ s.closes ∨
      c.stateid = e.stateid ∧ (s.table.release fh).1 = some e.stateid) :
    OrderInv fh o { s with
      table := (s.table.release fh).2, closes := closes, users := s.users - 1 } := by
  obtain ⟨e', hEntry', hSid, hAccess, hCount, hAnswer⟩ := StateManager.release_entry hEntry
  refine h.retire StateManager.release_generation (fun x hx => ?_) fun sid hIs => ?_
  · obtain rfl : e' = x := Option.some.inj (hEntry'.symm.trans hx)
    exact ⟨e, hEntry, hSid, hAccess, by omega⟩
  · rcases hIs with ⟨c, hc, hcSid⟩ | hHeld
    · rcases hCloses c hc with hOld | ⟨hNew, hLast⟩
      · exact .inl (.inl ⟨c, hOld, hcSid⟩)
      · refine .inr ⟨⟨e, hEntry, hNew.symm.trans hcSid⟩, fun x hx => ?_⟩
        obtain rfl : e' = x := Option.some.inj (hEntry'.symm.trans hx)
        rw [hAnswer] at hLast
        split at hLast
        next hZero => exact hZero
        next => cases hLast
    · exact .inl (.inr hHeld)

theorem closeSucceeded (h : OrderInv fh o s) {c : CloseCall} (hc : s.closes[j]? = some c) :
    OrderInv fh o
      { s.setClose j c .done with table := s.table.closeSucceeded fh c.stateid } := by
  refine h.retire StateManager.closeSucceeded_generation (fun e' he' => ?_)
    fun _ hIs => .inl (retired_set hc hIs)
  rcases StateManager.closeSucceeded_entry s.table fh c.stateid with
    hKept | ⟨hGone, -⟩
  · rw [hKept] at he'
    exact sameEntry e' he'
  · rw [hGone] at he'
    cases he'

theorem drain (h : OrderInv fh o s) :
    OrderInv fh o { s with
      table := s.table.clear
      held := (s.table.openFiles fh).map (·.stateid)
      drained := true
      users := 0 } := by
  refine h.retire rfl nofun fun sid hIs => ?_
  rcases hIs with hClose | hHeld
  · exact .inl (.inl hClose)
  · exact .inr ⟨Option.map_eq_some_iff.mp hHeld, nofun⟩

theorem sendDrained (h : OrderInv fh o s) (hHeld : s.held = some sid) :
    OrderInv fh o { s with
      held := none
      closes := s.closes ++ [{ stateid := sid, teardown := true, phase := .sent }]
      closeSent := s.closeSent ++ [sid] } := by
  refine h.retire rfl sameEntry fun sid' hIs => .inl ?_
  rcases hIs with ⟨c, hc, hcSid⟩ | hNone
  · rcases List.mem_append.mp hc with hOld | hNew
    · exact .inl ⟨c, hOld, hcSid⟩
    · obtain rfl := List.mem_singleton.mp hNew
      obtain rfl : sid = sid' := hcSid
      exact .inr hHeld
  · cases hNone

theorem failDrained (h : OrderInv fh o s) : OrderInv fh o { s with held := none } :=
  h.retire rfl sameEntry fun _ hIs => .inl (hIs.imp_right nofun)

/-- A CLOSE that the server executes finds no unregistered open and no user of the entry. -/
theorem serverClose (h : OrderInv fh o s) {c : CloseCall} {o' : OpenOwner} {st : ServerOpen}
    (hc : s.closes[j]? = some c) (hState : s.server o' = some st)
    (hClosed : st.closedBy c.stateid = true) :
    OrderInv fh o
      { s.setClose j c .executed with server := Function.update s.server o' none } := by
  obtain rfl := h.owned o' st hState
  have hRetired : s.Retired c.stateid := .inl ⟨c, List.mem_of_getElem? hc, rfl⟩
  obtain ⟨hKnown, hBehind⟩ := h.kept c.stateid (.inr hRetired)
  have hSeqid : c.stateid.other = st.other ∧ c.stateid.seqid = st.seqid := by
    have hPos := hKnown.2.1
    simp only [ServerOpen.closedBy, Bool.and_eq_true, Bool.or_eq_true, decide_eq_true_eq]
      at hClosed
    exact ⟨hClosed.1, by omega⟩
  have hOlder := hBehind st hState hSeqid.1.symm
  -- the server closes for the seqid it has, and a queued open would have a later one
  have hQueue : ∀ q, q ∉ s.unregistered := by
    intro q hq
    obtain ⟨⟨-, st', -, -, hState', -, hLe, -⟩, -⟩ := h.queued q hq
    obtain rfl : st = st' := Option.some.inj (hState.symm.trans hState')
    have hLess := hOlder.2 q hq
    omega
  have hUnused : ∀ e, s.table.openFiles fh = some e → ¬0 < e.refCount := by
    intro e hEntry hUsed
    obtain ⟨st', hState', hName⟩ := h.inUse e hEntry hUsed
    obtain rfl : st = st' := Option.some.inj (hState.symm.trans hState')
    have hLess := h.retired _ hRetired e hEntry hUsed (hName.symm.trans hSeqid.1.symm)
    have hLe := ((h.kept e.stateid (.inl ⟨e, hEntry, rfl⟩)).2 st hState hName).1
    omega
  have hNone : ∀ st', Function.update s.server o' none o' ≠ some st' := by
    intro st' hState'
    rw [Function.update_self] at hState'
    cases hState'
  exact { h.setClose .executed hc s.closeSent with
    owned := owned_update h.owned none
    counted := fun st' hState' => absurd hState' (hNone st')
    queued := fun q hq => absurd hq (hQueue q)
    kept := by
      intro sid hKept
      obtain ⟨hIs, -⟩ := (h.setClose .executed hc s.closeSent).kept sid hKept
      exact ⟨hIs, fun st' hState' => absurd hState' (hNone st')⟩
    inUse := fun e hEntry hUsed => absurd hUsed (hUnused e hEntry)
    access := fun e st' _ hState' => absurd hState' (hNone st') }

end OrderInv

/-! ## Whole runs -/

/-- **Every step keeps the order.** -/
theorem orderInv_step {fh : FileHandle} {o : OpenOwner} {s s' : OpenFile} {a : OpenEvent}
    (h : OrderInv fh o s) (hOk : InOrder fh o s a) (hstep : s.step fh a = some s') :
    OrderInv fh o s' := by
  cases OpenFile.move_of_step hstep with
  | start entryPoint access => exact h.start access hOk
  | grant hc hPhase hOther hFresh =>
    have hOwner := h.owner _ (List.mem_of_getElem? hc)
    refine h.grant hc hPhase ?_
    rw [hOwner]
    exact OrderInv.granted_serverOpen _ hOther hFresh hOk
  | refuse hc hPhase => exact h.refuse hc hPhase
  | register hc hPhase hTable => exact h.register hc hPhase hTable hOk
  | registerFail hc hPhase hTable =>
    obtain ⟨rest, hQueue, -⟩ := h.queue_of_next hc hPhase hOk
    obtain ⟨-, hKnown⟩ := h.queued _ (by rw [hQueue]; exact List.mem_cons_self)
    obtain ⟨table, -, hDone, -⟩ :=
      StateManager.registerOpen_entry s.table fh _ (hKnown.1.trans h.generation.symm)
    rw [hDone] at hTable
    cases hTable
  | giveUp hc hPhase => exact h.giveUp hc hPhase
  | releaseNone hEntry =>
    exact h.retire rfl OrderInv.sameEntry fun _ hIs => .inl hIs
  | release hEntry _ => exact h.release hEntry fun _ hc => .inl hc
  | releaseLast hEntry hLast =>
    exact h.release hEntry <| Lib.forall_mem_concat (fun _ hc => .inl hc) (.inr ⟨rfl, hLast⟩)
  | sendClose hc _ => exact h.setClose .sent hc _
  | endClose hc => exact h.setClose .done hc _
  | serverClose hc _ hState hClosed => exact h.serverClose hc hState hClosed
  | closeSucceeded hc _ => exact h.closeSucceeded hc
  | drain _ => exact h.drain
  | sendDrained hHeld => exact h.sendDrained hHeld
  | failDrained => exact h.failDrained

/-- **Registrations in the order of execution.** Where one owner opens the file, no seqid
wraps, and calls register in the order in which the server executed their OPENs and never over
the entry of another state, the table ends with the stateid of the OPEN executed last, and
`has_open` answers only for modes that the server's state grants. -/
theorem opens_ordered (fh : FileHandle) (o : OpenOwner) {s : OpenFile}
    (h : (openMachine fh).ReachableIf (InOrder fh o) s) : OpensOrdered fh o s := by
  have hInv : OrderInv fh o s :=
    h.invariant (orderInv_init fh o) fun _ _ _ _ hOk hstep hInv => orderInv_step hInv hOk hstep
  constructor
  · intro hCalls e hEntry
    obtain ⟨registered, hEq, -, hLast⟩ := hInv.answered
    have hQueue : s.unregistered = [] := by
      refine List.eq_nil_iff_forall_not_mem.mpr fun q hq => ?_
      obtain ⟨⟨c, -, hc, hGranted, -⟩, -⟩ := hInv.queued q hq
      exact hCalls c (List.mem_of_getElem? hc) q.2 hGranted
    rw [hEq, hQueue, List.append_nil]
    exact hLast e hEntry
  · intro mode sid hAnswer
    obtain ⟨e, hEntry, rfl, hUsed, hCovers⟩ := StateManager.hasOpen_entry hAnswer
    obtain ⟨st, hState, hName⟩ := hInv.inUse e hEntry hUsed
    have hHeld := hInv.access e st hEntry hState hName
    exact ⟨st, hState, hName, AccessMode.covers_trans hHeld hCovers⟩

/-- A CLOSE of the first open races the second one, which the server executes before it. -/
def racingClose : List OpenEvent :=
  [.start .openFile .read, .grant 0 7, .register 0, .release, .start .openFile .both, .grant 1 8,
   .sendClose 0, .serverClose 0, .register 1]

theorem opens_ordered_racingClose :
    ∃ s : OpenFile, (openMachine [1]).ReachableIf (InOrder [1] .nfsRs) s ∧
      (s.table.hasOpen [1] .write).isSome = true ∧ OpensOrdered [1] .nfsRs s := by
  have hrun : ((openMachine [1]).runChecked (InOrder [1] .nfsRs) (openMachine [1]).init
      racingClose).any (fun s => (s.table.hasOpen [1] .write).isSome) = true := by
    decide +kernel
  obtain ⟨s, hs, hOpen⟩ := (Option.any_eq_true _ _).mp hrun
  have hReach := Lib.Machine.reachableIf_of_runChecked racingClose .init hs
  exact ⟨s, hReach, hOpen, opens_ordered [1] .nfsRs hReach⟩

/-! ## Out of order -/

/-- Two opens of one owner, executed in one order and registered in the other. -/
def crossedRun : List OpenEvent :=
  [.start .openFile .read, .start .openFile .read, .grant 0 7, .grant 1 8, .register 1,
   .register 0]

/-- **The last registration wins.** Both opens are registered, the server's state has seqid 2,
and the table records the stateid with seqid 1. -/
theorem registered_out_of_order :
    ∃ s : OpenFile, (openMachine [1]).Reachable s ∧
      (s.table.openFiles [1]).map (·.stateid.seqid) = some 1 ∧
      (s.server .nfsRs).map (·.seqid) = some 2 ∧ ¬OpensOrdered [1] .nfsRs s := by
  have hrun : ((openMachine [1]).runFrom (openMachine [1]).init crossedRun).any (fun s =>
      decide ((s.table.openFiles [1]).map (·.stateid.seqid) = some 1) &&
      decide ((s.server .nfsRs).map (·.seqid) = some 2) &&
      (s.opens.all fun c => decide (c.phase = .done)) &&
      decide (s.answered.getLast?.map (·.2.seqid) = some 2)) = true := by
    decide +kernel
  obtain ⟨s, hs, hEnd⟩ := (Option.any_eq_true _ _).mp hrun
  simp only [Bool.and_eq_true, decide_eq_true_eq] at hEnd
  obtain ⟨⟨⟨hTable, hServer⟩, hOpens⟩, hLast⟩ := hEnd
  refine ⟨s, Lib.Machine.reachable_of_runFrom crossedRun hs, hTable, hServer, fun hAll => ?_⟩
  obtain ⟨e, hEntry, hSeqid⟩ := Option.map_eq_some_iff.mp hTable
  have hDone : ∀ c ∈ s.opens, ∀ sid, c.phase ≠ .granted sid := by
    intro c hc sid hGranted
    have hPhase := of_decide_eq_true (List.all_eq_true.mp hOpens c hc)
    rw [hGranted] at hPhase
    cases hPhase
  obtain ⟨q, hq, hStateid⟩ := Option.map_eq_some_iff.mp (hAll.latest hDone e hEntry)
  rw [hq, Option.map_some, Option.some.injEq, hStateid, hSeqid] at hLast
  cases hLast

end NfsRs.Nfs41
