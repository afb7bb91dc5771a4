import Mathlib.Logic.Function.Basic
import NfsRs.Lib.Tasks
import NfsRs.Nfs40.CallbackState

/-!
# NfsRs — the attributes of delegated files

A mount with a write delegation answers CB_GETATTR with the attributes that it has recorded. WRITE
and SETATTR forget them before they are sent, and ask for them again when they have completed; OPEN
asks for them before it registers a delegation. Between the query and the publication of its result
nothing holds the file still, and the result is recorded whatever has been forgotten or recorded in
the meantime. SETATTR of an ACL forgets nothing.

The server counts the changes of each file, so the attributes that were read before a change are
those with a smaller count than the change has left.

## Main results

- `reported_fresh` : as long as queries and changes of a file do not overlap, and no ACL is set
  while attributes are known, CB_GETATTR reports nothing older than a completed change.
- `reported_stale` : otherwise it does.
-/

namespace NfsRs.Nfs40

open Lib

/-! ## The program -/

/-- A CB_GETATTR that was answered with attributes, and the WRITEs and SETATTRs of the file that had
completed by then, each by the `change` that it left the file with. -/
structure AttrReport where
  fh : List UInt8
  change : Nat
  size : Nat
  completed : List Nat
  deriving DecidableEq, Repr

structure AttrShared where
  callback : CallbackState
  /-- The `change` of each file on the server. Every change of a file raises it. -/
  version : List UInt8 → Nat
  /-- Completed WRITEs and SETATTRs. -/
  completed : List (List UInt8 × Nat)
  reports : List AttrReport
  /-- The tasks that change a file, from `mark_attributes_unknown` to the reply, and those that have
  read its attributes and not published them yet. -/
  modifying : List (Nat × List UInt8)
  querying : List (Nat × List UInt8)

inductive ModifyKind where
  | write
  | setattr
  /-- SETATTR of an ACL. -/
  | setacl
  deriving DecidableEq, Repr

inductive ModifyPhase where
  | mark
  | send (refresh : Bool)
  /-- The server has carried it out. -/
  | applied (change : Nat) (refresh : Bool)
  /-- `refresh_callback_attributes`. -/
  | query
  | publish (change size : Nat)
  | done

/-- The part of OPEN behind the grant of a delegation. -/
inductive GrantPhase where
  | query
  | register (attributes : Option (Nat × Nat))
  | done

inductive AttrTask where
  | modify (kind : ModifyKind) (fh : List UInt8) (phase : ModifyPhase)
  | opens (fh : List UInt8) (grant : DelegationGrant) (generation : Nat) (phase : GrantPhase)
  /-- Callbacks, the worker, recovery and the server. -/
  | rest

inductive AttrEvent where
  | go
  | fail
  | apply
  | complete
  | read (size : Nat)
  | storeGeneration (generation : Nat)
  | clear
  | recalled (stateid : List UInt8) (truncate : Bool) (fh : List UInt8) (active : Nat)
  | finishRecall (n : RecallNotification) (returned : Bool)
  | returnAll
  /-- The file changes without a reply to this client. -/
  | changes (fh : List UInt8)
  | getattr (fh : List UInt8)
  deriving DecidableEq, Repr

namespace AttrShared

variable (s : AttrShared) (i : Nat)

def withCallback (callback : CallbackState) : AttrShared := { s with callback := callback }

def beginModify (fh : List UInt8) : AttrShared := { s with modifying := (i, fh) :: s.modifying }

def endModify : AttrShared := { s with modifying := s.modifying.filter (·.1 ≠ i) }

def beginQuery (fh : List UInt8) : AttrShared := { s with querying := (i, fh) :: s.querying }

def endQuery : AttrShared := { s with querying := s.querying.filter (·.1 ≠ i) }

/-- The file changes on the server. -/
def apply (fh : List UInt8) : AttrShared :=
  { s with version := Function.update s.version fh (s.version fh + 1) }

def stepModify (kind : ModifyKind) (fh : List UInt8) :
    ModifyPhase → AttrEvent → Option (AttrShared × ModifyPhase)
  | .mark, .go =>
    let (marked, delegated) := s.callback.markAttributesUnknown fh
    match kind with
    | .write => some ((s.withCallback marked).beginModify i fh, .send delegated)
    | .setattr => some ((s.withCallback marked).beginModify i fh, .send true)
    | .setacl => some (s.beginModify i fh, .send false)
  | .send refresh, .apply => some (s.apply fh, .applied ((s.apply fh).version fh) refresh)
  | .applied change refresh, .complete =>
    some ({ s with completed := (fh, change) :: s.completed }.endModify i,
      if refresh then .query else .done)
  | .send _, .fail | .applied _ _, .fail => some (s.endModify i, .done)
  | .query, .read size => some (s.beginQuery i fh, .publish (s.version fh) size)
  | .query, .fail => some (s, .done)
  | .publish change size, .go =>
    some ((s.withCallback (s.callback.publishAttributes fh change size)).endQuery i, .done)
  | .publish _ _, .fail => some (s.endQuery i, .done)
  | _, _ => none

def stepOpen (fh : List UInt8) (grant : DelegationGrant) (generation : Nat) :
    GrantPhase → AttrEvent → Option (AttrShared × GrantPhase)
  | .query, .read size =>
    if grant.kind = .write then
      some (s.beginQuery i fh, .register (some (s.version fh, size)))
    else none
  -- a read delegation, or a query that fails
  | .query, .fail => some (s, .register none)
  | .register attributes, .go =>
    some ((s.withCallback
      (s.callback.registerDelegation fh grant generation attributes)).endQuery i, .done)
  | .register _, .fail => some (s.endQuery i, .done)
  | _, _ => none

def stepRest : AttrEvent → Option AttrShared
  | .storeGeneration generation =>
    some (s.withCallback { s.callback with generation := generation })
  | .clear => some (s.withCallback s.callback.clearDelegations)
  | .recalled stateid truncate fh active =>
    some (s.withCallback (s.callback.recall stateid truncate fh active).1)
  | .finishRecall n returned => some (s.withCallback (s.callback.finishRecall n returned))
  | .returnAll => some (s.withCallback s.callback.returnAllDelegations.1)
  | .changes fh => some (s.apply fh)
  | .getattr fh =>
    match s.callback.getattr fh with
    | .ok (change, size) =>
      some { s with reports :=
        ⟨fh, change, size, (s.completed.filter (·.1 = fh)).map (·.2)⟩ :: s.reports }
    -- an error or a delay
    | .error _ => some s
  | _ => none

end AttrShared

def attrProgram : Program AttrShared AttrTask AttrEvent where
  init := ⟨⟨.new, fun _ => 0, [], [], [], []⟩, [.rest]⟩
  entry
    | .modify _ _ .mark | .opens _ _ _ .query => true
    | _ => false
  step i s
    | .modify kind fh phase, e =>
      (s.stepModify i kind fh phase e).map fun next => (next.1, .modify kind fh next.2)
    | .opens fh grant generation phase, e =>
      (s.stepOpen i fh grant generation phase e).map fun next =>
        (next.1, .opens fh grant generation next.2)
    | .rest, e => (s.stepRest e).map fun s' => (s', .rest)

/-! ## The condition -/

/-- The attributes recorded for a file. -/
def AttrShared.known (s : AttrShared) (fh : List UInt8) : Option (Nat × Nat) :=
  (s.callback.delegations.lookup fh).bind (·.attributes)

/-- A file does not change while its attributes are being read and published, nor the other way
round; an ACL is set only while no attributes are known. -/
def AttrTask.apart (s : AttrShared) (e : AttrEvent) : AttrTask → Bool
  | .modify kind fh .mark =>
    s.querying.all (·.2 ≠ fh) && (kind != .setacl || (s.known fh).isNone)
  | .modify _ fh .query | .opens fh _ _ .query =>
    e == .fail || s.modifying.all (·.2 ≠ fh)
  | _ => true

def QueriesApart (P : TaskPool AttrShared AttrTask) : TaskEvent AttrTask AttrEvent → Prop
  | .spawn _ => True
  | .step i e => (P.tasks[i]?).all (·.apart P.shared e) = true

instance (P : TaskPool AttrShared AttrTask) : ∀ a, Decidable (QueriesApart P a)
  | .spawn _ => .isTrue trivial
  | .step _ _ => inferInstanceAs (Decidable (_ = true))

/-! ## The outline -/

/-- Known attributes are no older than what has completed, and unknown while the file changes. -/
structure AttrInv (s : AttrShared) : Prop where
  le : ∀ fh c, (fh, c) ∈ s.completed → c ≤ s.version fh
  fresh : ∀ fh change size, s.known fh = some (change, size) →
    ∀ c, (fh, c) ∈ s.completed → c ≤ change
  unknown : ∀ i fh, (i, fh) ∈ s.modifying → s.known fh = none
  apart : ∀ i j fh, (i, fh) ∈ s.modifying → (j, fh) ∉ s.querying
  kind : ∀ fh record, s.callback.delegations.lookup fh = some record →
    record.grant.kind ≠ .write → record.attributes = none
  reports : ∀ r ∈ s.reports, ∀ c ∈ r.completed, c ≤ r.change

/-- The task has read attributes that are no older than what has completed. -/
structure Queried (s : AttrShared) (i : Nat) (fh : List UInt8) (change : Nat) : Prop where
  querying : (i, fh) ∈ s.querying
  fresh : ∀ c, (fh, c) ∈ s.completed → c ≤ change

def AttrTaskInv (s : AttrShared) (i : Nat) : AttrTask → Prop
  | .modify _ fh phase =>
    match phase with
    | .send _ => (i, fh) ∈ s.modifying
    | .applied change _ => (i, fh) ∈ s.modifying ∧ change ≤ s.version fh
    | .publish change _ => Queried s i fh change
    | _ => True
  | .opens fh grant _ (.register (some (change, _))) => grant.kind = .write ∧ Queried s i fh change
  | _ => True

/-- What a step of task `i` leaves to the others. -/
structure AttrFrame (i : Nat) (s s' : AttrShared) : Prop where
  modifying : ∀ j fh, j ≠ i → (j, fh) ∈ s.modifying → (j, fh) ∈ s'.modifying
  querying : ∀ j fh, j ≠ i → (j, fh) ∈ s.querying → (j, fh) ∈ s'.querying
  version : ∀ fh, s.version fh ≤ s'.version fh
  completed : ∀ fh c, (fh, c) ∈ s'.completed → (fh, c) ∈ s.completed ∨ (i, fh) ∈ s.modifying

section outline

variable {s s' : AttrShared} {i j : Nat} {fh : List UInt8}

theorem AttrFrame.refl : AttrFrame i s s :=
  ⟨fun _ _ _ h => h, fun _ _ _ h => h, fun _ => Nat.le_refl _, fun _ _ => .inl⟩

/-- What another task knows survives the step. -/
theorem AttrTaskInv.other {u : AttrTask} (hInv : AttrInv s) (h : AttrTaskInv s j u)
    (hFrame : AttrFrame i s s') (hNe : j ≠ i) : AttrTaskInv s' j u := by
  have hQueried : ∀ {fh change}, Queried s j fh change → Queried s' j fh change := by
    intro fh change hq
    refine ⟨hFrame.querying j fh hNe hq.querying, fun c hc => ?_⟩
    rcases hFrame.completed fh c hc with hOld | hModifying
    · exact hq.fresh c hOld
    · exact absurd hq.querying (hInv.apart i j fh hModifying)
  cases u with
  | modify kind fh phase =>
    cases phase with
    | send refresh => exact hFrame.modifying j fh hNe h
    | applied change refresh =>
      exact ⟨hFrame.modifying j fh hNe h.1, h.2.trans (hFrame.version fh)⟩
    | publish change size => exact hQueried h
    | _ => trivial
  | opens fh grant generation phase =>
    cases phase with
    | register attributes =>
      cases attributes with
      | none => trivial
      | some attributes => exact ⟨h.1, hQueried h.2⟩
    | _ => trivial
  | rest => trivial

/-- Where a record may come from: it keeps its attributes, has none, or has those that a task has
read. -/
def RecordFrom (s : AttrShared) (fh : List UInt8) (record : DelegationRecord) : Prop :=
  (∃ before, s.callback.delegations.lookup fh = some before ∧ record.grant = before.grant ∧
    record.attributes = before.attributes) ∨
  record.attributes = none ∨
  ∃ i change size, record.attributes = some (change, size) ∧ record.grant.kind = .write ∧
    Queried s i fh change

/-- **The records change.** -/
theorem AttrInv.records (h : AttrInv s) {callback : CallbackState}
    (hRecords : ∀ fh record, callback.delegations.lookup fh = some record →
      RecordFrom s fh record) : AttrInv (s.withCallback callback) := by
  -- known attributes were known before, or a query under way has just brought them
  have hKnown : ∀ fh change size, (s.withCallback callback).known fh = some (change, size) →
      s.known fh = some (change, size) ∨ ∃ i, Queried s i fh change := by
    intro fh change size hSome
    obtain ⟨record, hRecord, hAttributes⟩ := Option.bind_eq_some_iff.mp hSome
    rcases hRecords fh record hRecord with ⟨before, hBefore, -, hSame⟩ | hNone |
      ⟨i, change', size', hNew, -, hQueried⟩
    · rw [AttrShared.known, hBefore, Option.bind_some, ← hSame]
      exact .inl hAttributes
    · cases hNone.symm.trans hAttributes
    · cases hNew.symm.trans hAttributes
      exact .inr ⟨i, hQueried⟩
  refine { h with
    fresh := fun fh change size hSome c hc => ?_
    unknown := fun j fh hj => ?_
    kind := fun fh record hRecord hKind => ?_ }
  · rcases hKnown fh change size hSome with hOld | ⟨i, hQueried⟩
    · exact h.fresh fh change size hOld c hc
    · exact hQueried.fresh c hc
  · refine Option.eq_none_iff_forall_ne_some.mpr fun attributes hSome => ?_
    rcases hKnown fh attributes.1 attributes.2 hSome with hOld | ⟨i, hQueried⟩
    · cases (h.unknown j fh hj).symm.trans hOld
    · exact h.apart j i fh hj hQueried.querying
  · rcases hRecords fh record hRecord with ⟨before, hBefore, hGrant, hSame⟩ | hNone |
      ⟨i, change, size, -, hWrite, -⟩
    · rw [hSame]
      exact h.kind fh before hBefore (hGrant ▸ hKind)
    · exact hNone
    · exact absurd hWrite hKind

/-- A step of task `i`, which then is at `t'`. -/
structure AttrKeeps (i : Nat) (s s' : AttrShared) (t' : AttrTask) : Prop where
  frame : AttrFrame i s s'
  inv : AttrInv s'
  task : AttrTaskInv s' i t'

/-- The file of a task that begins to change it has no known attributes. -/
theorem AttrInv.beginModify (h : AttrInv s) (hKnown : s.known fh = none)
    (hQueries : s.querying.all (·.2 ≠ fh) = true) : AttrInv (s.beginModify i fh) := by
  refine { h with unknown := fun j fh' hj => ?_, apart := fun j k fh' hj hk => ?_ }
  · rcases List.mem_cons.mp hj with hNew | hOld
    · cases hNew
      exact hKnown
    · exact h.unknown j fh' hOld
  · rcases List.mem_cons.mp hj with hNew | hOld
    · cases hNew
      exact of_decide_eq_true (List.all_eq_true.mp hQueries _ hk) rfl
    · exact h.apart j k fh' hOld hk

theorem AttrFrame.beginModify {callback : CallbackState} :
    AttrFrame i s ((s.withCallback callback).beginModify i fh) :=
  ⟨fun _ _ _ h => List.mem_cons_of_mem _ h, fun _ _ _ h => h, fun _ => Nat.le_refl _,
    fun _ _ => .inl⟩

/-- `mark_attributes_unknown`. -/
theorem AttrInv.mark (h : AttrInv s) (fh : List UInt8) :
    AttrInv (s.withCallback (s.callback.markAttributesUnknown fh).1) ∧
      (s.withCallback (s.callback.markAttributesUnknown fh).1).known fh = none := by
  refine ⟨h.records fun fh' record hRecord => ?_, ?_⟩
  · obtain ⟨before, hBefore, ⟨rfl, -⟩ | rfl⟩ := CallbackState.of_markAttributesUnknown hRecord
    · exact .inl ⟨_, hBefore, rfl, rfl⟩
    · exact .inr (.inl rfl)
  · refine Option.eq_none_iff_forall_ne_some.mpr fun attributes hSome => ?_
    obtain ⟨record, hRecord, hAttributes⟩ := Option.bind_eq_some_iff.mp hSome
    obtain ⟨before, hBefore, ⟨rfl, hKind⟩ | rfl⟩ := CallbackState.of_markAttributesUnknown hRecord
    · cases (h.kind fh record hBefore (hKind rfl)).symm.trans hAttributes
    · cases hAttributes

theorem mem_filter_of_ne {l : List (Nat × List UInt8)} (hNe : j ≠ i) (h : (j, fh) ∈ l) :
    (j, fh) ∈ l.filter (·.1 ≠ i) :=
  List.mem_filter.mpr ⟨h, decide_eq_true hNe⟩

theorem AttrInv.endModify (h : AttrInv s) : AttrInv (s.endModify i) :=
  { h with
    unknown := fun j fh hj => h.unknown j fh (List.mem_of_mem_filter hj)
    apart := fun j k fh hj => h.apart j k fh (List.mem_of_mem_filter hj) }

theorem AttrInv.endQuery (h : AttrInv s) : AttrInv (s.endQuery i) :=
  { h with apart := fun j k fh hj hk => h.apart j k fh hj (List.mem_of_mem_filter hk) }

theorem AttrFrame.endQuery {callback : CallbackState} :
    AttrFrame i s ((s.withCallback callback).endQuery i) :=
  ⟨fun _ _ _ h => h, fun _ _ hNe h => mem_filter_of_ne hNe h, fun _ => Nat.le_refl _,
    fun _ _ => .inl⟩

theorem AttrFrame.apply : AttrFrame i s (s.apply fh) := by
  refine ⟨fun _ _ _ h => h, fun _ _ _ h => h, fun fh' => ?_, fun _ _ => .inl⟩
  show s.version fh' ≤ Function.update s.version fh (s.version fh + 1) fh'
  rw [Function.update_apply]
  split
  next hEq => rw [hEq]; exact Nat.le_succ _
  next => exact Nat.le_refl _

/-- The file changes on the server. -/
theorem AttrInv.apply (h : AttrInv s) : AttrInv (s.apply fh) :=
  { h with le := fun fh' c hc => (h.le fh' c hc).trans ((AttrFrame.apply (i := 0)).version fh') }

/-- A change of the file completes. -/
theorem AttrInv.complete (h : AttrInv s) {change : Nat} (hModifying : (i, fh) ∈ s.modifying)
    (hLe : change ≤ s.version fh) :
    AttrInv { s with completed := (fh, change) :: s.completed } := by
  refine { h with le := fun fh' c hc => ?_, fresh := fun fh' change' size hKnown c hc => ?_ }
  · rcases List.mem_cons.mp hc with hNew | hOld
    · cases hNew
      exact hLe
    · exact h.le fh' c hOld
  · rcases List.mem_cons.mp hc with hNew | hOld
    · cases hNew
      cases (h.unknown i fh hModifying).symm.trans hKnown
    · exact h.fresh fh' change' size hKnown c hOld

/-- The attributes are read. -/
theorem AttrInv.beginQuery (h : AttrInv s) (hApart : s.modifying.all (·.2 ≠ fh) = true) :
    AttrInv (s.beginQuery i fh) := by
  refine { h with apart := fun j k fh' hj hk => ?_ }
  rcases List.mem_cons.mp hk with hNew | hOld
  · cases hNew
    exact of_decide_eq_true (List.all_eq_true.mp hApart _ hj) rfl
  · exact h.apart j k fh' hj hOld

theorem AttrFrame.beginQuery : AttrFrame i s (s.beginQuery i fh) :=
  ⟨fun _ _ _ h => h, fun _ _ _ h => List.mem_cons_of_mem _ h, fun _ => Nat.le_refl _,
    fun _ _ => .inl⟩

theorem Queried.begin (h : AttrInv s) : Queried (s.beginQuery i fh) i fh (s.version fh) :=
  ⟨List.mem_cons_self, h.le fh⟩

variable {e : AttrEvent}

/-- **WRITE, SETATTR and the ACL.** -/
theorem modify_step {kind : ModifyKind} {phase phase' : ModifyPhase}
    (hStep : s.stepModify i kind fh phase e = some (s', phase')) (h : AttrInv s)
    (hTask : AttrTaskInv s i (.modify kind fh phase))
    (hok : (AttrTask.modify kind fh phase).apart s e = true) :
    AttrKeeps i s s' (.modify kind fh phase') := by
  cases phase with
  -- WRITE and SETATTR forget what is known of the file before they are sent; an ACL does not
  | mark =>
    cases e with
    | go =>
      obtain ⟨hQueries, hAcl⟩ := Bool.and_eq_true_iff.mp hok
      obtain ⟨hMarked, hNone⟩ := h.mark fh
      cases kind with
      | write | setattr =>
        cases hStep
        exact ⟨.beginModify, hMarked.beginModify hNone hQueries, List.mem_cons_self⟩
      | setacl =>
        cases hStep
        exact ⟨.beginModify, h.beginModify (by simpa using hAcl) hQueries, List.mem_cons_self⟩
    | _ => cases hStep
  | send refresh =>
    cases e with
    | apply => cases hStep; exact ⟨.apply, h.apply, hTask, Nat.le_refl _⟩
    | fail =>
      cases hStep
      exact ⟨⟨fun _ _ hNe hMem => mem_filter_of_ne hNe hMem, fun _ _ _ h => h,
        fun _ => Nat.le_refl _, fun _ _ => .inl⟩, h.endModify, trivial⟩
    | _ => cases hStep
  | applied change refresh =>
    obtain ⟨hModifying, hLe⟩ := hTask
    cases e with
    | complete =>
      cases hStep
      refine ⟨⟨fun _ _ hNe hMem => mem_filter_of_ne hNe hMem, fun _ _ _ h => h,
        fun _ => Nat.le_refl _, fun fh' c hc => ?_⟩, (h.complete hModifying hLe).endModify, ?_⟩
      · rcases List.mem_cons.mp hc with hNew | hOld
        · cases hNew
          exact .inr hModifying
        · exact .inl hOld
      · split <;> trivial
    | fail =>
      cases hStep
      exact ⟨⟨fun _ _ hNe hMem => mem_filter_of_ne hNe hMem, fun _ _ _ h => h,
        fun _ => Nat.le_refl _, fun _ _ => .inl⟩, h.endModify, trivial⟩
    | _ => cases hStep
  | query =>
    cases e with
    | read size =>
      cases hStep
      exact ⟨.beginQuery, h.beginQuery hok, .begin h⟩
    | fail => cases hStep; exact ⟨.refl, h, trivial⟩
    | _ => cases hStep
  -- `apart` keeps modifications away from a query, so what it has read still holds
  | publish change size =>
    cases e with
    | go =>
      cases hStep
      refine ⟨.endQuery, (h.records fun fh' record hRecord => ?_).endQuery, trivial⟩
      obtain ⟨before, hBefore, rfl | ⟨rfl, hKind, rfl⟩⟩ :=
        CallbackState.of_publishAttributes hRecord
      · exact .inl ⟨_, hBefore, rfl, rfl⟩
      · exact .inr (.inr ⟨i, change, size, rfl, hKind, hTask⟩)
    | fail => cases hStep; exact ⟨.endQuery, h.endQuery, trivial⟩
    | _ => cases hStep
  | done => cases hStep

theorem opens_step {grant : DelegationGrant} {generation : Nat} {phase phase' : GrantPhase}
    (hStep : s.stepOpen i fh grant generation phase e = some (s', phase')) (h : AttrInv s)
    (hTask : AttrTaskInv s i (.opens fh grant generation phase))
    (hok : (AttrTask.opens fh grant generation phase).apart s e = true) :
    AttrKeeps i s s' (.opens fh grant generation phase') := by
  cases phase with
  | query =>
    cases e with
    | read size =>
      obtain ⟨hWrite, hEq⟩ := Option.ite_none_right_eq_some.mp hStep
      cases hEq
      exact ⟨.beginQuery, h.beginQuery hok, hWrite, .begin h⟩
    | fail => cases hStep; exact ⟨.refl, h, trivial⟩
    | _ => cases hStep
  | register attributes =>
    cases e with
    | go =>
      cases hStep
      refine ⟨.endQuery, (h.records fun fh' record hRecord => ?_).endQuery, trivial⟩
      obtain ⟨recalling, hPut⟩ := CallbackState.lookup_registerDelegation hRecord
      rcases hPut with ⟨rfl, rfl⟩ | hOld
      · cases attributes with
        | none => exact .inr (.inl rfl)
        | some attributes =>
          exact .inr (.inr ⟨i, attributes.1, attributes.2, rfl, hTask.1, hTask.2⟩)
      · exact .inl ⟨record, hOld, rfl, rfl⟩
    | fail => cases hStep; exact ⟨.endQuery, h.endQuery, trivial⟩
    | _ => cases hStep
  | done => cases hStep

theorem AttrFrame.callback {callback : CallbackState} : AttrFrame i s (s.withCallback callback) :=
  ⟨fun _ _ _ h => h, fun _ _ _ h => h, fun _ => Nat.le_refl _, fun _ _ => .inl⟩

/-- CB_GETATTR reports what is known. -/
theorem known_of_getattr {attributes : Nat × Nat} (h : s.callback.getattr fh = .ok attributes) :
    s.known fh = some attributes := by
  simp only [CallbackState.getattr] at h
  split at h
  next record hRecord =>
    split at h
    next =>
      split at h
      next known hKnown =>
        split at h
        next =>
          cases h
          rw [AttrShared.known, hRecord]
          exact hKnown
        next => cases h
      next => cases h
    next => cases h
  next => cases h

/-- **The callback server.** It answers with known attributes, and makes none of its own. -/
theorem rest_step (hStep : s.stepRest e = some s') (h : AttrInv s) : AttrKeeps i s s' .rest := by
  cases e with
  | storeGeneration generation =>
    cases hStep
    exact ⟨.callback, h.records fun fh record hRecord => .inl ⟨record, hRecord, rfl, rfl⟩, trivial⟩
  | clear =>
    cases hStep
    exact ⟨.callback, h.records nofun, trivial⟩
  | recalled stateid truncate fh active =>
    cases hStep
    refine ⟨.callback, h.records fun fh' record hRecord => ?_, trivial⟩
    obtain ⟨before, _, hBefore, rfl⟩ := CallbackState.of_recall stateid truncate fh active hRecord
    exact .inl ⟨before, hBefore, rfl, rfl⟩
  | finishRecall n returned =>
    cases hStep
    refine ⟨.callback, h.records fun fh' record hRecord => ?_, trivial⟩
    obtain ⟨before, _, hBefore, rfl⟩ := CallbackState.of_finishRecall n returned hRecord
    exact .inl ⟨before, hBefore, rfl, rfl⟩
  | returnAll =>
    cases hStep
    refine ⟨.callback, h.records fun fh' record hRecord => ?_, trivial⟩
    obtain ⟨before, _, hBefore, rfl⟩ := CallbackState.of_returnAllDelegations hRecord
    exact .inl ⟨before, hBefore, rfl, rfl⟩
  | changes fh => cases hStep; exact ⟨.apply, h.apply, trivial⟩
  | getattr fh =>
    simp only [AttrShared.stepRest] at hStep
    split at hStep
    next change size hReport =>
      cases hStep
      refine ⟨⟨fun _ _ _ h => h, fun _ _ _ h => h, fun _ => Nat.le_refl _, fun _ _ => .inl⟩,
        { h with reports := fun r hr c hc => ?_ }, trivial⟩
      rcases List.mem_cons.mp hr with rfl | hOld
      · obtain ⟨⟨fh', c'⟩, hMem, rfl⟩ := List.mem_map.mp hc
        obtain ⟨hCompleted, hFh⟩ := List.mem_filter.mp hMem
        cases of_decide_eq_true hFh
        exact h.fresh _ change size (known_of_getattr hReport) c' hCompleted
      · exact h.reports r hOld c hc
    next => cases hStep; exact ⟨.refl, h, trivial⟩
  | _ => cases hStep

theorem attr_step {t t' : AttrTask} (h : AttrInv s) (hTask : AttrTaskInv s i t)
    (hok : t.apart s e = true) (hStep : attrProgram.step i s t e = some (s', t')) :
    AttrKeeps i s s' t' := by
  cases t with
  | modify kind fh phase =>
    obtain ⟨_, hNext, hEq⟩ := Option.map_eq_some_iff.mp hStep
    cases hEq
    exact modify_step hNext h hTask hok
  | opens fh grant generation phase =>
    obtain ⟨_, hNext, hEq⟩ := Option.map_eq_some_iff.mp hStep
    cases hEq
    exact opens_step hNext h hTask hok
  | rest =>
    obtain ⟨_, hNext, hEq⟩ := Option.map_eq_some_iff.mp hStep
    cases hEq
    exact rest_step hNext h

/-! ## The theorem -/

variable {P : TaskPool AttrShared AttrTask}

theorem QueriesApart.task {t : AttrTask} (h : QueriesApart P (.step i e))
    (ht : P.tasks[i]? = some t) : t.apart P.shared e = true := by
  rw [QueriesApart, ht] at h
  exact h

/-- **Every run** keeps the attributes fresh. -/
theorem attr_outline : Outline attrProgram QueriesApart AttrInv AttrTaskInv where
  init := by
    refine ⟨⟨nofun, nofun, nofun, nofun, nofun, nofun⟩, fun i t ht => ?_⟩
    rw [List.mem_singleton.mp (List.mem_of_getElem? ht)]
    trivial
  entry s i t _ hEntry := by
    cases t with
    | modify kind fh phase =>
      cases phase with
      | mark => trivial
      | _ => cases hEntry
    | opens fh grant generation phase =>
      cases phase with
      | query => trivial
      | _ => cases hEntry
    | rest => cases hEntry
  own P i t e s' t' hHolds hok ht hStep :=
    have hKeeps := attr_step hHolds.shared (hHolds.task i t ht) (hok.task ht) hStep
    ⟨hKeeps.inv, hKeeps.task⟩
  other P i t e s' t' j u hHolds hok ht hStep hNe hu :=
    have hKeeps := attr_step hHolds.shared (hHolds.task i t ht) (hok.task ht) hStep
    AttrTaskInv.other hHolds.shared (hHolds.task j u hu) hKeeps.frame hNe

/-- **Delegated attributes.** In every run in which the queries of a file keep apart from its
changes, what CB_GETATTR reports was read from the server after every WRITE and SETATTR of the file
that had completed when the reply was built. -/
theorem reported_fresh (h : attrProgram.machine.ReachableIf QueriesApart P) {r : AttrReport}
    (hr : r ∈ P.shared.reports) {c : Nat} (hc : c ∈ r.completed) : c ≤ r.change :=
  (attr_outline.holds h).shared.reports r hr c hc

end outline

/-! ## Runs -/

/-- OPEN is granted a write delegation, asks for the attributes and registers both. -/
def delegated : List (TaskEvent AttrTask AttrEvent) :=
  [.step 0 (.storeGeneration 1), .spawn (.opens [7] ⟨.write, [1], false⟩ 1 .query),
    .step 1 (.read 10), .step 1 .go]

/-- WRITE `i` completes. -/
def written (i : Nat) : List (TaskEvent AttrTask AttrEvent) :=
  [.spawn (.modify .write [7] .mark), .step i .go, .step i .apply, .step i .complete]

def asked : List (TaskEvent AttrTask AttrEvent) := [.step 0 (.getattr [7])]

/-- A WRITE with its refresh. -/
def refreshed : List (TaskEvent AttrTask AttrEvent) :=
  delegated ++ asked ++ written 2 ++ asked ++ [.step 2 (.read 20), .step 2 .go] ++ asked

theorem reported_fresh_refreshed :
    ∃ P, attrProgram.machine.ReachableIf QueriesApart P ∧
      P.shared.reports = [⟨[7], 1, 20, [1]⟩, ⟨[7], 0, 10, []⟩] ∧
      ∀ r ∈ P.shared.reports, ∀ c ∈ r.completed, c ≤ r.change :=
  have hInit : attrProgram.machine.ReachableIf QueriesApart _ := .init
  have hReach := Machine.reachableIf_of_runChecked refreshed hInit rfl
  ⟨_, hReach, rfl, fun _ hr _ hc => reported_fresh hReach hr hc⟩

/-- The refresh of the first WRITE publishes behind that of the second one. -/
def olderRefresh : List (TaskEvent AttrTask AttrEvent) :=
  delegated ++ written 2 ++ [.step 2 (.read 20)] ++ written 3 ++
    [.step 3 (.read 30), .step 3 .go, .step 2 .go] ++ asked

/-- It publishes while the second WRITE is under way. -/
def refreshBetween : List (TaskEvent AttrTask AttrEvent) :=
  delegated ++ written 2 ++ [.step 2 (.read 20), .spawn (.modify .write [7] .mark), .step 3 .go,
    .step 2 .go, .step 3 .apply, .step 3 .complete] ++ asked

/-- A WRITE completes between the query and the registration of OPEN. -/
def writtenBeforeRegistration : List (TaskEvent AttrTask AttrEvent) :=
  [.step 0 (.storeGeneration 1), .spawn (.opens [7] ⟨.write, [1], false⟩ 1 .query),
    .step 1 (.read 10)] ++ written 2 ++ [.step 1 .go] ++ asked

/-- An ACL is set. -/
def aclSet : List (TaskEvent AttrTask AttrEvent) :=
  delegated ++ [.spawn (.modify .setacl [7] .mark), .step 2 .go, .step 2 .apply,
    .step 2 .complete] ++ asked

/-- **Attributes from before a completed change.** CB_GETATTR reports what was read before a WRITE
or SETATTR that has completed: an older refresh publishes last, or while a WRITE is under way, OPEN
registers what it read before a WRITE, or an ACL was set. -/
theorem reported_stale :
    (∃ P, attrProgram.machine.Reachable P ∧ P.shared.reports = [⟨[7], 1, 20, [2, 1]⟩] ∧
      P.tasks[2]? = some (.modify .write [7] .done) ∧
        P.tasks[3]? = some (.modify .write [7] .done)) ∧
    (∃ P, attrProgram.machine.Reachable P ∧ P.shared.reports = [⟨[7], 1, 20, [2, 1]⟩] ∧
      P.tasks[2]? = some (.modify .write [7] .done)) ∧
    (∃ P, attrProgram.machine.Reachable P ∧ P.shared.reports = [⟨[7], 0, 10, [1]⟩] ∧
      P.tasks[2]? = some (.modify .write [7] .done)) ∧
    ∃ P, attrProgram.machine.Reachable P ∧ P.shared.reports = [⟨[7], 0, 10, [1]⟩] ∧
      P.tasks[2]? = some (.modify .setacl [7] .done) :=
  ⟨⟨_, Machine.reachable_of_runFrom olderRefresh rfl, rfl, rfl, rfl⟩,
    ⟨_, Machine.reachable_of_runFrom refreshBetween rfl, rfl, rfl⟩,
    ⟨_, Machine.reachable_of_runFrom writtenBeforeRegistration rfl, rfl, rfl⟩,
    ⟨_, Machine.reachable_of_runFrom aclSet rfl, rfl, rfl⟩⟩

end NfsRs.Nfs40
