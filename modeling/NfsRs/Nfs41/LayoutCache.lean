import Mathlib.Data.List.Sort
import NfsRs.Lib.List
import NfsRs.Nfs41.PnfsIo

/-!
# NfsRs — the layout cache of one file

Reads and writes of a file take their layout from one cache, through `get_or_fetch_layout`:
a look into the cache, a fetch gate that lets one LAYOUTGET per generation run, a second look,
the LAYOUTGET, and a merge of what it grants with the segments that are there. A look asks for
a segment over the offset and not for an I/O mode.

This module has the cache with its segments, and every call of `get_or_fetch_layout` on one
file as one labelled machine, with what else touches the cache: recalls and returns of the
layout, the refresh after a rejected write, the SEQUENCE status flags, and session recovery. A
label is one stretch of code between two awaits. The machine records the WRITEs that
`pnfs_write` sends, each with the segment that it was cut from (`sent`).

## Main results

- `mem_mergeSegments` : what a merge leaves.
- `layoutMove_of_step` : what a label can do.
- `layoutInv_step` : generations only grow, and a fetch gate has one holder.
-/

namespace NfsRs.Nfs41

/-! ## The cache -/

/-- `retain`, `append` and `sort_by_key` of `merge_layout`; the sort is stable. -/
def mergeSegments (current update : List LayoutSegment) : List LayoutSegment :=
  ((current.filter fun old => !update.any fun new => old.overlaps new) ++ update).insertionSort
    fun a b => a.offset ≤ b.offset

/-- The new segments replace the old ones that they overlap. -/
theorem mem_mergeSegments {current update : List LayoutSegment} {segment : LayoutSegment} :
    segment ∈ mergeSegments current update ↔
      (segment ∈ current ∧ ∀ new ∈ update, segment.overlaps new = false) ∨ segment ∈ update := by
  simp [mergeSegments]

/-- The layout under one file handle, and the active generation. -/
structure LayoutCache where
  activeGeneration : Nat
  layout : Option MappedLayout
  deriving DecidableEq, Repr

namespace LayoutCache

variable (m : LayoutCache)

def getLayout : Option MappedLayout :=
  m.layout.filter fun l => l.generation == m.activeGeneration

/-- A cached layout, when one of its segments covers the offset. -/
def getLayoutCovering (offset : Nat) : Option MappedLayout :=
  m.getLayout.filter fun l => l.segments.any fun segment => segment.covers offset

def storeLayoutAt (generation : Nat) (layout : MappedLayout) : Bool × LayoutCache :=
  if generation ≠ m.activeGeneration then (false, m)
  else (true, { m with layout := some { layout with generation := generation } })

def mergeLayout (update : MappedLayout) : LayoutCache :=
  if update.generation ≠ m.activeGeneration then m
  else match m.layout with
    | none => { m with layout := some update }
    | some current =>
        { m with layout := some { current with
            segments := mergeSegments current.segments update.segments
            stateid := update.stateid
            returnOnClose := current.returnOnClose || update.returnOnClose } }

def removeLayout : LayoutCache := { m with layout := none }

/-- The server's stateid stays, the byte mapping goes. -/
def invalidateLayoutSegments : LayoutCache :=
  { m with layout := m.layout.map fun l => { l with segments := [] } }

/-- The fence of `transition_to`. -/
def fence (generation : Nat) : LayoutCache := { m with activeGeneration := generation }

/-- The entry of the file in `clear`, and in the cleanup of `transition_to`. -/
def clear : LayoutCache := { m with layout := none }

variable {m}

theorem getLayout_eq_some {layout : MappedLayout} (h : m.getLayout = some layout) :
    m.layout = some layout ∧ layout.generation = m.activeGeneration := by
  obtain ⟨hLayout, hGen⟩ := Option.filter_eq_some_iff.mp h
  exact ⟨hLayout, by simpa using hGen⟩

/-- A merge of another generation changes nothing. -/
theorem mergeLayout_of_stale {update : MappedLayout}
    (h : update.generation ≠ m.activeGeneration) : m.mergeLayout update = m :=
  if_pos h

@[simp]
theorem mergeLayout_activeGeneration (update : MappedLayout) :
    (m.mergeLayout update).activeGeneration = m.activeGeneration := by
  unfold mergeLayout
  split
  · rfl
  · split <;> rfl

end LayoutCache

/-! ## Calls -/

/-- What a fetch has read before it waits: the generation, and then the key of its gate. -/
structure Ticket where
  generation : Nat
  gate : Nat
  deriving DecidableEq, Repr

/-- Where `get_or_fetch_layout` stands. -/
inductive FetchPhase where
  /-- The first look into the cache comes next. -/
  | lookup
  /-- Nothing covers the offset. The generation is read next. -/
  | missed
  /-- The gate is taken from the table next. -/
  | gate (generation : Nat)
  | waiting (t : Ticket)
  /-- Under the gate: the generation is compared next. -/
  | locked (t : Ticket)
  /-- The second look comes next. -/
  | relookup (t : Ticket)
  | request (t : Ticket)
  /-- LAYOUTGET is out, and a layout was cached when it was built. -/
  | asking (t : Ticket) (cached : Bool)
  | merged (t : Ticket)
  | devices (t : Ticket)
  /-- The layout to return is read next. -/
  | final (t : Ticket)
  | found (layout : MappedLayout)
  | ended
  deriving DecidableEq, Repr

/-- The ticket of a call that has its gate locked. -/
def FetchPhase.held? : FetchPhase → Option Ticket
  | .locked t | .relookup t | .request t | .asking t _ | .merged t | .devices t | .final t => some t
  | _ => none

/-- A call by `pnfs_read` or `pnfs_write`, which has the shared file gate until it ends. -/
structure LayoutCall where
  iomode : IoMode
  offset : Nat
  phase : FetchPhase
  deriving DecidableEq, Repr

/-- A WRITE to a data server, and the segment that it was cut from. -/
structure SentWrite where
  segment : LayoutSegment
  write : PlannedDsWrite

/-- The WRITEs that `pnfs_write` sends with a layout. -/
def sendWrites (env : WriteEnv) (fh : FileHandle) (layout : MappedLayout) (offset : Nat)
    (data : List UInt8) : List SentWrite :=
  match findCoveringSegment layout offset,
      planWrite { env with layout := .ok (some layout) } fh offset data with
  | some segment, .issued batch => batch.stripes.map fun stripe => ⟨segment, stripe.write⟩
  | _, _ => []

structure LayoutCalls where
  cache : LayoutCache
  /-- Generation of the published session. -/
  session : Nat
  /-- A recovery has published the fence and not yet emptied the caches. -/
  sweeping : Bool
  calls : List LayoutCall
  sent : List SentWrite

inductive LayoutEvent where
  | start (iomode : IoMode) (offset : Nat)
  /-- The next stretch of a call, up to its next await. -/
  | advance (i : Nat)
  /-- LAYOUTGET returns: the result of its operation, if it has one. The COMPOUND requires the
  session of the generation that the call has read. -/
  | answered (i : Nat) (reply : Option (List UInt8))
  | devicesFetched (i : Nat) (ok : Bool)
  /-- A write with a layout plans and sends its WRITEs. -/
  | write (i : Nat) (env : WriteEnv) (data : List UInt8)
  /-- The call ends: without pNFS, after its I/O, or dropped. -/
  | finish (i : Nat)
  /-- A recall or a LAYOUTRETURN took the layout. -/
  | returned
  /-- `refresh_rejected_layout`. -/
  | refreshed
  /-- Status flags of a SEQUENCE empty the cache. -/
  | revoked
  | fence
  | sweep
  | publish

namespace LayoutCalls

/-- A mounted file system; the first session has generation 1. -/
def initial : LayoutCalls where
  cache := { activeGeneration := 1, layout := none }
  session := 1
  sweeping := false
  calls := []
  sent := []

variable (s : LayoutCalls)

def setPhase (i : Nat) (c : LayoutCall) (phase : FetchPhase) : LayoutCalls :=
  { s with calls := s.calls.set i { c with phase := phase } }

def gateFree (gate : Nat) : Bool :=
  s.calls.all fun c => c.phase.held?.all fun t => t.gate != gate

/-- No call has the shared file gate. -/
def idle : Bool := s.calls.all fun c => decide (c.phase = .ended)

/-- The stretches of a call that read the cache and the generation. -/
def advance (c : LayoutCall) : Option FetchPhase :=
  match c.phase with
  | .lookup =>
      match s.cache.getLayoutCovering c.offset with
      | some layout => some (.found layout)
      | none => some .missed
  | .missed => some (.gate s.cache.activeGeneration)
  | .gate generation => some (.waiting ⟨generation, s.cache.activeGeneration⟩)
  | .waiting t => if s.gateFree t.gate then some (.locked t) else none
  | .locked t => if t.generation ≠ s.cache.activeGeneration then some .ended else some (.relookup t)
  | .relookup t =>
      match s.cache.getLayoutCovering c.offset with
      | some layout => some (.found layout)
      | none => some (.request t)
  | .request t => some (.asking t s.cache.getLayout.isSome)
  | .merged t => if s.cache.getLayout.isSome then some (.devices t) else some .ended
  | .final _ =>
      match s.cache.getLayout with
      | some layout => some (.found layout)
      | none => some .ended
  | _ => none

/-- The layout of a LAYOUTGET result, if it decodes. -/
def granted (reply : Option (List UInt8)) : Option MappedLayout :=
  reply.bind fun bytes => (decodeLayoutgetResponse bytes).toOption

/-- LAYOUTGET returns. -/
def answered (i : Nat) (c : LayoutCall) (t : Ticket) (cached : Bool) :
    Option MappedLayout → LayoutCalls
  | none => s.setPhase i c .ended
  | some layout =>
      if cached then
        { s with cache := s.cache.mergeLayout { layout with generation := t.generation } }.setPhase
          i c (.merged t)
      else
        match s.cache.storeLayoutAt t.generation layout with
        | (true, cache) => { s with cache := cache }.setPhase i c (.devices t)
        | (false, _) => s.setPhase i c .ended

/-- A label of one call. -/
def callStep (fh : FileHandle) (i : Nat) (c : LayoutCall) : LayoutEvent → Option LayoutCalls
  | .advance _ => (s.advance c).map (s.setPhase i c)
  | .answered _ reply =>
      match c.phase with
      | .asking t cached =>
          -- no session of a later generation has been asked
          if reply.isNone ∨ t.generation ≤ s.session then
            some (s.answered i c t cached (granted reply))
          else none
      | _ => none
  | .devicesFetched _ ok =>
      match c.phase with
      | .devices t => some (s.setPhase i c (if ok then .final t else .ended))
      | _ => none
  | .write _ env data =>
      match c.iomode, c.phase with
      | .readWrite, .found layout =>
          some ({ s with
            sent := s.sent ++ sendWrites env fh layout c.offset data }.setPhase i c .ended)
      | _, _ => none
  | .finish _ => some (s.setPhase i c .ended)
  | _ => none

def step (fh : FileHandle) (ev : LayoutEvent) : Option LayoutCalls :=
  match ev with
  | .start iomode offset => some { s with calls := s.calls ++ [⟨iomode, offset, .lookup⟩] }
  | .returned => if s.idle then some { s with cache := s.cache.removeLayout } else none
  | .refreshed =>
      if s.idle then some { s with cache := s.cache.invalidateLayoutSegments } else none
  | .revoked => some { s with cache := s.cache.clear }
  | .fence => some { s with cache := s.cache.fence (s.session + 1), sweeping := true }
  | .sweep => if s.sweeping then some { s with cache := s.cache.clear, sweeping := false } else none
  | .publish =>
      if !s.sweeping ∧ s.cache.activeGeneration = s.session + 1 then
        some { s with session := s.session + 1 }
      else none
  | .advance i | .answered i _ | .devicesFetched i _ | .write i _ _ | .finish i =>
      s.calls[i]?.bind fun c => s.callStep fh i c ev

end LayoutCalls

/-- The machine of one file's layouts. -/
def layoutMachine (fh : FileHandle) : Lib.Machine LayoutCalls LayoutEvent where
  init := .initial
  step s ev := s.step fh ev

/-! ## What a label does -/

/-- The phases that a call can come to without a change of the cache. -/
inductive PhaseMove (s : LayoutCalls) (c : LayoutCall) : FetchPhase → Prop
  | found (hPhase : c.phase = .lookup ∨ ∃ t, c.phase = .relookup t) (layout : MappedLayout)
      (hFound : s.cache.getLayoutCovering c.offset = some layout) : PhaseMove s c (.found layout)
  | missed : PhaseMove s c .missed
  | generation : PhaseMove s c (.gate s.cache.activeGeneration)
  | gate (generation : Nat) (hPhase : c.phase = .gate generation) :
      PhaseMove s c (.waiting ⟨generation, s.cache.activeGeneration⟩)
  | lock (t : Ticket) (hPhase : c.phase = .waiting t) (hFree : s.gateFree t.gate = true) :
      PhaseMove s c (.locked t)
  | current (t : Ticket) (hPhase : c.phase = .locked t)
      (hGen : t.generation = s.cache.activeGeneration) : PhaseMove s c (.relookup t)
  | missedAgain (t : Ticket) (hPhase : c.phase = .relookup t)
      (hNone : s.cache.getLayoutCovering c.offset = none) : PhaseMove s c (.request t)
  | request (t : Ticket) (hPhase : c.phase = .request t) :
      PhaseMove s c (.asking t s.cache.getLayout.isSome)
  | accepted (t : Ticket) (hPhase : c.phase = .merged t) : PhaseMove s c (.devices t)
  | final (t : Ticket) (hPhase : c.phase = .final t) (layout : MappedLayout)
      (hLayout : s.cache.getLayout = some layout) : PhaseMove s c (.found layout)
  | refused : PhaseMove s c .ended

variable {phase : FetchPhase} {s : LayoutCalls}

/-- **Inversion** of the steps of a call that need no reply. -/
theorem phaseMove_of_advance {c : LayoutCall} (h : s.advance c = some phase) :
    PhaseMove s c phase := by
  unfold LayoutCalls.advance at h
  split at h
  next hPhase =>
    split at h
    next layout hFound => cases h; exact .found (.inl hPhase) layout hFound
    next => cases h; exact .missed
  next => cases h; exact .generation
  next hPhase => cases h; exact .gate _ hPhase
  next hPhase =>
    split at h
    next hFree => cases h; exact .lock _ hPhase hFree
    next => cases h
  next hPhase =>
    split at h
    next => cases h; exact .refused
    next hGen => cases h; exact .current _ hPhase (Decidable.not_not.mp hGen)
  next t hPhase =>
    split at h
    next layout hFound => cases h; exact .found (.inr ⟨t, hPhase⟩) layout hFound
    next hNone => cases h; exact .missedAgain t hPhase hNone
  next hPhase => cases h; exact .request _ hPhase
  next hPhase =>
    split at h
    next => cases h; exact .accepted _ hPhase
    next => cases h; exact .refused
  next t hPhase =>
    split at h
    next layout hLayout => cases h; exact .final t hPhase layout hLayout
    next => cases h; exact .refused
  next => cases h

/-- The moves of the machine: each label with its guards and the state it leads to. -/
inductive LayoutMove (fh : FileHandle) (s : LayoutCalls) : LayoutEvent → LayoutCalls → Prop
  | start (iomode : IoMode) (offset : Nat) :
      LayoutMove fh s (.start iomode offset)
        { s with calls := s.calls ++ [⟨iomode, offset, .lookup⟩] }
  | advance (i : Nat) (c : LayoutCall) (phase : FetchPhase) (hCall : s.calls[i]? = some c)
      (hMove : PhaseMove s c phase) : LayoutMove fh s (.advance i) (s.setPhase i c phase)
  /-- The granted segments join the cached ones. -/
  | merged (i : Nat) (reply : Option (List UInt8)) (c : LayoutCall) (t : Ticket)
      (layout : MappedLayout) (hCall : s.calls[i]? = some c) (hPhase : c.phase = .asking t true)
      (hGranted : LayoutCalls.granted reply = some layout) (hSession : t.generation ≤ s.session) :
      LayoutMove fh s (.answered i reply) ({ s with
        cache := s.cache.mergeLayout { layout with generation := t.generation } }.setPhase
          i c (.merged t))
  /-- The granted layout becomes the cached one. -/
  | stored (i : Nat) (reply : Option (List UInt8)) (c : LayoutCall) (t : Ticket)
      (layout : MappedLayout) (hCall : s.calls[i]? = some c) (hPhase : c.phase = .asking t false)
      (hGranted : LayoutCalls.granted reply = some layout) (hSession : t.generation ≤ s.session)
      (hGen : t.generation = s.cache.activeGeneration) :
      LayoutMove fh s (.answered i reply) ({ s with
        cache := { s.cache with
          layout := some { layout with generation := t.generation } } }.setPhase i c (.devices t))
  | devices (i : Nat) (ok : Bool) (c : LayoutCall) (t : Ticket) (hCall : s.calls[i]? = some c)
      (hPhase : c.phase = .devices t) :
      LayoutMove fh s (.devicesFetched i ok) (s.setPhase i c (.final t))
  | write (i : Nat) (env : WriteEnv) (data : List UInt8) (c : LayoutCall) (layout : MappedLayout)
      (hCall : s.calls[i]? = some c) (hMode : c.iomode = .readWrite)
      (hPhase : c.phase = .found layout) :
      LayoutMove fh s (.write i env data) ({ s with
        sent := s.sent ++ sendWrites env fh layout c.offset data }.setPhase i c .ended)
  | ended (ev : LayoutEvent) (i : Nat) (c : LayoutCall) (hCall : s.calls[i]? = some c) :
      LayoutMove fh s ev (s.setPhase i c .ended)
  | returned : LayoutMove fh s .returned { s with cache := s.cache.removeLayout }
  | revoked : LayoutMove fh s .revoked { s with cache := s.cache.clear }
  | refreshed : LayoutMove fh s .refreshed { s with cache := s.cache.invalidateLayoutSegments }
  | fence : LayoutMove fh s .fence
      { s with cache := s.cache.fence (s.session + 1), sweeping := true }
  | sweep (hSweeping : s.sweeping = true) :
      LayoutMove fh s .sweep { s with cache := s.cache.clear, sweeping := false }
  | publish (hSwept : s.sweeping = false) (hNext : s.cache.activeGeneration = s.session + 1) :
      LayoutMove fh s .publish { s with session := s.session + 1 }

section moves

variable {fh : FileHandle} {s s' : LayoutCalls} {ev : LayoutEvent}

/-- **Inversion** of the answer to LAYOUTGET. -/
theorem layoutMove_of_answered {i : Nat} {reply : Option (List UInt8)} {c : LayoutCall}
    {t : Ticket} {cached : Bool} (hCall : s.calls[i]? = some c)
    (hPhase : c.phase = .asking t cached) (hGuard : reply.isNone ∨ t.generation ≤ s.session) :
    LayoutMove fh s (.answered i reply)
      (s.answered i c t cached (LayoutCalls.granted reply)) := by
  unfold LayoutCalls.answered
  split
  next => exact .ended _ i c hCall
  next layout hGranted =>
    have hSession : t.generation ≤ s.session := by
      refine hGuard.resolve_left fun hNone => ?_
      rw [Option.isNone_iff_eq_none.mp hNone] at hGranted
      cases hGranted
    split
    next hCached =>
      rw [hCached] at hPhase
      exact .merged i reply c t layout hCall hPhase hGranted hSession
    next hCached =>
      rw [Bool.not_eq_true] at hCached
      rw [hCached] at hPhase
      unfold LayoutCache.storeLayoutAt
      by_cases hGen : t.generation = s.cache.activeGeneration
      · rw [if_neg (not_not.mpr hGen)]
        exact .stored i reply c t layout hCall hPhase hGranted hSession hGen
      · rw [if_pos hGen]
        exact .ended _ i c hCall

theorem layoutMove_of_callStep {i : Nat} {c : LayoutCall} (hCall : s.calls[i]? = some c)
    (hEvent : ev = .advance i ∨ (∃ reply, ev = .answered i reply) ∨
      (∃ ok, ev = .devicesFetched i ok) ∨ (∃ env data, ev = .write i env data) ∨ ev = .finish i)
    (h : s.callStep fh i c ev = some s') : LayoutMove fh s ev s' := by
  obtain rfl | ⟨reply, rfl⟩ | ⟨ok, rfl⟩ | ⟨env, data, rfl⟩ | rfl := hEvent
  · obtain ⟨phase, hPhase, rfl⟩ := Option.map_eq_some_iff.mp h
    exact .advance i c phase hCall (phaseMove_of_advance hPhase)
  · simp only [LayoutCalls.callStep] at h
    split at h
    next t cached hPhase =>
      split at h
      next hGuard => cases h; exact layoutMove_of_answered hCall hPhase hGuard
      next => cases h
    next => cases h
  · simp only [LayoutCalls.callStep] at h
    split at h
    next t hPhase =>
      cases h
      cases ok with
      | true => exact .devices i _ c t hCall hPhase
      | false => exact .ended _ i c hCall
    next => cases h
  · simp only [LayoutCalls.callStep] at h
    split at h
    next layout hMode hPhase =>
      cases h
      exact .write i env data c layout hCall hMode hPhase
    next => cases h
  · cases h
    exact .ended _ i c hCall

/-- **What a label does.** -/
theorem layoutMove_of_step (h : s.step fh ev = some s') : LayoutMove fh s ev s' := by
  unfold LayoutCalls.step at h
  split at h
  next => cases h; exact .start _ _
  next =>
    split at h
    next => cases h; exact .returned
    next => cases h
  next =>
    split at h
    next => cases h; exact .refreshed
    next => cases h
  next => cases h; exact .revoked
  next => cases h; exact .fence
  next =>
    split at h
    next hSweeping => cases h; exact .sweep hSweeping
    next => cases h
  next =>
    split at h
    next hGuard => cases h; exact .publish (by simpa using hGuard.1) hGuard.2
    next => cases h
  all_goals
    obtain ⟨c, hCall, hStep⟩ := Option.bind_eq_some_iff.mp h
    exact layoutMove_of_callStep hCall (by simp) hStep

end moves

/-! ## Generations and gates -/

/-- What a call has read lies in order, and under the gate it has been compared. -/
def FetchPhase.Fits (active : Nat) : FetchPhase → Prop
  | .gate generation => generation ≤ active
  | .waiting t | .locked t => t.generation ≤ t.gate ∧ t.gate ≤ active
  | .relookup t | .request t | .asking t _ | .merged t | .devices t | .final t =>
      t.gate = t.generation ∧ t.gate ≤ active
  | .lookup | .missed | .found _ | .ended => True

theorem FetchPhase.Fits.mono {active active' : Nat} (h : phase.Fits active)
    (hLe : active ≤ active') : phase.Fits active' := by
  cases phase with
  | gate => exact Nat.le_trans h hLe
  | waiting | locked | relookup | request | asking | merged | devices | final =>
    exact ⟨h.1, Nat.le_trans h.2 hLe⟩
  | lookup | missed | found | ended => trivial

/-- The ticket of a call that asks for a layout, or has asked. -/
def FetchPhase.asked? : FetchPhase → Option Ticket
  | .request t | .asking t _ | .merged t | .devices t | .final t => some t
  | _ => none

/-- Such a call has its gate, and the gate is that of its generation. -/
theorem FetchPhase.Fits.of_asked {active : Nat} {t : Ticket} (h : phase.Fits active)
    (hAsked : phase.asked? = some t) :
    phase.held? = some t ∧ t.gate = t.generation ∧ t.generation ≤ active := by
  cases phase with
  | request | asking | merged | devices | final =>
    obtain rfl := Option.some.inj hAsked
    have hGate := h.1
    exact ⟨rfl, hGate, hGate ▸ h.2⟩
  | lookup | missed | gate | waiting | locked | relookup | found | ended => cases hAsked

/-- One call holds a gate at a time. -/
def ExclusiveGates (calls : List LayoutCall) : Prop :=
  ∀ (i j : Nat) (c c' : LayoutCall) (t t' : Ticket), calls[i]? = some c → calls[j]? = some c' →
    c.phase.held? = some t → c'.phase.held? = some t' → t.gate = t'.gate → i = j

/-- A call that comes to a gate finds it free. -/
theorem exclusiveGates_set {i : Nat} {c : LayoutCall} (h : ExclusiveGates s.calls)
    (hCall : s.calls[i]? = some c)
    (hGate : ∀ t, phase.held? = some t → c.phase.held? = some t ∨ s.gateFree t.gate = true) :
    ExclusiveGates (s.setPhase i c phase).calls := by
  have hOther : ∀ j c' t t', j ≠ i → s.calls[j]? = some c' → phase.held? = some t →
      c'.phase.held? = some t' → t.gate ≠ t'.gate := by
    intro j c' t t' hNe hj ht ht' hEq
    rcases hGate t ht with hOld | hFree
    · exact hNe (h i j c c' t t' hCall hj hOld ht' hEq).symm
    · have hAll := List.all_eq_true.mp hFree c' (List.mem_of_getElem? hj)
      rw [ht', Option.all_some, bne_iff_ne] at hAll
      exact hAll hEq.symm
  intro j k cj ck tj tk hj hk htj htk hEq
  rcases Lib.of_getElem?_set hj with ⟨hji, rfl⟩ | ⟨hji, hjOld⟩ <;>
    rcases Lib.of_getElem?_set hk with ⟨hki, rfl⟩ | ⟨hki, hkOld⟩
  · exact hji.trans hki.symm
  · exact absurd hEq (hOther k ck tj tk hki hkOld htj htk)
  · exact absurd hEq.symm (hOther j cj tk tj hji hjOld htk htj)
  · exact h j k cj ck tj tk hjOld hkOld htj htk hEq

/-- Generations and gates, in every run. -/
structure LayoutInv (s : LayoutCalls) : Prop where
  activeLe : s.cache.activeGeneration ≤ s.session + 1
  fits : ∀ c ∈ s.calls, c.phase.Fits s.cache.activeGeneration
  exclusive : ExclusiveGates s.calls

section layoutInv

variable {fh : FileHandle} {s s' : LayoutCalls} {ev : LayoutEvent}

theorem layoutInv_init : LayoutInv LayoutCalls.initial where
  activeLe := Nat.le_succ 1
  fits _ hc := nomatch hc
  exclusive _ _ _ _ _ _ hj := nomatch hj

variable {c : LayoutCall}

/-- The phase of one call changes, the cache in its layout only. -/
theorem LayoutInv.setPhase (h : LayoutInv s) {i : Nat} (phase : FetchPhase)
    (hCall : s.calls[i]? = some c) (hFits : phase.Fits s.cache.activeGeneration)
    (hGate : ∀ t, phase.held? = some t → c.phase.held? = some t ∨ s.gateFree t.gate = true)
    {cache : LayoutCache} (hActive : cache.activeGeneration = s.cache.activeGeneration)
    (sent : List SentWrite) :
    LayoutInv ({ s with cache := cache, sent := sent }.setPhase i c phase) where
  activeLe := by
    show cache.activeGeneration ≤ s.session + 1
    rw [hActive]
    exact h.activeLe
  fits := by
    show ∀ d ∈ s.calls.set i _, d.phase.Fits cache.activeGeneration
    rw [hActive]
    exact Lib.forall_mem_set h.fits hFits
  exclusive := exclusiveGates_set (s := s) h.exclusive hCall hGate

theorem PhaseMove.fits {phase : FetchPhase} (hMove : PhaseMove s c phase)
    (h : c.phase.Fits s.cache.activeGeneration) : phase.Fits s.cache.activeGeneration := by
  cases hMove with
  | found | missed | final | refused => trivial
  | generation => exact Nat.le_refl _
  | gate generation hPhase =>
    rw [hPhase] at h
    exact ⟨h, Nat.le_refl _⟩
  | lock t hPhase =>
    rw [hPhase] at h
    exact h
  | current t hPhase hGen =>
    rw [hPhase] at h
    obtain ⟨hLow, hHigh⟩ := h
    exact ⟨by omega, hHigh⟩
  | missedAgain t hPhase | request t hPhase | accepted t hPhase =>
    rw [hPhase] at h
    exact h

theorem PhaseMove.gate_kept {phase : FetchPhase} (hMove : PhaseMove s c phase) (t : Ticket)
    (hHeld : phase.held? = some t) : c.phase.held? = some t ∨ s.gateFree t.gate = true := by
  cases hMove with
  | found | missed | generation | gate | final | refused => cases hHeld
  | lock t' hPhase hFree =>
    obtain rfl := Option.some.inj hHeld
    exact .inr hFree
  | current t' hPhase | missedAgain t' hPhase | request t' hPhase | accepted t' hPhase =>
    rw [hPhase]
    exact .inl hHeld

/-- Every step keeps generations and gates in order. -/
theorem layoutInv_step (h : LayoutInv s) (hMove : LayoutMove fh s ev s') : LayoutInv s' := by
  cases hMove with
  | start iomode offset =>
    refine ⟨h.activeLe, Lib.forall_mem_concat h.fits trivial, ?_⟩
    intro j k cj ck tj tk hj hk htj htk hEq
    -- the new call holds nothing
    have hOld : ∀ (n : Nat) (cn : LayoutCall) (tn : Ticket),
        (s.calls ++ [⟨iomode, offset, .lookup⟩])[n]? = some cn →
        cn.phase.held? = some tn → s.calls[n]? = some cn := by
      intro n cn tn hn htn
      rcases Lib.of_getElem?_concat hn with hOld | ⟨-, rfl⟩
      · exact hOld
      · cases htn
    exact h.exclusive j k cj ck tj tk (hOld j cj tj hj htj) (hOld k ck tk hk htk) htj htk hEq
  | advance i c phase hCall hPhase =>
    have hFits := hPhase.fits (h.fits c (List.mem_of_getElem? hCall))
    exact h.setPhase phase hCall hFits hPhase.gate_kept rfl s.sent
  | merged i reply c t layout hCall hPhase =>
    have hFits := h.fits c (List.mem_of_getElem? hCall)
    rw [hPhase] at hFits
    exact h.setPhase (.merged t) hCall hFits (fun _ ht => .inl (hPhase ▸ ht))
      (LayoutCache.mergeLayout_activeGeneration _) s.sent
  | stored i reply c t layout hCall hPhase =>
    have hFits := h.fits c (List.mem_of_getElem? hCall)
    rw [hPhase] at hFits
    exact h.setPhase (.devices t) hCall hFits (fun _ ht => .inl (hPhase ▸ ht)) (by rfl) s.sent
  | devices i ok c t hCall hPhase =>
    have hFits := h.fits c (List.mem_of_getElem? hCall)
    rw [hPhase] at hFits
    exact h.setPhase (.final t) hCall hFits (fun _ ht => .inl (hPhase ▸ ht)) rfl s.sent
  | write i env data c layout hCall => exact h.setPhase .ended hCall trivial nofun rfl _
  | ended _ i c hCall => exact h.setPhase .ended hCall trivial nofun rfl s.sent
  | returned | revoked | refreshed | sweep => exact ⟨h.activeLe, h.fits, h.exclusive⟩
  | fence =>
    exact ⟨Nat.le_refl _, fun c hc => (h.fits c hc).mono h.activeLe, h.exclusive⟩
  | publish => exact ⟨Nat.le_succ_of_le h.activeLe, h.fits, h.exclusive⟩

/-- While a call asks in the active generation, no other one does. -/
theorem LayoutInv.not_asked (h : LayoutInv s) {i j : Nat} {d : LayoutCall} {t t' : Ticket}
    (hCall : s.calls[i]? = some c) (hAsked : c.phase.asked? = some t)
    (hGen : t.generation = s.cache.activeGeneration) (hNe : j ≠ i) (hOther : s.calls[j]? = some d)
    (hAsked' : d.phase.asked? = some t') : t'.generation ≠ s.cache.activeGeneration := by
  intro hGen'
  obtain ⟨hHeld, hGate, -⟩ := (h.fits c (List.mem_of_getElem? hCall)).of_asked hAsked
  obtain ⟨hHeld', hGate', -⟩ := (h.fits d (List.mem_of_getElem? hOther)).of_asked hAsked'
  exact hNe (h.exclusive j i d c t' t hOther hCall hHeld' hHeld (by omega))

end layoutInv

theorem layoutInv_of_reachable {fh : FileHandle} {ok : LayoutCalls → LayoutEvent → Prop}
    (h : (layoutMachine fh).ReachableIf ok s) : LayoutInv s :=
  h.invariant layoutInv_init fun _ _ _ _ _ hstep hInv =>
    layoutInv_step hInv (layoutMove_of_step hstep)

end NfsRs.Nfs41
