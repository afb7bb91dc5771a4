import NfsRs.Lib.List
import NfsRs.Rpc.Admission
import NfsRs.Rpc.Traffic

/-!
# NfsRs — a new connection is rebound before it carries traffic

An NFSv4.1 connection must be bound to its session before ordinary requests go out on it.
`StreamMux::reconnect` installs the new write half, runs the reconnect handler and publishes
readiness after the handler returned `Ok`; ordinary requests wait for readiness.

The wait is not tied to the write. A request that has seen readiness and then waits for the
writer lock gets the lock after a reconnect has put a new connection behind it, and writes
its frame there while the handler still runs.

## Main results

- `connInv_step` : where the installed connection stands in each phase of a reconnect.
- `rebound_before_traffic` : when no ordinary request stands between its readiness check and
  the writer lock at the moment of a swap, every ordinary frame goes to a connection whose
  handler has returned `Ok`; readiness is published only for such a connection, and a
  handler runs at most once on each connection.
- `frame_before_rebind` : a run in which an ordinary frame goes out before the handler
  returned.
-/

namespace NfsRs.Rpc

/-! ## The installed connection -/

/-- The installed connection through the phases of a reconnect. -/
structure ConnInv (mux : Mux) (writer : Nat) (bound : Nat → Bool) (handlerRuns : Nat → Nat) :
    Prop where
  /-- From the swap to the publication readiness says rebinding. -/
  busy : ∀ g p, mux.reconnect = some ⟨g, p⟩ → p ≠ .connecting → mux.readiness = .rebinding
  swapped : ∀ g, mux.reconnect = some ⟨g, .rebinding⟩ → mux.handle = none
  installed : ∀ g c, mux.reconnect = some ⟨g, .installed c⟩ → writer = c
  stored : ∀ g c, mux.reconnect = some ⟨g, .stored c⟩ → writer = c ∧ bound c = true
  ready : mux.readiness = .ready → writer = mux.published ∧ bound writer = true
  handle : ∀ c, mux.handle = some c → c = writer
  /-- Only the reader in `reader_handle` runs. -/
  running : ∀ c, c < mux.opened → (mux.conns c).reader = .running → mux.handle = some c
  unopened : ∀ c, mux.opened ≤ c → handlerRuns c = 0
  once : ∀ c, handlerRuns c ≤ 1

theorem connInv_connect : ConnInv .connect 0 (fun c => c == 0) fun _ => 0 where
  busy := by simp [Mux.connect]
  swapped := by simp [Mux.connect]
  installed := by simp [Mux.connect]
  stored := by simp [Mux.connect]
  ready := fun _ => ⟨rfl, rfl⟩
  handle := by simp [Mux.connect]
  running := by
    intro c hc _
    simp only [Mux.connect] at hc ⊢
    rw [show c = 0 by omega]
  unopened := fun _ _ => rfl
  once := fun _ => Nat.zero_le 1

namespace Mux

theorem abortReader_handle (s : Mux) : s.abortReader.handle = none := by
  unfold abortReader
  split
  next hNone => exact hNone
  next => rfl

theorem abortReader_readiness (s : Mux) : s.abortReader.readiness = s.readiness := by
  unfold abortReader
  split
  · rfl
  · rfl

end Mux

section Steps

variable {mux : Mux} {writer : Nat} {bound : Nat → Bool} {runs : Nat → Nat}

variable {c g : Nat}

/-- Behind an abort no opened connection has a running reader. -/
theorem ConnInv.no_running (h : ConnInv mux writer bound runs) (hc : c < mux.abortReader.opened) :
    (mux.abortReader.conns c).reader ≠ .running := by
  intro hrun
  obtain ⟨hrun', hne⟩ := Mux.abortReader_running hrun
  rw [mux.abortReader_frame.2.2.2.1] at hc
  exact hne (h.running c hc hrun')

theorem ConnInv.failReader (h : ConnInv mux writer bound runs) (c : Nat) :
    ConnInv (mux.failReader c) writer bound runs where
  busy := h.busy
  swapped := h.swapped
  installed := h.installed
  stored := h.stored
  ready := h.ready
  handle := h.handle
  running := fun x hx hrun => h.running x hx (Mux.failReader_running hrun)
  unopened := h.unopened
  once := h.once

/-- `shutdown` aborts the reader and calls no handler. -/
theorem ConnInv.shutdown (h : ConnInv mux writer bound runs) :
    ConnInv { mux.abortReader with shutdownFlag := true } writer bound runs := by
  obtain ⟨-, -, hPub, hOpen, -, hRec⟩ := mux.abortReader_frame
  have hReady := mux.abortReader_readiness
  constructor
  · intro g p hr
    rw [hRec] at hr
    rw [hReady]
    exact h.busy g p hr
  · exact fun _ _ => mux.abortReader_handle
  · intro g c hr
    rw [hRec] at hr
    exact h.installed g c hr
  · intro g c hr
    rw [hRec] at hr
    exact h.stored g c hr
  · intro hr
    rw [hReady] at hr
    rw [hPub]
    exact h.ready hr
  · intro c hc
    rw [mux.abortReader_handle] at hc
    cases hc
  · exact fun c hc hrun => absurd hrun (h.no_running hc)
  · intro c hc
    rw [hOpen] at hc
    exact h.unopened c hc
  · exact h.once

/-- A reconnect takes its lock, or gives up before the swap. -/
theorem ConnInv.setConnecting (h : ConnInv mux writer bound runs) {r : Option Reconnect}
    (hr : r = none ∨ ∃ g, r = some ⟨g, .connecting⟩) :
    ConnInv { mux with reconnect := r } writer bound runs where
  busy := by
    intro g p hp hne
    rcases hr with rfl | ⟨g', rfl⟩
    · cases hp
    · cases hp
      exact absurd rfl hne
  swapped := by rcases hr with rfl | ⟨g', rfl⟩ <;> simp
  installed := by rcases hr with rfl | ⟨g', rfl⟩ <;> simp
  stored := by rcases hr with rfl | ⟨g', rfl⟩ <;> simp
  ready := h.ready
  handle := h.handle
  running := h.running
  unopened := h.unopened
  once := h.once

/-- The old reader is aborted, and the rebind announced. -/
theorem ConnInv.swap (h : ConnInv mux writer bound runs) (g : Nat) :
    ConnInv { mux.abortReader with
      readiness := .rebinding
      reconnect := some { failedGen := g, phase := .rebinding } } writer bound runs where
  busy := fun _ _ _ _ => rfl
  swapped := fun _ _ => mux.abortReader_handle
  installed := nofun
  stored := nofun
  ready := nofun
  handle := by
    intro c hc
    rw [mux.abortReader_handle] at hc
    cases hc
  running := fun c hc hrun => absurd hrun (h.no_running hc)
  unopened := by
    intro c hc
    rw [mux.abortReader_frame.2.2.2.1] at hc
    exact h.unopened c hc
  once := h.once

/-- The new connection is named by `opened`, and its handler starts. -/
theorem ConnInv.install (h : ConnInv mux writer bound runs)
    (hr : mux.reconnect = some ⟨g, .rebinding⟩) :
    ConnInv (mux.install g) mux.opened bound
      (Function.update runs mux.opened (runs mux.opened + 1)) := by
  have hBusy : (mux.install g).readiness = .rebinding := h.busy g _ hr nofun
  have hFresh : runs mux.opened = 0 := h.unopened _ le_rfl
  constructor
  · exact fun _ _ _ _ => hBusy
  · exact nofun
  · intro g' c hc
    cases hc
    rfl
  · exact nofun
  · intro hReady
    rw [hBusy] at hReady
    cases hReady
  · intro c hc
    cases hc
    rfl
  · intro c hc hrun
    by_cases hNew : c = mux.opened
    · subst hNew
      rfl
    · -- an older reader would be in the handle, which the swap has taken
      have hLt : c < mux.opened := by
        have hLe : c < mux.opened + 1 := hc
        omega
      have hOld : (mux.conns c).reader = .running := by
        simpa [Mux.install, hNew] using hrun
      have hHandle := h.running c hLt hOld
      rw [h.swapped g hr] at hHandle
      cases hHandle
  -- the handler ran for the new connection only
  · intro c hc
    have hLt : mux.opened < c := hc
    rw [Function.update_of_ne (by omega)]
    exact h.unopened c (by omega)
  · intro c
    by_cases hNew : c = mux.opened
    · rw [hNew, Function.update_self]
      omega
    · rw [Function.update_of_ne hNew]
      exact h.once c

/-- The handler has succeeded, and the new generation is stored. -/
theorem ConnInv.store (h : ConnInv mux writer bound runs)
    (hr : mux.reconnect = some ⟨g, .installed c⟩) :
    ConnInv { mux with
      generation := saturatingSucc g
      reconnect := some { failedGen := g, phase := .stored c } } writer
      (Function.update bound c true) runs := by
  have hBusy : mux.readiness = .rebinding := h.busy g _ hr nofun
  constructor
  · exact fun _ _ _ _ => hBusy
  · exact nofun
  · exact nofun
  · intro g' c' hc
    cases hc
    exact ⟨h.installed g c hr, Function.update_self ..⟩
  · intro hReady
    rw [hBusy] at hReady
    cases hReady
  · exact h.handle
  · exact h.running
  · exact h.unopened
  · exact h.once

theorem ConnInv.orphan (h : ConnInv mux writer bound runs) (c : Nat) :
    ConnInv (mux.orphan c) writer bound runs where
  busy := nofun
  swapped := nofun
  installed := nofun
  stored := nofun
  ready := nofun
  handle := h.handle
  running := by
    intro x hx hrun
    refine h.running x hx ?_
    by_cases hxc : x = c
    · subst hxc
      simpa [Mux.orphan] using hrun
    · simpa [Mux.orphan, hxc] using hrun
  unopened := h.unopened
  once := h.once

theorem ConnInv.publish (h : ConnInv mux writer bound runs)
    (hr : mux.reconnect = some ⟨g, .stored c⟩) :
    ConnInv { mux with readiness := .ready, published := c, reconnect := none } writer bound
      runs := by
  obtain ⟨hWriter, hBound⟩ := h.stored g c hr
  refine ⟨nofun, nofun, nofun, nofun, fun _ => ⟨hWriter, ?_⟩, h.handle, h.running, h.unopened,
    h.once⟩
  rw [hWriter]
  exact hBound

end Steps

variable {s s' : Traffic} {a : TrafficEvent}

/-- Every step of the connection side keeps the invariant. -/
theorem connInv_connMove {e : MuxEvent} (h : ConnInv s.mux s.writer s.bound s.handlerRuns)
    (hMove : s.ConnMove e s') : ConnInv s'.mux s'.writer s'.bound s'.handlerRuns := by
  cases hMove with
  | observe =>
    exact ⟨h.busy, h.swapped, h.installed, h.stored, h.ready, h.handle, h.running, h.unopened,
      h.once⟩
  | readerFail hc => exact h.failReader _
  | setConnecting hOld hNew => exact h.setConnecting hNew
  | swap hr => exact h.swap _
  | install hr hDrained => exact h.install hr
  | handlerOk hr hLive => exact h.store hr
  | handlerErr hr hLive => exact h.orphan _
  | publish hr => exact h.publish hr
  | shutdown => exact h.shutdown

/-- **One step.** -/
theorem connInv_step (h : ConnInv s.mux s.writer s.bound s.handlerRuns)
    (hstep : s.step a = some s') :
    ConnInv s'.mux s'.writer s'.bound s'.handlerRuns := by
  rcases Traffic.step_cases hstep with ⟨e, -, hMove⟩ | hMove
  · exact connInv_connMove h hMove
  · obtain ⟨hMux, hWriter, hBound, hRuns⟩ := hMove.conn_frame
    rw [hMux, hWriter, hBound, hRuns]
    exact h

/-- Readiness is withdrawn by a swap only. -/
theorem ready_of_connMove {e : MuxEvent} (h : ConnInv s.mux s.writer s.bound s.handlerRuns)
    (hMove : s.ConnMove e s') (hne : e ≠ .swap) (hReady : s.mux.readiness = .ready) :
    s'.mux.readiness = .ready := by
  cases hMove with
  | observe => exact hReady
  | readerFail hc => exact hReady
  | setConnecting hOld hNew => exact hReady
  | swap hr => exact absurd rfl hne
  | install hr hDrained => exact hReady
  | handlerOk hr hLive => exact hReady
  | handlerErr hr hLive =>
    -- the handler runs while readiness says rebinding
    rw [h.busy _ _ hr nofun] at hReady
    cases hReady
  | publish hr => rfl
  | shutdown => exact s.mux.abortReader_readiness.trans hReady

/-! ## Ordinary frames -/

/-- An ordinary request between its readiness check and the writer lock. -/
def Sending.cleared (d : Sending) : Bool :=
  d.bypass == false && (d.phase == .passed || d.phase == .registered)

/-- At a swap no ordinary request stands between its readiness check and the writer lock. -/
def NoneCleared (s : Traffic) : TrafficEvent → Prop
  | .conn .swap => ∀ d ∈ s.sendings, d.cleared = false
  | _ => True

instance (s : Traffic) (a : TrafficEvent) : Decidable (NoneCleared s a) := by
  unfold NoneCleared
  split <;> infer_instance

/-- The rebind comes first: ordinary frames go to bound connections, readiness is published
for a bound connection, and each connection runs the handler at most once. -/
structure RebindFirst (s : Traffic) : Prop where
  frames : ∀ f ∈ s.frames, f.bypass = false → f.bound = true
  published : s.mux.readiness = .ready → s.bound s.writer = true
  handlerOnce : ∀ c, s.handlerRuns c ≤ 1

structure RebindInv (s : Traffic) : Prop where
  conn : ConnInv s.mux s.writer s.bound s.handlerRuns
  cleared : ∀ d ∈ s.sendings, d.cleared = true → s.mux.readiness = .ready
  frames : ∀ f ∈ s.frames, f.bypass = false → f.bound = true

/-- A move that clears no request and writes no frame. -/
theorem RebindInv.keep (h : RebindInv s) (hConn : ConnInv s'.mux s'.writer s'.bound s'.handlerRuns)
    (hMux : s'.mux = s.mux) (hCleared : ∀ d ∈ s'.sendings, d ∈ s.sendings ∨ d.cleared = false)
    (hFrames : s'.frames = s.frames) : RebindInv s' where
  conn := hConn
  cleared := by
    intro d hd hClear
    rw [hMux]
    rcases hCleared d hd with hOld | hNot
    · exact h.cleared d hOld hClear
    · rw [hNot] at hClear
      cases hClear
  frames := by
    rw [hFrames]
    exact h.frames

/-- Setting one run to a phase that is not cleared. -/
theorem mem_set_cleared {l : List Sending} {i : Nat} {d' : Sending} (h : d'.cleared = false) :
    ∀ d ∈ l.set i d', d ∈ l ∨ d.cleared = false :=
  Lib.forall_mem_set (fun _ hd => .inl hd) (.inr h)

theorem rebindInv_move (h : RebindInv s) (hConn : ConnInv s'.mux s'.writer s'.bound s'.handlerRuns)
    (hMove : s.Move a s') : RebindInv s' := by
  cases hMove with
  | start skipped bypass hHandler =>
    refine h.keep hConn rfl ?_ rfl
    refine Lib.forall_mem_concat (fun _ hd => .inl hd) (.inr ?_)
    cases bypass <;> rfl
  | pass hd hPhase hReady => exact ⟨hConn, fun _ _ _ => hReady, h.frames⟩
  | giveUp hd hPhase =>
    refine h.keep hConn rfl (mem_set_cleared ?_) rfl
    simp [Sending.cleared]
  | @insert i d hd hPhase =>
    refine ⟨hConn, Lib.forall_mem_set h.cleared fun hClear => ?_, h.frames⟩
    -- it was cleared before, as a run that has passed its readiness check
    refine h.cleared d (List.mem_of_getElem? hd) ?_
    simpa [Sending.cleared, hPhase] using hClear
  | @lockWriter i d hd hPhase =>
    refine ⟨hConn, ?_, Lib.forall_mem_concat h.frames fun hOrdinary => ?_⟩
    · exact Lib.forall_mem_set h.cleared fun hClear => by simp [Sending.cleared] at hClear
    · have hBypass : d.bypass = false := hOrdinary
      have hClear : d.cleared = true := by simp [Sending.cleared, hPhase, hBypass]
      exact (h.conn.ready (h.cleared d (List.mem_of_getElem? hd) hClear)).2
  | sent hd hPhase =>
    refine h.keep hConn rfl (mem_set_cleared ?_) rfl
    simp [Sending.cleared]
  | finish lock hd hPhase =>
    refine h.keep hConn rfl (mem_set_cleared ?_) rfl
    simp [Sending.cleared]
  | reply c xid => exact h.keep hConn rfl (fun _ hd => .inl hd) rfl
  | readerDrain hc => exact h.keep hConn rfl (fun _ hd => .inl hd) rfl
  | reconnectDrain hr => exact h.keep hConn rfl (fun _ hd => .inl hd) rfl
  | shutdownDrain => exact h.keep hConn rfl (fun _ hd => .inl hd) rfl

/-- **One step.** A swap without cleared requests is the only step that withdraws
readiness. -/
theorem rebindInv_step (h : RebindInv s) (hok : NoneCleared s a) (hstep : s.step a = some s') :
    RebindInv s' := by
  have hConn := connInv_step h.conn hstep
  rcases Traffic.step_cases hstep with ⟨e, rfl, hMove⟩ | hMove
  · obtain ⟨hSendings, -, -, hFrames⟩ := hMove.frame
    refine ⟨hConn, ?_, ?_⟩
    · rw [hSendings]
      intro d hd hClear
      by_cases hSwap : e = .swap
      · subst hSwap
        rw [hok d hd] at hClear
        cases hClear
      · exact ready_of_connMove h.conn hMove hSwap (h.cleared d hd hClear)
    · rw [hFrames]
      exact h.frames
  · exact rebindInv_move h hConn hMove

/-- **Rebind before traffic.** In every run in which no ordinary request stands between its
readiness check and the writer lock when a reconnect swaps the connection, an ordinary frame
goes out only on a connection whose handler has returned `Ok`, readiness is published only
for such a connection, and each connection runs the handler at most once. -/
theorem rebound_before_traffic {s : Traffic} (h : trafficMachine.ReachableIf NoneCleared s) :
    RebindFirst s := by
  have hInv : RebindInv s := h.invariant
    ⟨connInv_connect, nofun, nofun⟩
    (fun _ _ _ _ hok hstep hInv => rebindInv_step hInv hok hstep)
  exact ⟨hInv.frames, fun hReady => (hInv.conn.ready hReady).2, hInv.conn.once⟩

/-- A request is answered on connection 0, whose reader then fails; the reconnect binds
connection 1 by a call of the handler, and a request that waited goes out on it. -/
def reboundRun : List TrafficEvent :=
  [.conn .observe, .start 0 false, .checkReady 0, .register 0, .lockWriter 0, .writeDone 0 true,
    .reply 0 1, .receive 0, .conn (.readerFail 0), .readerDrain 0, .conn (.lockReconnect 0),
    .conn .swap, .start 0 false, .reconnectDrain, .conn .install, .start 0 true, .register 2,
    .lockWriter 2, .writeDone 2 true, .reply 1 3, .receive 2, .conn .handlerOk, .conn .publish,
    .checkReady 1, .register 1, .lockWriter 1]

theorem rebound_before_traffic_reboundRun :
    ∃ s, trafficMachine.ReachableIf NoneCleared s ∧
      s.frames.map (fun f => (f.conn, f.bypass, f.bound)) =
        [(0, false, true), (1, true, false), (1, false, true)] ∧ RebindFirst s := by
  have hrun : (trafficMachine.runChecked NoneCleared trafficMachine.init reboundRun).any
      (fun s => s.frames.map (fun f => (f.conn, f.bypass, f.bound)) =
        [(0, false, true), (1, true, false), (1, false, true)]) = true := by
    decide +kernel
  obtain ⟨s, hs, hFrames⟩ := (Option.any_eq_true _ _).mp hrun
  have hReach := Lib.Machine.reachableIf_of_runChecked reboundRun .init hs
  exact ⟨s, hReach, of_decide_eq_true hFrames, rebound_before_traffic hReach⟩

/-- The request has seen readiness and is registered when the reconnect swaps the
connection; it gets the writer lock behind it. -/
def clearedAcrossSwap : List TrafficEvent :=
  [.conn .observe, .start 0 false, .checkReady 0, .register 0, .conn (.lockReconnect 0),
    .conn .swap, .reconnectDrain, .conn .install, .lockWriter 0]

/-- Connection 1 carries the frame of an ordinary request while its handler still runs. -/
theorem frame_before_rebind :
    ∃ s, trafficMachine.Reachable s ∧ s.handlerConn? = some 1 ∧
      s.frames = [{ sending := 0, conn := 1, bypass := false, bound := false }] ∧
      ¬ RebindFirst s := by
  have hrun : (trafficMachine.runFrom trafficMachine.init clearedAcrossSwap).any
      (fun s => s.handlerConn? = some 1 ∧
        s.frames = [{ sending := 0, conn := 1, bypass := false, bound := false }]) = true := by
    decide +kernel
  obtain ⟨s, hs, hEnd⟩ := (Option.any_eq_true _ _).mp hrun
  obtain ⟨hHandler, hFrames⟩ := of_decide_eq_true hEnd
  refine ⟨s, Lib.Machine.reachable_of_runFrom _ hs, hHandler, hFrames, fun hFirst => ?_⟩
  have hBound := hFirst.frames _ (by rw [hFrames]; exact List.mem_singleton_self _) rfl
  cases hBound

end NfsRs.Rpc
