import NfsRs.Rpc.Mux

/-!
# NfsRs — request traffic over the stream multiplexer

`Mux` is the connection side of a `StreamMux`. This file adds the request side: every run of
`send_and_receive_inner`, the pending map that its replies come through, the writer lock and
the connection behind it, and the places that fail pending requests (the error exit of
`reader_loop`, `reconnect`, `shutdown`).

Three things of the source decide the shape of the steps:

* readiness is read in `wait_until_ready`, the request is registered under the lock of the
  pending map, and its frame is written under the writer lock. Each is a step of its own;
* `reader_loop` publishes its failure first and drains the pending map afterwards. `abort`
  ends a task at its next await point only, so an aborted reader can still do both;
* `reconnect` holds the writer lock from the announcement of the rebind to the installation
  of the new connection, and drains the pending map in between.

A request honours readiness unless it bypasses it (`call_during_reconnect`); such calls are
made and awaited by the reconnect handler only. Replies to backchannel calls also go through
the writer lock; they are no requests and are left out.
-/

namespace NfsRs.Rpc

/-! ## State -/

/-- Where a run of `send_and_receive_inner` stands. -/
inductive SendPhase where
  /-- In `wait_until_ready`. -/
  | waiting
  /-- Readiness is behind it (or bypassed), the pending map is not. -/
  | passed
  /-- Registered, waits for the writer lock. -/
  | registered
  | writing
  /-- The frame is written, the reply is awaited. -/
  | sent
  | done
  deriving DecidableEq, Repr

/-- One run of `send_and_receive_inner`. -/
structure Sending where
  xid : Nat
  bypass : Bool
  phase : SendPhase
  /-- The connection it was registered for. -/
  on : Nat
  deriving DecidableEq, Repr

/-- What resolved a waiter. -/
inductive Cause where
  | reply (conn xid : Nat)
  | readerExit (conn : Nat)
  /-- A reconnect that replaces the given connection. -/
  | reconnect (conn : Nat)
  | shutdown
  /-- Its sender was dropped for another request with the same XID. -/
  | displaced
  deriving DecidableEq, Repr

/-- A waiter is resolved; `sending` is its index. -/
structure Completion where
  sending : Nat
  cause : Cause
  deriving DecidableEq, Repr

/-- The first byte of a request goes out. `bound` says whether the reconnect handler of the
connection had returned `Ok` by then. -/
structure FrameWrite where
  sending : Nat
  conn : Nat
  bypass : Bool
  bound : Bool
  deriving DecidableEq, Repr

/-- Holder of the writer lock. -/
inductive WriterHolder where
  | sending (i : Nat)
  | reconnect
  deriving DecidableEq, Repr

/-- A `StreamMux` with its requests. `bound`, `handlerRuns`, `completions` and `frames`
record what happened and are read by no step. -/
structure Traffic where
  mux : Mux
  /-- The process-wide `XID` counter, not yet reduced to 32 bits. -/
  xidCounter : Nat
  sendings : List Sending
  /-- XID and the index of the waiting run. -/
  pending : List (Nat × Nat)
  /-- The connection whose write half is installed. -/
  writer : Nat
  lock : Option WriterHolder
  /-- The reconnect that holds the writer lock has drained the pending map. -/
  drained : Bool
  /-- Readers that have published their failure and not yet drained the pending map. -/
  draining : List Nat
  bound : Nat → Bool
  handlerRuns : Nat → Nat
  completions : List Completion
  frames : List FrameWrite

namespace Traffic

/-- `StreamMux::connect`; the first connection is set up before the mux exists. -/
def connect : Traffic :=
  { mux := .connect
    xidCounter := 0
    sendings := []
    pending := []
    writer := 0
    lock := none
    drained := false
    draining := []
    bound := fun c => c == 0
    handlerRuns := fun _ => 0
    completions := []
    frames := [] }

/-! ## The pending map -/

/-- Remove the chosen entries and resolve their waiters: `map.drain()` or `map.remove(&xid)`
followed by `tx.send`, or by dropping `tx`. -/
def settle (s : Traffic) (chosen : Nat × Nat → Bool) (cause : Cause) : Traffic :=
  { s with
    pending := s.pending.filter fun e => !chosen e
    completions := s.completions ++
      (s.pending.filter chosen).map fun e => { sending := e.2, cause := cause } }

def drain (s : Traffic) (cause : Cause) : Traffic := s.settle (fun _ => true) cause

def settleXid (s : Traffic) (xid : Nat) (cause : Cause) : Traffic :=
  s.settle (fun e => e.1 == xid) cause

def setSending (s : Traffic) (i : Nat) (d : Sending) : Traffic :=
  { s with sendings := s.sendings.set i d }

/-- Run `i` if it stands in the given phase. -/
def sendingAt (s : Traffic) (i : Nat) (phase : SendPhase) : Option Sending :=
  s.sendings[i]?.filter fun d => d.phase = phase

/-- The connection a request is registered for: the published one, and for a call of the
reconnect handler the one just installed. -/
def target (s : Traffic) (d : Sending) : Nat := if d.bypass then s.writer else s.mux.published

/-- `pending.insert(xid, tx)`: an entry of the same XID loses its sender. -/
def insert (s : Traffic) (i : Nat) (d : Sending) : Traffic :=
  { s.settleXid d.xid .displaced with
    pending := (s.settleXid d.xid .displaced).pending ++ [(d.xid, i)]
    sendings := s.sendings.set i { d with phase := .registered, on := s.target d } }

/-- The run ends and drops its `PendingRequestGuard`, which removes whatever is registered
under its XID. Its own sender is dropped with nobody waiting. -/
def finish (s : Traffic) (i : Nat) (d : Sending) : Traffic :=
  Traffic.settleXid { s with
    sendings := s.sendings.set i { d with phase := .done }
    pending := s.pending.filter fun e => e ≠ (d.xid, i) } d.xid .displaced

/-! ## Steps -/

/-- The connection whose reconnect handler runs. -/
def handlerConn? (s : Traffic) : Option Nat :=
  match s.mux.reconnect with
  | some ⟨_, .installed c⟩ => some c
  | _ => none

def rebinding (m : Mux) : Bool :=
  match m.reconnect with
  | some ⟨_, .rebinding⟩ => true
  | _ => false

/-- A call of the reconnect handler is under way. -/
def bypassLive (s : Traffic) : Bool := s.sendings.any fun d => d.bypass && d.phase ≠ .done

end Traffic

inductive TrafficEvent where
  /-- A request draws its XID; `skipped` others were drawn elsewhere in the process. -/
  | start (skipped : Nat) (bypass : Bool)
  | checkReady (i : Nat)
  | register (i : Nat)
  | lockWriter (i : Nat)
  | writeDone (i : Nat) (ok : Bool)
  /-- The run takes the result of its waiter. -/
  | receive (i : Nat)
  /-- A timeout fires or the caller is dropped at an await point. -/
  | abandon (i : Nat)
  /-- A reader takes a reply off its connection. -/
  | reply (conn xid : Nat)
  | readerDrain (conn : Nat)
  | reconnectDrain
  /-- `shutdown` has the writer lock. -/
  | shutdownDrain
  | conn (e : MuxEvent)
  deriving DecidableEq, Repr

namespace Traffic

/-- `get_xid` at the start of an attempt. -/
def start (s : Traffic) (skipped : Nat) (bypass : Bool) : Traffic :=
  { s with
    xidCounter := s.xidCounter + skipped + 1
    sendings := s.sendings ++
      [{ xid := (s.xidCounter + skipped + 1) % 2 ^ 32, bypass := bypass,
         phase := if bypass then .passed else .waiting, on := 0 }] }

/-- `wait_until_ready`; while rebinding it waits. -/
def checkReady (s : Traffic) (i : Nat) (d : Sending) : Option Traffic :=
  match s.mux.readiness with
  | .ready => some (s.setSending i { d with phase := .passed })
  | .failed => some (s.setSending i { d with phase := .done })
  | .rebinding => none

/-- Under the lock of the pending map. -/
def register (s : Traffic) (i : Nat) (d : Sending) : Traffic :=
  if d.bypass = false ∧ s.mux.refuses = true then s.setSending i { d with phase := .done }
  else s.insert i d

def lockWriter (s : Traffic) (i : Nat) (d : Sending) : Option Traffic :=
  if s.lock = none then
    some { s.setSending i { d with phase := .writing } with
      lock := some (.sending i)
      frames := s.frames ++
        [{ sending := i, conn := s.writer, bypass := d.bypass, bound := s.bound s.writer }] }
  else none

/-- The guard of the writer lock is dropped with the frame. -/
def writeDone (s : Traffic) (i : Nat) (d : Sending) (ok : Bool) : Traffic :=
  if ok then { s.setSending i { d with phase := .sent } with lock := none }
  else { s.finish i d with lock := none }

def abandon (s : Traffic) (i : Nat) (d : Sending) : Option Traffic :=
  match d.phase with
  | .waiting => some (s.setSending i { d with phase := .done })
  | .registered => some (s.finish i d)
  | .writing => some { s.finish i d with lock := none }
  | .sent => some (s.finish i d)
  | .passed => none
  | .done => none

/-- A step of the connection side and what it does to the requests. The handler makes and
awaits its calls itself, so none is left when it returns or is dropped. -/
def connStep (s : Traffic) (e : MuxEvent) : Option Traffic :=
  (s.mux.step e).bind fun mux =>
    match e with
    | .readerFail c => some { s with mux := mux, draining := c :: s.draining }
    | .swap =>
      if s.lock = none then
        if rebinding mux then
          some { s with mux := mux, lock := some .reconnect, drained := false }
        else some { s with mux := mux }
      else none
    | .install =>
      if s.drained = true then
        some { s with
          mux := mux
          lock := none
          writer := s.mux.opened
          handlerRuns := Function.update s.handlerRuns s.mux.opened
            (s.handlerRuns s.mux.opened + 1) }
      else none
    | .handlerOk =>
      if s.bypassLive = false then
        s.handlerConn?.map fun c => { s with mux := mux, bound := Function.update s.bound c true }
      else none
    | .handlerErr => if s.bypassLive = false then some { s with mux := mux } else none
    | _ => some { s with mux := mux }

/-- One step of the traffic machine. -/
def step (s : Traffic) : TrafficEvent → Option Traffic
  | .start skipped bypass =>
    if bypass = true ∧ s.handlerConn? = none then none else some (s.start skipped bypass)
  | .checkReady i => (s.sendingAt i .waiting).bind fun d => s.checkReady i d
  | .register i => (s.sendingAt i .passed).map fun d => s.register i d
  | .lockWriter i => (s.sendingAt i .registered).bind fun d => s.lockWriter i d
  | .writeDone i ok => (s.sendingAt i .writing).map fun d => s.writeDone i d ok
  | .receive i =>
    (s.sendingAt i .sent).bind fun d =>
      if s.completions.any (·.sending = i) then some (s.finish i d) else none
  | .abandon i => s.sendings[i]?.bind fun d => s.abandon i d
  | .reply c xid =>
    if c < s.mux.opened ∧ (s.mux.conns c).reader ≠ .failed then
      some (s.settleXid xid (.reply c xid))
    else none
  | .readerDrain c =>
    if c ∈ s.draining then
      some { s.drain (.readerExit c) with draining := s.draining.erase c }
    else none
  | .reconnectDrain =>
    if rebinding s.mux = true ∧ s.drained = false then
      some { s.drain (.reconnect s.writer) with drained := true }
    else none
  | .shutdownDrain =>
    if s.mux.shutdownFlag = true ∧ s.lock = none then some (s.drain .shutdown) else none
  | .conn e => s.connStep e

end Traffic

/-- The traffic machine of one `StreamMux`. -/
def trafficMachine : Lib.Machine Traffic TrafficEvent where
  init := .connect
  step := Traffic.step

/-! ## What a step can do -/

namespace Traffic

variable {s s' : Traffic} {a : TrafficEvent}

theorem sendingAt_eq_some {i : Nat} {phase : SendPhase} {d : Sending} :
    s.sendingAt i phase = some d ↔ s.sendings[i]? = some d ∧ d.phase = phase := by
  simp [sendingAt, Option.filter_eq_some_iff]

theorem handlerConn?_eq_some {c : Nat} (h : s.handlerConn? = some c) :
    ∃ g, s.mux.reconnect = some ⟨g, .installed c⟩ := by
  unfold handlerConn? at h
  split at h
  next g c' hr =>
    cases h
    exact ⟨g, hr⟩
  next => cases h

theorem rebinding_iff {m : Mux} : rebinding m = true ↔ ∃ g, m.reconnect = some ⟨g, .rebinding⟩ := by
  unfold rebinding
  split
  next g hr => simp [hr]
  next hne =>
    constructor
    · intro h
      cases h
    · rintro ⟨g, hr⟩
      exact absurd hr (hne g)

/-- No call of the handler is left when it returns. -/
theorem done_of_not_bypassLive (h : s.bypassLive = false) {d : Sending} (hd : d ∈ s.sendings)
    (hBypass : d.bypass = true) : d.phase = .done := by
  by_contra hPhase
  have hLive : s.bypassLive = true := List.any_eq_true.mpr ⟨d, hd, by simp [hBypass, hPhase]⟩
  rw [h] at hLive
  cases hLive

/-- What a step of the connection side can do. -/
inductive ConnMove (s : Traffic) : MuxEvent → Traffic → Prop
  | observe :
      ConnMove s .observe
        { s with mux := { s.mux with observed := s.mux.generation :: s.mux.observed } }
  | readerFail {c : Nat} (hc : c < s.mux.opened) :
      ConnMove s (.readerFail c)
        { s with mux := s.mux.failReader c, draining := c :: s.draining }
  /-- A reconnect takes its lock, or ends before it swaps. -/
  | setConnecting {e : MuxEvent} {r : Option Reconnect}
      (hOld : s.mux.reconnect = none ∨ ∃ g, s.mux.reconnect = some ⟨g, .connecting⟩)
      (hNew : r = none ∨ ∃ g, r = some ⟨g, .connecting⟩) :
      ConnMove s e { s with mux := { s.mux with reconnect := r } }
  | swap {g : Nat} (hr : s.mux.reconnect = some ⟨g, .connecting⟩) :
      ConnMove s .swap { s with
        mux := { s.mux.abortReader with
          readiness := .rebinding
          reconnect := some { failedGen := g, phase := .rebinding } }
        lock := some .reconnect
        drained := false }
  | install {g : Nat} (hr : s.mux.reconnect = some ⟨g, .rebinding⟩) (hDrained : s.drained = true) :
      ConnMove s .install { s with
        mux := s.mux.install g
        lock := none
        writer := s.mux.opened
        handlerRuns := Function.update s.handlerRuns s.mux.opened
          (s.handlerRuns s.mux.opened + 1) }
  | handlerOk {g c : Nat} (hr : s.mux.reconnect = some ⟨g, .installed c⟩)
      (hLive : s.bypassLive = false) :
      ConnMove s .handlerOk { s with
        mux := { s.mux with
          generation := saturatingSucc g
          reconnect := some { failedGen := g, phase := .stored c } }
        bound := Function.update s.bound c true }
  | handlerErr {g c : Nat} (hr : s.mux.reconnect = some ⟨g, .installed c⟩)
      (hLive : s.bypassLive = false) :
      ConnMove s .handlerErr { s with mux := s.mux.orphan c }
  | publish {g c : Nat} (hr : s.mux.reconnect = some ⟨g, .stored c⟩) :
      ConnMove s .publish
        { s with mux := { s.mux with readiness := .ready, published := c, reconnect := none } }
  | shutdown :
      ConnMove s .shutdown { s with mux := { s.mux.abortReader with shutdownFlag := true } }

/-- The steps of the connection side, each with what it found. -/
theorem connMove_of_connStep {e : MuxEvent} (h : s.connStep e = some s') : s.ConnMove e s' := by
  obtain ⟨mux, hMux, hRest⟩ := Option.bind_eq_some_iff.mp h
  cases e with
  | observe =>
    cases hRest
    cases hMux
    exact .observe
  | readerFail c =>
    cases hRest
    simp only [Mux.step] at hMux
    split at hMux
    next hc =>
      cases hMux
      exact .readerFail hc.1
    next => cases hMux
  | lockReconnect g =>
    cases hRest
    simp only [Mux.step] at hMux
    split at hMux
    next hg =>
      -- another caller has reconnected already: nothing changes
      split at hMux
      · cases hMux
        have hSame := ConnMove.setConnecting (s := s) (e := .lockReconnect g) (.inl hg.2)
          (.inl hg.2)
        exact hSame
      · cases hMux
        exact .setConnecting (.inl hg.2) (.inr ⟨g, rfl⟩)
    next => cases hMux
  | connectFail =>
    cases hRest
    simp only [Mux.step] at hMux
    split at hMux
    next g hr =>
      cases hMux
      exact .setConnecting (.inr ⟨g, hr⟩) (.inl rfl)
    next => cases hMux
  | swap =>
    dsimp only at hRest
    simp only [Mux.step] at hMux
    split at hRest
    next =>
      split at hMux
      next g hr =>
        -- a reconnect or a shutdown in between drops the new stream
        split at hMux
        · cases hMux
          cases hRest
          exact .setConnecting (.inr ⟨g, hr⟩) (.inl rfl)
        · cases hMux
          cases hRest
          exact .swap hr
      next => cases hMux
    next => cases hRest
  | install =>
    dsimp only at hRest
    simp only [Mux.step] at hMux
    split at hRest
    next hDrained =>
      split at hMux
      next g hr =>
        cases hMux
        cases hRest
        exact .install hr hDrained
      next => cases hMux
    next => cases hRest
  | handlerOk =>
    dsimp only at hRest
    simp only [Mux.step] at hMux
    split at hRest
    next hLive =>
      split at hMux
      next g c hr =>
        cases hMux
        obtain ⟨c', hc', rfl⟩ := Option.map_eq_some_iff.mp hRest
        obtain ⟨g', hr'⟩ := handlerConn?_eq_some hc'
        obtain ⟨rfl, rfl⟩ : g' = g ∧ c' = c := by simpa [hr] using hr'.symm
        exact .handlerOk hr hLive
      next => cases hMux
    next => cases hRest
  | handlerErr =>
    dsimp only at hRest
    simp only [Mux.step] at hMux
    split at hRest
    next hLive =>
      split at hMux
      next g c hr =>
        cases hMux
        cases hRest
        exact .handlerErr hr hLive
      next => cases hMux
    next => cases hRest
  | publish =>
    cases hRest
    simp only [Mux.step] at hMux
    split at hMux
    next g c hr =>
      cases hMux
      exact .publish hr
    next => cases hMux
  | shutdown =>
    cases hRest
    cases hMux
    exact .shutdown

/-- A step of the connection side leaves the requests where they are. -/
theorem ConnMove.frame {e : MuxEvent} (h : s.ConnMove e s') :
    s'.sendings = s.sendings ∧ s'.pending = s.pending ∧ s'.completions = s.completions ∧
      s'.frames = s.frames := by
  cases h <;> exact ⟨rfl, rfl, rfl, rfl⟩

/-- What a step of the request side can do. -/
inductive Move (s : Traffic) : TrafficEvent → Traffic → Prop
  | start (skipped : Nat) (bypass : Bool)
      (hHandler : bypass = true → ∃ c, s.handlerConn? = some c) :
      Move s (.start skipped bypass) (s.start skipped bypass)
  | pass {i : Nat} {d : Sending} (hd : s.sendings[i]? = some d) (hPhase : d.phase = .waiting)
      (hReady : s.mux.readiness = .ready) :
      Move s (.checkReady i) (s.setSending i { d with phase := .passed })
  /-- Readiness failed, the reader has stopped, or the caller gave up waiting. -/
  | giveUp {a : TrafficEvent} {i : Nat} {d : Sending} (hd : s.sendings[i]? = some d)
      (hPhase : d.phase = .waiting ∨ d.phase = .passed) :
      Move s a (s.setSending i { d with phase := .done })
  | insert {i : Nat} {d : Sending} (hd : s.sendings[i]? = some d) (hPhase : d.phase = .passed) :
      Move s (.register i) (s.insert i d)
  | lockWriter {i : Nat} {d : Sending} (hd : s.sendings[i]? = some d)
      (hPhase : d.phase = .registered) :
      Move s (.lockWriter i) { s.setSending i { d with phase := .writing } with
        lock := some (.sending i)
        frames := s.frames ++
          [{ sending := i, conn := s.writer, bypass := d.bypass, bound := s.bound s.writer }] }
  | sent {i : Nat} {d : Sending} {ok : Bool} (hd : s.sendings[i]? = some d)
      (hPhase : d.phase = .writing) :
      Move s (.writeDone i ok) { s.setSending i { d with phase := .sent } with lock := none }
  | finish {a : TrafficEvent} {i : Nat} {d : Sending} (lock : Option WriterHolder)
      (hd : s.sendings[i]? = some d)
      (hPhase : d.phase = .registered ∨ d.phase = .writing ∨ d.phase = .sent) :
      Move s a { s.finish i d with lock := lock }
  | reply (c xid : Nat) : Move s (.reply c xid) (s.settleXid xid (.reply c xid))
  | readerDrain {c : Nat} (hc : c ∈ s.draining) :
      Move s (.readerDrain c) { s.drain (.readerExit c) with draining := s.draining.erase c }
  | reconnectDrain (hRebinding : rebinding s.mux = true) :
      Move s .reconnectDrain { s.drain (.reconnect s.writer) with drained := true }
  | shutdownDrain : Move s .shutdownDrain (s.drain .shutdown)

/-- The steps of the request side, each with what it found. -/
theorem move_of_step (hstep : s.step a = some s') (hne : ∀ e, a ≠ .conn e) : s.Move a s' := by
  cases a with
  | start skipped bypass =>
    simp only [step] at hstep
    split at hstep
    next => cases hstep
    next hHandler =>
      cases hstep
      refine .start skipped bypass fun hBypass => ?_
      exact Option.ne_none_iff_exists'.mp fun hNone => hHandler ⟨hBypass, hNone⟩
  | checkReady i =>
    obtain ⟨d, hAt, hrest⟩ := Option.bind_eq_some_iff.mp hstep
    obtain ⟨hd, hPhase⟩ := sendingAt_eq_some.mp hAt
    simp only [checkReady] at hrest
    split at hrest
    next hReady =>
      cases hrest
      exact .pass hd hPhase hReady
    next =>
      cases hrest
      exact .giveUp hd (.inl hPhase)
    next => cases hrest
  | register i =>
    obtain ⟨d, hAt, rfl⟩ := Option.map_eq_some_iff.mp hstep
    obtain ⟨hd, hPhase⟩ := sendingAt_eq_some.mp hAt
    unfold register
    split
    · exact .giveUp hd (.inr hPhase)
    · exact .insert hd hPhase
  | lockWriter i =>
    obtain ⟨d, hAt, hrest⟩ := Option.bind_eq_some_iff.mp hstep
    obtain ⟨hd, hPhase⟩ := sendingAt_eq_some.mp hAt
    simp only [lockWriter] at hrest
    split at hrest
    · cases hrest
      exact .lockWriter hd hPhase
    · cases hrest
  | writeDone i ok =>
    obtain ⟨d, hAt, rfl⟩ := Option.map_eq_some_iff.mp hstep
    obtain ⟨hd, hPhase⟩ := sendingAt_eq_some.mp hAt
    unfold writeDone
    split
    · exact .sent hd hPhase
    · exact .finish none hd (.inr (.inl hPhase))
  | receive i =>
    obtain ⟨d, hAt, hrest⟩ := Option.bind_eq_some_iff.mp hstep
    obtain ⟨hd, hPhase⟩ := sendingAt_eq_some.mp hAt
    split at hrest
    · cases hrest
      exact .finish s.lock hd (.inr (.inr hPhase))
    · cases hrest
  -- dropped at any await: only a request past its registration has an entry to take out
  | abandon i =>
    obtain ⟨d, hd, hrest⟩ := Option.bind_eq_some_iff.mp hstep
    unfold abandon at hrest
    split at hrest
    next hPhase =>
      cases hrest
      exact .giveUp hd (.inl hPhase)
    next hPhase =>
      cases hrest
      exact .finish s.lock hd (.inl hPhase)
    next hPhase =>
      cases hrest
      exact .finish none hd (.inr (.inl hPhase))
    next hPhase =>
      cases hrest
      exact .finish s.lock hd (.inr (.inr hPhase))
    next => cases hrest
    next => cases hrest
  | reply c xid =>
    simp only [step] at hstep
    split at hstep
    · cases hstep
      exact .reply c xid
    · cases hstep
  | readerDrain c =>
    simp only [step] at hstep
    split at hstep
    next hc =>
      cases hstep
      exact .readerDrain hc
    next => cases hstep
  | reconnectDrain =>
    simp only [step] at hstep
    split at hstep
    next hr =>
      cases hstep
      exact .reconnectDrain hr.1
    next => cases hstep
  | shutdownDrain =>
    simp only [step] at hstep
    split at hstep
    · cases hstep
      exact .shutdownDrain
    · cases hstep
  | conn e => exact absurd rfl (hne e)

/-- A step of the request side leaves the connection side as it is. -/
theorem Move.conn_frame (h : s.Move a s') :
    s'.mux = s.mux ∧ s'.writer = s.writer ∧ s'.bound = s.bound ∧
      s'.handlerRuns = s.handlerRuns := by
  cases h <;> exact ⟨rfl, rfl, rfl, rfl⟩

/-- Every step is a move of the connection side or of the request side. -/
theorem step_cases (hstep : s.step a = some s') :
    (∃ e, a = .conn e ∧ s.ConnMove e s') ∨ s.Move a s' := by
  by_cases hConn : ∃ e, a = .conn e
  · obtain ⟨e, rfl⟩ := hConn
    exact .inl ⟨e, rfl, connMove_of_connStep hstep⟩
  · exact .inr (move_of_step hstep fun e he => hConn ⟨e, he⟩)

end Traffic

end NfsRs.Rpc
