import Mathlib.Logic.Function.Basic
import NfsRs.Lib.Machine

/-!
# NfsRs — connection generations of the stream multiplexer

A `StreamMux` outlives its TCP connections. Each connection has a reader task, and the mux
numbers the connections it publishes: `generation` is the number of the published one, and
a reader that ends on an error raises `failed_generation` to its own number plus one. A
request is refused when `failed_generation > generation`.

This file models the connection side as a machine: reader failures, the phases of
`StreamMux::reconnect` (with the reconnect handler failing, or the whole future dropped),
and `shutdown`, interleaved in any order. Locks and await points decide the phases; what
happens between two of them is one step.

A reader that is aborted may still be past its last await point, so an aborted reader can
publish its failure once. Connections are numbered in the order they are opened; this
number is a name in the model and no part of the source's state.
-/

namespace NfsRs.Rpc

/-- `u64::saturating_add(1)`. -/
def saturatingSucc (n : Nat) : Nat := min (n + 1) (2 ^ 64 - 1)

inductive ReaderStatus where
  | running | aborted | failed
  deriving DecidableEq, Repr

/-- A TCP connection: the generation its reader was spawned with, the reader, and whether
the reconnect that opened it gave up on it. -/
structure Conn where
  generation : Nat
  reader : ReaderStatus
  orphaned : Bool
  deriving DecidableEq, Repr

inductive Readiness where
  | ready | rebinding | failed
  deriving DecidableEq, Repr

/-- Where the holder of `reconnect_lock` stands. -/
inductive Phase where
  /-- Past the first generation check, connecting outside the writer lock. -/
  | connecting
  /-- Rebinding is announced, the old reader is aborted, the pending map drained. -/
  | rebinding
  /-- The new connection is installed, the reconnect handler runs. -/
  | installed (conn : Nat)
  /-- The handler returned `Ok` and the new generation is stored. -/
  | stored (conn : Nat)
  deriving DecidableEq, Repr

structure Reconnect where
  failedGen : Nat
  phase : Phase
  deriving DecidableEq, Repr

/-- Connection state of a `StreamMux`. `opened` counts the connections, `published` names
the one behind the last publication, and `observed` holds the generations that callers
have read. -/
structure Mux where
  generation : Nat
  failedGeneration : Nat
  readiness : Readiness
  shutdownFlag : Bool
  conns : Nat → Conn
  opened : Nat
  /-- `reader_handle`. -/
  handle : Option Nat
  published : Nat
  observed : List Nat
  reconnect : Option Reconnect

namespace Mux

/-- `StreamMux::connect`. -/
def connect : Mux :=
  { generation := 0
    failedGeneration := 0
    readiness := .ready
    shutdownFlag := false
    conns := fun _ => { generation := 0, reader := .running, orphaned := false }
    opened := 1
    handle := some 0
    published := 0
    observed := []
    reconnect := none }

/-- The admission check of `send_and_receive_inner`: a request that honours readiness is
refused with "RPC connection reader has stopped". -/
def refuses (s : Mux) : Bool := s.failedGeneration > s.generation

/-- `JoinHandle::abort` on the reader in `reader_handle`; the handle is taken. -/
def abortReader (s : Mux) : Mux :=
  match s.handle with
  | none => s
  | some c =>
    { s with
      handle := none
      conns := Function.update s.conns c
        { s.conns c with
          reader := if (s.conns c).reader = .running then .aborted else (s.conns c).reader } }

/-- The error exit of `reader_loop`. -/
def failReader (s : Mux) (c : Nat) : Mux :=
  { s with
    failedGeneration := max s.failedGeneration (saturatingSucc (s.conns c).generation)
    conns := Function.update s.conns c { s.conns c with reader := .failed } }

/-- Install a connection for the reconnect of generation `failedGen`. -/
def install (s : Mux) (failedGen : Nat) : Mux :=
  { s with
    conns := Function.update s.conns s.opened
      { generation := saturatingSucc failedGen, reader := .running, orphaned := false }
    opened := s.opened + 1
    handle := some s.opened
    reconnect := some { failedGen := failedGen, phase := .installed s.opened } }

/-- `RebindPublicationGuard::drop` behind a failed or dropped handler. -/
def orphan (s : Mux) (c : Nat) : Mux :=
  { s with
    readiness := .failed
    conns := Function.update s.conns c { s.conns c with orphaned := true }
    reconnect := none }

end Mux

inductive MuxEvent where
  /-- A caller reads `mux.generation()` before its attempt. -/
  | observe
  /-- A reader ends on an error. -/
  | readerFail (conn : Nat)
  /-- A caller obtains `reconnect_lock`. The shutdown test at its entry precedes the wait
  for the lock and says nothing here. -/
  | lockReconnect (failedGen : Nat)
  /-- The TCP connect fails, or the future is dropped while connecting. -/
  | connectFail
  /-- The writer lock is held: check again, announce the rebind, abort the old reader. -/
  | swap
  | install
  /-- The reconnect handler returns `Ok`. -/
  | handlerOk
  /-- The reconnect handler fails, or the future is dropped while it runs. -/
  | handlerErr
  | publish
  | shutdown
  deriving DecidableEq, Repr

namespace Mux

/-- One step of the connection machine. -/
def step (s : Mux) : MuxEvent → Option Mux
  | .observe => some { s with observed := s.generation :: s.observed }
  | .readerFail c =>
    if c < s.opened ∧ (s.conns c).reader ≠ .failed then some (s.failReader c) else none
  | .lockReconnect g =>
    if g ∈ s.observed ∧ s.reconnect = none then
      -- another caller may already have reconnected
      if s.generation > g then some s
      else some { s with reconnect := some { failedGen := g, phase := .connecting } }
    else none
  | .connectFail =>
    match s.reconnect with
    | some ⟨_, .connecting⟩ => some { s with reconnect := none }
    | _ => none
  | .swap =>
    match s.reconnect with
    | some ⟨g, .connecting⟩ =>
      if s.generation > g ∨ s.shutdownFlag = true then some { s with reconnect := none }
      else some { s.abortReader with
        readiness := .rebinding
        reconnect := some { failedGen := g, phase := .rebinding } }
    | _ => none
  | .install =>
    match s.reconnect with
    | some ⟨g, .rebinding⟩ => some (s.install g)
    | _ => none
  | .handlerOk =>
    match s.reconnect with
    | some ⟨g, .installed c⟩ =>
      some { s with
        generation := saturatingSucc g
        reconnect := some { failedGen := g, phase := .stored c } }
    | _ => none
  | .handlerErr =>
    match s.reconnect with
    | some ⟨_, .installed c⟩ => some (s.orphan c)
    | _ => none
  | .publish =>
    match s.reconnect with
    | some ⟨_, .stored c⟩ =>
      some { s with readiness := .ready, published := c, reconnect := none }
    | _ => none
  | .shutdown => some { s.abortReader with shutdownFlag := true }

end Mux

/-- The connection machine of one `StreamMux`. -/
def muxMachine : Lib.Machine Mux MuxEvent where
  init := .connect
  step := Mux.step

end NfsRs.Rpc
