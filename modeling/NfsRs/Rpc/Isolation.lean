import NfsRs.Rpc.Rebind

/-!
# NfsRs — isolation of pending requests

All connections of a `StreamMux` share one pending map. A request registered for a
connection is meant to be failed by the end of that connection only: by the exit of its
reader, by the reconnect that replaces it, or by `shutdown`. The reader's comment says that
old readers cannot poison a new connection.

The failure mark is numbered by connection, but the drain is not: the error exit of
`reader_loop` empties the whole map. A reader that has stopped and is overtaken by a complete
reconnect therefore fails requests of the connection after it. Two further ways lead to a
failure that belongs to no connection of the request: it is registered behind the drain of a
reconnect and fails with the connection that reconnect installs, or its XID comes round
while another request still holds it.

## Main results

- `pendingInv_step` : every pending request is registered for the installed connection.
- `pending_isolated` : in every run without these stragglers each waiter is resolved at most
  once, by a reply with its XID or by the end of the connection it was registered for.
- `failed_by_older_reader` : a run in which the exit of the first connection's reader fails
  a request registered for the second.
-/

namespace NfsRs.Rpc

/-! ## The property -/

namespace Sending

/-- The cause may resolve a request: a reply with its XID, or the end of the connection it
was registered for. -/
def allows (d : Sending) : Cause → Prop
  | .reply _ xid => xid = d.xid
  | .readerExit c => c = d.on
  | .reconnect c => c = d.on
  | .shutdown => True
  | .displaced => False

/-- Registered, and not yet over. -/
def awaiting (d : Sending) : Prop :=
  d.phase = .registered ∨ d.phase = .writing ∨ d.phase = .sent

/-- Past its registration, or over. -/
def begun (d : Sending) : Prop := d.phase ≠ .waiting ∧ d.phase ≠ .passed

theorem awaiting.begun {d : Sending} (h : d.awaiting) : d.begun := by
  unfold Sending.begun
  rcases h with h | h | h <;> simp [h]

theorem awaiting.live {d : Sending} (h : d.awaiting) : d.phase ≠ .done := by
  rcases h with h | h | h <;> simp [h]

end Sending

/-- Each waiter is resolved at most once, and by a cause it allows. -/
structure Isolated (s : Traffic) : Prop where
  once : (s.completions.map (·.sending)).Nodup
  causes : ∀ k ∈ s.completions, ∃ d, s.sendings[k.sending]? = some d ∧ d.allows k.cause

/-- The runs without stragglers. No XID is drawn that a live request holds. When a reconnect
swaps the connection, every failed reader has drained the pending map and every ordinary
request that has seen readiness is registered; an aborted reader fails no more. -/
def NoStragglers (s : Traffic) : TrafficEvent → Prop
  | .start skipped _ =>
    ∀ d ∈ s.sendings, d.phase ≠ .done → d.xid ≠ (s.xidCounter + skipped + 1) % 2 ^ 32
  | .conn .swap => s.draining = [] ∧ ∀ d ∈ s.sendings, d.bypass = false → d.phase ≠ .passed
  | .conn (.readerFail c) => (s.mux.conns c).reader = .running
  | _ => True

instance (s : Traffic) (a : TrafficEvent) : Decidable (NoStragglers s a) := by
  cases a with
  | conn e => cases e <;> unfold NoStragglers <;> infer_instance
  | _ => unfold NoStragglers; infer_instance

/-! ## The invariant -/

/-- No two live requests hold one XID. -/
def XidsDistinct (l : List Sending) : Prop :=
  ∀ (i j : Nat) (d d' : Sending), l[i]? = some d → l[j]? = some d' → d.phase ≠ .done →
    d'.phase ≠ .done → d.xid = d'.xid → i = j

/-- A live request moves under its XID. -/
theorem XidsDistinct.set {l : List Sending} (h : XidsDistinct l) {i : Nat} {d d' : Sending}
    (hd : l[i]? = some d) (hLive : d.phase ≠ .done) (hXid : d'.xid = d.xid) :
    XidsDistinct (l.set i d') := by
  have hBack : ∀ (j : Nat) (x : Sending), (l.set i d')[j]? = some x → x.phase ≠ .done →
      ∃ y : Sending, l[j]? = some y ∧ y.phase ≠ .done ∧ y.xid = x.xid := by
    intro j x hx hxLive
    rcases Lib.of_getElem?_set hx with ⟨rfl, rfl⟩ | ⟨-, hOld⟩
    · exact ⟨d, hd, hLive, hXid.symm⟩
    · exact ⟨x, hOld, hxLive, rfl⟩
  intro j k x y hx hy hxLive hyLive hEq
  obtain ⟨x', hx', hxLive', hxXid⟩ := hBack j x hx hxLive
  obtain ⟨y', hy', hyLive', hyXid⟩ := hBack k y hy hyLive
  exact h j k x' y' hx' hy' hxLive' hyLive' (by rw [hxXid, hyXid, hEq])

structure PendingInv (s : Traffic) : Prop where
  conn : ConnInv s.mux s.writer s.bound s.handlerRuns
  passed : ∀ d ∈ s.sendings, d.bypass = false → d.phase = .passed → s.mux.readiness = .ready
  bypass : ∀ d ∈ s.sendings, d.bypass = true → d.phase ≠ .done → ∃ c, s.handlerConn? = some c
  /-- Every pending request is registered for the installed connection. -/
  entries : ∀ e ∈ s.pending, ∃ d, s.sendings[e.2]? = some d ∧ d.xid = e.1 ∧ d.on = s.writer ∧
    d.awaiting
  xids : XidsDistinct s.sendings
  once : (s.completions.map (·.sending) ++ s.pending.map (·.2)).Nodup
  causes : ∀ k ∈ s.completions, ∃ d, s.sendings[k.sending]? = some d ∧ d.begun ∧
    d.allows k.cause
  swapped : Traffic.rebinding s.mux = true →
    s.draining = [] ∧ (s.drained = true → s.pending = [])
  /-- A reader that is about to drain the map belongs to the installed connection. -/
  draining : ∀ c ∈ s.draining, c = s.writer

theorem pendingInv_connect : PendingInv .connect where
  conn := connInv_connect
  passed := nofun
  bypass := nofun
  entries := nofun
  xids := nofun
  once := List.nodup_nil
  causes := nofun
  swapped := fun _ => ⟨rfl, fun _ => rfl⟩
  draining := nofun

namespace PendingInv

variable {s : Traffic}

/-- The invariant reads neither the writer lock, the frames, nor the XID counter. -/
theorem frame (h : PendingInv s) (lock : Option WriterHolder) (frames : List FrameWrite) :
    PendingInv { s with lock := lock, frames := frames } :=
  ⟨h.conn, h.passed, h.bypass, h.entries, h.xids, h.once, h.causes, h.swapped, h.draining⟩

variable {i : Nat} {d : Sending}

/-- A pending entry of a run names its XID. -/
theorem entry_eq (h : PendingInv s) (hd : s.sendings[i]? = some d) {e : Nat × Nat}
    (he : e ∈ s.pending) (hi : e.2 = i) : e = (d.xid, i) ∧ d.awaiting := by
  obtain ⟨d', hd', hXid, -, hAwait⟩ := h.entries e he
  rw [hi, hd, Option.some.injEq] at hd'
  subst hd'
  exact ⟨Prod.ext hXid.symm hi, hAwait⟩

/-- No other run has an entry under the XID of a live one. -/
theorem entry_of_xid (h : PendingInv s) (hd : s.sendings[i]? = some d) (hLive : d.phase ≠ .done)
    {e : Nat × Nat} (he : e ∈ s.pending) (hXid : e.1 = d.xid) : e.2 = i := by
  obtain ⟨d', hd', hXid', -, hAwait⟩ := h.entries e he
  exact h.xids _ _ d' d hd' hd hAwait.live hLive (by rw [hXid', hXid])

/-! ## Resolving waiters -/

theorem settle_of_none {chosen : Nat × Nat → Bool} (hNone : ∀ e ∈ s.pending, chosen e = false)
    (cause : Cause) : s.settle chosen cause = s := by
  have hKeep : s.pending.filter (fun e => !chosen e) = s.pending :=
    List.filter_eq_self.mpr fun e he => by simp [hNone e he]
  have hGone : s.pending.filter chosen = [] :=
    List.filter_eq_nil_iff.mpr fun e he => by simp [hNone e he]
  simp [Traffic.settle, hKeep, hGone]

/-- Resolving pending entries by a cause that their requests allow. -/
theorem settle (h : PendingInv s) (chosen : Nat × Nat → Bool) (cause : Cause)
    (hAllow : ∀ e ∈ s.pending, chosen e = true → ∀ d : Sending, d.xid = e.1 →
      d.on = s.writer → d.allows cause) : PendingInv (s.settle chosen cause) := by
  refine ⟨h.conn, h.passed, h.bypass, ?_, h.xids, ?_, ?_, ?_, h.draining⟩
  · exact fun e he => h.entries e (List.mem_of_mem_filter he)
  · -- the entries only change sides
    have hPerm : (s.pending.filter chosen ++ s.pending.filter fun e => !chosen e).Perm
        s.pending := List.filter_append_perm chosen s.pending
    refine (List.Perm.nodup_iff ?_).mpr h.once
    simp only [Traffic.settle, List.map_append, List.map_map, List.append_assoc]
    refine List.Perm.append_left _ ?_
    have hMap := hPerm.map (·.2)
    rwa [List.map_append] at hMap
  · intro k hk
    rcases List.mem_append.mp hk with hOld | hNew
    · exact h.causes k hOld
    · obtain ⟨e, he, rfl⟩ := List.mem_map.mp hNew
      obtain ⟨hMem, hChosen⟩ := List.mem_filter.mp he
      obtain ⟨d, hd, hXid, hOn, hAwait⟩ := h.entries e hMem
      exact ⟨d, hd, hAwait.begun, hAllow e hMem hChosen d hXid hOn⟩
  · intro hr
    obtain ⟨hDraining, hPending⟩ := h.swapped hr
    refine ⟨hDraining, fun hDrained => ?_⟩
    have hNil : s.pending = [] := hPending hDrained
    simp [Traffic.settle, hNil]

theorem drain_pending (s : Traffic) (cause : Cause) : (s.drain cause).pending = [] := by
  simp [Traffic.drain, Traffic.settle]

/-- Draining the map at the end of the installed connection. -/
theorem drain (h : PendingInv s) (cause : Cause)
    (hAllow : ∀ d : Sending, d.on = s.writer → d.allows cause) : PendingInv (s.drain cause) :=
  h.settle _ _ fun _ _ _ d _ hOn => hAllow d hOn

/-! ## Moving one request -/

/-- A run moves to another phase under its XID. -/
theorem setPhase (h : PendingInv s) (hd : s.sendings[i]? = some d) (hLive : d.phase ≠ .done)
    (phase : SendPhase) (hPassed : d.bypass = false → phase = .passed → s.mux.readiness = .ready)
    (hAwait : ∀ e ∈ s.pending, e.2 = i → Sending.awaiting { d with phase := phase })
    (hBegun : d.begun → Sending.begun { d with phase := phase }) :
    PendingInv (s.setSending i { d with phase := phase }) := by
  have hMem := List.mem_of_getElem? hd
  -- what stood at an index is there still, or it is this run
  have hGet : ∀ (j : Nat) (x : Sending), s.sendings[j]? = some x →
      (s.sendings.set i { d with phase := phase })[j]? = some x ∨
        (j = i ∧ x = d ∧
          (s.sendings.set i { d with phase := phase })[j]? = some { d with phase := phase }) := by
    intro j x hx
    by_cases hij : j = i
    · subst hij
      have hLt := (List.getElem?_eq_some_iff.mp hd).1
      rw [hd, Option.some.injEq] at hx
      exact .inr ⟨rfl, hx.symm, List.getElem?_set_self hLt⟩
    · rw [List.getElem?_set_ne (Ne.symm hij)]
      exact .inl hx
  exact { h with
    passed := Lib.forall_mem_set h.passed hPassed
    bypass := Lib.forall_mem_set h.bypass fun hBypass _ => h.bypass d hMem hBypass hLive
    entries := by
      intro e he
      obtain ⟨x, hx, hXid, hOn, hAwaiting⟩ := h.entries e he
      rcases hGet e.2 x hx with hSame | ⟨hi, rfl, hNew⟩
      · exact ⟨x, hSame, hXid, hOn, hAwaiting⟩
      · exact ⟨_, hNew, hXid, hOn, hAwait e he hi⟩
    xids := h.xids.set hd hLive rfl
    causes := by
      intro k hk
      obtain ⟨x, hx, hxBegun, hxAllows⟩ := h.causes k hk
      rcases hGet k.sending x hx with hSame | ⟨-, rfl, hNew⟩
      · exact ⟨x, hSame, hxBegun, hxAllows⟩
      · refine ⟨_, hNew, hBegun hxBegun, ?_⟩
        cases hCause : k.cause with
        | reply c xid => simpa [Sending.allows, hCause] using hxAllows
        | readerExit c => simpa [Sending.allows, hCause] using hxAllows
        | reconnect c => simpa [Sending.allows, hCause] using hxAllows
        | shutdown => trivial
        | displaced => simp [Sending.allows, hCause] at hxAllows }

/-- Dropping entries of the pending map without resolving a waiter. -/
theorem forget (h : PendingInv s) (p : Nat × Nat → Bool) :
    PendingInv { s with pending := s.pending.filter p } where
  conn := h.conn
  passed := h.passed
  bypass := h.bypass
  entries := fun e he => h.entries e (List.mem_of_mem_filter he)
  xids := h.xids
  once := h.once.sublist
    (List.Sublist.append_left (List.Sublist.map _ List.filter_sublist) _)
  causes := h.causes
  swapped := by
    intro hr
    obtain ⟨hDraining, hPending⟩ := h.swapped hr
    refine ⟨hDraining, fun hDrained => ?_⟩
    have hNil : s.pending = [] := hPending hDrained
    simp [hNil]
  draining := h.draining

/-- The guard of a run that ends finds at most its own entry. -/
theorem finish (h : PendingInv s) (hd : s.sendings[i]? = some d) (hAwait : d.awaiting) :
    PendingInv (s.finish i d) := by
  have hForget := h.forget fun e => e ≠ (d.xid, i)
  have hNoEntry : ∀ e ∈ s.pending.filter (fun e => e ≠ (d.xid, i)), e.2 ≠ i := by
    intro e he hi
    obtain ⟨hMem, hNe⟩ := List.mem_filter.mp he
    exact of_decide_eq_true hNe (h.entry_eq hd hMem hi).1
  have hDone := hForget.setPhase hd hAwait.live .done nofun
    (fun e he hi => absurd hi (hNoEntry e he)) (fun _ => ⟨nofun, nofun⟩)
  have hNone : ∀ e ∈ s.pending.filter (fun e => e ≠ (d.xid, i)), (e.1 == d.xid) = false := by
    intro e he
    have hMem := List.mem_of_mem_filter he
    by_contra hXid
    exact hNoEntry e he (h.entry_of_xid hd hAwait.live hMem (by simpa using hXid))
  have hEq : s.finish i d = Traffic.setSending
      { s with pending := s.pending.filter fun e => e ≠ (d.xid, i) } i
      { d with phase := .done } := settle_of_none hNone _
  rw [hEq]
  exact hDone

/-- A request that has passed its readiness check is for the installed connection. -/
theorem target_eq (h : PendingInv s) (hd : s.sendings[i]? = some d) (hPhase : d.phase = .passed) :
    s.target d = s.writer := by
  unfold Traffic.target
  cases hBypass : d.bypass with
  | true => rfl
  | false => exact (h.conn.ready (h.passed d (List.mem_of_getElem? hd) hBypass hPhase)).1.symm

/-- No request is registered between a swap and the installation. -/
theorem not_rebinding (h : PendingInv s) (hd : s.sendings[i]? = some d)
    (hPhase : d.phase = .passed) :
    Traffic.rebinding s.mux ≠ true := by
  intro hr
  obtain ⟨g, hr⟩ := Traffic.rebinding_iff.mp hr
  have hMem := List.mem_of_getElem? hd
  cases hBypass : d.bypass with
  | true =>
    obtain ⟨c, hc⟩ := h.bypass d hMem hBypass (by simp [hPhase])
    obtain ⟨g', hr'⟩ := Traffic.handlerConn?_eq_some hc
    rw [hr] at hr'
    cases hr'
  | false =>
    have hReady := h.passed d hMem hBypass hPhase
    rw [h.conn.busy g _ hr nofun] at hReady
    cases hReady

/-- The registration: no other run has the XID, so nothing is displaced, and the run goes out on
the writer of that moment. -/
theorem insert (h : PendingInv s) (hd : s.sendings[i]? = some d) (hPhase : d.phase = .passed) :
    PendingInv (s.insert i d) := by
  have hMem := List.mem_of_getElem? hd
  have hLt := (List.getElem?_eq_some_iff.mp hd).1
  have hLive : d.phase ≠ .done := by simp [hPhase]
  have hNotAwait : ¬ d.awaiting := by simp [Sending.awaiting, hPhase]
  -- behind its check a run has neither an entry nor a completion
  have hNoEntry : ∀ e ∈ s.pending, e.2 ≠ i := fun e he hi =>
    hNotAwait (h.entry_eq hd he hi).2
  have hNone : ∀ e ∈ s.pending, (e.1 == d.xid) = false := by
    intro e he
    by_contra hXid
    exact hNoEntry e he (h.entry_of_xid hd hLive he (by simpa using hXid))
  have hNotDone : ∀ k ∈ s.completions, k.sending ≠ i := by
    intro k hk hi
    obtain ⟨x, hx, hBegun, -⟩ := h.causes k hk
    rw [hi, hd, Option.some.injEq] at hx
    subst hx
    exact hBegun.2 hPhase
  have hSettle : s.settleXid d.xid .displaced = s := settle_of_none hNone _
  unfold Traffic.insert
  rw [hSettle]
  exact { h with
    passed := Lib.forall_mem_set h.passed nofun
    bypass := Lib.forall_mem_set h.bypass fun hBypass _ => h.bypass d hMem hBypass hLive
    entries := by
      refine Lib.forall_mem_concat (fun e he => ?_) ?_
      · obtain ⟨x, hx, hRest⟩ := h.entries e he
        exact ⟨x, by rw [List.getElem?_set_ne (hNoEntry e he).symm]; exact hx, hRest⟩
      · exact ⟨_, List.getElem?_set_self hLt, rfl, h.target_eq hd hPhase, .inl rfl⟩
    xids := h.xids.set hd hLive rfl
    once := by
      simp only [List.map_append, List.map_cons, List.map_nil, ← List.append_assoc]
      refine List.nodup_append.mpr ⟨h.once, List.pairwise_singleton _ i, ?_⟩
      intro x hx y hy
      rw [List.mem_singleton.mp hy]
      rcases List.mem_append.mp hx with hDone | hPending
      · obtain ⟨k, hk, rfl⟩ := List.mem_map.mp hDone
        exact hNotDone k hk
      · obtain ⟨e, he, rfl⟩ := List.mem_map.mp hPending
        exact hNoEntry e he
    causes := by
      intro k hk
      obtain ⟨x, hx, hRest⟩ := h.causes k hk
      exact ⟨x, by rw [List.getElem?_set_ne (hNotDone k hk).symm]; exact hx, hRest⟩
    swapped := fun hr => absurd hr (h.not_rebinding hd hPhase) }

/-- A request starts under an XID that no live request holds. -/
theorem start (h : PendingInv s) (skipped : Nat) (bypass : Bool)
    (hHandler : bypass = true → ∃ c, s.handlerConn? = some c)
    (hFresh : ∀ d ∈ s.sendings, d.phase ≠ .done →
      d.xid ≠ (s.xidCounter + skipped + 1) % 2 ^ 32) :
    PendingInv (s.start skipped bypass) := by
  have hOld : ∀ {j : Nat} {x : Sending}, s.sendings[j]? = some x →
      (s.start skipped bypass).sendings[j]? = some x := by
    intro j x hx
    have hLt := (List.getElem?_eq_some_iff.mp hx).1
    exact (List.getElem?_append_left hLt).trans hx
  -- the only run that is new is the last one
  have hNew : ∀ {j : Nat} {x : Sending}, (s.start skipped bypass).sendings[j]? = some x →
      s.sendings[j]? = some x ∨
        j = s.sendings.length ∧ x.xid = (s.xidCounter + skipped + 1) % 2 ^ 32 := by
    intro j x hx
    rcases Lib.of_getElem?_concat hx with hOld | ⟨hLast, rfl⟩
    · exact .inl hOld
    · exact .inr ⟨hLast, rfl⟩
  exact { h with
    passed := by
      refine Lib.forall_mem_concat h.passed fun hBypass hPassed => ?_
      have hOrdinary : bypass = false := hBypass
      simp [hOrdinary] at hPassed
    bypass := Lib.forall_mem_concat h.bypass fun hBypass _ => hHandler hBypass
    entries := by
      intro e he
      obtain ⟨d, hd, hRest⟩ := h.entries e he
      exact ⟨d, hOld hd, hRest⟩
    xids := by
      intro j k x y hx hy hxLive hyLive hXid
      rcases hNew hx with hx' | ⟨rfl, hxXid⟩
      · rcases hNew hy with hy' | ⟨rfl, hyXid⟩
        · exact h.xids j k x y hx' hy' hxLive hyLive hXid
        · exact absurd (hXid.trans hyXid) (hFresh x (List.mem_of_getElem? hx') hxLive)
      · rcases hNew hy with hy' | ⟨rfl, -⟩
        · exact absurd (hXid.symm.trans hxXid) (hFresh y (List.mem_of_getElem? hy') hyLive)
        · rfl
    causes := by
      intro k hk
      obtain ⟨d, hd, hRest⟩ := h.causes k hk
      exact ⟨d, hOld hd, hRest⟩ }

end PendingInv

/-! ## Steps -/

variable {s s' : Traffic}

/-- **Steps of the request side.** -/
theorem pendingInv_move {a : TrafficEvent} (h : PendingInv s) (hok : NoStragglers s a)
    (hMove : s.Move a s') : PendingInv s' := by
  cases hMove with
  | start skipped bypass hHandler => exact h.start skipped bypass hHandler hok
  | @pass i d hd hPhase hReady =>
    refine h.setPhase hd (by simp [hPhase]) .passed (fun _ _ => hReady) ?_ ?_
    · intro e he hi
      have hAwait := (h.entry_eq hd he hi).2
      simp [Sending.awaiting, hPhase] at hAwait
    · exact fun hBegun => absurd hPhase hBegun.1
  | @giveUp a i d hd hPhase =>
    have hLive : d.phase ≠ .done := by rcases hPhase with hPhase | hPhase <;> simp [hPhase]
    refine h.setPhase hd hLive .done nofun ?_ fun _ => ⟨nofun, nofun⟩
    intro e he hi
    have hBegun := (h.entry_eq hd he hi).2.begun
    rcases hPhase with hPhase | hPhase
    · exact absurd hPhase hBegun.1
    · exact absurd hPhase hBegun.2
  | insert hd hPhase => exact h.insert hd hPhase
  | @lockWriter i d hd hPhase =>
    exact (h.setPhase hd (by simp [hPhase]) .writing nofun (fun _ _ _ => .inr (.inl rfl))
      fun _ => ⟨nofun, nofun⟩).frame _ _
  | @sent i d ok hd hPhase =>
    exact (h.setPhase hd (by simp [hPhase]) .sent nofun (fun _ _ _ => .inr (.inr rfl))
      fun _ => ⟨nofun, nofun⟩).frame _ _
  | finish lock hd hPhase => exact (h.finish hd hPhase).frame _ _
  | reply c xid =>
    refine h.settle _ _ fun e _ hChosen d hXid _ => ?_
    have hEq : e.1 = xid := by simpa using hChosen
    exact hEq.symm.trans hXid.symm
  -- a reader that drains is that of the writer, to which every entry belongs
  | @readerDrain c hc =>
    have hDrain := h.drain (.readerExit c) fun d hOn => (h.draining c hc).trans hOn.symm
    refine ⟨hDrain.conn, hDrain.passed, hDrain.bypass, hDrain.entries, hDrain.xids, hDrain.once,
      hDrain.causes, ?_, fun x hx => h.draining x (List.mem_of_mem_erase hx)⟩
    intro hr
    have hNil : s.draining = [] := (h.swapped hr).1
    rw [hNil] at hc
    cases hc
  | reconnectDrain hr =>
    have hDrain := h.drain (.reconnect s.writer) fun d hOn => hOn.symm
    exact ⟨hDrain.conn, hDrain.passed, hDrain.bypass, hDrain.entries, hDrain.xids, hDrain.once,
      hDrain.causes,
      fun hr => ⟨(h.swapped hr).1, fun _ => PendingInv.drain_pending s (.reconnect s.writer)⟩,
      hDrain.draining⟩
  | shutdownDrain => exact h.drain .shutdown fun _ _ => trivial

/-- A connection step keeps what the pending map says, if the connection it installs finds
the map empty and its effect on readers and handler calls is accounted for. -/
theorem PendingInv.connMove {e : MuxEvent} (h : PendingInv s) (hMove : s.ConnMove e s')
    (hSwap : e = .swap → ∀ d ∈ s.sendings, d.bypass = false → d.phase ≠ .passed)
    (hBypass : s.bypassLive = false ∨ ∀ c, s.handlerConn? = some c → s'.handlerConn? = some c)
    (hWriter : s.pending = [] ∨ s'.writer = s.writer) (hSwapped : Traffic.rebinding s'.mux = true →
      s'.draining = [] ∧ (s'.drained = true → s'.pending = []))
    (hDraining : ∀ c ∈ s'.draining, c = s'.writer) : PendingInv s' := by
  obtain ⟨hSendings, hPending, hCompletions, -⟩ := hMove.frame
  exact {
    conn := connInv_connMove h.conn hMove
    passed := by
      rw [hSendings]
      intro d hd hOrdinary hPhase
      -- only a swap takes the readiness back, and nobody is behind the check then
      by_cases hIsSwap : e = .swap
      · exact absurd hPhase (hSwap hIsSwap d hd hOrdinary)
      · exact ready_of_connMove h.conn hMove hIsSwap (h.passed d hd hOrdinary hPhase)
    bypass := by
      rw [hSendings]
      intro d hd hIsBypass hLive
      rcases hBypass with hNone | hKeep
      · exact absurd (Traffic.done_of_not_bypassLive hNone hd hIsBypass) hLive
      · obtain ⟨c, hc⟩ := h.bypass d hd hIsBypass hLive
        exact ⟨c, hKeep c hc⟩
    entries := by
      rw [hPending, hSendings]
      -- entries name the writer, which changes under an empty map only
      rcases hWriter with hNil | hSame
      · rw [hNil]
        exact nofun
      · rw [hSame]
        exact h.entries
    xids := by
      rw [hSendings]
      exact h.xids
    once := by
      rw [hCompletions, hPending]
      exact h.once
    causes := by
      rw [hCompletions, hSendings]
      exact h.causes
    swapped := hSwapped
    draining := hDraining }

theorem pendingInv_connMove {e : MuxEvent} (h : PendingInv s) (hok : NoStragglers s (.conn e))
    (hMove : s.ConnMove e s') : PendingInv s' := by
  have hSwap : e = .swap → ∀ d ∈ s.sendings, d.bypass = false → d.phase ≠ .passed := by
    rintro rfl
    exact hok.2
  cases hMove with
  | observe => exact h.connMove .observe hSwap (.inr fun _ hc => hc) (.inr rfl) h.swapped h.draining
  | @readerFail c hc =>
    -- only the reader of the installed connection runs
    have hHandle := h.conn.running c hc hok
    refine h.connMove (.readerFail hc) hSwap (.inr fun _ hc => hc) (.inr rfl) ?_ ?_
    · intro hr
      obtain ⟨g, hr⟩ := Traffic.rebinding_iff.mp hr
      rw [h.conn.swapped g hr] at hHandle
      cases hHandle
    · intro x hx
      rcases List.mem_cons.mp hx with rfl | hOld
      · exact h.conn.handle x hHandle
      · exact h.draining x hOld
  | @setConnecting e r hOld hNew =>
    refine h.connMove (.setConnecting hOld hNew) hSwap (.inr ?_) (.inr rfl) ?_ h.draining
    · intro c hc
      obtain ⟨g, hr⟩ := Traffic.handlerConn?_eq_some hc
      rcases hOld with hOld | ⟨g', hOld⟩ <;> simp [hOld] at hr
    · intro hr
      obtain ⟨g, hr⟩ := Traffic.rebinding_iff.mp hr
      rcases hNew with rfl | ⟨g', rfl⟩ <;> simp at hr
  | @swap g hr =>
    refine h.connMove (.swap hr) hSwap (.inr ?_) (.inr rfl) (fun _ => ⟨hok.1, nofun⟩) h.draining
    intro c hc
    obtain ⟨g', hr'⟩ := Traffic.handlerConn?_eq_some hc
    rw [hr] at hr'
    cases hr'
  | @install g hr hDrained =>
    obtain ⟨hNoDraining, hNoPending⟩ := h.swapped (Traffic.rebinding_iff.mpr ⟨g, hr⟩)
    refine h.connMove (.install hr hDrained) hSwap (.inr ?_) (.inl (hNoPending hDrained)) ?_ ?_
    · intro c hc
      obtain ⟨g', hr'⟩ := Traffic.handlerConn?_eq_some hc
      rw [hr] at hr'
      cases hr'
    · intro hr'
      simp [Traffic.rebinding, Mux.install] at hr'
    · intro c hc
      have hMem : c ∈ s.draining := hc
      rw [hNoDraining] at hMem
      cases hMem
  | handlerOk hr hLive =>
    exact h.connMove (.handlerOk hr hLive) hSwap (.inl hLive) (.inr rfl)
      (by simp [Traffic.rebinding]) h.draining
  | handlerErr hr hLive =>
    exact h.connMove (.handlerErr hr hLive) hSwap (.inl hLive) (.inr rfl)
      (by simp [Traffic.rebinding, Mux.orphan]) h.draining
  | @publish g c hr =>
    refine h.connMove (.publish hr) hSwap (.inr ?_) (.inr rfl) (by simp [Traffic.rebinding])
      h.draining
    intro c hc
    obtain ⟨g', hr'⟩ := Traffic.handlerConn?_eq_some hc
    rw [hr] at hr'
    cases hr'
  | shutdown =>
    have hRec : s.mux.abortReader.reconnect = s.mux.reconnect := s.mux.abortReader_frame.2.2.2.2.2
    refine h.connMove .shutdown hSwap (.inr ?_) (.inr rfl) ?_ h.draining
    · intro c hc
      simpa only [Traffic.handlerConn?, hRec] using hc
    · intro hr
      simp only [Traffic.rebinding, hRec] at hr
      exact h.swapped hr

/-- **One step.** -/
theorem pendingInv_step {a : TrafficEvent} (h : PendingInv s) (hok : NoStragglers s a)
    (hstep : s.step a = some s') : PendingInv s' := by
  rcases Traffic.step_cases hstep with ⟨e, rfl, hMove⟩ | hMove
  · exact pendingInv_connMove h hok hMove
  · exact pendingInv_move h hok hMove

/-- **Isolation.** In every run without stragglers a waiter is resolved at most once, by a
reply that carries its XID, by the exit of the reader of the connection it was registered
for, by a reconnect that replaces that connection, or by `shutdown`. -/
theorem pending_isolated {s : Traffic} (h : trafficMachine.ReachableIf NoStragglers s) :
    Isolated s := by
  have hInv : PendingInv s := h.invariant pendingInv_connect
    (fun _ _ _ _ hok hstep hInv => pendingInv_step hInv hok hstep)
  refine ⟨(List.nodup_append.mp hInv.once).1, fun k hk => ?_⟩
  obtain ⟨d, hd, -, hAllows⟩ := hInv.causes k hk
  exact ⟨d, hd, hAllows⟩

/-- A request goes through readiness, the pending map and the writer lock. -/
def sends (i : Nat) : List TrafficEvent :=
  [.start 0 false, .checkReady i, .register i, .lockWriter i, .writeDone i true]

/-- A reconnect from the published generation to the next. -/
def reconnects (g : Nat) : List TrafficEvent :=
  [.conn (.lockReconnect g), .conn .swap, .reconnectDrain, .conn .install, .conn .handlerOk,
    .conn .publish]

/-- One request is answered, one fails with the first connection, one with the reconnect
away from the second, and one is failed by the shutdown. -/
def everyEnd : List TrafficEvent :=
  .conn .observe :: sends 0 ++ [.reply 0 1, .receive 0] ++ sends 1 ++
    [.conn (.readerFail 0), .readerDrain 0] ++ reconnects 0 ++ .conn .observe :: sends 2 ++
    reconnects 1 ++ sends 3 ++ [.conn .shutdown, .shutdownDrain]

theorem pending_isolated_everyEnd :
    ∃ s, trafficMachine.ReachableIf NoStragglers s ∧
      s.completions = [⟨0, .reply 0 1⟩, ⟨1, .readerExit 0⟩, ⟨2, .reconnect 1⟩, ⟨3, .shutdown⟩] ∧
      Isolated s := by
  have hrun : (trafficMachine.runChecked NoStragglers trafficMachine.init everyEnd).any
      (fun s => s.completions =
        [⟨0, .reply 0 1⟩, ⟨1, .readerExit 0⟩, ⟨2, .reconnect 1⟩, ⟨3, .shutdown⟩]) = true := by
    decide +kernel
  obtain ⟨s, hs, hEnd⟩ := (Option.any_eq_true _ _).mp hrun
  have hReach := Lib.Machine.reachableIf_of_runChecked everyEnd .init hs
  exact ⟨s, hReach, of_decide_eq_true hEnd, pending_isolated hReach⟩

/-- The reader of the first connection publishes its failure and is overtaken by the
reconnect; a request goes out on the second connection before the reader drains the map. -/
def overtakenReader : List TrafficEvent :=
  .conn .observe :: .conn (.readerFail 0) :: reconnects 0 ++ sends 0 ++ [.readerDrain 0]

/-- The request was registered for connection 1, whose reader runs, and is failed by the exit
of connection 0's reader. -/
theorem failed_by_older_reader :
    ∃ s, trafficMachine.Reachable s ∧ s.completions = [⟨0, .readerExit 0⟩] ∧
      (∃ d, s.sendings[0]? = some d ∧ d.on = 1) ∧ s.mux.published = 1 ∧
      (s.mux.conns 1).reader = .running ∧ ¬ Isolated s := by
  have hrun : (trafficMachine.runFrom trafficMachine.init overtakenReader).any
      (fun s => s.completions = [⟨0, .readerExit 0⟩] ∧
        s.sendings = [{ xid := 1, bypass := false, phase := .sent, on := 1 }] ∧
        s.mux.published = 1 ∧ (s.mux.conns 1).reader = .running) = true := by
    decide +kernel
  obtain ⟨s, hs, hEnd⟩ := (Option.any_eq_true _ _).mp hrun
  obtain ⟨hCompletions, hSendings, hPublished, hRunning⟩ := of_decide_eq_true hEnd
  refine ⟨s, Lib.Machine.reachable_of_runFrom _ hs, hCompletions, ⟨_, by rw [hSendings]; rfl, rfl⟩,
    hPublished, hRunning, fun hIsolated => ?_⟩
  obtain ⟨d, hd, hAllows⟩ := hIsolated.causes _
    (by rw [hCompletions]; exact List.mem_singleton_self _)
  rw [hSendings] at hd
  cases hd
  cases hAllows

end NfsRs.Rpc
