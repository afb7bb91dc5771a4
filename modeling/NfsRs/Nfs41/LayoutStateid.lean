import NfsRs.Lib.Machine
import NfsRs.Nfs41.LayoutCache

/-!
# NfsRs — the layout stateid of one file, at the client and at the server

Once a server has granted a layout, later LAYOUTGETs have to carry its layout stateid for as long
as the server holds layout state. The client keeps the stateid with the cached layout and takes
the stateid of an open, or the anonymous one, when nothing is cached.

The machine has both sides, for one file in one session generation: what the server holds, what
the client has cached, a LAYOUTGET and a LAYOUTRETURN on their way. `handle_recalls` returns the
range that the server asked for; `layoutreturn_file` the whole file, in the I/O mode of the only
segment if there is one. Both remove the cached layout when the return succeeded, also where the
server holds more than was returned. CLOSE leaves the cache alone: a layout that was not granted
to be returned on close stays cached behind it.

## Main results

- `layoutStateid_continuous` : where returns are whole and grants arrive, the client carries the
  stateid of the server.
- `layoutStateid_dropped` : a return of a part loses it.
-/

namespace NfsRs.Nfs41.LayoutStateid

/-- What LAYOUTGET grants, beside the stateid. -/
structure Grant where
  returnOnClose : Bool
  segments : List LayoutSegment
  deriving DecidableEq, Repr

/-- The arguments of a LAYOUTRETURN; no I/O mode stands for any. -/
structure Return where
  iomode : Option IoMode
  offset : Nat
  length : Nat
  deriving DecidableEq, Repr

/-- Nothing of the segment is left after the return. -/
def Return.covers (r : Return) (h : LayoutSegment) : Bool :=
  (r.iomode == none || r.iomode == some h.iomode) && decide (r.offset ≤ h.offset) &&
    (decide (r.length = u64Max) || decide (h.offset + h.length ≤ r.offset + r.length))

inductive GetPhase where
  | idle
  | sent (carried : Option Nat)
  /-- The answer, and whether a layout was cached when the request was built. -/
  | replied (cached : Bool) (granted : Option (Nat × Grant))
  deriving DecidableEq, Repr

inductive ReturnPhase where
  | idle
  | sent (args : Return)
  | replied (accepted : Bool)
  deriving DecidableEq, Repr

structure State where
  /-- The layout stateid of the server, while it holds layout state. -/
  server : Option Nat
  holdings : List LayoutSegment
  nextId : Nat
  cache : LayoutCache
  get : GetPhase
  ret : ReturnPhase
  /-- The LAYOUTGETs sent: the layout stateid that each carried, and the one of the server. -/
  log : List (Option Nat × Option Nat)
  deriving DecidableEq, Repr

/-- The stateid of the cached layout. Every layout here is of the one generation, so the check
of `get_layout` passes. -/
def State.cachedId (s : State) : Option Nat := s.cache.layout.map (·.stateid)

inductive Label where
  | sendGet
  | executeGet (grant : Option Grant)
  /-- The reply arrives, or is lost or cannot be decoded. -/
  | replyGet (delivered : Bool)
  | recallFile (args : Return)
  | returnFile
  | executeReturn (accepted : Bool)
  /-- The reply arrives, and what was dirty is acknowledged. -/
  | replyReturn (acknowledged : Bool)
  | refresh
  /-- CLOSE, which `close_file_inner` sends under the I/O gate of the file, whatever is cached;
  the server disposes of the layout when it was granted so. -/
  | close (disposes : Bool)
  deriving DecidableEq, Repr

/-- The return of `layoutreturn_file` and of a recall of all layouts. -/
def wholeFile (cached : MappedLayout) : Return where
  iomode := match cached.segments with
    | [segment] => some segment.iomode
    | _ => none
  offset := 0
  length := u64Max

/-- The server's side of LAYOUTGET: a stateid of its own must be the one it holds. -/
def State.grant (s : State) (carried : Option Nat) (g : Grant) : Option (Nat × State) :=
  match carried, s.server with
  | some id, some held =>
      if id = held then some (held, { s with holdings := s.holdings ++ g.segments }) else none
  | some _, none => none
  | none, some held => some (held, { s with holdings := s.holdings ++ g.segments })
  | none, none => some (s.nextId,
      { s with server := some s.nextId, holdings := g.segments, nextId := s.nextId + 1 })

/-- The server's side of LAYOUTRETURN: the state goes with its last part. -/
def State.release (s : State) (args : Return) : State :=
  let left := s.holdings.filter fun h => !args.covers h
  { s with holdings := left, server := if left = [] then none else s.server }

/-- `merge_layout` when a layout was cached, else `store_layout_at`. -/
def State.accept (s : State) (cached : Bool) (id : Nat) (g : Grant) : LayoutCache :=
  let update : MappedLayout :=
    { generation := s.cache.activeGeneration, stateid := id, returnOnClose := g.returnOnClose
      segments := g.segments }
  if cached then s.cache.mergeLayout update
  else (s.cache.storeLayoutAt s.cache.activeGeneration update).2

def State.step (s : State) : Label → Option State
  | .sendGet =>
      if s.get = .idle then
        some { s with get := .sent s.cachedId, log := s.log ++ [(s.cachedId, s.server)] }
      else none
  | .executeGet grant =>
      match s.get with
      | .sent carried =>
          match grant.bind fun g => (s.grant carried g).map fun r => (r.1, g, r.2) with
          | none => some { s with get := .replied carried.isSome none }
          | some (id, g, next) =>
              some { next with get := .replied carried.isSome (some (id, g)) }
      | _ => none
  | .replyGet delivered =>
      match s.get with
      | .replied cached (some (id, g)) =>
          if delivered then some { s with get := .idle, cache := s.accept cached id g }
          else some { s with get := .idle }
      | .replied _ none => some { s with get := .idle }
      | _ => none
  | .recallFile args => if s.ret = .idle then some { s with ret := .sent args } else none
  | .returnFile =>
      match s.ret, s.cache.layout with
      | .idle, some cached => some { s with ret := .sent (wholeFile cached) }
      | _, _ => none
  | .executeReturn accepted =>
      match s.ret with
      | .sent args =>
          some { if accepted then s.release args else s with ret := .replied accepted }
      | _ => none
  | .replyReturn acknowledged =>
      match s.ret with
      | .replied accepted =>
          some { s with
            ret := .idle
            cache := if accepted && acknowledged then s.cache.removeLayout else s.cache }
      | _ => none
  | .refresh => some { s with cache := s.cache.invalidateLayoutSegments }
  | .close disposes =>
      if s.ret = .idle then
        some (if disposes then { s with server := none, holdings := [] } else s)
      else none

def stateidMachine : Lib.Machine State Label where
  init := ⟨none, [], 0, ⟨1, none⟩, .idle, .idle, []⟩
  step := State.step

/-- A return that is accepted covers all that the server holds, replies of LAYOUTGET that grant
something arrive, and a LAYOUTGET and a return of the file are not under way together. -/
def Undivided (s : State) : Label → Prop
  | .sendGet => s.ret = .idle
  | .replyGet delivered => delivered = true
  | .recallFile _ | .returnFile | .close _ => s.get = .idle
  | .executeReturn accepted => accepted = true → ∀ args, s.ret = .sent args →
      (s.holdings.all fun h => args.covers h) = true
  | _ => True

instance (s : State) : (a : Label) → Decidable (Undivided s a)
  | .sendGet => inferInstanceAs (Decidable (s.ret = .idle))
  | .replyGet delivered => inferInstanceAs (Decidable (delivered = true))
  | .recallFile _ | .returnFile | .close _ => inferInstanceAs (Decidable (s.get = .idle))
  | .executeReturn accepted =>
    match hRet : s.ret with
    | .sent args => decidable_of_iff
        (accepted = true → (s.holdings.all fun h => args.covers h) = true)
        ⟨fun h ha _ hSent => by cases hRet.symm.trans hSent; exact h ha, fun h ha => h ha _ hRet⟩
    | .idle => .isTrue fun _ _ hSent => nomatch hRet.symm.trans hSent
    | .replied _ => .isTrue fun _ _ hSent => nomatch hRet.symm.trans hSent
  | .executeGet _ | .replyReturn _ | .refresh => .isTrue trivial

/-! ## The invariant -/

/-- The client has the stateid under which the server holds layout state. -/
def State.Continuous (s : State) : Prop := s.server ≠ none → s.cachedId = s.server

/-- The LAYOUTGETs sent had the stateid of the server. -/
def State.Carried (s : State) : Prop :=
  ∀ entry ∈ s.log, entry.2 ≠ none → entry.1 = entry.2

/-- What holds on the way of a LAYOUTGET and of a return. -/
structure StateidInv (s : State) : Prop where
  carried : s.Carried
  /-- A grant that has not arrived has the stateid that the server holds. -/
  get : match s.get with
    | .idle => True
    | .sent carried => carried = s.cachedId ∧ s.ret = .idle
    | .replied _ granted => s.ret = .idle ∧
        (s.server ≠ none → granted.map Prod.fst = s.server ∨
          granted = none ∧ s.cachedId = s.server)
  continuous : (∀ cached granted, s.get ≠ .replied cached granted) → s.Continuous
  returned : s.ret = .replied true → s.server = none

variable {s s' : State}

theorem State.release_of_covered {args : Return}
    (h : (s.holdings.all fun h => args.covers h) = true) : (s.release args).server = none := by
  have hLeft : (s.holdings.filter fun h => !args.covers h) = [] := by
    refine List.filter_eq_nil_iff.mpr fun x hx => ?_
    simp [List.all_eq_true.mp h x hx]
  simp [State.release, hLeft]

/-- A grant is made under the stateid that the server then holds. -/
theorem State.grant_spec {next : State} {carried : Option Nat} {g : Grant} {id : Nat}
    (hGrant : s.grant carried g = some (id, next)) :
    next.server = some id ∧ next.cache = s.cache ∧ next.ret = s.ret ∧ next.log = s.log := by
  unfold State.grant at hGrant
  split at hGrant
  next hServer =>
    split at hGrant
    next =>
      cases hGrant
      exact ⟨hServer, rfl, rfl, rfl⟩
    next => cases hGrant
  next => cases hGrant
  next hServer =>
    cases hGrant
    exact ⟨hServer, rfl, rfl, rfl⟩
  next =>
    cases hGrant
    exact ⟨rfl, rfl, rfl, rfl⟩

/-- A merge and a store both leave the stateid of the grant in the cache. -/
theorem State.accept_stateid (s : State) (cached : Bool) (id : Nat) (g : Grant) :
    (s.accept cached id g).layout.map (·.stateid) = some id := by
  unfold State.accept
  dsimp only
  split
  · unfold LayoutCache.mergeLayout
    rw [if_neg (by simp)]
    split <;> rfl
  · unfold LayoutCache.storeLayoutAt
    rw [if_neg (by simp)]
    rfl

/-- No LAYOUTGET is under way while a return is. -/
theorem StateidInv.get_idle (h : StateidInv s) (hRet : s.ret ≠ .idle) : s.get = .idle := by
  have hGet := h.get
  split at hGet
  next hIdle => exact hIdle
  next => exact absurd hGet.2 hRet
  next => exact absurd hGet.1 hRet

theorem StateidInv.continuous_of_idle (h : StateidInv s) (hGet : s.get = .idle) : s.Continuous :=
  h.continuous fun _ _ hReplied => absurd (hGet.symm.trans hReplied) nofun

/-- The invariant where no LAYOUTGET is under way. -/
theorem StateidInv.ofIdle (hCarried : s.Carried) (hGet : s.get = .idle) (hContinuous : s.Continuous)
    (hReturned : s.ret = .replied true → s.server = none) :
    StateidInv s where
  carried := hCarried
  get := by rw [hGet]; trivial
  continuous _ := hContinuous
  returned := hReturned

theorem inv_sendGet (h : StateidInv s) (hRet : s.ret = .idle) (hStep : s.step .sendGet = some s') :
    StateidInv s' := by
  obtain ⟨hGet, ⟨⟩⟩ := Option.ite_none_right_eq_some.mp hStep
  have hContinuous := h.continuous_of_idle hGet
  refine ⟨fun entry hEntry hHeld => ?_, ⟨rfl, hRet⟩, fun _ => hContinuous, h.returned⟩
  rcases List.mem_append.mp hEntry with hOld | hNew
  · exact h.carried entry hOld hHeld
  · obtain rfl := List.mem_singleton.mp hNew
    exact hContinuous hHeld

/-- The server executes LAYOUTGET. -/
theorem inv_executeGet {grant : Option Grant} (h : StateidInv s)
    (hStep : s.step (.executeGet grant) = some s') : StateidInv s' := by
  simp only [State.step] at hStep
  split at hStep
  next carried hGet =>
    have hContinuous : s.Continuous :=
      h.continuous fun _ _ hReplied => absurd (hGet.symm.trans hReplied) nofun
    have hRet : s.ret = .idle := by
      have hSent := h.get
      rw [hGet] at hSent
      exact hSent.2
    split at hStep
    next =>
      cases hStep
      exact ⟨h.carried, ⟨hRet, fun hHeld => .inr ⟨rfl, hContinuous hHeld⟩⟩,
        fun hNot => absurd rfl (hNot _ none), h.returned⟩
    next id g next hGranted =>
      cases hStep
      obtain ⟨x, -, hMap⟩ := Option.bind_eq_some_iff.mp hGranted
      obtain ⟨r, hGrant, hEq⟩ := Option.map_eq_some_iff.mp hMap
      cases hEq
      obtain ⟨hServer, hCache, hKept, hLog⟩ := State.grant_spec hGrant
      refine ⟨?_, ⟨hKept.trans hRet, fun _ => .inl hServer.symm⟩,
        fun hNot => absurd rfl (hNot _ _), fun hReplied => ?_⟩
      · exact fun entry hEntry => h.carried entry (hLog ▸ hEntry)
      · exact absurd ((hKept.trans hRet).symm.trans hReplied) nofun
  next => cases hStep

/-- What LAYOUTGET granted is merged into the cache. -/
theorem inv_replyGet (h : StateidInv s) (hStep : s.step (.replyGet true) = some s') :
    StateidInv s' := by
  simp only [State.step] at hStep
  split at hStep
  next cached id g hGet =>
    have hReplied := h.get
    rw [hGet] at hReplied
    cases hStep
    refine .ofIdle h.carried rfl (fun hHeld => ?_) h.returned
    rcases hReplied.2 hHeld with hGranted | ⟨hNone, -⟩
    · exact (s.accept_stateid cached id g).trans hGranted
    · cases hNone
  next hGet =>
    have hReplied := h.get
    rw [hGet] at hReplied
    cases hStep
    refine .ofIdle h.carried rfl (fun hHeld => ?_) h.returned
    rcases hReplied.2 hHeld with hGranted | ⟨-, hCached⟩
    · exact absurd hGranted.symm hHeld
    · exact hCached
  next => cases hStep

theorem inv_executeReturn {accepted : Bool} (h : StateidInv s)
    (hWhole : accepted = true → ∀ args, s.ret = .sent args →
      (s.holdings.all fun h => args.covers h) = true)
    (hStep : s.step (.executeReturn accepted) = some s') : StateidInv s' := by
  simp only [State.step] at hStep
  split at hStep
  next args hRet =>
    have hGet := h.get_idle (by rw [hRet]; nofun)
    cases hStep
    cases accepted with
    | true =>
        have hNone := State.release_of_covered (hWhole rfl args hRet)
        exact .ofIdle h.carried hGet (fun hHeld => absurd hNone hHeld) fun _ => hNone
    | false => exact .ofIdle h.carried hGet (h.continuous_of_idle hGet) nofun
  next => cases hStep

theorem inv_replyReturn {acknowledged : Bool} (h : StateidInv s)
    (hStep : s.step (.replyReturn acknowledged) = some s') : StateidInv s' := by
  simp only [State.step] at hStep
  split at hStep
  next accepted hRet =>
    have hGet := h.get_idle (by rw [hRet]; nofun)
    cases hStep
    refine .ofIdle h.carried hGet (fun hHeld => ?_) nofun
    cases accepted with
    | true => exact absurd (h.returned hRet) hHeld
    | false => exact h.continuous_of_idle hGet hHeld
  next => cases hStep

/-- A refresh drops the segments and keeps the stateid. -/
theorem inv_refresh (h : StateidInv s) :
    StateidInv { s with cache := s.cache.invalidateLayoutSegments } := by
  have hSame : (State.cachedId { s with cache := s.cache.invalidateLayoutSegments }) =
      s.cachedId := by
    simp only [State.cachedId, LayoutCache.invalidateLayoutSegments, Option.map_map]
    rfl
  refine ⟨h.carried, ?_, fun hNot hHeld => hSame.trans (h.continuous hNot hHeld), h.returned⟩
  have hGet := h.get
  dsimp only
  split
  next => trivial
  next carried hSent =>
    rw [hSent] at hGet
    exact ⟨hGet.1.trans hSame.symm, hGet.2⟩
  next cached granted hReplied =>
    rw [hReplied] at hGet
    refine ⟨hGet.1, fun hHeld => (hGet.2 hHeld).imp id fun hCached => ?_⟩
    exact ⟨hCached.1, hSame.trans hCached.2⟩

theorem inv_step {a : Label} (h : StateidInv s) (hOk : Undivided s a) (hStep : s.step a = some s') :
    StateidInv s' := by
  cases a with
  | sendGet => exact inv_sendGet h hOk hStep
  | executeGet grant => exact inv_executeGet h hStep
  | replyGet delivered =>
      change delivered = true at hOk
      subst hOk
      exact inv_replyGet h hStep
  | recallFile args =>
      obtain ⟨-, ⟨⟩⟩ := Option.ite_none_right_eq_some.mp hStep
      exact .ofIdle h.carried hOk (h.continuous_of_idle hOk) nofun
  | returnFile =>
      simp only [State.step] at hStep
      split at hStep
      next =>
        cases hStep
        exact .ofIdle h.carried hOk (h.continuous_of_idle hOk) nofun
      next => cases hStep
  | executeReturn accepted => exact inv_executeReturn h hOk hStep
  | replyReturn acknowledged => exact inv_replyReturn h hStep
  | refresh =>
      cases hStep
      exact inv_refresh h
  | close disposes =>
      obtain ⟨-, ⟨⟩⟩ := Option.ite_none_right_eq_some.mp hStep
      split
      next => exact .ofIdle h.carried hOk (fun hHeld => absurd rfl hHeld) fun _ => rfl
      next => exact h

/-! ## The property -/

/-- **Stateid continuity.** On undivided histories the client has the layout stateid of the
server whenever no grant is on its way, and every LAYOUTGET sent carried it. -/
theorem layoutStateid_continuous {s : State} (h : stateidMachine.ReachableIf Undivided s) :
    s.Carried ∧ ((∀ cached granted, s.get ≠ .replied cached granted) → s.Continuous) := by
  have hInv : StateidInv s := by
    refine h.invariant ?_ fun s s' a _ hOk hStep hInv => inv_step hInv hOk hStep
    exact .ofIdle nofun rfl (fun hHeld => absurd rfl hHeld) nofun
  exact ⟨hInv.carried, hInv.continuous⟩

/-- A grant of the first 4096 bytes. -/
def firstBytes : Grant where
  returnOnClose := false
  segments := [⟨0, 4096, .readWrite, .nfsV41Files, .opaqueBytes []⟩]

def granted : List Label := [.sendGet, .executeGet (some firstBytes), .replyGet true]

/-- A grant, a CLOSE that leaves it, the return of the whole file, and a second LAYOUTGET that
starts anew. -/
def returnedRun : List Label :=
  granted ++ [.close false, .returnFile, .executeReturn true, .replyReturn true] ++ granted ++
    [.sendGet]

/-- The last LAYOUTGET of the run carries the second stateid of the server. -/
theorem layoutStateid_continuous_granted :
    ∃ s, stateidMachine.ReachableIf Undivided s ∧
      s.log = [(none, none), (none, none), (some 1, some 1)] ∧ s.server = some 1 ∧ s.Carried ∧
      ((∀ cached granted, s.get ≠ .replied cached granted) → s.Continuous) := by
  obtain ⟨s, hRun, hLog, hServer⟩ : ∃ s,
      stateidMachine.runChecked Undivided stateidMachine.init returnedRun = some s ∧
      s.log = [(none, none), (none, none), (some 1, some 1)] ∧ s.server = some 1 :=
    ⟨_, rfl, by decide⟩
  have hReach := Lib.Machine.reachableIf_of_runChecked returnedRun .init hRun
  exact ⟨s, hReach, hLog, hServer, layoutStateid_continuous hReach⟩

/-- The server recalls the first hundred bytes and holds the rest; the client removes its
layout, and its next LAYOUTGET carries no layout stateid. -/
theorem layoutStateid_dropped :
    ∃ s, stateidMachine.Reachable s ∧ s.get = .sent none ∧ s.ret = .idle ∧ s.server = some 0 ∧
      s.cache.layout = none ∧ ¬ s.Carried := by
  refine ⟨_, Lib.Machine.reachable_of_runFrom (granted ++ [.recallFile ⟨none, 0, 100⟩,
    .executeReturn true, .replyReturn true, .sendGet]) rfl, rfl, rfl, rfl, rfl, fun h => ?_⟩
  exact absurd (h (none, some 0) (by decide) nofun) nofun

end NfsRs.Nfs41.LayoutStateid
