import NfsRs.Lib.List
import NfsRs.Nfs41.PnfsIo

/-!
# NfsRs — device notifications fence GETDEVICEINFO

`get_or_fetch_device` looks a device up in the cache, and asks the metadata server when it is
not there. Meanwhile CB_NOTIFY_DEVICEID, a rejected layout or a bulk clear may invalidate the
device, and a session recovery may move the manager to the next generation. A reply is stored
only if neither the generation nor the revision of the cache moved since before the request.

The machine has any number of lookups, one callback record at a time (the callback state is
locked while a record is handled), and one recovery at a time. The cache lock is held from the
checks of `store_device_if_current` to its insertion, while the generation may move without it;
an invalidation is one step under the lock, since all that it changes in sight of others is the
revision. The machine records every invalidation (`history`), every insertion with the marks
of its request, every acknowledged notification and every hit of `get_device`.

## Main results

- `deviceInv_step` : every step keeps the invariant.
- `notification_fences` : nothing is stored across an invalidation; what `get_device` returns
  was fetched over the session of the active generation.
- `fetched_before_reply` : a request that is sent behind the invalidation and before the
  callback's reply is stored behind that reply.
-/

namespace NfsRs.Nfs41

/-! ## The device cache -/

/-- The device side of `LayoutManager`: cached devices with the generation that stored them,
and the addresses taken for unreachable. -/
structure DeviceCache where
  generation : Nat
  revision : Nat
  devices : List (List UInt8 × Nat × DeviceInfo)
  unreachableDs : List SocketAddr
  deriving DecidableEq, Repr

/-- `LayoutManager::invalidate_device`; the revision is a wrapping `u64`. -/
def DeviceCache.invalidateDevice (c : DeviceCache) (deviceId : List UInt8) (generation : Nat)
    (notified : Bool) : DeviceCache :=
  if generation ≠ c.generation then c
  else
    let rest : DeviceCache := { c with
      revision := (c.revision + 1) % 2 ^ 64
      devices := c.devices.filter fun d => d.1 ≠ deviceId }
    match c.devices.find? fun d => d.1 = deviceId with
    | some (_, _, info) =>
      if notified then
        { rest with
          unreachableDs := c.unreachableDs.filter fun addr => addr ∉ info.dsAddrs.flatten }
      else rest
    | none => rest

namespace DeviceCache

variable (c : DeviceCache)

def getDevice (deviceId : List UInt8) : Option DeviceInfo :=
  ((c.devices.find? fun d => d.1 = deviceId).filter fun d => d.2.1 == c.generation).map (·.2.2)

/-- The checks of `store_device_if_current`. -/
def isCurrent (generation revision : Nat) : Bool :=
  generation == c.generation && revision == c.revision

/-- Its insertion. -/
def insert (deviceId : List UInt8) (generation : Nat) (info : DeviceInfo) : DeviceCache :=
  { c with devices := (deviceId, generation, info) :: c.devices.filter fun d => d.1 ≠ deviceId }

def clearDevices : DeviceCache :=
  { c with revision := (c.revision + 1) % 2 ^ 64, devices := [] }

end DeviceCache

/-! ## State -/

/-- What was invalidated; a notification may belong to a session that is being replaced. -/
inductive DeviceRecord where
  | notified (deviceId : List UInt8) (effective : Bool)
  | refreshed (deviceId : List UInt8)
  | cleared
  deriving DecidableEq, Repr

/-- The record went with a new revision. -/
def DeviceRecord.bumped : DeviceRecord → Bool
  | .notified _ effective => effective
  | _ => true

/-- A moment of the run: the records, the revisions among them, and the replies so far. -/
structure DeviceMark where
  records : Nat
  bumps : Nat
  acks : Nat
  deriving DecidableEq, Repr

/-- A round of the loop, from the load of the revision. -/
structure DeviceAttempt where
  round : Nat
  revision : Nat
  loaded : DeviceMark
  deriving DecidableEq, Repr

/-- A GETDEVICEINFO on the wire: the generation of its session, and when it was first sent. -/
structure DeviceRequest where
  attempt : DeviceAttempt
  session : Nat
  sent : DeviceMark
  deriving DecidableEq, Repr

/-- Where `get_or_fetch_device` stands. -/
inductive DevicePhase where
  | looking
  /-- Waiting for the fetch gate. -/
  | gate
  | lookingAgain
  | loading (round : Nat)
  | loaded (a : DeviceAttempt)
  /-- The COMPOUND has its session. -/
  | picked (a : DeviceAttempt) (session : Nat)
  | sent (r : DeviceRequest)
  | answered (r : DeviceRequest) (info : DeviceInfo)
  /-- Under the cache lock, past the checks. -/
  | storing (r : DeviceRequest) (info : DeviceInfo)
  | stored
  | returned (result : Except NfsError (Option DeviceInfo))
  | dropped

def DevicePhase.holdsGate : DevicePhase → Bool
  | .looking | .gate | .returned _ | .dropped => false
  | _ => true

def DevicePhase.isStoring : DevicePhase → Bool
  | .storing .. => true
  | _ => false

structure DeviceFetch where
  deviceId : List UInt8
  generation : Nat
  phase : DevicePhase

/-- A session recovery. -/
inductive DeviceRecovery where
  | idle
  /-- `transition_to` has stored the generation. -/
  | fenced
  /-- It has emptied the cache. -/
  | swept
  /-- The callback state has the new session. -/
  | rebound
  deriving DecidableEq, Repr

/-- A CB_COMPOUND under way: the notified devices to invalidate, and those done. -/
structure DeviceCallback where
  todo : List (List UInt8)
  done : List (List UInt8)

/-- An entry that went into the cache. -/
structure DeviceStore where
  deviceId : List UInt8
  info : DeviceInfo
  request : DeviceRequest
  stored : DeviceMark

structure DeviceAck where
  deviceId : List UInt8
  records : Nat

/-- A hit of `get_device`, with the generation it loaded. -/
structure DeviceHit where
  deviceId : List UInt8
  info : DeviceInfo
  generation : Nat

structure DeviceRun where
  cache : DeviceCache
  /-- Generation of the published session. -/
  published : Nat
  /-- Generation of the callback session. -/
  callbackGeneration : Nat
  recovery : DeviceRecovery
  callback : Option DeviceCallback
  fetches : List DeviceFetch
  history : List DeviceRecord
  stores : List DeviceStore
  acks : List DeviceAck
  hits : List DeviceHit

inductive DeviceEvent where
  | begin (deviceId : List UInt8) (generation : Nat)
  | look (k : Nat)
  | lockGate (k : Nat)
  | load (k : Nat)
  | pick (k : Nat)
  | send (k : Nat)
  /-- A reply with a device description, or with none that decodes. -/
  | answer (k : Nat) (info : Option DeviceInfo)
  /-- The COMPOUND fails. -/
  | fail (k : Nat) (e : NfsError)
  | check (k : Nat)
  | insert (k : Nat)
  | drop (k : Nat)
  /-- A CB_COMPOUND with CB_NOTIFY_DEVICEID of these devices. -/
  | notify (devices : List (List UInt8))
  | invalidate
  | reply
  /-- `refresh_rejected_layout` invalidates a device. -/
  | refresh (deviceId : List UInt8) (generation : Nat)
  | clear
  | fence
  | sweep
  | rebind
  | publish
  /-- The recovering request is cancelled. -/
  | abandon

namespace DeviceRun

def initial : DeviceRun where
  cache := { generation := 1, revision := 0, devices := [], unreachableDs := [] }
  published := 1
  callbackGeneration := 1
  recovery := .idle
  callback := none
  fetches := []
  history := []
  stores := []
  acks := []
  hits := []

variable (s : DeviceRun)

def bumps : Nat := s.history.countP DeviceRecord.bumped

def mark : DeviceMark := { records := s.history.length, bumps := s.bumps, acks := s.acks.length }

/-- No insertion is under the cache lock. -/
def lockFree : Bool := s.fetches.all fun f => !f.phase.isStoring

/-- Nobody else is behind the fetch gate of the device and generation. -/
def gateFree (f : DeviceFetch) : Bool :=
  s.fetches.all fun g =>
    !(g.phase.holdsGate && g.deviceId == f.deviceId && g.generation == f.generation)

/-! ## Steps -/

def setFetch (k : Nat) (f : DeviceFetch) (phase : DevicePhase) : DeviceRun :=
  { s with fetches := s.fetches.set k { f with phase := phase } }

/-- A hit is returned, a miss goes on. -/
def lookUp (k : Nat) (f : DeviceFetch) (miss : DevicePhase) : DeviceRun :=
  match s.cache.getDevice f.deviceId with
  | some info =>
    { s.setFetch k f (.returned (.ok (some info))) with
      hits := s.hits ++ [⟨f.deviceId, info, s.cache.generation⟩] }
  | none => s.setFetch k f miss

/-- The loop is run twice at most. -/
def nextRound (a : DeviceAttempt) : DevicePhase :=
  if a.round + 1 < 2 then .loading (a.round + 1) else .returned (.ok none)

def fetchStep (affinity : DeviceInfo → DeviceInfo) (k : Nat) (f : DeviceFetch) :
    DeviceEvent → Option DeviceRun
  | .look _ =>
    if s.lockFree then
      match f.phase with
      | .looking => some (s.lookUp k f .gate)
      | .lookingAgain => some (s.lookUp k f (.loading 0))
      | .stored => some (s.lookUp k f (.returned (.ok none)))
      | _ => none
    else none
  | .lockGate _ =>
    match f.phase with
    | .gate => if s.gateFree f then some (s.setFetch k f .lookingAgain) else none
    | _ => none
  | .load _ =>
    match f.phase with
    | .loading round => some (s.setFetch k f (.loaded ⟨round, s.cache.revision, s.mark⟩))
    | _ => none
  | .pick _ =>
    match f.phase with
    | .loaded a =>
      -- `require_generation(0)` asks for nothing
      if f.generation = 0 ∨ f.generation = s.published then
        some (s.setFetch k f (.picked a s.published))
      else none
    | _ => none
  | .send _ =>
    match f.phase with
    | .picked a session => some (s.setFetch k f (.sent ⟨a, session, s.mark⟩))
    | _ => none
  | .answer _ info =>
    match f.phase, info with
    | .sent r, some info => some (s.setFetch k f (.answered r (affinity info)))
    | .sent r, none => some (s.setFetch k f (nextRound r.attempt))
    | _, _ => none
  | .fail _ e =>
    match f.phase with
    | .loaded _ | .picked .. | .sent _ =>
      some (s.setFetch k f (.returned (if stopPnfsFallback e then .error e else .ok none)))
    | _ => none
  | .check _ =>
    match f.phase with
    | .answered r info =>
      if s.lockFree then
        if s.cache.isCurrent f.generation r.attempt.revision then
          some (s.setFetch k f (.storing r info))
        else some (s.setFetch k f (nextRound r.attempt))
      else none
    | _ => none
  | .insert _ =>
    match f.phase with
    | .storing r info =>
      some { s.setFetch k f .stored with
        cache := s.cache.insert f.deviceId f.generation info
        stores := s.stores ++ [⟨f.deviceId, info, r, s.mark⟩] }
    | _ => none
  | .drop _ => if f.phase.isStoring then none else some (s.setFetch k f .dropped)
  | _ => none

/-- A label of the callback, of other invalidations and of recovery. -/
def cacheStep : DeviceEvent → Option DeviceRun
  | .begin deviceId generation =>
    some { s with fetches := s.fetches ++ [⟨deviceId, generation, .looking⟩] }
  | .notify devices =>
    if s.callback.isNone then some { s with callback := some ⟨devices, []⟩ } else none
  | .invalidate =>
    match s.callback with
    | some ⟨d :: todo, done⟩ =>
      if s.lockFree then
        some { s with
          cache := s.cache.invalidateDevice d s.callbackGeneration true
          history := s.history ++ [.notified d (s.callbackGeneration == s.cache.generation)]
          callback := some ⟨todo, done ++ [d]⟩ }
      else none
    | _ => none
  | .reply =>
    match s.callback with
    | some ⟨[], done⟩ =>
      some { s with
        acks := s.acks ++ done.map fun d => ⟨d, s.history.length⟩
        callback := none }
    | _ => none
  | .refresh deviceId generation =>
    if s.lockFree then
      some { s with
        cache := s.cache.invalidateDevice deviceId generation false
        history :=
          if generation = s.cache.generation then s.history ++ [.refreshed deviceId]
          else s.history }
    else none
  | .clear =>
    if s.lockFree then
      some { s with cache := s.cache.clearDevices, history := s.history ++ [.cleared] }
    else none
  | .fence =>
    if s.recovery = .idle then
      some { s with
        cache := { s.cache with generation := s.published + 1 }
        recovery := .fenced }
    else none
  | .sweep =>
    if s.recovery = .fenced ∧ s.lockFree then
      some { s with
        cache := { s.cache.clearDevices with unreachableDs := [] }
        history := s.history ++ [.cleared]
        recovery := .swept }
    else none
  | .rebind =>
    if s.recovery = .swept ∧ s.callback.isNone then
      some { s with callbackGeneration := s.published + 1, recovery := .rebound }
    else none
  | .publish =>
    if s.recovery = .rebound then
      some { s with published := s.published + 1, recovery := .idle }
    else none
  | .abandon =>
    if s.recovery = .fenced ∨ s.recovery = .swept then some { s with recovery := .idle } else none
  | _ => none

end DeviceRun

/-- The lookup that a label belongs to. -/
def DeviceEvent.fetch? : DeviceEvent → Option Nat
  | .look k | .lockGate k | .load k | .pick k | .send k | .answer k _ | .fail k _ | .check k
  | .insert k | .drop k => some k
  | _ => none

/-- The device cache of a mount. -/
def deviceMachine (affinity : DeviceInfo → DeviceInfo) : Lib.Machine DeviceRun DeviceEvent where
  init := .initial
  step s e :=
    match e.fetch? with
    | some k => (s.fetches[k]?).bind fun f => s.fetchStep affinity k f e
    | none => s.cacheStep e

/-! ## The invariant -/

variable {s s' : DeviceRun} {f : DeviceFetch} {affinity : DeviceInfo → DeviceInfo}

/-- The revision of a round is that of the moment it was loaded. -/
structure AttemptOk (s : DeviceRun) (a : DeviceAttempt) : Prop where
  revision : a.revision = a.loaded.bumps % 2 ^ 64
  bumps_le : a.loaded.bumps ≤ s.bumps
  records_le : a.loaded.records ≤ s.history.length
  /-- Revisions are among the records. -/
  within : s.bumps + a.loaded.records ≤ s.history.length + a.loaded.bumps

/-- A COMPOUND that requires a generation went to its session. -/
structure SessionOk (s : DeviceRun) (f : DeviceFetch) (session : Nat) : Prop where
  le : session ≤ s.published
  required : f.generation = 0 ∨ f.generation = session

/-- A request that can still be stored has seen a new revision with every record. -/
structure RequestOk (s : DeviceRun) (f : DeviceFetch) (r : DeviceRequest) : Prop where
  attempt : AttemptOk s r.attempt
  session : SessionOk s f r.session
  sent_bumps : r.attempt.loaded.bumps ≤ r.sent.bumps
  sent_le : r.sent.bumps ≤ s.bumps
  sent_records : r.sent.records ≤ s.history.length
  fenced : f.generation < s.cache.generation ∨
    s.history.length + r.sent.bumps ≤ s.bumps + r.sent.records

/-- An entry that may go into the cache behind so many records. -/
structure FreshRequest (f : DeviceFetch) (r : DeviceRequest) (records : Nat) : Prop where
  session : f.generation = r.session
  unfenced : records < r.attempt.loaded.records + 2 ^ 64 → records = r.sent.records

def FetchOk (s : DeviceRun) (f : DeviceFetch) : Prop :=
  match f.phase with
  | .loaded a => AttemptOk s a
  | .picked a session => AttemptOk s a ∧ SessionOk s f session
  | .sent r => RequestOk s f r
  | .answered r _ => RequestOk s f r
  | .storing r _ => FreshRequest f r s.history.length
  | _ => True

/-- The generations that the callback, the cache and the session are in. -/
structure GenerationsOk (s : DeviceRun) : Prop where
  published : 1 ≤ s.published
  callback : s.callbackGeneration =
    if s.recovery = .rebound then s.published + 1 else s.published
  active : s.cache.generation = s.published ∨ s.cache.generation = s.published + 1
  recovering : s.recovery ≠ .idle → s.cache.generation = s.published + 1

/-- A notification of the device is among the first `n` records. -/
def DeviceRun.NotifiedBefore (s : DeviceRun) (n : Nat) (deviceId : List UInt8) : Prop :=
  ∃ i < n, ∃ effective : Bool, s.history[i]? = some (.notified deviceId effective)

structure DeviceInv (s : DeviceRun) : Prop where
  generations : GenerationsOk s
  revision : s.cache.revision = s.bumps % 2 ^ 64
  fetches : ∀ f ∈ s.fetches, FetchOk s f
  entries : ∀ d ∈ s.cache.devices, ∃ st ∈ s.stores,
    st.deviceId = d.1 ∧ st.request.session = d.2.1 ∧ st.info = d.2.2
  stores : ∀ st ∈ s.stores, st.stored.records < st.request.attempt.loaded.records + 2 ^ 64 →
    st.stored.records = st.request.sent.records
  done : ∀ c, s.callback = some c → ∀ d ∈ c.done, s.NotifiedBefore s.history.length d
  acks : ∀ a ∈ s.acks, s.NotifiedBefore a.records a.deviceId
  hits : ∀ h ∈ s.hits, ∃ st ∈ s.stores,
    st.deviceId = h.deviceId ∧ st.request.session = h.generation ∧ st.info = h.info

theorem GenerationsOk.callback_le (h : GenerationsOk s) :
    s.published ≤ s.callbackGeneration ∧ s.callbackGeneration ≤ s.cache.generation := by
  have hCallback := h.callback
  have hActive := h.active
  split at hCallback
  next hRebound =>
    have hNext := h.recovering (by rw [hRebound]; nofun)
    omega
  next => omega

/-! ## What a step leaves to the other lookups -/

/-- The cache moves on: generations do not fall, and a record comes under the cache lock, with
a new revision or with the published session fenced off. -/
structure Later (s s' : DeviceRun) : Prop where
  published : s.published ≤ s'.published
  generation : s.cache.generation ≤ s'.cache.generation
  history : s'.history = s.history ∨ (s.lockFree = true ∧
    ∃ r, s'.history = s.history ++ [r] ∧ (r.bumped = true ∨ s.published < s.cache.generation))

theorem Later.of_same (hPublished : s'.published = s.published)
    (hGeneration : s'.cache.generation = s.cache.generation)
    (hHistory : s'.history = s.history) : Later s s' :=
  ⟨hPublished.ge, hGeneration.ge, .inl hHistory⟩

/-- How far the history and the revisions go. -/
theorem Later.bounds (h : Later s s') :
    s.bumps ≤ s'.bumps ∧ s.history.length ≤ s'.history.length ∧
      s'.bumps + s.history.length ≤ s'.history.length + s.bumps ∧
      (s'.history.length + s.bumps ≤ s'.bumps + s.history.length ∨
        s.published < s'.cache.generation) := by
  unfold DeviceRun.bumps
  rcases h.history with hSame | ⟨-, r, hNew, hReason⟩
  · rw [hSame]
    omega
  · rw [hNew, List.countP_append, List.length_append, List.countP_singleton,
      List.length_singleton]
    have hGeneration := h.generation
    rcases hReason with hBumped | hFenced
    · rw [if_pos hBumped]
      omega
    · split <;> omega

theorem AttemptOk.later {a : DeviceAttempt} (h : AttemptOk s a) (hLater : Later s s') :
    AttemptOk s' a := by
  obtain ⟨hBumps, hLength, hWithin, -⟩ := hLater.bounds
  have hOld := h.within
  have hBumpsLe := h.bumps_le
  have hRecordsLe := h.records_le
  exact ⟨h.revision, by omega, by omega, by omega⟩

theorem SessionOk.later {session : Nat} (h : SessionOk s f session) (hLater : Later s s') :
    SessionOk s' f session :=
  ⟨Nat.le_trans h.le hLater.published, h.required⟩

variable {k : Nat} {r : DeviceRequest} {e : DeviceEvent}

theorem RequestOk.later (h : RequestOk s f r) (hLater : Later s s') : RequestOk s' f r := by
  obtain ⟨hBumps, hLength, hWithin, hReason⟩ := hLater.bounds
  have hSentLe := h.sent_le
  have hRecords := h.sent_records
  refine ⟨h.attempt.later hLater, h.session.later hLater, h.sent_bumps, by omega, by omega, ?_⟩
  have hGeneration := hLater.generation
  have hSession := h.session.le
  rcases h.fenced with hFenced | hSeen
  · exact .inl (by omega)
  rcases hReason with hAll | hFenced
  · exact .inr (by omega)
  · -- a request of the published session or an earlier one is fenced off
    rcases h.session.required with hZero | hSame
    · exact .inl (by omega)
    · exact .inl (by omega)

/-- What a fetch knows survives the steps of the others. -/
theorem FetchOk.move (h : FetchOk s f) (hLater : Later s s')
    (hHeld : f.phase.isStoring = true → s'.history = s.history) : FetchOk s' f := by
  unfold FetchOk at h ⊢
  split
  next a hPhase =>
    rw [hPhase] at h
    exact h.later hLater
  next a session hPhase =>
    rw [hPhase] at h
    exact ⟨h.1.later hLater, h.2.later hLater⟩
  next r hPhase =>
    rw [hPhase] at h
    exact h.later hLater
  next r info hPhase =>
    rw [hPhase] at h
    exact h.later hLater
  next r info hPhase =>
    rw [hPhase] at h hHeld
    rw [hHeld rfl]
    exact h
  next => trivial

/-- A lookup under the cache lock sees no record come. -/
theorem FetchOk.later (h : FetchOk s f) (hMem : f ∈ s.fetches) (hLater : Later s s') :
    FetchOk s' f := by
  refine h.move hLater fun hStoring => ?_
  rcases hLater.history with hSame | ⟨hFree, -⟩
  · exact hSame
  · have hNot := List.all_eq_true.mp hFree f hMem
    rw [hStoring] at hNot
    cases hNot

theorem FetchOk.same (h : FetchOk s f) (hPublished : s'.published = s.published)
    (hGeneration : s'.cache.generation = s.cache.generation) (hHistory : s'.history = s.history) :
    FetchOk s' f :=
  h.move (.of_same hPublished hGeneration hHistory) fun _ => hHistory

/-! ## Steps of a lookup -/

/-- A lookup moves on, and what has been recorded stays. -/
theorem DeviceInv.setFetch (h : DeviceInv s) {phase : DevicePhase}
    (hOk : FetchOk s { f with phase := phase }) : DeviceInv (s.setFetch k f phase) where
  generations :=
    ⟨h.generations.published, h.generations.callback, h.generations.active,
      h.generations.recovering⟩
  revision := h.revision
  fetches :=
    Lib.forall_mem_set (fun g hg => (h.fetches g hg).same rfl rfl rfl) (hOk.same rfl rfl rfl)
  entries := h.entries
  stores := h.stores
  done := h.done
  acks := h.acks
  hits := h.hits

/-- An entry found is one of the cache. -/
theorem DeviceCache.mem_of_getDevice {c : DeviceCache} {deviceId : List UInt8} {info : DeviceInfo}
    (h : c.getDevice deviceId = some info) : (deviceId, c.generation, info) ∈ c.devices := by
  obtain ⟨⟨d, owner, i⟩, hFound, rfl⟩ := Option.map_eq_some_iff.mp h
  obtain ⟨hFind, hOwner⟩ := Option.filter_eq_some_iff.mp hFound
  have hDevice : d = deviceId := by simpa using List.find?_some hFind
  have hGeneration : owner = c.generation := by simpa using hOwner
  rw [← hDevice, ← hGeneration]
  exact List.mem_of_find?_eq_some hFind

theorem DeviceInv.lookUp (h : DeviceInv s) {miss : DevicePhase}
    (hOk : FetchOk s { f with phase := miss }) : DeviceInv (s.lookUp k f miss) := by
  unfold DeviceRun.lookUp
  split
  next info hHit =>
    have hMoved : DeviceInv (s.setFetch k f (.returned (.ok (some info)))) := h.setFetch trivial
    have hGen := hMoved.generations
    refine ⟨⟨hGen.published, hGen.callback, hGen.active, hGen.recovering⟩, h.revision,
      fun g hg => (hMoved.fetches g hg).same rfl rfl rfl, h.entries, h.stores, h.done, h.acks,
      Lib.forall_mem_concat h.hits ?_⟩
    exact h.entries _ (DeviceCache.mem_of_getDevice hHit)
  next => exact h.setFetch hOk

theorem fetchOk_nextRound (a : DeviceAttempt) :
    FetchOk s { f with phase := DeviceRun.nextRound a } := by
  unfold DeviceRun.nextRound
  split <;> trivial

theorem attemptOk_load (h : DeviceInv s) (round : Nat) :
    AttemptOk s ⟨round, s.cache.revision, s.mark⟩ :=
  ⟨h.revision, Nat.le_refl _, Nat.le_refl _, Nat.le_of_eq (Nat.add_comm _ _)⟩

theorem RequestOk.send {a : DeviceAttempt} {session : Nat} (hAttempt : AttemptOk s a)
    (hSession : SessionOk s f session) : RequestOk s f ⟨a, session, s.mark⟩ where
  attempt := hAttempt
  session := hSession
  sent_bumps := hAttempt.bumps_le
  sent_le := Nat.le_refl _
  sent_records := Nat.le_refl _
  fenced := .inr (Nat.le_of_eq (Nat.add_comm _ _))

/-- **What passes the checks is fresh.** -/
theorem RequestOk.fresh (hInv : DeviceInv s) (h : RequestOk s f r)
    (hCurrent : s.cache.isCurrent f.generation r.attempt.revision = true) :
    FreshRequest f r s.history.length := by
  unfold DeviceCache.isCurrent at hCurrent
  simp only [Bool.and_eq_true, beq_iff_eq] at hCurrent
  obtain ⟨hGeneration, hRevision⟩ := hCurrent
  have hPublished := hInv.generations.published
  have hActive := hInv.generations.active
  refine ⟨?_, fun hNear => ?_⟩
  · rcases h.session.required with hZero | hSame
    · omega
    · exact hSame
  -- the revisions since the load are fewer than `2 ^ 64` and a multiple of it
  have hLoaded := h.attempt.revision
  have hNow := hInv.revision
  have hWithin := h.attempt.within
  have hBumpsLe := h.attempt.bumps_le
  have hNone : s.bumps = r.attempt.loaded.bumps := by omega
  have hSentBumps := h.sent_bumps
  have hSentLe := h.sent_le
  have hSentRecords := h.sent_records
  rcases h.fenced with hFenced | hSeen
  · omega
  · omega

/-- A device that was fetched goes into the cache. -/
theorem DeviceInv.insert (h : DeviceInv s) (hFetch : s.fetches[k]? = some f) {info : DeviceInfo}
    (hPhase : f.phase = .storing r info) :
    DeviceInv { s.setFetch k f .stored with
      cache := s.cache.insert f.deviceId f.generation info
      stores := s.stores ++ [⟨f.deviceId, info, r, s.mark⟩] } := by
  have hOk := h.fetches f (List.mem_of_getElem? hFetch)
  unfold FetchOk at hOk
  rw [hPhase] at hOk
  have hMoved : DeviceInv (s.setFetch k f .stored) := h.setFetch trivial
  have hGen := h.generations
  refine ⟨⟨hGen.published, hGen.callback, hGen.active, hGen.recovering⟩, h.revision,
    fun g hg => (hMoved.fetches g hg).same rfl rfl rfl, ?_, ?_, h.done, h.acks, ?_⟩
  · intro d hd
    rcases List.mem_cons.mp hd with rfl | hd
    · exact ⟨_, List.mem_concat_self, rfl, hOk.session.symm, rfl⟩
    · obtain ⟨st, hst, hSame⟩ := h.entries d (List.mem_filter.mp hd).1
      exact ⟨st, List.mem_append_left _ hst, hSame⟩
  · exact Lib.forall_mem_concat h.stores hOk.unfenced
  · intro hit hHit
    obtain ⟨st, hst, hSame⟩ := h.hits hit hHit
    exact ⟨st, List.mem_append_left _ hst, hSame⟩

/-- **A step of a fetch.** -/
theorem deviceInv_fetchStep (h : DeviceInv s) (hFetch : s.fetches[k]? = some f)
    (hStep : s.fetchStep affinity k f e = some s') : DeviceInv s' := by
  have hOk := h.fetches f (List.mem_of_getElem? hFetch)
  unfold DeviceRun.fetchStep at hStep
  split at hStep
  next => -- look
    split at hStep
    next =>
      split at hStep <;> cases hStep
      · exact h.lookUp trivial
      · exact h.lookUp trivial
      · exact h.lookUp trivial
    next => cases hStep
  next => -- lockGate
    split at hStep
    next =>
      split at hStep <;> cases hStep
      exact h.setFetch trivial
    next => cases hStep
  next => -- load
    split at hStep <;> cases hStep
    exact h.setFetch (attemptOk_load h _)
  next => -- pick
    split at hStep
    next a hPhase =>
      split at hStep <;> cases hStep
      next hRequired =>
        unfold FetchOk at hOk
        rw [hPhase] at hOk
        exact h.setFetch ⟨hOk, Nat.le_refl _, hRequired⟩
    next => cases hStep
  next => -- send
    split at hStep <;> cases hStep
    next a session hPhase =>
      unfold FetchOk at hOk
      rw [hPhase] at hOk
      exact h.setFetch (RequestOk.send hOk.1 ⟨hOk.2.le, hOk.2.required⟩)
  next => -- answer
    split at hStep <;> cases hStep
    next r info hPhase =>
      unfold FetchOk at hOk
      rw [hPhase] at hOk
      exact h.setFetch ⟨hOk.attempt, ⟨hOk.session.le, hOk.session.required⟩, hOk.sent_bumps,
        hOk.sent_le, hOk.sent_records, hOk.fenced⟩
    next => exact h.setFetch (fetchOk_nextRound _)
  next => -- fail
    split at hStep <;> cases hStep
    all_goals exact h.setFetch trivial
  next => -- check
    split at hStep
    next r info hPhase =>
      unfold FetchOk at hOk
      rw [hPhase] at hOk
      split at hStep
      next =>
        split at hStep <;> cases hStep
        next hCurrent =>
          have hFresh := hOk.fresh h hCurrent
          exact h.setFetch ⟨hFresh.session, hFresh.unfenced⟩
        next => exact h.setFetch (fetchOk_nextRound _)
      next => cases hStep
    next => cases hStep
  next => -- insert
    split at hStep <;> cases hStep
    next r info hPhase => exact h.insert hFetch hPhase
  next => -- drop
    split at hStep <;> cases hStep
    exact h.setFetch trivial
  next => cases hStep

/-! ## Invalidations and recovery -/

/-- What `invalidate_device` does to the cache. -/
theorem DeviceCache.invalidateDevice_frame (c : DeviceCache) (deviceId : List UInt8)
    (generation : Nat) (notified : Bool) :
    (c.invalidateDevice deviceId generation notified).generation = c.generation ∧
      (c.invalidateDevice deviceId generation notified).revision =
        (if generation = c.generation then (c.revision + 1) % 2 ^ 64 else c.revision) ∧
      ∀ d ∈ (c.invalidateDevice deviceId generation notified).devices, d ∈ c.devices := by
  unfold DeviceCache.invalidateDevice
  by_cases hGen : generation = c.generation
  · rw [if_neg (not_not_intro hGen), if_pos hGen]
    dsimp only
    split
    · split <;> exact ⟨rfl, rfl, fun d hd => (List.mem_filter.mp hd).1⟩
    · exact ⟨rfl, rfl, fun d hd => (List.mem_filter.mp hd).1⟩
  · rw [if_pos hGen, if_neg hGen]
    exact ⟨rfl, rfl, fun d hd => hd⟩

theorem bumps_concat (s : DeviceRun) (r : DeviceRecord) :
    (s.history ++ [r]).countP DeviceRecord.bumped = s.bumps + if r.bumped then 1 else 0 := by
  rw [List.countP_append, List.countP_singleton]
  rfl

theorem Later.getElem? (h : Later s s') {i : Nat} {r : DeviceRecord}
    (hAt : s.history[i]? = some r) : s'.history[i]? = some r := by
  rcases h.history with hSame | ⟨-, r', hNew, -⟩
  · rw [hSame]
    exact hAt
  · obtain ⟨hLt, -⟩ := List.getElem?_eq_some_iff.mp hAt
    rw [hNew, List.getElem?_append_left hLt]
    exact hAt

theorem DeviceRun.NotifiedBefore.later {n m : Nat} {deviceId : List UInt8}
    (h : s.NotifiedBefore n deviceId) (hLater : Later s s') (hLe : n ≤ m) :
    s'.NotifiedBefore m deviceId := by
  obtain ⟨i, hi, effective, hAt⟩ := h
  exact ⟨i, by omega, effective, hLater.getElem? hAt⟩

/-- The cache, the callback or the recovery moves on, and lookups and entries stay. -/
theorem DeviceInv.later (h : DeviceInv s) (hLater : Later s s') (hGenerations : GenerationsOk s')
    (hRevision : s'.cache.revision = s'.bumps % 2 ^ 64) (hFetches : s'.fetches = s.fetches)
    (hDevices : ∀ d ∈ s'.cache.devices, d ∈ s.cache.devices) (hStores : s'.stores = s.stores)
    (hHits : s'.hits = s.hits)
    (hDone : ∀ c, s'.callback = some c → ∀ d ∈ c.done, s'.NotifiedBefore s'.history.length d)
    (hAcks : ∀ a ∈ s'.acks, s'.NotifiedBefore a.records a.deviceId) : DeviceInv s' where
  generations := hGenerations
  revision := hRevision
  fetches f hf := by
    rw [hFetches] at hf
    exact (h.fetches f hf).later hf hLater
  entries d hd := by
    rw [hStores]
    exact h.entries d (hDevices d hd)
  stores := by
    rw [hStores]
    exact h.stores
  done := hDone
  acks := hAcks
  hits := by
    rw [hHits, hStores]
    exact h.hits

/-- The same where callback and replies stay. -/
theorem DeviceInv.move (h : DeviceInv s) (hLater : Later s s') (hGenerations : GenerationsOk s')
    (hRevision : s'.cache.revision = s'.bumps % 2 ^ 64) (hFetches : s'.fetches = s.fetches)
    (hDevices : ∀ d ∈ s'.cache.devices, d ∈ s.cache.devices) (hStores : s'.stores = s.stores)
    (hHits : s'.hits = s.hits) (hCallback : s'.callback = s.callback) (hAcks : s'.acks = s.acks) :
    DeviceInv s' := by
  have hLength := hLater.bounds.2.1
  refine h.later hLater hGenerations hRevision hFetches hDevices hStores hHits ?_ ?_
  · intro c hc d hd
    rw [hCallback] at hc
    exact (h.done c hc d hd).later hLater hLength
  · intro a ha
    rw [hAcks] at ha
    exact (h.acks a ha).later hLater (Nat.le_refl _)

theorem DeviceInv.begin (h : DeviceInv s) (deviceId : List UInt8) (generation : Nat) :
    DeviceInv { s with fetches := s.fetches ++ [⟨deviceId, generation, .looking⟩] } := by
  have hGen := h.generations
  exact ⟨⟨hGen.published, hGen.callback, hGen.active, hGen.recovering⟩, h.revision,
    Lib.forall_mem_concat (fun g hg => (h.fetches g hg).same rfl rfl rfl) trivial, h.entries,
    h.stores, h.done, h.acks, h.hits⟩

theorem DeviceInv.notify (h : DeviceInv s) (devices : List (List UInt8)) :
    DeviceInv { s with callback := some ⟨devices, []⟩ } := by
  have hGen := h.generations
  refine h.later (.of_same rfl rfl rfl)
    ⟨hGen.published, hGen.callback, hGen.active, hGen.recovering⟩ h.revision rfl (fun _ hd => hd)
    rfl rfl ?_ h.acks
  rintro _ ⟨⟩ d hd
  cases hd

/-- **A notification takes effect, or its session is fenced off.** -/
theorem DeviceInv.invalidate (h : DeviceInv s) {d : List UInt8} {todo done : List (List UInt8)}
    (hCallback : s.callback = some ⟨d :: todo, done⟩) (hFree : s.lockFree = true) :
    DeviceInv { s with
      cache := s.cache.invalidateDevice d s.callbackGeneration true
      history := s.history ++ [.notified d (s.callbackGeneration == s.cache.generation)]
      callback := some ⟨todo, done ++ [d]⟩ } := by
  have hGen := h.generations
  obtain ⟨hFrame, hRevision, hDevices⟩ :=
    s.cache.invalidateDevice_frame d s.callbackGeneration true
  obtain ⟨hPublished, hActive⟩ := hGen.callback_le
  have hLater : Later s { s with
      cache := s.cache.invalidateDevice d s.callbackGeneration true
      history := s.history ++ [.notified d (s.callbackGeneration == s.cache.generation)]
      callback := some ⟨todo, done ++ [d]⟩ } := by
    refine ⟨Nat.le_refl _, hFrame.ge, .inr ⟨hFree, _, rfl, ?_⟩⟩
    -- a cache ahead of the callback session skips the id: the published session is fenced off
    by_cases hSame : s.callbackGeneration = s.cache.generation
    · exact .inl (beq_iff_eq.mpr hSame)
    · exact .inr (by omega)
  refine h.later hLater ⟨hGen.published, hGen.callback, ?_, ?_⟩ ?_ rfl hDevices rfl rfl ?_ ?_
  · show (s.cache.invalidateDevice d s.callbackGeneration true).generation = _ ∨
      (s.cache.invalidateDevice d s.callbackGeneration true).generation = _
    rw [hFrame]
    exact hGen.active
  · intro hRecovering
    exact hFrame.trans (hGen.recovering hRecovering)
  · show (s.cache.invalidateDevice d s.callbackGeneration true).revision =
      ((s.history ++ [_]).countP DeviceRecord.bumped) % 2 ^ 64
    have hOld := h.revision
    rw [hRevision, bumps_concat]
    simp only [DeviceRecord.bumped, beq_iff_eq]
    split
    · omega
    · omega
  · rintro _ ⟨⟩ d' hd'
    have hLength : s.history.length ≤ (s.history ++
        [DeviceRecord.notified d (s.callbackGeneration == s.cache.generation)]).length := by simp
    rcases List.mem_append.mp hd' with hOld | hNew
    · exact (h.done _ hCallback d' hOld).later hLater hLength
    · cases List.mem_singleton.mp hNew
      exact ⟨s.history.length, by simp, _, List.getElem?_concat_length⟩
  · intro a ha
    exact (h.acks a ha).later hLater (Nat.le_refl _)

theorem DeviceInv.reply (h : DeviceInv s) {done : List (List UInt8)}
    (hCallback : s.callback = some ⟨[], done⟩) :
    DeviceInv { s with
      acks := s.acks ++ done.map fun d => ⟨d, s.history.length⟩
      callback := none } := by
  have hGen := h.generations
  refine h.later (.of_same rfl rfl rfl)
    ⟨hGen.published, hGen.callback, hGen.active, hGen.recovering⟩ h.revision rfl (fun _ hd => hd)
    rfl rfl nofun ?_
  intro a ha
  rcases List.mem_append.mp ha with hOld | hNew
  · exact h.acks a hOld
  · obtain ⟨d, hd, rfl⟩ := List.mem_map.mp hNew
    exact h.done _ hCallback d hd

theorem DeviceInv.refresh (h : DeviceInv s) (hFree : s.lockFree = true) (deviceId : List UInt8)
    (generation : Nat) :
    DeviceInv { s with
      cache := s.cache.invalidateDevice deviceId generation false
      history :=
        if generation = s.cache.generation then s.history ++ [.refreshed deviceId]
        else s.history } := by
  have hGen := h.generations
  obtain ⟨hFrame, hRevision, hDevices⟩ := s.cache.invalidateDevice_frame deviceId generation false
  have hOld := h.revision
  refine h.move ⟨Nat.le_refl _, hFrame.ge, ?_⟩ ⟨hGen.published, hGen.callback, ?_, ?_⟩ ?_ rfl
    hDevices rfl rfl rfl rfl
  · by_cases hSame : generation = s.cache.generation
    · exact .inr ⟨hFree, .refreshed deviceId, if_pos hSame, .inl rfl⟩
    · exact .inl (if_neg hSame)
  · show (s.cache.invalidateDevice deviceId generation false).generation = _ ∨
      (s.cache.invalidateDevice deviceId generation false).generation = _
    rw [hFrame]
    exact hGen.active
  · intro hRecovering
    exact hFrame.trans (hGen.recovering hRecovering)
  · show (s.cache.invalidateDevice deviceId generation false).revision =
      (List.countP DeviceRecord.bumped (if _ then _ else _)) % 2 ^ 64
    rw [hRevision]
    split
    · rw [bumps_concat]
      show _ = (s.bumps + 1) % 2 ^ 64
      omega
    · exact hOld

/-- The devices are cleared, by a bulk clear or by a recovery. -/
theorem DeviceInv.clearDevices (h : DeviceInv s) (hFree : s.lockFree = true)
    (hCache : s'.cache.generation = s.cache.generation)
    (hRevision : s'.cache.revision = (s.cache.revision + 1) % 2 ^ 64)
    (hDevices : s'.cache.devices = []) (hHistory : s'.history = s.history ++ [.cleared])
    (hGenerations : GenerationsOk s') (hPublished : s'.published = s.published)
    (hFetches : s'.fetches = s.fetches) (hStores : s'.stores = s.stores)
    (hHits : s'.hits = s.hits) (hCallback : s'.callback = s.callback) (hAcks : s'.acks = s.acks) :
    DeviceInv s' := by
  refine h.move ⟨hPublished.ge, hCache.ge, .inr ⟨hFree, .cleared, hHistory, .inl rfl⟩⟩ hGenerations
    ?_ hFetches ?_ hStores hHits hCallback hAcks
  · have hOld := h.revision
    unfold DeviceRun.bumps
    rw [hRevision, hHistory, bumps_concat]
    show _ = (s.bumps + 1) % 2 ^ 64
    omega
  · rw [hDevices]
    nofun

/-- **A step of the cache**, of the callback or of the recovery. -/
theorem deviceInv_cacheStep (h : DeviceInv s) (hStep : s.cacheStep e = some s') : DeviceInv s' := by
  have hGen := h.generations
  unfold DeviceRun.cacheStep at hStep
  split at hStep
  next =>
    cases hStep
    exact h.begin _ _
  next => -- notify
    split at hStep <;> cases hStep
    exact h.notify _
  next => -- invalidate
    split at hStep
    next d todo done hCallback =>
      split at hStep <;> cases hStep
      next hFree => exact h.invalidate hCallback hFree
    next => cases hStep
  next => -- reply
    split at hStep <;> cases hStep
    next done hCallback => exact h.reply hCallback
  next => -- refresh
    split at hStep <;> cases hStep
    next hFree => exact h.refresh hFree _ _
  next => -- clear
    split at hStep <;> cases hStep
    next hFree =>
      exact h.clearDevices hFree rfl rfl rfl rfl
        ⟨hGen.published, hGen.callback, hGen.active, hGen.recovering⟩ rfl rfl rfl rfl rfl rfl
  next => -- fence
    split at hStep <;> cases hStep
    next hIdle =>
      have hActive := hGen.active
      have hCallback := hGen.callback
      rw [hIdle] at hCallback
      refine h.move ⟨Nat.le_refl _, ?_, .inl rfl⟩
        ⟨hGen.published, hCallback, .inr rfl, fun _ => rfl⟩ h.revision rfl (fun _ hd => hd) rfl rfl
        rfl rfl
      show s.cache.generation ≤ s.published + 1
      omega
  next => -- sweep
    split at hStep <;> cases hStep
    next hGuard =>
      have hNext := hGen.recovering (by rw [hGuard.1]; nofun)
      have hCallback := hGen.callback
      rw [hGuard.1] at hCallback
      exact h.clearDevices hGuard.2 rfl rfl rfl rfl
        ⟨hGen.published, hCallback, .inr hNext, fun _ => hNext⟩ rfl rfl rfl rfl rfl rfl
  next => -- rebind
    split at hStep <;> cases hStep
    next hGuard =>
      have hNext := hGen.recovering (by rw [hGuard.1]; nofun)
      exact h.move (.of_same rfl rfl rfl) ⟨hGen.published, rfl, .inr hNext, fun _ => hNext⟩
        h.revision rfl (fun _ hd => hd) rfl rfl rfl rfl
  next => -- publish
    split at hStep <;> cases hStep
    next hRebound =>
      have hNext := hGen.recovering (by rw [hRebound]; nofun)
      have hCallback := hGen.callback
      rw [if_pos hRebound] at hCallback
      exact h.move ⟨Nat.le_succ _, Nat.le_refl _, .inl rfl⟩
        ⟨Nat.le_succ_of_le hGen.published, hCallback, .inl hNext, fun hNot => absurd rfl hNot⟩
        h.revision rfl (fun _ hd => hd) rfl rfl rfl rfl
  next => -- abandon
    split at hStep <;> cases hStep
    next hGuard =>
      have hCallback := hGen.callback
      have hNot : s.recovery ≠ .rebound := by
        rcases hGuard with hFenced | hSwept
        · rw [hFenced]
          nofun
        · rw [hSwept]
          nofun
      rw [if_neg hNot] at hCallback
      exact h.move (.of_same rfl rfl rfl)
        ⟨hGen.published, hCallback, hGen.active, fun hIdle => absurd rfl hIdle⟩
        h.revision rfl (fun _ hd => hd) rfl rfl rfl rfl
  next => cases hStep

/-! ## Results -/

/-- **Every step keeps the invariant.** -/
theorem deviceInv_step (h : DeviceInv s) (hStep : (deviceMachine affinity).step s e = some s') :
    DeviceInv s' := by
  simp only [deviceMachine] at hStep
  split at hStep
  next k hk =>
    obtain ⟨f, hFetch, hStep⟩ := Option.bind_eq_some_iff.mp hStep
    exact deviceInv_fetchStep h hFetch hStep
  next => exact deviceInv_cacheStep h hStep

theorem deviceInv_initial : DeviceInv .initial where
  generations := ⟨Nat.le_refl 1, rfl, .inl rfl, fun hNot => absurd rfl hNot⟩
  revision := rfl
  fetches := nofun
  entries := nofun
  stores := nofun
  done := nofun
  acks := nofun
  hits := nofun

/-- **Notifications fence GETDEVICEINFO.** Unless `2 ^ 64` records were made meanwhile, nothing
was invalidated between the first transmission of a request and the insertion of its reply;
an acknowledged notification has been among the records before its reply; and what
`get_device` returns was fetched over the session of the generation it loads. -/
theorem notification_fences (affinity : DeviceInfo → DeviceInfo) (s : DeviceRun)
    (h : (deviceMachine affinity).Reachable s) :
    (∀ st ∈ s.stores, st.stored.records < st.request.attempt.loaded.records + 2 ^ 64 →
      st.stored.records = st.request.sent.records) ∧
    (∀ a ∈ s.acks, s.NotifiedBefore a.records a.deviceId) ∧
    ∀ hit ∈ s.hits, ∃ st ∈ s.stores, st.deviceId = hit.deviceId ∧
      st.request.session = hit.generation ∧ st.info = hit.info := by
  have hInv : DeviceInv s :=
    h.invariant deviceInv_initial fun _ _ _ _ _ hStep hInv => deviceInv_step hInv hStep
  exact ⟨hInv.stores, hInv.acks, hInv.hits⟩

def sampleDevice : DeviceInfo := { stripeIndices := [0], dsAddrs := [[7]] }

/-- A notification comes while the request is out; the second round is stored and found. -/
def racingNotification : List DeviceEvent :=
  [.begin [1] 1, .look 0, .lockGate 0, .look 0, .load 0, .pick 0, .send 0, .notify [[1]],
    .invalidate, .reply, .answer 0 (some sampleDevice), .check 0, .load 0, .pick 0, .send 0,
    .answer 0 (some sampleDevice), .check 0, .insert 0, .look 0]

theorem notification_fences_racing :
    ∃ s, (deviceMachine id).runFrom (deviceMachine id).init racingNotification = some s ∧
      s.stores.map (fun st => (st.request.attempt.round, st.stored.records)) = [(1, 1)] ∧
      (∀ st ∈ s.stores, st.stored.records < st.request.attempt.loaded.records + 2 ^ 64 →
        st.stored.records = st.request.sent.records) ∧
      ∀ hit ∈ s.hits, ∃ st ∈ s.stores, st.deviceId = hit.deviceId ∧
        st.request.session = hit.generation ∧ st.info = hit.info := by
  refine ⟨_, rfl, rfl, ?_⟩
  have hFences := notification_fences id _
    (Lib.Machine.reachable_of_runFrom racingNotification rfl)
  exact ⟨hFences.1, hFences.2.2⟩

/-- The device is invalidated, and fetched again before the callback is answered. -/
def fetchBeforeReply : List DeviceEvent :=
  [.notify [[1]], .invalidate, .begin [1] 1, .look 0, .lockGate 0, .look 0, .load 0, .pick 0,
    .send 0, .reply, .answer 0 (some sampleDevice), .check 0, .insert 0]

/-- **Stored behind the acknowledgement.** The request was sent before the notification of its
device was acknowledged, though behind its effect, and the reply is stored after it. -/
theorem fetched_before_reply :
    ∃ s, (deviceMachine id).runFrom (deviceMachine id).init fetchBeforeReply = some s ∧
      ∃ st ∈ s.stores, st.request.sent.acks < st.stored.acks ∧
        (s.acks[st.request.sent.acks]?).map (·.deviceId) = some st.deviceId :=
  ⟨_, rfl, _, List.mem_singleton_self _, by decide, rfl⟩

end NfsRs.Nfs41
