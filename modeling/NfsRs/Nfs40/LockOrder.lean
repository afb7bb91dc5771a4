import NfsRs.Lib.Machine
import NfsRs.Lib.WaitFor

/-!
# NfsRs — the locks of an NFSv4.0 mount

The tasks of a `Mount40` take the callback I/O gate of a file, the mutex of an open-owner's lane,
the lane's `io_fence`, the mutex of a lock-owner's lane and the publication lock of the lease.
Each task is followed from one lock to the next, as a party at a program point: what it holds
there, what it wants next, and where it goes. The locks are those of tokio: they serve their
queues in order, and a queued writer keeps later readers out. A task may also end where it
stands, by an error or as a future that is dropped, and gives back what it holds.

The levels are gate, lane, fence, and above them lock-owner lanes and publication. All tasks
take their locks upwards but one: CLOSE keeps the fence while it waits for the gate and for the
lane again. That is safe against READ and WRITE, which find the lane closing and do not wait for
its fence. Recovery does not look at the flag.

## Main results

- `lockInv_step` : every step keeps the invariant of closing lanes.
- `waits_acyclic` : while recovery takes no lane whose CLOSE waits, nobody waits for itself.
- `recovery_waits_for_close` : otherwise recovery and CLOSE may wait for each other.
-/

namespace NfsRs.Nfs40

open Lib

/-! ## Locks and program points -/

/-- The locks of a mount; open-owners, lock-owners and file handles are numbers. -/
inductive MountLock where
  /-- The callback I/O gate of a file handle. -/
  | gate (fh : Nat)
  /-- The mutex of an open-owner's lane. -/
  | lane (owner : Nat)
  | ioFence (owner : Nat)
  /-- The mutex of a lock-owner's lane. -/
  | lockLane (lockOwner : Nat)
  /-- The publication lock of the lease. -/
  | publication
  deriving DecidableEq, Repr

/-- Where a task stands. A point that names a lock is about to take it. -/
inductive LockPoint where
  -- READ and WRITE
  | ioGate (owner : Nat)
  | ioLane (owner : Nat)
  | ioCheck (owner : Nat)
  | ioFence (owner : Nat)
  | ioFenced (owner : Nat)
  | ioCall (owner : Nat)
  -- SETATTR
  | attrGate (owner : Nat)
  | attrLane (owner : Nat)
  | attrRead (owner : Nat)
  | attrCall (owner : Nat)
  -- a short look at a lane: COMMIT, `for_fh`, the check before CLOSE
  | probeLane (owner : Nat)
  | probeRead (owner : Nat)
  -- LOCK
  | acquireLane (owner : Nat)
  | acquireCall (owner : Nat)
  | acquirePublish (owner : Nat)
  | acquireRegister (owner : Nat)
  -- LOCKU, and a short look at a lock-owner's lane
  | unlockLane (lockOwner : Nat)
  | unlockCall (lockOwner : Nat)
  -- `close_lane`
  | closeLane (owner : Nat)
  | closeCheck (owner : Nat)
  | closeFence (owner : Nat)
  | closeGate (owner : Nat)
  | closeRelock (owner : Nat)
  | closeCall (owner : Nat)
  | closeRemove (owner : Nat)
  -- the publication of an OPEN
  | openPublish
  | openRegister
  -- a delegation recall
  | recallGate (fh : Nat)
  | recallCall (fh : Nat)
  -- `recover`, one lane of its first loop
  | reclaimLane (owner : Nat)
  | reclaimFence (owner : Nat)
  | reclaimCall (owner : Nat)
  -- one lock-owner of its second loop
  | relockProbe (lockOwner owner : Nat)
  | relockRead (lockOwner owner : Nat)
  | relockLane (lockOwner owner : Nat)
  | relockFence (lockOwner owner : Nat)
  | relockLock (lockOwner owner : Nat)
  | relockCall (lockOwner owner : Nat)
  | relockRekey (lockOwner owner : Nat)
  -- `mark_lost`
  | lostPublish
  | lostMark
  | done
  deriving DecidableEq, Repr

/-- The mount: whether it has a callback service, and the file of each open-owner. -/
structure LockConfig where
  callbacks : Bool
  fh : Nat → Nat

namespace LockConfig

variable (cfg : LockConfig)

/-- The gate of an owner's file, where there are gates. -/
def gateOf (owner : Nat) (mode : LockMode) : List (MountLock × LockMode) :=
  if cfg.callbacks then [(.gate (cfg.fh owner), mode)] else []

def gateAt (fh : Nat) (mode : LockMode) : List (MountLock × LockMode) :=
  if cfg.callbacks then [(.gate fh, mode)] else []

def holds : LockPoint → List (MountLock × LockMode)
  | .ioLane o => cfg.gateOf o .shared
  | .ioCheck o | .ioFence o => (.lane o, .exclusive) :: cfg.gateOf o .shared
  | .ioFenced o => (.ioFence o, .shared) :: (.lane o, .exclusive) :: cfg.gateOf o .shared
  | .ioCall o => (.ioFence o, .shared) :: cfg.gateOf o .shared
  | .attrLane o | .attrCall o => cfg.gateOf o .shared
  | .attrRead o => (.lane o, .exclusive) :: cfg.gateOf o .shared
  | .probeRead o => [(.lane o, .exclusive)]
  | .acquireCall o | .acquirePublish o => [(.lane o, .exclusive)]
  | .acquireRegister o => [(.publication, .shared), (.lane o, .exclusive)]
  | .unlockCall k => [(.lockLane k, .exclusive)]
  | .closeCheck o => [(.lane o, .exclusive)]
  | .closeGate o => [(.ioFence o, .exclusive)]
  | .closeRelock o => (.ioFence o, .exclusive) :: cfg.gateOf o .exclusive
  | .closeCall o =>
    (.lane o, .exclusive) :: (.ioFence o, .exclusive) :: cfg.gateOf o .exclusive
  | .closeRemove o => (.ioFence o, .exclusive) :: cfg.gateOf o .exclusive
  | .openRegister => [(.publication, .shared)]
  | .recallCall fh => cfg.gateAt fh .exclusive
  | .reclaimFence o => [(.lane o, .exclusive)]
  | .reclaimCall o => [(.ioFence o, .exclusive), (.lane o, .exclusive)]
  | .relockRead k _ => [(.lockLane k, .exclusive)]
  | .relockFence _ o => [(.lane o, .exclusive)]
  | .relockLock _ o => [(.ioFence o, .exclusive), (.lane o, .exclusive)]
  | .relockCall k o =>
    [(.lockLane k, .exclusive), (.ioFence o, .exclusive), (.lane o, .exclusive)]
  | .relockRekey _ o => [(.ioFence o, .exclusive), (.lane o, .exclusive)]
  | .lostMark => [(.publication, .exclusive)]
  | _ => []

def wants : LockPoint → Option (MountLock × LockMode)
  | .ioGate o | .attrGate o => (cfg.gateOf o .shared).head?
  | .ioLane o | .attrLane o | .probeLane o | .acquireLane o | .closeLane o | .closeRelock o
  | .reclaimLane o | .relockLane _ o => some (.lane o, .exclusive)
  | .ioFence o => some (.ioFence o, .shared)
  | .closeFence o | .reclaimFence o | .relockFence _ o => some (.ioFence o, .exclusive)
  | .closeGate o => (cfg.gateOf o .exclusive).head?
  | .recallGate fh => (cfg.gateAt fh .exclusive).head?
  | .acquirePublish _ | .openPublish => some (.publication, .shared)
  | .lostPublish => some (.publication, .exclusive)
  | .unlockLane k | .relockProbe k _ | .relockLock k _ => some (.lockLane k, .exclusive)
  | _ => none

def use : LockUse LockPoint MountLock where
  holds := cfg.holds
  wants := cfg.wants

end LockConfig

namespace LockPoint

/-- The point behind the lock, the check or the call. -/
def next (closing : List Nat) : LockPoint → LockPoint
  | .ioGate o => .ioLane o
  | .ioLane o => .ioCheck o
  | .ioCheck o => if o ∈ closing then .done else .ioFence o
  | .ioFence o => .ioFenced o
  | .ioFenced o => .ioCall o
  | .attrGate o => .attrLane o
  | .attrLane o => .attrRead o
  | .attrRead o => .attrCall o
  | .probeLane o => .probeRead o
  | .acquireLane o => .acquireCall o
  | .acquireCall o => .acquirePublish o
  | .acquirePublish o => .acquireRegister o
  | .unlockLane k => .unlockCall k
  | .closeLane o => .closeCheck o
  | .closeCheck o => if o ∈ closing then .done else .closeFence o
  | .closeFence o => .closeGate o
  | .closeGate o => .closeRelock o
  | .closeRelock o => .closeCall o
  | .closeCall o => .closeRemove o
  | .openPublish => .openRegister
  | .recallGate fh => .recallCall fh
  | .reclaimLane o => .reclaimFence o
  | .reclaimFence o => .reclaimCall o
  | .relockProbe k o => .relockRead k o
  | .relockRead k o => .relockLane k o
  | .relockLane k o => .relockFence k o
  | .relockFence k o => .relockLock k o
  | .relockLock k o => .relockCall k o
  | .relockCall k o => .relockRekey k o
  | .lostPublish => .lostMark
  | _ => .done

/-- Where tasks begin. -/
def isEntry : LockPoint → Bool
  | .ioGate _ | .attrGate _ | .probeLane _ | .acquireLane _ | .unlockLane _ | .closeLane _
  | .openPublish | .recallGate _ | .reclaimLane _ | .relockProbe .. | .lostPublish => true
  | _ => false

/-- The owner whose CLOSE has set the flag. -/
def closes? : LockPoint → Option Nat
  | .closeFence o | .closeGate o | .closeRelock o | .closeCall o | .closeRemove o => some o
  | _ => none

/-- The owner whose CLOSE has set the flag and does not have the lane again. -/
def pendingClose? : LockPoint → Option Nat
  | .closeFence o | .closeGate o | .closeRelock o => some o
  | _ => none

/-- The owner whose lane recovery holds. -/
def reclaims? : LockPoint → Option Nat
  | .reclaimFence o | .reclaimCall o | .relockFence _ o | .relockLock _ o | .relockCall _ o
  | .relockRekey _ o => some o
  | _ => none

end LockPoint

/-! ## The machine -/

structure MountLocks where
  parties : List (Party LockPoint)
  /-- Owners with the flag `closing`. -/
  closing : List Nat
  /-- Tickets given out. -/
  tickets : Nat

inductive LockEvent where
  | spawn (point : LockPoint)
  /-- The party queues for the lock it wants. -/
  | request (p : Nat)
  | grant (p : Nat)
  /-- The party goes on where it wants no lock. -/
  | go (p : Nat)
  /-- The task ends, and gives back what it holds. -/
  | abort (p : Nat)
  deriving DecidableEq, Repr

namespace MountLocks

variable (cfg : LockConfig) (s : MountLocks)

def move (p : Nat) (point : LockPoint) : MountLocks :=
  { s with parties := s.parties.set p ⟨point, none⟩ }

def step : LockEvent → Option MountLocks
  | .spawn point =>
    if point.isEntry then some { s with parties := s.parties ++ [⟨point, none⟩] } else none
  | .request p =>
    (s.parties[p]?).bind fun P =>
      if P.ticket.isNone ∧ (cfg.wants P.point).isSome then
        some { s with
          parties := s.parties.set p { P with ticket := some s.tickets }
          tickets := s.tickets + 1 }
      else none
  | .grant p =>
    (s.parties[p]?).bind fun P =>
      match cfg.wants P.point, P.ticket with
      | some (l, m), some t =>
        if admits cfg.use s.parties l m ∧ isNext cfg.use s.parties l t then
          some (s.move p (P.point.next s.closing))
        else none
      | _, _ => none
  | .go p =>
    (s.parties[p]?).bind fun P =>
      if cfg.wants P.point = none then
        match P.point with
        | .closeCheck o =>
          -- a second CLOSE of the lane is refused
          if o ∈ s.closing then some (s.move p .done)
          else some { s.move p (.closeFence o) with closing := o :: s.closing }
        | point => some (s.move p (point.next s.closing))
      else none
  | .abort p => if p < s.parties.length then some (s.move p .done) else none

/-- **Recovery keeps away from closing lanes.** It is not granted the mutex of a lane whose CLOSE
has set the flag and does not have the mutex again. -/
def Apart : LockEvent → Prop
  | .grant p => ∀ P o, s.parties[p]? = some P → (P.point.next s.closing).reclaims? = some o →
      P.point.reclaims? = some o ∨ ∀ Q ∈ s.parties, Q.point.pendingClose? ≠ some o
  | _ => True

instance decidableApart : ∀ e, Decidable (s.Apart e)
  | .grant p =>
    decidable_of_iff (∀ P ∈ s.parties[p]?, ∀ o ∈ (P.point.next s.closing).reclaims?,
        P.point.reclaims? = some o ∨ ∀ Q ∈ s.parties, Q.point.pendingClose? ≠ some o)
      ⟨fun h P o hP ho => h P hP o ho, fun h P hP o ho => h P o hP ho⟩
  | .spawn _ | .request _ | .go _ | .abort _ => .isTrue trivial

end MountLocks

/-- The locks of a mount. -/
def lockMachine (cfg : LockConfig) : Machine MountLocks LockEvent where
  init := { parties := [], closing := [], tickets := 0 }
  step := MountLocks.step cfg

/-! ## Points -/

section points

variable {cfg : LockConfig} {point : LockPoint} {closing : List Nat} {o : Nat}

/-- Gates are the only locks that depend on the callback service. -/
theorem lane_notMem_gateOf {m mode : LockMode} {owner : Nat} :
    (MountLock.lane o, m) ∉ cfg.gateOf owner mode := by
  unfold LockConfig.gateOf
  split <;> simp

theorem lane_notMem_gateAt {m mode : LockMode} {fh : Nat} :
    (MountLock.lane o, m) ∉ cfg.gateAt fh mode := by
  unfold LockConfig.gateAt
  split <;> simp

/-- A lane held at the next point was held, or is the lock that was wanted. -/
theorem lane_of_next {m : LockMode} (h : (MountLock.lane o, m) ∈ cfg.holds (point.next closing)) :
    (MountLock.lane o, m) ∈ cfg.holds point ∨ cfg.wants point = some (.lane o, .exclusive) := by
  cases point <;> simp only [LockPoint.next] at h <;> (try split at h) <;>
    simp_all [LockConfig.holds, LockConfig.wants, lane_notMem_gateOf, lane_notMem_gateAt]

/-- CLOSE comes to have set the flag at its check only. -/
theorem closes_of_next (h : (point.next closing).closes? = some o) :
    point.closes? = some o ∨ point = .closeCheck o := by
  cases point <;> simp only [LockPoint.next] at h <;> (try split at h) <;>
    simp_all [LockPoint.closes?]

theorem pendingClose_of_next (h : (point.next closing).pendingClose? = some o) :
    point.pendingClose? = some o ∨ point = .closeCheck o := by
  cases point <;> simp only [LockPoint.next] at h <;> (try split at h) <;>
    simp_all [LockPoint.pendingClose?]

/-- READ and WRITE come to wait for the fence of a lane that is not closing. -/
theorem ioFence_of_next (h : point.next closing = .ioFence o) :
    point = .ioCheck o ∧ o ∉ closing := by
  cases point <;> simp only [LockPoint.next] at h <;> (try split at h) <;> simp_all

/-- Recovery comes to hold a lane where it wanted its mutex. -/
theorem reclaims_of_next (cfg : LockConfig) (h : (point.next closing).reclaims? = some o) :
    point.reclaims? = some o ∨ cfg.wants point = some (.lane o, .exclusive) := by
  cases point <;> simp only [LockPoint.next] at h <;> (try split at h) <;>
    simp_all [LockPoint.reclaims?, LockConfig.wants]

theorem closes_of_pendingClose (h : point.pendingClose? = some o) : point.closes? = some o := by
  cases point <;> simp_all [LockPoint.pendingClose?, LockPoint.closes?]

theorem holds_of_reclaims (h : point.reclaims? = some o) :
    (MountLock.lane o, .exclusive) ∈ cfg.holds point := by
  cases point <;> simp_all [LockPoint.reclaims?, LockConfig.holds]

theorem reclaims_pendingClose (h : point.reclaims? = some o) : point.pendingClose? = none := by
  cases point <;> simp_all [LockPoint.reclaims?, LockPoint.pendingClose?]

/-- A task begins with nothing. -/
theorem entry_facts (cfg : LockConfig) (h : point.isEntry = true) :
    cfg.holds point = [] ∧ point.closes? = none ∧ point.reclaims? = none ∧
      ∀ o, point ≠ .ioFence o := by
  cases point <;> simp_all [LockPoint.isEntry, LockConfig.holds, LockPoint.closes?,
    LockPoint.reclaims?]

end points

/-! ## The invariant -/

variable {cfg : LockConfig} {s s' : MountLocks}

structure LockInv (cfg : LockConfig) (s : MountLocks) : Prop where
  exclusion : ∀ o, Exclusion cfg.use s.parties (.lane o)
  flagged : ∀ (p : Nat) (P : Party LockPoint) (o : Nat), s.parties[p]? = some P →
    P.point.closes? = some o → o ∈ s.closing
  single : ∀ (p q : Nat) (P Q : Party LockPoint) (o : Nat), s.parties[p]? = some P →
    s.parties[q]? = some Q → P.point.closes? = some o → Q.point.closes? = some o → p = q
  unflagged : ∀ (p : Nat) (P : Party LockPoint) (o : Nat), s.parties[p]? = some P →
    P.point = .ioFence o → o ∉ s.closing
  apart : ∀ (p q : Nat) (P Q : Party LockPoint) (o : Nat), s.parties[p]? = some P →
    s.parties[q]? = some Q → P.point.reclaims? = some o → Q.point.pendingClose? ≠ some o

/-- A party moves while the flags stay. -/
theorem LockInv.set (h : LockInv cfg s) {p tickets : Nat} {P P' : Party LockPoint}
    (hP : s.parties[p]? = some P)
    (hLane : ∀ o, (∀ m, (MountLock.lane o, m) ∈ cfg.holds P'.point →
      (MountLock.lane o, m) ∈ cfg.holds P.point) ∨
        admits cfg.use s.parties (.lane o) .exclusive = true)
    (hCloses : ∀ o, P'.point.closes? = some o → P.point.closes? = some o)
    (hPending : ∀ o, P'.point.pendingClose? = some o → P.point.pendingClose? = some o)
    (hIo : ∀ o, P'.point = .ioFence o → o ∉ s.closing)
    (hReclaims : ∀ o, P'.point.reclaims? = some o → P.point.reclaims? = some o ∨
      ∀ Q ∈ s.parties, Q.point.pendingClose? ≠ some o) :
    LockInv cfg { s with parties := s.parties.set p P', tickets := tickets } where
  exclusion o := (h.exclusion o).set hP (hLane o)
  flagged q Q o hQ hq := by
    rcases of_getElem?_set hQ with ⟨-, rfl⟩ | ⟨-, hOld⟩
    · exact h.flagged p P o hP (hCloses o hq)
    · exact h.flagged q Q o hOld hq
  single q r Q R o hQ hR hq hr := by
    rcases of_getElem?_set hQ with ⟨rfl, rfl⟩ | ⟨-, hOldQ⟩
    · rcases of_getElem?_set hR with ⟨rfl, -⟩ | ⟨-, hOldR⟩
      · rfl
      · exact h.single q r P R o hP hOldR (hCloses o hq) hr
    · rcases of_getElem?_set hR with ⟨rfl, rfl⟩ | ⟨-, hOldR⟩
      · exact h.single q r Q P o hOldQ hP hq (hCloses o hr)
      · exact h.single q r Q R o hOldQ hOldR hq hr
  unflagged q Q o hQ hq := by
    rcases of_getElem?_set hQ with ⟨-, rfl⟩ | ⟨-, hOld⟩
    · exact hIo o hq
    · exact h.unflagged q Q o hOld hq
  apart q r Q R o hQ hR hq hr := by
    -- one of the two, both or none of them is the party that moves
    rcases of_getElem?_set hQ with ⟨-, rfl⟩ | ⟨-, hOldQ⟩
    · rcases of_getElem?_set hR with ⟨-, rfl⟩ | ⟨-, hOldR⟩
      · rw [reclaims_pendingClose hq] at hr
        cases hr
      · rcases hReclaims o hq with hOld | hNone
        · exact h.apart p r P R o hP hOldR hOld hr
        · exact hNone R (List.mem_of_getElem? hOldR) hr
    · rcases of_getElem?_set hR with ⟨-, rfl⟩ | ⟨-, hOldR⟩
      · exact h.apart q p Q P o hOldQ hP hq (hPending o hr)
      · exact h.apart q r Q R o hOldQ hOldR hq hr

/-- A new task holds nothing. -/
theorem LockInv.spawn (h : LockInv cfg s) {point : LockPoint} (hEntry : point.isEntry = true) :
    LockInv cfg { s with parties := s.parties ++ [⟨point, none⟩] } := by
  obtain ⟨hHolds, hCloses, hReclaims, hIo⟩ := entry_facts cfg hEntry
  -- at an entry nothing is held, no flag is set and nothing is waited for
  have hPending : ∀ o, point.pendingClose? ≠ some o := by
    intro o hPending
    rw [closes_of_pendingClose hPending] at hCloses
    cases hCloses
  refine ⟨fun o => (h.exclusion o).concat ?_, ?_, ?_, ?_, ?_⟩
  · rintro ⟨m, hm⟩
    have hm : (MountLock.lane o, m) ∈ cfg.holds point := hm
    rw [hHolds] at hm
    cases hm
  · intro p P o hP hp
    rcases of_getElem?_concat hP with hOld | ⟨-, rfl⟩
    · exact h.flagged p P o hOld hp
    · rw [hCloses] at hp
      cases hp
  · intro p q P Q o hP hQ hp hq
    rcases of_getElem?_concat hP with hOldP | ⟨-, rfl⟩
    · rcases of_getElem?_concat hQ with hOldQ | ⟨-, rfl⟩
      · exact h.single p q P Q o hOldP hOldQ hp hq
      · rw [hCloses] at hq
        cases hq
    · rw [hCloses] at hp
      cases hp
  · intro p P o hP hp
    rcases of_getElem?_concat hP with hOld | ⟨-, rfl⟩
    · exact h.unflagged p P o hOld hp
    · exact absurd hp (hIo o)
  · intro p q P Q o hP hQ hp hq
    rcases of_getElem?_concat hP with hOldP | ⟨-, rfl⟩
    · rcases of_getElem?_concat hQ with hOldQ | ⟨-, rfl⟩
      · exact h.apart p q P Q o hOldP hOldQ hp hq
      · exact hPending o hq
    · rw [hReclaims] at hp
      cases hp

/-- The task gives everything back. -/
theorem LockInv.finish (h : LockInv cfg s) {p : Nat} {P : Party LockPoint}
    (hP : s.parties[p]? = some P) : LockInv cfg (s.move p .done) :=
  h.set hP (fun _ => .inl nofun) nofun nofun nofun nofun

/-- **CLOSE sets the flag.** It holds the lane, so nobody waits for the lane's fence. -/
theorem LockInv.closeCheck (h : LockInv cfg s) {p o : Nat} {P : Party LockPoint}
    (hP : s.parties[p]? = some P) (hPoint : P.point = .closeCheck o) (hNew : o ∉ s.closing) :
    LockInv cfg { s.move p (.closeFence o) with closing := o :: s.closing } := by
  have hLane : (MountLock.lane o, .exclusive) ∈ cfg.holds P.point := by
    rw [hPoint]
    exact List.mem_singleton_self _
  -- another holder of the lane would be the same party
  have hAlone : ∀ (q : Nat) (Q : Party LockPoint), q ≠ p → s.parties[q]? = some Q →
      (MountLock.lane o, .exclusive) ∉ cfg.holds Q.point := by
    intro q Q hqp hQ hHolds
    exact hqp (h.exclusion o p q P Q hP hQ hLane ⟨_, hHolds⟩).symm
  have hNone : ∀ o' m, (MountLock.lane o', m) ∉ cfg.holds (.closeFence o) :=
    fun _ _ => List.not_mem_nil
  refine ⟨fun o' => (h.exclusion o').set hP (.inl fun m hm => absurd hm (hNone o' m)), ?_, ?_, ?_,
    ?_⟩
  · intro q Q o' hQ hq
    rcases of_getElem?_set hQ with ⟨-, rfl⟩ | ⟨-, hOld⟩
    · cases hq
      exact List.mem_cons_self
    · exact List.mem_cons_of_mem _ (h.flagged q Q o' hOld hq)
  · intro q r Q R o' hQ hR hq hr
    rcases of_getElem?_set hQ with ⟨rfl, rfl⟩ | ⟨-, hOldQ⟩
    · rcases of_getElem?_set hR with ⟨rfl, -⟩ | ⟨-, hOldR⟩
      · rfl
      · cases hq
        exact absurd (h.flagged r R o hOldR hr) hNew
    · rcases of_getElem?_set hR with ⟨rfl, rfl⟩ | ⟨-, hOldR⟩
      · cases hr
        exact absurd (h.flagged q Q o hOldQ hq) hNew
      · exact h.single q r Q R o' hOldQ hOldR hq hr
  · intro q Q o' hQ hq hMem
    rcases of_getElem?_set hQ with ⟨-, rfl⟩ | ⟨hqp, hOld⟩
    · cases hq
    · rcases List.mem_cons.mp hMem with rfl | hMem
      · refine hAlone q Q hqp hOld ?_
        rw [hq]
        exact List.mem_cons_self
      · exact h.unflagged q Q o' hOld hq hMem
  · intro q r Q R o' hQ hR hq hr
    rcases of_getElem?_set hQ with ⟨-, rfl⟩ | ⟨hqp, hOldQ⟩
    · cases hq
    · rcases of_getElem?_set hR with ⟨-, rfl⟩ | ⟨-, hOldR⟩
      · cases hr
        exact hAlone q Q hqp hOldQ (holds_of_reclaims hq)
      · exact h.apart q r Q R o' hOldQ hOldR hq hr

/-- A party goes on to the next point, without a lock or with the one it is granted. -/
theorem LockInv.advance (h : LockInv cfg s) {p : Nat} {P : Party LockPoint}
    (hP : s.parties[p]? = some P) (hNot : ∀ o, P.point ≠ .closeCheck o)
    (hLane : ∀ o, cfg.wants P.point = some (.lane o, .exclusive) →
      admits cfg.use s.parties (.lane o) .exclusive = true)
    (hReclaims : ∀ o, (P.point.next s.closing).reclaims? = some o → P.point.reclaims? = some o ∨
      ∀ Q ∈ s.parties, Q.point.pendingClose? ≠ some o) :
    LockInv cfg (s.move p (P.point.next s.closing)) := by
  refine h.set hP (fun o => ?_) (fun o hCloses => ?_) (fun o hPending => ?_) (fun o hIo => ?_)
    hReclaims
  · by_cases hWants : cfg.wants P.point = some (.lane o, .exclusive)
    · exact .inr (hLane o hWants)
    · exact .inl fun m hm => (lane_of_next hm).resolve_right hWants
  · exact (closes_of_next hCloses).resolve_right (hNot o)
  · exact (pendingClose_of_next hPending).resolve_right (hNot o)
  · exact (ioFence_of_next hIo).2

/-- **Every step keeps the invariant**, as long as recovery keeps away from closing lanes. -/
theorem lockInv_step {e : LockEvent} (h : LockInv cfg s) (hApart : s.Apart e)
    (hStep : (lockMachine cfg).step s e = some s') : LockInv cfg s' := by
  change s.step cfg e = some s' at hStep
  cases e with
  | spawn point =>
    simp only [MountLocks.step] at hStep
    split at hStep <;> cases hStep
    next hEntry => exact h.spawn hEntry
  | request p =>
    obtain ⟨P, hP, hStep⟩ := Option.bind_eq_some_iff.mp hStep
    split at hStep <;> cases hStep
    exact h.set hP (fun _ => .inl fun _ hm => hm) (fun _ ho => ho) (fun _ ho => ho)
      (fun o ho => h.unflagged p P o hP ho) (fun _ ho => .inl ho)
  -- a grant is the only way to hold more; FIFO order and admission decide who gets it
  | grant p =>
    obtain ⟨P, hP, hStep⟩ := Option.bind_eq_some_iff.mp hStep
    split at hStep
    next l m t hWants hTicket =>
      split at hStep <;> cases hStep
      next hGrant =>
        refine h.advance hP (fun o hCheck => ?_) (fun o hLane => ?_) fun o ho => hApart P o hP ho
        · rw [hCheck] at hWants
          cases hWants
        · rw [hWants] at hLane
          cases hLane
          exact hGrant.1
    next => cases hStep
  -- without a lock to wait for: the check of `closing`, or the next point
  | go p =>
    obtain ⟨P, hP, hStep⟩ := Option.bind_eq_some_iff.mp hStep
    split at hStep
    next hNone =>
      split at hStep
      next o hPoint =>
        split at hStep <;> cases hStep
        · exact h.finish hP
        next hNew => exact h.closeCheck hP hPoint hNew
      next hNot =>
        cases hStep
        refine h.advance hP hNot (fun o hLane => ?_) fun o ho => ?_
        · rw [hNone] at hLane
          cases hLane
        · refine .inl ((reclaims_of_next cfg ho).resolve_right ?_)
          rw [hNone]
          nofun
    next => cases hStep
  | abort p =>
    simp only [MountLocks.step] at hStep
    split at hStep <;> cases hStep
    next hLt => exact h.finish (List.getElem?_eq_getElem hLt)

theorem lockInv_initial : LockInv cfg (lockMachine cfg).init where
  exclusion _ _ _ _ _ hP := nomatch hP
  flagged _ _ _ hP := nomatch hP
  single _ _ _ _ _ hP := nomatch hP
  unflagged _ _ _ hP := nomatch hP
  apart _ _ _ _ _ hP := nomatch hP

/-! ## The order of the locks -/

def MountLock.level : MountLock → Nat
  | .gate _ => 0
  | .lane _ => 1
  | .ioFence _ => 2
  | .lockLane _ | .publication => 3

section levels

variable {point : LockPoint} {l l' : MountLock} {m m' : LockMode}

theorem level_of_mem_gateOf {owner : Nat} (h : (l, m) ∈ cfg.gateOf owner m') : l.level = 0 := by
  unfold LockConfig.gateOf at h
  split at h
  · cases List.mem_singleton.mp h
    rfl
  · cases h

/-- Locks are taken upwards, except by a CLOSE that keeps the fence of its lane. -/
theorem level_of_holds_wants (hHolds : (l, m) ∈ cfg.holds point)
    (hWants : cfg.wants point = some (l', m')) :
    l.level < l'.level ∨ ∃ o, l = .ioFence o ∧ (point = .closeGate o ∨ point = .closeRelock o) := by
  have hGate : ∀ {owner : Nat} {mode : LockMode}, (l, m) ∈ cfg.gateOf owner mode → l.level = 0 :=
    level_of_mem_gateOf
  cases point <;> simp only [LockConfig.wants, reduceCtorEq, Option.some.injEq] at hWants <;>
    simp only [LockConfig.holds, List.mem_cons, List.not_mem_nil, or_false, Prod.mk.injEq]
      at hHolds
  all_goals try obtain ⟨rfl, rfl⟩ := hWants
  case ioLane | attrLane => exact .inl (by rw [hGate hHolds]; exact Nat.zero_lt_one)
  case ioFence | closeRelock =>
    rcases hHolds with ⟨rfl, -⟩ | hHolds
    · simp [MountLock.level]
    · exact .inl (by rw [hGate hHolds]; simp [MountLock.level])
  case closeGate => exact .inr ⟨_, hHolds.1, .inl rfl⟩
  case acquirePublish | reclaimFence | relockFence =>
    obtain ⟨rfl, -⟩ := hHolds
    exact .inl (by simp [MountLock.level])
  case relockLock =>
    rcases hHolds with ⟨rfl, -⟩ | ⟨rfl, -⟩ <;> exact .inl (by simp [MountLock.level])

/-- Who can be queued for a fence. -/
theorem point_of_wants_ioFence {o : Nat} (h : cfg.wants point = some (.ioFence o, m)) :
    point = .ioFence o ∨ point = .closeFence o ∨ point.reclaims? = some o := by
  have hGate : ∀ {owner : Nat} {mode : LockMode},
      (cfg.gateOf owner mode).head? ≠ some (.ioFence o, m) := by
    intro owner mode hHead
    have hZero := level_of_mem_gateOf (List.mem_of_head? hHead)
    cases hZero
  have hRecall : ∀ {fh : Nat} {mode : LockMode},
      (cfg.gateAt fh mode).head? ≠ some (.ioFence o, m) := by
    intro fh mode
    unfold LockConfig.gateAt
    split <;> simp
  cases point <;> simp_all [LockConfig.wants, LockPoint.reclaims?]

end levels

/-- **Nobody is queued for the fence that a waiting CLOSE keeps.** -/
theorem LockInv.fence_unwanted (h : LockInv cfg s) {p q o : Nat} {P Q : Party LockPoint}
    (hP : s.parties[p]? = some P) (hQ : s.parties[q]? = some Q)
    (hQueued : ∃ m, cfg.wants P.point = some (.ioFence o, m)) :
    ¬ (Q.point = .closeGate o ∨ Q.point = .closeRelock o) := by
  obtain ⟨m, hWants⟩ := hQueued
  intro hClose
  have hPending : Q.point.pendingClose? = some o := by
    rcases hClose with hPoint | hPoint <;> rw [hPoint] <;> rfl
  have hCloses := closes_of_pendingClose hPending
  rcases point_of_wants_ioFence hWants with hIo | hFence | hReclaims
  · exact h.unflagged p P o hP hIo (h.flagged q Q o hQ hCloses)
  · -- a second CLOSE has been refused
    have hSame : p = q := h.single p q P Q o hP hQ (by rw [hFence]; rfl) hCloses
    subst hSame
    rw [hP] at hQ
    cases hQ
    rw [hFence] at hClose
    rcases hClose with hPoint | hPoint <;> cases hPoint
  · exact h.apart p q P Q o hP hQ hReclaims hPending

theorem LockInv.ordered (h : LockInv cfg s) : Ordered cfg.use MountLock.level s.parties := by
  intro p q P Q l l' t t' hP hQ hp hHolds hq
  obtain ⟨m, hHolds⟩ := hHolds
  obtain ⟨-, m', hWants⟩ := hq
  rcases level_of_holds_wants hHolds hWants with hLt | ⟨o, rfl, hClose⟩
  · exact hLt
  · exact absurd hClose (h.fence_unwanted hP hQ hp.2)

/-! ## Results -/

/-- **Nobody waits for itself.** In every configuration of the tasks of a mount, with any
numbers of tasks, lanes and files, the wait-for graph has no cycle, as long as recovery takes no
lane whose CLOSE has set the flag and waits. -/
theorem waits_acyclic (cfg : LockConfig) (s : MountLocks)
    (h : (lockMachine cfg).ReachableIf MountLocks.Apart s) (p : Nat) :
    ¬ Relation.TransGen (WaitsFor cfg.use s.parties) p p := by
  have hInv : LockInv cfg s :=
    h.invariant lockInv_initial fun _ _ _ _ hApart hStep hInv => lockInv_step hInv hApart hStep
  exact acyclic_of_levels hInv.ordered p

/-- A mount with callbacks, where each owner has its own file. -/
def sampleConfig : LockConfig := { callbacks := true, fh := id }

/-- A WRITE is under way, CLOSE waits for it behind the flag, and recovery for the lane of
another owner, which LOCK holds. -/
def closeBehindWrite : List LockEvent :=
  [.spawn (.ioGate 1), .request 0, .grant 0, .request 0, .grant 0, .go 0, .request 0, .grant 0,
    .go 0, .spawn (.closeLane 1), .request 1, .grant 1, .go 1, .request 1,
    .spawn (.acquireLane 2), .request 2, .grant 2, .spawn (.reclaimLane 2), .request 3]

theorem waits_acyclic_closeBehindWrite :
    ∃ s, (lockMachine sampleConfig).runFrom (lockMachine sampleConfig).init closeBehindWrite =
        some s ∧
      WaitsFor sampleConfig.use s.parties 1 0 ∧ WaitsFor sampleConfig.use s.parties 3 2 ∧
      ¬ Relation.TransGen (WaitsFor sampleConfig.use s.parties) 1 1 := by
  refine ⟨_, rfl, ?_, ?_, ?_⟩
  · exact ⟨_, _, .ioFence 1, 4, rfl, rfl, ⟨rfl, _, rfl⟩, .inl ⟨_, List.mem_cons_self⟩⟩
  · exact ⟨_, _, .lane 2, 6, rfl, rfl, ⟨rfl, _, rfl⟩, .inl ⟨_, List.mem_cons_self⟩⟩
  · exact waits_acyclic sampleConfig _
      (Machine.reachableIf_of_runChecked closeBehindWrite .init rfl) 1

/-- CLOSE has the fence when recovery takes the lane, and wants the lane again. -/
def closeDuringRecovery : List LockEvent :=
  [.spawn (.closeLane 1), .spawn (.reclaimLane 1), .request 0, .grant 0, .go 0, .request 1,
    .grant 1, .request 0, .grant 0, .request 0, .grant 0, .request 0, .request 1]

/-- **Recovery and CLOSE wait for each other.** Recovery holds the lane and waits for its fence;
CLOSE holds the fence and waits for the lane. -/
theorem recovery_waits_for_close :
    ∃ s, (lockMachine sampleConfig).runFrom (lockMachine sampleConfig).init closeDuringRecovery =
        some s ∧
      WaitsFor sampleConfig.use s.parties 0 1 ∧ WaitsFor sampleConfig.use s.parties 1 0 := by
  refine ⟨_, rfl, ?_, ?_⟩
  · exact ⟨_, _, .lane 1, 4, rfl, rfl, ⟨rfl, _, rfl⟩, .inl ⟨_, List.mem_singleton_self _⟩⟩
  · exact ⟨_, _, .ioFence 1, 5, rfl, rfl, ⟨rfl, _, rfl⟩, .inl ⟨_, List.mem_cons_self⟩⟩

end NfsRs.Nfs40
