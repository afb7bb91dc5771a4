import NfsRs.Client.Paths

/-!
# NfsRs — SETATTR with a guard

A caller may give SETATTR the ctime that the object must still have. NFSv3 has a guard on the
wire, and the server compares it when it executes the call. NFSv4.0 refuses a call with a guard.
NFSv4.1 takes the guard and does not look at it. `setattr_path` reads the ctime itself: NFSv3
takes it from the attributes of the LOOKUP reply and sends no guard when there are none, NFSv4
asks with a GETATTR.

Other clients change the object at any time; what they do between two calls of this client is
an arbitrary function on the object. So is what the server does once it executes a SETATTR, and
an unguarded one does no harm if the server refuses it.

## Main results

- `setattr_guarded` : a guarded call keeps its promise exactly if no SETATTR that is sent without
  the guard changes an object of another ctime.
- `setattr_unguarded` : on NFSv4.1, and on NFSv3 after a LOOKUP without attributes, one does.
-/

namespace NfsRs.Client.GuardedSetattr

open NfsRs.Client.Paths (Protocol)

structure Time where
  seconds : Nat
  nseconds : Nat
  deriving DecidableEq, Repr

/-- An object of the server; `α` is what SETATTR can change. -/
structure Obj (α : Type) where
  ctime : Time
  attrs : α
  deriving DecidableEq, Repr

/-- What the server and the other clients do during one call. -/
structure World (α : Type) where
  /-- The reply to `lookup_path`. -/
  lookup : Except NfsError Unit
  /-- Whether that reply has attributes; it has none for the mount root. -/
  hasAttr : Bool
  getattr : Except NfsError Unit
  /-- `flush_layoutcommit`, before NFSv4.1 changes the size. -/
  flush : Except NfsError Unit
  beforeRead : Obj α → Obj α
  beforeSend : Obj α → Obj α
  /-- The server's execution of SETATTR once the guard has passed. -/
  execute : Obj α → Except NfsError Unit × Obj α
  /-- The server's error for a guard that does not match. -/
  notSync : NfsError

/-- A call as it ended: the guard it was bound to, the object when SETATTR was to be executed,
the result and the object afterwards. -/
structure Outcome (α : Type) where
  guard : Option Time
  before : Obj α
  result : Except NfsError Unit
  after : Obj α

/-- The attributes asked for: whether there are any, and whether the size is one of them. -/
structure Request where
  isEmpty : Bool
  hasSize : Bool

variable {α : Type} (w : World α)

/-- SETATTR3 at the server. -/
def execute3 (guard : Option Time) (obj : Obj α) : Except NfsError Unit × Obj α :=
  match guard with
  | none => w.execute obj
  | some ctime => if ctime = obj.ctime then w.execute obj else (.error w.notSync, obj)

def guardUnsupported : NfsError :=
  .unsupported "NFSv4.0 guarded SETATTR is not representable by RFC 7530 SETATTR"

def setattr (version : Protocol) (guardCtime : Option Time) (request : Request) (obj : Obj α) :
    Except NfsError Unit × Obj α :=
  match version with
  | .nfs3 => execute3 w guardCtime obj
  | .nfs40 =>
      if guardCtime.isSome then (.error guardUnsupported, obj)
      else if request.isEmpty then (.ok (), obj)
      else w.execute obj
  | .nfs41 =>
      -- the guard is not sent
      match if request.hasSize then w.flush else .ok () with
      | .error e => (.error e, obj)
      | .ok () => w.execute obj

/-- The ctime that `setattr_path` binds the change to, from the object as it reads it. -/
def readGuard (version : Protocol) (specifyGuard : Bool) (obj : Obj α) :
    Except NfsError (Option Time) :=
  match version with
  | .nfs3 => .ok (if specifyGuard && w.hasAttr then some obj.ctime else none)
  | _ => if specifyGuard then w.getattr.map fun _ => some obj.ctime else .ok none

def setattrPath (version : Protocol) (specifyGuard : Bool) (request : Request) (obj : Obj α) :
    Outcome α :=
  match w.lookup with
  | .error e => ⟨none, obj, .error e, obj⟩
  | .ok () =>
      let seen := w.beforeRead obj
      match readGuard w version specifyGuard seen with
      | .error e => ⟨none, seen, .error e, seen⟩
      | .ok guard =>
          let before := w.beforeSend seen
          let answer := setattr w version guard request before
          ⟨guard, before, answer.1, answer.2⟩

/-- The object had the ctime of the guard, or the call failed and left it alone. -/
def Outcome.Guarded (o : Outcome α) : Prop :=
  o.guard = some o.before.ctime ∨ (∃ e, o.result = .error e) ∧ o.after = o.before

/-- The server refuses the change and leaves the object alone. -/
def Refuses (obj : Obj α) : Prop := (∃ e, (w.execute obj).1 = .error e) ∧ (w.execute obj).2 = obj

/-- Data of the file is flushed before its size changes. -/
def Flushed (request : Request) : Prop := request.hasSize = true → w.flush = .ok ()

/-- `setattr_path` gets as far as a SETATTR without a guard. -/
def SendsUnguarded (version : Protocol) (request : Request) : Prop :=
  w.lookup = .ok () ∧ match version with
    | .nfs3 => w.hasAttr = false
    | .nfs40 => False
    | .nfs41 => w.getattr = .ok () ∧ Flushed w request

/-- A guard that reaches the server is compared there, NFSv4.0 refuses every guard, and NFSv4.1
sends its SETATTR without one. -/
theorem setattr_some (version : Protocol) (ctime : Time) (request : Request) (obj : Obj α) :
    (Outcome.mk (some ctime) obj (setattr w version (some ctime) request obj).1
      (setattr w version (some ctime) request obj).2).Guarded ↔
      (version = .nfs41 → Flushed w request → ctime = obj.ctime ∨ Refuses w obj) := by
  cases version with
  | nfs3 =>
    refine ⟨fun _ => nofun, fun _ => ?_⟩
    by_cases hCtime : ctime = obj.ctime
    · exact .inl (congrArg some hCtime)
    · exact .inr (by simp [setattr, execute3, hCtime])
  | nfs40 => exact ⟨fun _ => nofun, fun _ => .inr (by simp [setattr])⟩
  | nfs41 =>
    have hSame : some ctime = some obj.ctime ↔ ctime = obj.ctime := Option.some_inj
    by_cases hFlushed : Flushed w request
    · have hSend : setattr w .nfs41 (some ctime) request obj = w.execute obj := by
        unfold setattr
        cases hSize : request.hasSize with
        | false => rfl
        | true => simp [hFlushed hSize]
      rw [hSend]
      exact ⟨fun h _ _ => h.imp_left hSame.mp, fun h => (h rfl hFlushed).imp_left hSame.mpr⟩
    · -- the flush fails, and with it the call
      refine ⟨fun _ _ h => absurd h hFlushed, fun _ => .inr ?_⟩
      obtain ⟨hSize, hFlush⟩ := Classical.not_imp.mp hFlushed
      cases hResult : w.flush with
      | ok u => exact absurd hResult hFlush
      | error e => exact ⟨⟨e, by simp [setattr, hSize, hResult]⟩, by simp [setattr, hSize, hResult]⟩

theorem setattrPath_guarded (version : Protocol) (request : Request) (obj : Obj α) :
    (setattrPath w version true request obj).Guarded ↔
      (SendsUnguarded w version request →
        (version = .nfs41 ∧
          (w.beforeRead obj).ctime = (w.beforeSend (w.beforeRead obj)).ctime) ∨
        Refuses w (w.beforeSend (w.beforeRead obj))) := by
  unfold setattrPath
  cases hLookup : w.lookup with
  | error e =>
    exact ⟨fun _ h => (nomatch hLookup.symm.trans h.1), fun _ => .inr ⟨⟨e, rfl⟩, rfl⟩⟩
  | ok u =>
    cases version with
    | nfs3 =>
      cases hAttr : w.hasAttr with
      | false =>
        -- no guard is sent, whatever the ctime is
        simp only [readGuard, hAttr, Bool.and_false, Bool.false_eq_true, if_false, setattr,
          execute3, SendsUnguarded, hLookup, Outcome.Guarded, Refuses, reduceCtorEq, false_or,
          false_and, and_self, true_implies]
      | true =>
        simp only [readGuard, hAttr, Bool.and_self, if_true]
        rw [setattr_some]
        simp [SendsUnguarded, hAttr]
    | nfs40 =>
      refine ⟨fun _ h => h.2.elim, fun _ => ?_⟩
      cases hGet : w.getattr with
      | error e => exact .inr ⟨⟨e, by simp [readGuard, hGet, Except.map]⟩,
          by simp [readGuard, hGet, Except.map]⟩
      | ok v => exact .inr (by simp [readGuard, hGet, Except.map, setattr])
    | nfs41 =>
      cases hGet : w.getattr with
      | error e =>
        refine ⟨fun _ h => (nomatch hGet.symm.trans h.2.1), fun _ => .inr ?_⟩
        simp [readGuard, hGet, Except.map]
      | ok v =>
        simp only [readGuard, hGet, Except.map, if_true]
        rw [setattr_some]
        simp [SendsUnguarded, hLookup, hGet]

/-- What `setattr_path` is bound to is the ctime of the object as it was read. -/
theorem setattrPath_guard {version : Protocol} {request : Request} {obj : Obj α} {ctime : Time}
    (h : (setattrPath w version true request obj).guard = some ctime) :
    ctime = (w.beforeRead obj).ctime := by
  have hRead : ∀ guard, readGuard w version true (w.beforeRead obj) = .ok guard →
      guard = some ctime → ctime = (w.beforeRead obj).ctime := by
    rintro _ hGuard rfl
    cases version with
    | nfs3 => cases hAttr : w.hasAttr <;> simp_all [readGuard]
    | nfs40 | nfs41 => cases hGet : w.getattr <;> simp_all [readGuard, Except.map]
  unfold setattrPath at h
  split at h
  · cases h
  · dsimp only at h
    split at h
    · cases h
    · exact hRead _ ‹_› h

/-- **Guarded change.** `setattr` with a guard changes the object only at that ctime and fails
otherwise, and so does `setattr_path` at the ctime it read, exactly if a SETATTR that is sent
without a guard meets an object of that ctime or is refused. -/
theorem setattr_guarded (version : Protocol) (request : Request) (obj : Obj α) :
    (∀ ctime, (Outcome.mk (some ctime) obj (setattr w version (some ctime) request obj).1
        (setattr w version (some ctime) request obj).2).Guarded ↔
      (version = .nfs41 → Flushed w request → ctime = obj.ctime ∨ Refuses w obj)) ∧
    ((setattrPath w version true request obj).Guarded ↔
      (SendsUnguarded w version request →
        (version = .nfs41 ∧
          (w.beforeRead obj).ctime = (w.beforeSend (w.beforeRead obj)).ctime) ∨
        Refuses w (w.beforeSend (w.beforeRead obj)))) ∧
    ∀ ctime, (setattrPath w version true request obj).guard = some ctime →
      ctime = (w.beforeRead obj).ctime :=
  ⟨fun ctime => setattr_some w version ctime request obj, setattrPath_guarded w version request obj,
    fun _ => setattrPath_guard w⟩

/-- Another client changes the object, and its ctime, after the ctime was read. -/
def overtaken (hasAttr : Bool) : World Nat where
  lookup := .ok ()
  hasAttr := hasAttr
  getattr := .ok ()
  flush := .ok ()
  beforeRead := id
  beforeSend := fun _ => ⟨⟨2, 0⟩, 7⟩
  execute := fun _ => (.ok (), ⟨⟨3, 0⟩, 9⟩)
  notSync := .rpc "not sync"

/-- NFSv4.1 changes the object of another ctime, and so does `setattr_path` of NFSv3 after a
LOOKUP without attributes. -/
theorem setattr_unguarded :
    ¬ (setattrPath (overtaken true) .nfs41 true ⟨false, false⟩ ⟨⟨1, 0⟩, 5⟩).Guarded ∧
    ¬ (setattrPath (overtaken false) .nfs3 true ⟨false, false⟩ ⟨⟨1, 0⟩, 5⟩).Guarded ∧
    setattr (overtaken true) .nfs41 (some ⟨1, 0⟩) ⟨false, false⟩ ⟨⟨2, 0⟩, 7⟩ =
      (.ok (), ⟨⟨3, 0⟩, 9⟩) := by
  refine ⟨?_, ?_, rfl⟩
  · rintro (hGuard | ⟨⟨e, hFailed⟩, -⟩)
    · exact absurd hGuard (by decide)
    · cases hFailed
  · rintro (hGuard | ⟨⟨e, hFailed⟩, -⟩)
    · cases hGuard
    · cases hFailed

end NfsRs.Client.GuardedSetattr
