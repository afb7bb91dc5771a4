import Mathlib.Logic.Function.Basic
import NfsRs.Client.Paths

/-!
# NfsRs — opening a path with options

`open_path_guarded` opens the file under a resolved parent. A file that is not there is created
with a GUARDED create, whose success proves that the file is new; if another client was first,
the file is opened after all. A file that existed is truncated with a SETATTR behind the OPEN, and
closed again if that fails.

Between any two calls of this client others create, remove, rename and write files; what they do
is an arbitrary function on the directory entry and the sizes. The call records the files that
were under the name when it looked, the ones it saw empty, created, or gave a mode, and the OPENs
that the server holds for it.

An OPEN stays behind a definite error in two ways: the CLOSE of the clean-up fails, which nobody
looks at, or something fails between the OPEN and its return (a DELEGRETURN, the registration,
the check of the lease) where nothing is closed. A GETATTR that fails behind the GUARDED create of
NFSv4.1 is followed by the clean-up, as the SETATTR of the mode is. `Tidy` shuts out these two ways
and nothing else.
-/

namespace NfsRs.Client.OpenOptions

open NfsRs.Client.Paths (Protocol)

/-- Errors, as far as the call distinguishes them. -/
inductive Err where
  | notFound
  | alreadyExists
  | uncertain
  | other
  deriving DecidableEq, Repr

/-- The entry under (parent, name), the sizes, and the next new file. -/
structure Files where
  entry : Option Nat
  size : Nat → Nat
  fresh : Nat

structure Call where
  files : Files
  /-- OPENs of this call that the server holds. -/
  held : List Nat
  bound : List Nat
  empty : List Nat
  created : List Nat
  moded : List Nat

/-- The server's part in one request: an error instead of the result, whether a request with an
uncertain outcome was executed, and an error after the OPEN took effect, where nothing is closed.
On NFSv3 the last one is a CREATE whose reply has no handle. -/
structure Answer where
  error : Option Err
  executed : Bool
  after : Option Err
  deriving DecidableEq, Repr

structure World where
  version : Protocol
  /-- What others do before the request of this number. -/
  others : Nat → Files → Files
  /-- Validation, `split_path` and `lookup_path` of the parent. -/
  resolve : Option Err
  firstOpen : Answer
  create : Answer
  /-- GETATTR behind the OPEN of NFSv4.1 that creates. -/
  createAttr : Option Err
  /-- The server rejects the mode as an attribute of OPEN. -/
  modeUnsupported : Bool
  setMode : Answer
  secondOpen : Answer
  truncate : Answer
  close : Answer

structure Options where
  create : Bool
  truncate : Bool
  deriving DecidableEq, Repr

variable (w : World)

def Call.turn (c : Call) (k : Nat) : Call := { c with files := w.others k c.files }

/-- The server has an OPEN for a file; NFSv3 has none. -/
def Call.acquire (c : Call) (file : Nat) : Call :=
  { c with
    held := if w.version = .nfs3 then c.held else file :: c.held
    bound := file :: c.bound }

/-- A file created under the name, empty. -/
def Call.make (c : Call) (mode : Bool) : Call :=
  let file := c.files.fresh
  let files : Files :=
    { entry := some file
      size := Function.update c.files.size file 0
      fresh := file + 1 }
  { c with
    files := files
    empty := file :: c.empty
    created := file :: c.created
    moded := if mode then file :: c.moded else c.moded }

/-- A request that ends in an error, or runs. -/
def attempt (a : Answer) (c : Call) (run : Call → Except Err Nat × Call) :
    Except Err Nat × Call :=
  match a.error with
  | none => run c
  | some .uncertain => (.error .uncertain, if a.executed then (run c).2 else c)
  | some e => (.error e, c)

/-- What the client does with an OPEN that took effect. -/
def opened (a : Answer) (file : Nat) (c : Call) : Except Err Nat × Call :=
  match a.after with
  | some e => (.error e, c.acquire w file)
  | none => (.ok file, c.acquire w file)

/-- OPEN of the file under the name. -/
def openEntry (a : Answer) (c : Call) : Except Err Nat × Call :=
  match c.files.entry with
  | none => (.error .notFound, c)
  | some file => opened w a file c

def openStateful (a : Answer) (c : Call) : Except Err Nat × Call := attempt a c (openEntry w a)

/-- `close_stateful`, whose result is dropped. -/
def closeStateful (file : Nat) (c : Call) : Call :=
  (attempt w.close c fun c => (.ok file, { c with held := c.held.erase file })).2

/-- An error behind an OPEN closes the file. -/
def cleanUp (file : Nat) (r : Except Err Nat × Call) : Except Err Nat × Call :=
  match r.1 with
  | .ok _ => r
  | .error e => (.error e, closeStateful w file r.2)

def World.attrError : Option Err := if w.version = .nfs41 then w.createAttr else none

/-- What follows a GUARDED create: GETATTR in the reply of NFSv4.1, and a SETATTR of the mode where
OPEN could not carry it. -/
def finishCreate (file : Nat) (c : Call) : Except Err Nat × Call :=
  match w.attrError with
  | some e => (.error e, c)
  | none =>
      if w.modeUnsupported then
        attempt w.setMode (c.turn w 3) fun c => (.ok file, { c with moded := file :: c.moded })
      else (.ok file, c)

/-- The OPEN of a GUARDED create. -/
def makeFile (c : Call) : Except Err Nat × Call :=
  match c.files.entry with
  | some _ => (.error .alreadyExists, c)
  | none => opened w w.create c.files.fresh (c.make (!w.modeUnsupported))

/-- `?` on the result of an OPEN. -/
def andThen (r : Except Err Nat × Call) (finish : Nat → Call → Except Err Nat × Call) :
    Except Err Nat × Call :=
  match r.1 with
  | .ok file => finish file r.2
  | .error e => (.error e, r.2)

/-- The GUARDED create, with the mode as an attribute of OPEN or with a SETATTR behind it. -/
def createGuarded (c : Call) : Except Err Nat × Call :=
  andThen (attempt w.create c (makeFile w)) fun file c => cleanUp w file (finishCreate w file c)

/-- `finish_open`. -/
def finishOpen (truncate : Bool) (file : Nat) (c : Call) : Except Err Nat × Call :=
  if truncate then
    cleanUp w file (attempt w.truncate (c.turn w 5) fun c => (.ok file, { c with
      files := { c.files with size := Function.update c.files.size file 0 }
      empty := file :: c.empty }))
  else (.ok file, c)

/-- OPEN, and `finish_open`. -/
def openAndFinish (truncate : Bool) (a : Answer) (c : Call) : Except Err Nat × Call :=
  andThen (openStateful w a c) (finishOpen w truncate)

/-- `open_path_guarded`, with the numbers of its requests. -/
def openPath (options : Options) (c : Call) : Except Err Nat × Call :=
  match w.resolve with
  | some e => (.error e, c)
  | none =>
      let first := openStateful w w.firstOpen (c.turn w 1)
      match first.1 with
      | .ok file => finishOpen w options.truncate file first.2
      | .error .notFound =>
          if options.create then
            let made := createGuarded w (first.2.turn w 2)
            match made.1 with
            | .ok file => (.ok file, made.2)
            | .error .alreadyExists =>
                openAndFinish w options.truncate w.secondOpen (made.2.turn w 4)
            | .error e => (.error e, made.2)
          else (.error .notFound, first.2)
      | .error e => (.error e, first.2)

/-- An error behind which nothing has to be closed: NFSv3 has no OPEN, and an uncertain outcome
says that one may be held. -/
def Harmless (e : Option Err) : Prop := e = none ∨ e = some .uncertain ∨ w.version = .nfs3

/-- The server executes the CLOSE of the clean-up. -/
def Closes : Prop :=
  w.close.error = none ∨ w.close.error = some .uncertain ∧ w.close.executed = true

/-- Of an OPEN that took effect: an error behind it is harmless, or it is one that is followed by
the clean-up, and that closes. -/
def Mended (after cleaned : Option Err) : Prop :=
  Harmless w after ∧ (after = none → Harmless w cleaned ∨ Closes w)

/-- The error behind a GUARDED create that is followed by the clean-up. -/
def World.createFailure : Option Err :=
  w.attrError.or (if w.modeUnsupported then w.setMode.error else none)

/-- The same behind an OPEN. -/
def World.openFailure (truncate : Bool) : Option Err := if truncate then w.truncate.error else none

/-- An OPEN that takes effect is mended. -/
def OpenTidy (truncate : Bool) (a : Answer) (c : Call) : Prop :=
  a.error = none → c.files.entry ≠ none → Mended w a.after (w.openFailure truncate)

def CreateTidy (c : Call) : Prop :=
  w.create.error = none → c.files.entry = none → Mended w w.create.after w.createFailure

/-- Of the requests that the call gets to, those that take effect are mended. -/
def Tidy (options : Options) (c : Call) : Prop :=
  w.resolve = none →
    let first := openStateful w w.firstOpen (c.turn w 1)
    let made := createGuarded w (first.2.turn w 2)
    OpenTidy w options.truncate w.firstOpen (c.turn w 1) ∧
      (first.1 = .error .notFound → options.create = true → CreateTidy w (first.2.turn w 2) ∧
        (made.1 = .error .alreadyExists →
          OpenTidy w options.truncate w.secondOpen (made.2.turn w 4)))

/-- Nothing behind an OPEN answers NOENT or EXIST, which the call takes for an answer to the OPEN
itself. -/
def Plain : Prop :=
  w.firstOpen.after ≠ some .notFound ∧ w.create.after.or w.createFailure ≠ some .alreadyExists

/-! ## What each request does -/

/-- The OPENs behind one that took effect. -/
def opens (file : Nat) : List Nat := if w.version = .nfs3 then [] else [file]

/-- What a returned call promises: a mode goes only to files that the call created, an error that
is not uncertain leaves no OPEN held, and a returned file was under the name, is the only one that
is held open, and was empty if truncation was asked for. -/
structure Kept (truncate : Bool) (r : Except Err Nat × Call) : Prop where
  moded : ∀ f ∈ r.2.moded, f ∈ r.2.created
  failed : ∀ e, r.1 = .error e → e = .uncertain ∨ r.2.held = []
  ok : ∀ f, r.1 = .ok f →
    f ∈ r.2.bound ∧ r.2.held = opens w f ∧ (truncate = true → f ∈ r.2.empty)

/-- A call that holds nothing yet. -/
structure Clean (c : Call) : Prop where
  moded : ∀ f ∈ c.moded, f ∈ c.created
  held : c.held = []

variable {w} {c : Call} {a : Answer} {file : Nat} {run : Call → Except Err Nat × Call}
  {r : Except Err Nat × Call} {truncate : Bool}

theorem Clean.turn (h : Clean c) (k : Nat) : Clean (c.turn w k) := ⟨h.moded, h.held⟩

theorem kept_error (h : ∀ f ∈ c.moded, f ∈ c.created) {e : Err} :
    Kept w truncate (.error e, c) ↔ e = .uncertain ∨ c.held = [] := by
  refine ⟨fun hKept => hKept.failed e rfl, fun hHeld => ⟨h, fun e' he => ?_, nofun⟩⟩
  cases he
  exact hHeld

theorem Clean.error (h : Clean c) (e : Err) : Kept w truncate (.error e, c) :=
  (kept_error h.moded).mpr (.inr h.held)

/-- A definite error leaves the call clean. -/
theorem Kept.clean {e : Err} (h : Kept w truncate r) (hError : r.1 = .error e)
    (hCertain : e ≠ .uncertain) : Clean r.2 :=
  ⟨h.moded, (h.failed e hError).resolve_left hCertain⟩

theorem opens_eq_nil : opens w file = [] ↔ w.version = .nfs3 := by
  unfold opens
  split <;> simp_all

/-- A request runs, or fails with its error; an uncertain outcome may have run it. -/
theorem attempt_rule {P : Except Err Nat × Call → Prop} (hRun : a.error = none → P (run c))
    (hNot : ∀ e, a.error = some e → P (.error e, c))
    (hUncertain : a.error = some .uncertain → P (.error .uncertain, (run c).2)) :
    P (attempt a c run) := by
  unfold attempt
  split
  next h => exact hRun h
  next h =>
    split
    · exact hUncertain h
    · exact hNot _ h
  next e _ h => exact hNot e h

/-- A request that does not take effect. -/
theorem attempt_missed (truncate : Bool) (h : Clean c)
    (hModed : ∀ f ∈ (run c).2.moded, f ∈ (run c).2.created)
    (hNot : a.error = none → ∃ e, run c = (.error e, c)) :
    ∃ e c', attempt a c run = (.error e, c') ∧ Kept w truncate (.error e, c') := by
  refine attempt_rule (P := fun r => ∃ e c', r = (.error e, c') ∧ Kept w truncate (.error e, c'))
    (fun hNone => ?_) (fun e _ => ⟨e, c, rfl, h.error e⟩)
    fun _ => ⟨_, _, rfl, (kept_error hModed).mpr (.inl rfl)⟩
  obtain ⟨e, he⟩ := hNot hNone
  exact ⟨e, c, he, h.error e⟩

/-- The OPEN is gone exactly if the CLOSE was executed, or if there was none. -/
theorem closeStateful_held (h : c.held = opens w file) :
    (closeStateful w file c).held = [] ↔ w.version = .nfs3 ∨ Closes w := by
  have hErased : c.held.erase file = [] := by
    rw [h, opens]
    split <;> simp
  have hKept : c.held = [] ↔ w.version = .nfs3 := by rw [h, opens_eq_nil]
  unfold closeStateful attempt Closes
  cases w.close.error with
  | none => simp [hErased]
  | some e =>
    cases e with
    | uncertain => cases w.close.executed <;> simp [hErased, hKept]
    | notFound | alreadyExists | other => simp [hKept]

theorem closeStateful_moded (h : ∀ f ∈ c.moded, f ∈ c.created) :
    ∀ f ∈ (closeStateful w file c).moded, f ∈ (closeStateful w file c).created :=
  attempt_rule (P := fun r => ∀ f ∈ r.2.moded, f ∈ r.2.created) (fun _ => h) (fun _ _ => h)
    fun _ => h

def answer (file : Nat) : Option Err → Except Err Nat
  | none => .ok file
  | some e => .error e

/-- What runs behind an OPEN and ends with this error keeps the OPEN. -/
structure Behind (w : World) (truncate : Bool) (file : Nat) (e : Option Err)
    (r : Except Err Nat × Call) : Prop where
  result : r.1 = answer file e
  moded : ∀ f ∈ r.2.moded, f ∈ r.2.created
  bound : file ∈ r.2.bound
  held : r.2.held = opens w file
  empty : e = none → truncate = true → file ∈ r.2.empty

theorem Clean.acquire (h : Clean c) (file : Nat) :
    Behind w false file none (.ok file, c.acquire w file) := by
  refine ⟨rfl, h.moded, List.mem_cons_self, ?_, nofun⟩
  unfold Call.acquire opens
  dsimp only
  rw [h.held]

variable {e : Option Err}

theorem cleanUp_fst : (cleanUp w file r).1 = r.1 := by
  unfold cleanUp
  split <;> simp_all

/-- The clean-up leaves nothing behind exactly if it closes or the error is harmless. -/
theorem Behind.kept_cleanUp (h : Behind w truncate file e r) :
    Kept w truncate (cleanUp w file r) ↔ Harmless w e ∨ Closes w := by
  obtain ⟨result, c'⟩ := r
  obtain rfl : result = answer file e := h.result
  cases e with
  | none =>
    refine iff_of_true ⟨h.moded, nofun, fun f hf => ?_⟩ (.inl (.inl rfl))
    cases hf
    exact ⟨h.bound, h.held, h.empty rfl⟩
  | some e =>
    refine (kept_error (closeStateful_moded h.moded)).trans ?_
    rw [closeStateful_held h.held]
    simp [Harmless, or_assoc]

theorem Behind.attempt {step : Call → Call} (hHere : Behind w false file none (.ok file, c))
    (hStep : Behind w truncate file none (.ok file, step c)) :
    Behind w truncate file a.error (attempt a c fun c => (.ok file, step c)) := by
  refine attempt_rule (fun h => ?_) (fun e h => ?_) fun h => ?_
  all_goals rw [h]
  · exact hStep
  · exact ⟨rfl, hHere.moded, hHere.bound, hHere.held, nofun⟩
  · exact ⟨rfl, hStep.moded, hStep.bound, hStep.held, nofun⟩

theorem kept_finishOpen (h : Behind w false file none (.ok file, c)) :
    Kept w truncate (finishOpen w truncate file c) ↔
      Harmless w (w.openFailure truncate) ∨ Closes w := by
  unfold finishOpen World.openFailure
  cases truncate with
  | false => exact h.kept_cleanUp
  | true =>
    refine Behind.kept_cleanUp (.attempt ⟨rfl, h.moded, h.bound, h.held, nofun⟩ ?_)
    exact ⟨rfl, h.moded, h.bound, h.held, fun _ _ => List.mem_cons_self⟩

theorem Clean.make (h : Clean c) (mode : Bool) : Clean (c.make mode) := by
  refine ⟨fun f hf => ?_, h.held⟩
  cases mode with
  | false => exact List.mem_cons_of_mem _ (h.moded f hf)
  | true =>
    rcases List.mem_cons.mp hf with rfl | hOld
    · exact List.mem_cons_self
    · exact List.mem_cons_of_mem _ (h.moded f hOld)

/-- What follows the GUARDED create gives its mode to the file that was created. -/
theorem Behind.finishCreate (h : Behind w true file none (.ok file, c))
    (hCreated : file ∈ c.created) :
    Behind w truncate file w.createFailure (finishCreate w file c) := by
  have hEmpty : file ∈ c.empty := h.empty rfl rfl
  unfold OpenOptions.finishCreate World.createFailure
  cases w.attrError with
  | some e => exact ⟨rfl, h.moded, h.bound, h.held, nofun⟩
  | none =>
    cases w.modeUnsupported with
    | false => exact ⟨rfl, h.moded, h.bound, h.held, fun _ _ => hEmpty⟩
    | true =>
      simp only [Option.none_or, if_true]
      refine .attempt ⟨rfl, h.moded, h.bound, h.held, nofun⟩ ?_
      refine ⟨rfl, fun f hf => ?_, h.bound, h.held, fun _ _ => hEmpty⟩
      rcases List.mem_cons.mp hf with rfl | hOld
      · exact hCreated
      · exact h.moded f hOld

/-- An OPEN that took effect, and what follows it. -/
theorem kept_opened {finish : Nat → Call → Except Err Nat × Call} (h : Clean c)
    (hFinish : Kept w truncate (finish file (c.acquire w file)) ↔ Harmless w e ∨ Closes w) :
    Kept w truncate (andThen (opened w a file c) finish) ↔ Mended w a.after e := by
  unfold opened Mended
  cases a.after with
  | none =>
    exact hFinish.trans ⟨fun hEnd => ⟨.inl rfl, fun _ => hEnd⟩, fun hAll => hAll.2 rfl⟩
  | some e' =>
    have hHere := h.acquire (w := w) file
    refine (kept_error hHere.moded).trans ?_
    rw [hHere.held, opens_eq_nil]
    simp [Harmless]

/-- An OPEN takes effect, or is answered with an error. -/
theorem openStateful_cases (a : Answer) (truncate : Bool) (h : Clean c) :
    (∃ file, a.error = none ∧ c.files.entry = some file ∧
      openStateful w a c = opened w a file c) ∨
    (a.error = none → c.files.entry = none) ∧
      ∃ e c', openStateful w a c = (.error e, c') ∧ Kept w truncate (.error e, c') := by
  have hModed : ∀ f ∈ (openEntry w a c).2.moded, f ∈ (openEntry w a c).2.created := by
    unfold openEntry opened
    repeat' split
    all_goals exact h.moded
  by_cases hTook : a.error = none ∧ c.files.entry ≠ none
  · obtain ⟨file, hFile⟩ := Option.ne_none_iff_exists'.mp hTook.2
    exact .inl ⟨file, hTook.1, hFile, by simp [openStateful, attempt, hTook.1, openEntry, hFile]⟩
  · have hNot : a.error = none → c.files.entry = none := by simpa using hTook
    refine .inr ⟨hNot, attempt_missed truncate h hModed fun hNone => ⟨.notFound, ?_⟩⟩
    rw [openEntry, hNot hNone]

/-- A GUARDED create takes effect, or is answered with an error. -/
theorem createGuarded_cases (truncate : Bool) (h : Clean c) :
    (w.create.error = none ∧ c.files.entry = none ∧
      (Kept w truncate (createGuarded w c) ↔ Mended w w.create.after w.createFailure) ∧
      (createGuarded w c).1 = answer c.files.fresh (w.create.after.or w.createFailure)) ∨
    (w.create.error = none → c.files.entry ≠ none) ∧
      ∃ e c', createGuarded w c = (.error e, c') ∧ Kept w truncate (.error e, c') := by
  have hModed : ∀ f ∈ (makeFile w c).2.moded, f ∈ (makeFile w c).2.created := by
    unfold makeFile opened
    repeat' split
    · exact h.moded
    all_goals exact (h.make _).moded
  by_cases hTook : w.create.error = none ∧ c.files.entry = none
  · -- The file is new, and what follows keeps its OPEN.
    have hMade : attempt w.create c (makeFile w) =
        opened w w.create c.files.fresh (c.make (!w.modeUnsupported)) := by
      simp [attempt, hTook.1, makeFile, hTook.2]
    have hNew := (h.make (!w.modeUnsupported)).acquire (w := w) c.files.fresh
    have hBehind : Behind w truncate c.files.fresh w.createFailure
        (finishCreate w c.files.fresh _) :=
      .finishCreate ⟨rfl, hNew.moded, hNew.bound, hNew.held, fun _ _ => List.mem_cons_self⟩
        List.mem_cons_self
    refine .inl ⟨hTook.1, hTook.2, ?_⟩
    rw [createGuarded, hMade]
    refine ⟨kept_opened (h.make _) hBehind.kept_cleanUp, ?_⟩
    unfold opened
    cases w.create.after with
    | some e => rfl
    | none => exact cleanUp_fst.trans hBehind.result
  · have hNot : w.create.error = none → c.files.entry ≠ none := by simpa using hTook
    obtain ⟨e, c', hMissed, hKept⟩ := attempt_missed (w := w) truncate h hModed
      fun hNone => ⟨.alreadyExists, by
        obtain ⟨file, hFile⟩ := Option.ne_none_iff_exists'.mp (hNot hNone)
        rw [makeFile, hFile]⟩
    refine .inr ⟨hNot, e, c', ?_, hKept⟩
    rw [createGuarded, hMissed]
    rfl

/-! ## The property -/

theorem kept_openAndFinish (h : Clean c) :
    Kept w truncate (openAndFinish w truncate a c) ↔ OpenTidy w truncate a c := by
  unfold openAndFinish OpenTidy
  rcases openStateful_cases (w := w) a truncate h with
    ⟨file, hError, hEntry, hOpened⟩ | ⟨hNot, e, c', hMissed, hKept⟩
  · rw [hOpened]
    simpa [hError, hEntry] using kept_opened h (kept_finishOpen (h.acquire file))
  · rw [hMissed]
    exact iff_of_true hKept fun hError hEntry => absurd (hNot hError) hEntry

theorem kept_createGuarded (h : Clean c) :
    Kept w truncate (createGuarded w c) ↔ CreateTidy w c := by
  unfold CreateTidy
  rcases createGuarded_cases (w := w) truncate h with
    ⟨hError, hEntry, hIff, -⟩ | ⟨hNot, e, c', hMissed, hKept⟩
  · simpa [hError, hEntry] using hIff
  · rw [hMissed]
    exact iff_of_true hKept fun hError hEntry => absurd hEntry (hNot hError)

/-- An OPEN that gives way to the create has not taken effect. -/
theorem openStateful_missing (truncate : Bool) (hPlain : Plain w) (h : Clean c)
    (hMissing : (openStateful w w.firstOpen c).1 = .error .notFound) :
    OpenTidy w truncate w.firstOpen c := by
  rcases openStateful_cases (w := w) w.firstOpen truncate h with ⟨file, -, -, hOpened⟩ | ⟨hNot, -⟩
  · rw [hOpened, opened] at hMissing
    split at hMissing
    next e hAfter =>
      cases hMissing
      exact absurd hAfter hPlain.1
    next => cases hMissing
  · exact fun hError hEntry => absurd (hNot hError) hEntry

/-- A create that gives way to the second OPEN has not taken effect. -/
theorem createGuarded_exists (hPlain : Plain w) (h : Clean c)
    (hExists : (createGuarded w c).1 = .error .alreadyExists) : CreateTidy w c := by
  rcases createGuarded_cases (w := w) false h with ⟨-, -, -, hResult⟩ | ⟨hNot, -⟩
  · rw [hResult] at hExists
    cases hFailure : w.create.after.or w.createFailure with
    | none => simp [hFailure, answer] at hExists
    | some e =>
      rw [hFailure] at hExists
      cases hExists
      exact absurd hFailure hPlain.2
  · exact fun hError hEntry => absurd hEntry (hNot hError)

theorem kept_openPath {options : Options} (hKnown : Plain w ∨ Tidy w options c) (h : Clean c) :
    Kept w options.truncate (openPath w options c) ↔ Tidy w options c := by
  unfold openPath
  unfold Tidy at hKnown ⊢
  cases hResolve : w.resolve with
  | some e => exact iff_of_true (h.error e) nofun
  | none =>
    have hOpen : Kept w options.truncate
        (openAndFinish w options.truncate w.firstOpen (c.turn w 1)) ↔ _ :=
      kept_openAndFinish (h.turn 1)
    have hMissing := fun hPlain : Plain w =>
      openStateful_missing options.truncate hPlain (h.turn (w := w) 1)
    simp only [hResolve, forall_const] at hKnown ⊢
    unfold openAndFinish at hOpen
    generalize openStateful w w.firstOpen (c.turn w 1) = first at hOpen hMissing hKnown
    obtain ⟨result, c₁⟩ := first
    cases result with
    | ok file => exact hOpen.trans ⟨fun hTidy => ⟨hTidy, nofun⟩, And.left⟩
    | error e =>
      cases e with
      | alreadyExists | uncertain | other =>
        exact hOpen.trans ⟨fun hTidy => ⟨hTidy, nofun⟩, And.left⟩
      | notFound =>
        -- Nothing is held, so the call goes on as a new one.
        have hTidy := hKnown.elim (fun hPlain => hMissing hPlain rfl) And.left
        have hClean : Clean c₁ := (hOpen.mpr hTidy).clean rfl nofun
        cases hAsked : options.create with
        | false => exact iff_of_true (hClean.error _) ⟨hTidy, fun _ => nofun⟩
        | true =>
          have hMake : Kept w options.truncate (createGuarded w (c₁.turn w 2)) ↔ _ :=
            kept_createGuarded (hClean.turn 2)
          have hExists := fun hPlain : Plain w =>
            createGuarded_exists hPlain (hClean.turn (w := w) 2)
          dsimp only at hKnown ⊢
          generalize createGuarded w (c₁.turn w 2) = made at hMake hExists hKnown
          obtain ⟨result, c₂⟩ := made
          cases result with
          | ok file =>
            exact hMake.trans ⟨fun hMade => ⟨hTidy, fun _ _ => ⟨hMade, nofun⟩⟩,
              fun hAll => (hAll.2 rfl rfl).1⟩
          | error e =>
            cases e with
            | alreadyExists =>
              have hMade := hKnown.elim (fun hPlain => hExists hPlain rfl)
                fun hAll => (hAll.2 rfl hAsked).1
              have hClean₂ : Clean c₂ := (hMake.mpr hMade).clean rfl nofun
              exact (kept_openAndFinish (hClean₂.turn 4)).trans
                ⟨fun hSecond => ⟨hTidy, fun _ _ => ⟨hMade, fun _ => hSecond⟩⟩,
                  fun hAll => (hAll.2 rfl rfl).2 rfl⟩
            | notFound | uncertain | other =>
              exact hMake.trans ⟨fun hMade => ⟨hTidy, fun _ _ => ⟨hMade, nofun⟩⟩,
                fun hAll => (hAll.2 rfl rfl).1⟩

def accepted : Answer := ⟨none, true, none⟩

/-- A file of ten bytes is there, and SETATTR is refused. -/
def refusedTruncate (close : Answer) : World where
  version := .nfs41
  others := fun _ files => files
  resolve := none
  firstOpen := accepted
  create := accepted
  createAttr := none
  modeUnsupported := false
  setMode := accepted
  secondOpen := accepted
  truncate := ⟨some .other, false, none⟩
  close := close

def newCall : Call := ⟨⟨some 0, fun _ => 10, 1⟩, [], [], [], [], []⟩

end NfsRs.Client.OpenOptions
