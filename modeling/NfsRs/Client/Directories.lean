import Mathlib.Data.List.Nodup
import NfsRs.Client.Paths

/-!
# NfsRs — listing a directory page by page

A listing asks for the page behind a cookie and goes on at the cookie of the page's last entry,
until a page says that it is the last one. Nothing makes the cookies of a server grow, so NFSv3
and NFSv4.1 keep the set of positions they have been at (`DirectoryCursor`) and end with an error
when a page leads back to one of them. NFSv4.0 compares each cookie with the one in front of it
and nothing else.

The server is a list of replies. A reply is an error, or a page with the entries that decode, what
is malformed behind them, and the eof flag. NFSv3 and NFSv4.1 refuse a malformed page as a whole;
NFSv4.0 hands out the entries in front and ends with the error.

## Main results

- `list_enumerates` : no position is requested twice, the listing ends at eof or with an error,
  and it yields the entries of the pages in order; in NFSv4.0 exactly when no page leads back.
- `nfs40_revisits` : a page that leads back, and NFSv4.0 asks for a position again.
-/

namespace NfsRs.Client.Directories

open NfsRs.Client.Paths (Protocol)

structure DirEntry (α : Type) where
  cookie : Nat
  name : String
  value : α
  deriving DecidableEq, Repr

structure Page (α : Type) where
  entries : List (DirEntry α)
  /-- What is wrong with the reply behind these entries. -/
  malformed : Option NfsError
  verifier : List UInt8
  eof : Bool

abbrev Reply (α : Type) := Except NfsError (Page α)

/-! ## The cursor of NFSv3 and NFSv4.1 -/

structure DirectoryCursor where
  cookie : Nat
  verifier : List UInt8
  seen : List Nat
  deriving DecidableEq, Repr

namespace DirectoryCursor

def default : DirectoryCursor := { cookie := 0, verifier := List.replicate 8 0, seen := [0] }

/-- Whether the listing goes on, and where. -/
def advance (self : DirectoryCursor) (cookie : Nat) (verifier : List UInt8) (entries : Nat)
    (eof : Bool) : Except NfsError (Bool × DirectoryCursor) :=
  -- a last page may be empty, and then its cookie is the one that was asked for
  if (!eof && entries == 0) || (decide (entries > 0) && self.seen.contains cookie) then
    .error (.xdr "READDIR page made no progress or repeated a cookie")
  else
    .ok (!eof,
      { cookie := cookie, verifier := verifier
        seen := if entries > 0 then cookie :: self.seen else self.seen })

end DirectoryCursor

/-- The cookie of the last entry, or the one that was asked for. -/
def lastCookie (requested : Nat) (entries : List (DirEntry α)) : Nat :=
  (entries.getLast?.map (·.cookie)).getD requested

/-! ## The pages of NFSv4.0 -/

/-- `decode_directory_page`: the entries up to the first one that does not advance the cookie, and
the error behind them. -/
def decodeDirectoryPage (malformed : Option NfsError) :
    (previous : Nat) → List (DirEntry α) → List (DirEntry α) × Option NfsError
  | _, [] => ([], malformed)
  | previous, e :: rest =>
    if e.cookie = previous then ([], some (.xdr "READDIR entry did not advance cookie"))
    else
      let decoded := decodeDirectoryPage malformed e.cookie rest
      (e :: decoded.1, decoded.2)

/-! ## The listing -/

/-- The listings with and without attributes. They differ in what an entry carries, and in
NFSv4.0 in the message for a page without progress. -/
inductive DirOp where
  | readdir | readdirplus
  deriving DecidableEq, Repr

def DirOp.noProgress : DirOp → NfsError
  | .readdir => .xdr "READDIR page made no progress"
  | .readdirplus => .xdr "READDIRPLUS page made no progress"

/-- How a listing ends, as far as the server has answered. -/
inductive Outcome where
  | eof
  | error (e : NfsError)
  | waiting

structure Listing (α : Type) where
  /-- The cookies of the requests. -/
  requests : List Nat
  yielded : List (DirEntry α)
  outcome : Outcome

/-- A page is yielded and the listing goes on. -/
def Listing.after (cookie : Nat) (entries : List (DirEntry α)) (l : Listing α) : Listing α :=
  { l with requests := cookie :: l.requests, yielded := entries ++ l.yielded }

/-- The request for `cookie` was the last one. -/
def Listing.ends (cookie : Nat) (entries : List (DirEntry α)) (outcome : Outcome) : Listing α :=
  { requests := [cookie], yielded := entries, outcome := outcome }

/-- The entries that the public listing has; NFSv3 leaves out the directory and its parent. -/
def shown (p : Protocol) (entries : List (DirEntry α)) : List (DirEntry α) :=
  match p with
  | .nfs3 => entries.filter fun e => e.name != "." && e.name != ".."
  | _ => entries

/-- `paged_dir_stream` of NFSv3 and `directory_stream` of NFSv4.1. -/
def directoryStream (p : Protocol) : DirectoryCursor → List (Reply α) → Listing α
  | cursor, [] => .ends cursor.cookie [] .waiting
  | cursor, .error e :: _ => .ends cursor.cookie [] (.error e)
  | cursor, .ok page :: rest =>
    match page.malformed with
    | some e => .ends cursor.cookie [] (.error e)
    | none =>
      match cursor.advance (lastCookie cursor.cookie page.entries) page.verifier
          page.entries.length page.eof with
      | .error e => .ends cursor.cookie [] (.error e)
      | .ok (true, next) =>
        (directoryStream p next rest).after cursor.cookie (shown p page.entries)
      | .ok (false, _) => .ends cursor.cookie (shown p page.entries) .eof

/-- `readdir` and `readdirplus` of NFSv4.0. -/
def directoryStream40 (op : DirOp) : (cookie : Nat) → List (Reply α) → Listing α
  | cookie, [] => .ends cookie [] .waiting
  | cookie, .error e :: _ => .ends cookie [] (.error e)
  | cookie, .ok page :: rest =>
    let decoded := decodeDirectoryPage page.malformed cookie page.entries
    match decoded.2 with
    -- the entries in front of the error are yielded, unlike in the other versions
    | some e => .ends cookie decoded.1 (.error e)
    | none =>
      let last := lastCookie cookie decoded.1
      if decoded.1.isEmpty && !page.eof && last == cookie then
        .ends cookie [] (.error op.noProgress)
      else if page.eof then .ends cookie decoded.1 .eof
      else (directoryStream40 op last rest).after cookie decoded.1

/-- One listing from its beginning. -/
def list (p : Protocol) (op : DirOp) (replies : List (Reply α)) : Listing α :=
  match p with
  | .nfs40 => directoryStream40 op 0 replies
  | _ => directoryStream p .default replies

/-! ## What a listing should be -/

section spec

variable {α : Type} {p : Protocol} {cookie : Nat} {positions : List Nat}
  {replies rest : List (Reply α)} {l : Listing α} {page : Page α}

/-- The end of a listing that has yielded `before`, by what the server answers next: nothing yet,
an error, or a page that is the last one or is reported as an error. -/
def Ends (p : Protocol) (l : Listing α) (before : List (DirEntry α)) : List (Reply α) → Prop
  | [] => l.outcome = .waiting ∧ l.yielded = before
  | .error e :: _ => l.outcome = .error e ∧ l.yielded = before
  | .ok page :: _ =>
    (l.outcome = .eof ∧ page.eof = true ∧ l.yielded = before ++ shown p page.entries) ∨
      ∃ e part, l.outcome = .error e ∧ part <+: shown p page.entries ∧ l.yielded = before ++ part

/-- From `cookie` on, with the positions so far: some pages that are not the last one are yielded
in order, each request is at the cookie behind the page before it, and every position is new. -/
def EnumeratesFrom (p : Protocol) (positions : List Nat) (cookie : Nat)
    (replies : List (Reply α)) (l : Listing α) : Prop :=
  ∃ (pages : List (Page α)) (tail : List (Reply α)), replies = pages.map Except.ok ++ tail ∧
    (∀ page ∈ pages, page.eof = false ∧ page.entries ≠ []) ∧
    l.requests = cookie :: pages.map (fun page => lastCookie 0 page.entries) ∧
    (pages.map fun page => lastCookie 0 page.entries).Nodup ∧
    (∀ page ∈ pages, lastCookie 0 page.entries ∉ positions) ∧
    Ends p l (pages.flatMap fun page => shown p page.entries) tail

theorem EnumeratesFrom.ends {entries : List (DirEntry α)} {outcome : Outcome}
    (h : Ends p (.ends cookie entries outcome) [] replies) :
    EnumeratesFrom p positions cookie replies (.ends cookie entries outcome) :=
  ⟨[], replies, rfl, by simp, rfl, List.nodup_nil, by simp, h⟩

theorem lastCookie_of_ne_nil {entries : List (DirEntry α)} (h : entries ≠ []) (a b : Nat) :
    lastCookie a entries = lastCookie b entries := by
  obtain ⟨last, hLast⟩ := Option.isSome_iff_exists.mp (List.getLast?_isSome.mpr h)
  simp [lastCookie, hLast]

theorem Ends.after {before : List (DirEntry α)} (h : Ends p l before replies) :
    Ends p (l.after cookie (shown p page.entries)) (shown p page.entries ++ before) replies := by
  match replies, h with
  | [], ⟨hOutcome, hYield⟩ => exact ⟨hOutcome, congrArg _ hYield⟩
  | .error _ :: _, ⟨hOutcome, hYield⟩ => exact ⟨hOutcome, congrArg _ hYield⟩
  | .ok last :: _, .inl ⟨hOutcome, hEof, hYield⟩ =>
    refine .inl ⟨hOutcome, hEof, ?_⟩
    rw [List.append_assoc]
    exact congrArg _ hYield
  | .ok last :: _, .inr ⟨e, part, hOutcome, hPart, hYield⟩ =>
    refine .inr ⟨e, part, hOutcome, hPart, ?_⟩
    rw [List.append_assoc]
    exact congrArg _ hYield

/-- A page that leads to a new position in front of the rest. -/
theorem EnumeratesFrom.after (hEof : page.eof = false) (hSome : page.entries ≠ [])
    (hNew : lastCookie cookie page.entries ∉ positions)
    (h : EnumeratesFrom p (lastCookie cookie page.entries :: positions)
      (lastCookie cookie page.entries) rest l) :
    EnumeratesFrom p positions cookie (.ok page :: rest)
      (l.after cookie (shown p page.entries)) := by
  rw [lastCookie_of_ne_nil hSome cookie 0] at hNew h
  obtain ⟨pages, tail, hReplies, hPages, hRequests, hNodup, hFresh, hEnds⟩ := h
  refine ⟨page :: pages, tail, by rw [hReplies]; rfl, ?_, ?_, ?_, ?_, ?_⟩
  · exact List.forall_mem_cons.mpr ⟨⟨hEof, hSome⟩, hPages⟩
  · exact congrArg (cookie :: ·) hRequests
  · refine List.nodup_cons.mpr ⟨fun hMem => ?_, hNodup⟩
    obtain ⟨other, hOther, hEq⟩ := List.mem_map.mp hMem
    exact hFresh other hOther (hEq ▸ List.mem_cons_self)
  · exact List.forall_mem_cons.mpr
      ⟨hNew, fun other hOther hMem => hFresh other hOther (List.mem_cons_of_mem _ hMem)⟩
  · exact hEnds.after

end spec

/-! ## NFSv3 and NFSv4.1 -/

namespace DirectoryCursor

variable {self next : DirectoryCursor} {cookie entries : Nat} {verifier : List UInt8} {eof : Bool}

/-- The cursor goes on at a position it has not been at. -/
theorem of_advance (h : self.advance cookie verifier entries eof = .ok (true, next)) :
    eof = false ∧ 0 < entries ∧ cookie ∉ self.seen ∧ next.cookie = cookie ∧
      next.seen = cookie :: self.seen := by
  unfold advance at h
  split at h
  · cases h
  rename_i hPasses
  simp only [Except.ok.injEq, Prod.mk.injEq] at h
  obtain ⟨hEof, rfl⟩ := h
  have hEof : eof = false := by simpa using hEof
  subst hEof
  simp only [Bool.not_false, Bool.true_and, Bool.or_eq_true, beq_iff_eq, Bool.and_eq_true,
    decide_eq_true_eq, List.contains_iff_mem, not_or, not_and] at hPasses
  have hPos : 0 < entries := Nat.pos_of_ne_zero hPasses.1
  exact ⟨rfl, hPos, hPasses.2 hPos, rfl, if_pos hPos⟩

theorem eof_of_advance (h : self.advance cookie verifier entries eof = .ok (false, next)) :
    eof = true := by
  unfold advance at h
  split at h
  · cases h
  · simpa using congrArg Prod.fst (Except.ok.inj h)

end DirectoryCursor

variable {α : Type}

/-- By induction on the replies; the cursor carries the cookies seen so far. -/
theorem directoryStream_enumerates (p : Protocol) :
    ∀ (replies : List (Reply α)) (cursor : DirectoryCursor),
      EnumeratesFrom p cursor.seen cursor.cookie replies (directoryStream p cursor replies) := by
  intro replies
  induction replies with
  | nil => exact fun cursor => .ends ⟨rfl, rfl⟩
  | cons reply rest ih =>
    intro cursor
    cases reply with
    | error e => exact .ends ⟨rfl, rfl⟩
    | ok page =>
      -- a page that is refused yields nothing
      have hRefused : ∀ e, EnumeratesFrom p cursor.seen cursor.cookie (.ok page :: rest)
          (.ends cursor.cookie [] (.error e)) := fun e =>
        .ends (.inr ⟨e, [], rfl, List.nil_prefix, rfl⟩)
      unfold directoryStream
      split
      · exact hRefused _
      split
      · exact hRefused _
      · rename_i next hNext
        obtain ⟨hEof, hPos, hNew, hCookie, hSeen⟩ := DirectoryCursor.of_advance hNext
        have hRest := ih next
        rw [hCookie, hSeen] at hRest
        exact hRest.after hEof (List.ne_nil_of_length_pos hPos) hNew
      · rename_i next hNext
        exact .ends (.inl ⟨rfl, DirectoryCursor.eof_of_advance hNext, rfl⟩)

/-! ## NFSv4.0 -/

theorem decodeDirectoryPage_prefix (malformed : Option NfsError) :
    ∀ (entries : List (DirEntry α)) (previous : Nat),
      (decodeDirectoryPage malformed previous entries).1 <+: entries := by
  intro entries
  induction entries with
  | nil => exact fun _ => List.prefix_refl _
  | cons e rest ih =>
    intro previous
    unfold decodeDirectoryPage
    split
    · exact List.nil_prefix
    · exact List.cons_prefix_cons.mpr ⟨rfl, ih e.cookie⟩

theorem decodeDirectoryPage_fine {malformed : Option NfsError} :
    ∀ {entries : List (DirEntry α)} {previous : Nat},
      (decodeDirectoryPage malformed previous entries).2 = none →
      (decodeDirectoryPage malformed previous entries).1 = entries := by
  intro entries
  induction entries with
  | nil => exact fun _ => rfl
  | cons e rest ih =>
    intro previous h
    unfold decodeDirectoryPage at h ⊢
    split at h
    · cases h
    · rename_i hAdvances
      rw [if_neg hAdvances]
      exact congrArg (e :: ·) (ih h)

/-- No page that decodes and is not the last one ends at one of the positions so far. -/
def FreshPositions : (positions : List Nat) → (cookie : Nat) → List (Reply α) → Prop
  | positions, cookie, .ok page :: rest =>
    page.eof = false → (decodeDirectoryPage page.malformed cookie page.entries).2 = none →
      page.entries ≠ [] →
        lastCookie cookie page.entries ∉ positions ∧
          FreshPositions (lastCookie cookie page.entries :: positions)
            (lastCookie cookie page.entries) rest
  | _, _, _ => True

/-- NFSv4.0 keeps no cookies, so the positions have to be fresh. -/
theorem directoryStream40_enumerates (op : DirOp) :
    ∀ (replies : List (Reply α)) (positions : List Nat) (cookie : Nat),
      FreshPositions positions cookie replies →
        EnumeratesFrom .nfs40 positions cookie replies (directoryStream40 op cookie replies) := by
  intro replies
  induction replies with
  | nil => exact fun _ _ _ => .ends ⟨rfl, rfl⟩
  | cons reply rest ih =>
    intro positions cookie hFresh
    cases reply with
    | error e => exact .ends ⟨rfl, rfl⟩
    | ok page =>
      unfold directoryStream40
      dsimp only
      split
      · exact .ends (.inr ⟨_, _, rfl, decodeDirectoryPage_prefix _ _ _, rfl⟩)
      rename_i hFine
      rw [decodeDirectoryPage_fine hFine]
      split
      · exact .ends (.inr ⟨_, [], rfl, List.nil_prefix, rfl⟩)
      rename_i hProgress
      split
      · rename_i hEof
        exact .ends (.inl ⟨rfl, hEof, rfl⟩)
      · rename_i hEof
        have hEof : page.eof = false := by simpa using hEof
        -- an empty page that is not the last one was refused
        have hSome : page.entries ≠ [] := by
          intro hNil
          rw [hNil, hEof] at hProgress
          exact hProgress (by simp [lastCookie])
        obtain ⟨hNew, hRest⟩ := hFresh hEof hFine hSome
        exact (ih _ _ hRest).after hEof hSome hNew

/-- The first request is for the cookie of the listing. -/
theorem requests_directoryStream40 (op : DirOp) (cookie : Nat) (replies : List (Reply α)) :
    ∃ later, (directoryStream40 op cookie replies).requests = cookie :: later := by
  cases replies with
  | nil => exact ⟨[], rfl⟩
  | cons reply rest =>
    cases reply with
    | error e => exact ⟨[], rfl⟩
    | ok page =>
      unfold directoryStream40
      dsimp only
      split
      · exact ⟨[], rfl⟩
      split
      · exact ⟨[], rfl⟩
      split
      · exact ⟨[], rfl⟩
      · exact ⟨_, rfl⟩

/-- A page that leads back is a position requested twice. -/
theorem freshPositions_of_nodup (op : DirOp) :
    ∀ (replies : List (Reply α)) (positions : List Nat) (cookie : Nat) (later : List Nat),
      (directoryStream40 op cookie replies).requests = cookie :: later →
      (positions ++ later).Nodup → FreshPositions positions cookie replies := by
  intro replies
  induction replies with
  | nil => exact fun _ _ _ _ _ => trivial
  | cons reply rest ih =>
    intro positions cookie later hRequests hNodup
    cases reply with
    | error e => trivial
    | ok page =>
      intro hEof hFine hSome
      -- the page decodes and has an entry, so the listing goes on behind it
      have hGoesOn : directoryStream40 op cookie (.ok page :: rest) =
          (directoryStream40 op (lastCookie cookie page.entries) rest).after cookie
            page.entries := by
        simp [directoryStream40, hFine, decodeDirectoryPage_fine hFine, hEof, hSome]
      obtain ⟨further, hFurther⟩ :=
        requests_directoryStream40 op (lastCookie cookie page.entries) rest
      rw [hGoesOn, Listing.after, hFurther] at hRequests
      obtain rfl := (List.cons.inj hRequests).2
      have hMoved := List.nodup_middle.mp hNodup
      refine ⟨fun hMem => ?_, ih _ _ further hFurther hMoved⟩
      exact (List.nodup_cons.mp hMoved).1 (List.mem_append_left _ hMem)

/-! ## Whole listings -/

/-- **A listing.** No position is requested twice. Some pages that are not the last one are
yielded in order, each request is at the cookie behind the page before it, and the listing ends at
eof or with an error; it waits only for a server that has not answered. -/
structure Enumerates (p : Protocol) (replies : List (Reply α)) (l : Listing α) : Prop where
  nodup : l.requests.Nodup
  pages : ∃ (pages : List (Page α)) (tail : List (Reply α)),
    replies = pages.map Except.ok ++ tail ∧
    (∀ page ∈ pages, page.eof = false ∧ page.entries ≠ []) ∧
    l.requests = 0 :: pages.map (fun page => lastCookie 0 page.entries) ∧
    Ends p l (pages.flatMap fun page => shown p page.entries) tail

theorem EnumeratesFrom.enumerates {p : Protocol} {replies : List (Reply α)} {l : Listing α}
    (h : EnumeratesFrom p [0] 0 replies l) : Enumerates p replies l := by
  obtain ⟨pages, tail, hReplies, hPages, hRequests, hNodup, hFresh, hEnds⟩ := h
  refine ⟨?_, pages, tail, hReplies, hPages, hRequests, hEnds⟩
  rw [hRequests]
  refine List.nodup_cons.mpr ⟨fun hMem => ?_, hNodup⟩
  obtain ⟨page, hPage, hEq⟩ := List.mem_map.mp hMem
  exact hFresh page hPage (by rw [hEq]; exact List.mem_singleton_self 0)

/-- **Listings make progress**, in NFSv4.0 exactly when no page leads back to a position. -/
theorem list_enumerates {α : Type} (p : Protocol) (op : DirOp) (replies : List (Reply α)) :
    Enumerates p replies (list p op replies) ↔ (p = .nfs40 → FreshPositions [0] 0 replies) := by
  cases p with
  | nfs3 => exact ⟨fun _ => nofun,
      fun _ => (directoryStream_enumerates .nfs3 replies .default).enumerates⟩
  | nfs41 => exact ⟨fun _ => nofun,
      fun _ => (directoryStream_enumerates .nfs41 replies .default).enumerates⟩
  | nfs40 =>
    refine ⟨fun h _ => ?_, fun h =>
      (directoryStream40_enumerates op replies [0] 0 (h rfl)).enumerates⟩
    obtain ⟨later, hLater⟩ := requests_directoryStream40 op 0 replies
    have hNodup : (directoryStream40 op 0 replies).requests.Nodup := h.nodup
    rw [hLater] at hNodup
    exact freshPositions_of_nodup op replies [0] 0 later hLater hNodup

/-- Two entries a page, then the last page. -/
def threeEntries : List (Reply Unit) :=
  [.ok { entries := [⟨1, "a", ()⟩, ⟨2, "b", ()⟩], malformed := none, verifier := [], eof := false },
    .ok { entries := [⟨3, "c", ()⟩], malformed := none, verifier := [], eof := true }]

theorem list_enumerates_threeEntries :
    FreshPositions [0] 0 threeEntries ∧
      Enumerates .nfs40 threeEntries (list .nfs40 .readdirplus threeEntries) := by
  have hFresh : FreshPositions [0] 0 threeEntries :=
    fun _ _ _ => ⟨by decide, fun hEof => nomatch hEof⟩
  exact ⟨hFresh, (list_enumerates .nfs40 .readdirplus threeEntries).mpr fun _ => hFresh⟩

/-- The second page goes one entry on and back again. -/
def backAgain : List (Reply Unit) :=
  [.ok { entries := [⟨5, "a", ()⟩], malformed := none, verifier := [], eof := false },
    .ok { entries := [⟨6, "b", ()⟩, ⟨5, "a", ()⟩], malformed := none, verifier := []
          eof := false }]

/-- **A position twice.** NFSv4.0 asks for the page behind cookie 5 again; NFSv3 and NFSv4.1
report the same page as an error. -/
theorem nfs40_revisits :
    (∀ op, (list .nfs40 op backAgain).requests = [0, 5, 5] ∧
      (list .nfs40 op backAgain).outcome = .waiting) ∧
    ∀ p op, p ≠ .nfs40 → (list p op backAgain).outcome =
      .error (.xdr "READDIR page made no progress or repeated a cookie") := by
  refine ⟨fun op => ⟨rfl, rfl⟩, fun p op hp => ?_⟩
  cases p with
  | nfs3 => rfl
  | nfs41 => rfl
  | nfs40 => exact absurd rfl hp

end NfsRs.Client.Directories
