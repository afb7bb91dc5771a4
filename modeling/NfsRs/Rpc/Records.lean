import Mathlib.Data.Nat.Bitwise
import NfsRs.Nfs41.LayoutWire

/-!
# NfsRs — RPC records on the stream

A record travels as fragments, each behind a mark with its length and whether it is the last one,
and TCP delivers the bytes of the marks and fragments in reads of its own choice. The reader task
puts a record together, finds the waiter of its XID and hands the record over. Any error ends the
connection: every waiter is failed with it.

The other direction is the frame of a request, which `call_with_data_inner` writes once and then
changes in place: each attempt puts its XID over that of the attempt before.

## Main results

- `readExact_bytes` : how the bytes were cut into TCP reads does not matter.
- `readOneResponse_encode`, `readOneResponse_ok` : a record is read exactly if the stream begins
  with its fragments and it fits.
- `record_framing` : so records reach their waiters as they were sent, and the frames of the
  attempts differ in the XID only.
-/

namespace NfsRs.Rpc.Records

open NfsRs.Nfs41 (beU32 getU32 beU32_getU32 getU32_lt beNat_beU32)

/-! ## The stream -/

/-- An error of the reader: of the socket, or of a record it refuses. -/
inductive ReaderError where
  | io (kind : ErrorKind) (message : String)
  | rpc (message : String)
  deriving DecidableEq, Repr

/-- The bytes the `BufReader` holds, the TCP reads to come and the error behind them. -/
structure Source where
  buffered : List UInt8
  reads : List (List UInt8)
  ended : ReaderError
  deriving DecidableEq, Repr

/-- All bytes that are still to come. -/
def Source.bytes (src : Source) : List UInt8 := src.buffered ++ src.reads.flatten

/-- `read_exact`: the next `n` bytes, with as many TCP reads as it takes. -/
def readExact (n : Nat) (ended : ReaderError) :
    (buffered : List UInt8) → (reads : List (List UInt8)) →
      Except ReaderError (List UInt8 × Source)
  | buffered, [] =>
    if n ≤ buffered.length then .ok (buffered.take n, ⟨buffered.drop n, [], ended⟩)
    else .error ended
  | buffered, read :: reads =>
    if n ≤ buffered.length then .ok (buffered.take n, ⟨buffered.drop n, read :: reads, ended⟩)
    else readExact n ended (buffered ++ read) reads

def Source.readExact (src : Source) (n : Nat) : Except ReaderError (List UInt8 × Source) :=
  Records.readExact n src.ended src.buffered src.reads

/-! ## Reading a record -/

def maxRpcResponse : Nat := 4 * 1024 * 1024 + 4096

/-- A record mark: whether the fragment is the last one, and its size. -/
def readMark (src : Source) : Except ReaderError ((Bool × Nat) × Source) := do
  let (hdr, src) ← src.readExact 4
  let raw := beNat hdr
  return ((2 ^ 31 ≤ raw, raw % 2 ^ 31), src)

/-- The loop over the fragments behind the first one. Each turn takes a mark off the stream, so
that `fuel` is never used up before the bytes are. -/
def moreFragments : (fuel : Nat) → (buf : List UInt8) → Source →
    Except ReaderError (List UInt8 × Source)
  | 0, _, src => .error src.ended
  | fuel + 1, buf, src => do
    let ((last, sz), src) ← readMark src
    -- the sum is checked before the fragment is read, so that the buffer never outgrows it
    let total := buf.length + sz
    if total > maxRpcResponse then
      .error (.rpc s!"RPC accumulated response size {total} exceeds maximum {maxRpcResponse}")
    else
      let (data, src) ← src.readExact sz
      if last then return (buf ++ data, src)
      else moreFragments fuel (buf ++ data) src

/-- The record that begins with the fragment `first`. -/
def restOfRecord (last : Bool) (first : List UInt8) (src : Source) :
    Except ReaderError (List UInt8 × Source) :=
  if last then .ok (first, src) else moreFragments src.bytes.length first src

/-- The XID and the whole record. -/
def readOneResponse (src : Source) : Except ReaderError (Nat × List UInt8 × Source) := do
  let ((last, sz), src) ← readMark src
  if sz > maxRpcResponse then
    .error (.rpc s!"RPC fragment size {sz} exceeds maximum {maxRpcResponse}")
  else
    let (first, src) ← src.readExact sz
    let (buf, src) ← restOfRecord last first src
    -- a first fragment may end within the XID; only the whole record has to hold it
    if buf.length < 4 then
      .error (.rpc s!"RPC record size {buf.length} is shorter than XID")
    else return (beNat (buf.take 4), buf, src)

/-! ## The reader task -/

/-- The waiters by XID. -/
abbrev Pending : Type := List (Nat × Nat)

/-- What becomes of a record. -/
inductive Handed where
  | reply (waiter : Nat) (record : List UInt8)
  | backchannelCall (xid : Nat) (record : List UInt8)
  | unmatched (xid : Nat)
  deriving DecidableEq, Repr

/-- The message type; a record that is too short for one counts as a reply. -/
def msgType (record : List UInt8) : Nat :=
  if record.length ≥ 8 then beNat ((record.drop 4).take 4) else 1

/-- What is done with a record, and the map behind it. -/
def dispatch (pending : Pending) (xid : Nat) (record : List UInt8) : Handed × Pending :=
  -- a call of the server has an XID of its own numbering, which may be that of a waiter
  if msgType record = 0 then (.backchannelCall xid record, pending)
  else match pending.lookup xid with
    | some waiter => (.reply waiter record, pending.filter fun entry => entry.1 ≠ xid)
    | none => (.unmatched xid, pending)

def ReaderError.reply : ReaderError → ReplyEvent
  | .io kind message => .readerIo kind message
  | .rpc message => .readerRpc message

/-- A turn of the reader loop: a record is dispatched, or every waiter is failed. -/
inductive Turn where
  | handed (what : Handed) (left : Pending)
  | ended (failed : List (Nat × ReplyEvent))
  deriving DecidableEq, Repr

/-- `reader_loop`. Callers change the map at any time, so each turn is given the map it finds. -/
def readerLoop : List Pending → Source → List Turn
  | [], _ => []
  | pending :: rest, src =>
    match readOneResponse src with
    | .error e => [.ended (pending.map fun entry => (entry.2, e.reply))]
    | .ok (xid, record, src) =>
      .handed (dispatch pending xid record).1 (dispatch pending xid record).2 :: readerLoop rest src

/-! ## Records as they are sent -/

/-- The mark of a fragment. -/
def mark (fragment : List UInt8) (last : Bool) : List UInt8 :=
  beU32 (fragment.length + if last then 2 ^ 31 else 0)

/-- A record cut into fragments, of which the last one says so. -/
def encodeRecord : List (List UInt8) → List UInt8
  | [] => []
  | [fragment] => mark fragment true ++ fragment
  | fragment :: rest => mark fragment false ++ (fragment ++ encodeRecord rest)

/-- The fragments are those of a record that the client accepts. -/
structure Fits (fragments : List (List UInt8)) : Prop where
  ne_nil : fragments ≠ []
  hasXid : 4 ≤ fragments.flatten.length
  small : fragments.flatten.length ≤ maxRpcResponse

/-! ## TCP reads -/

/-- **TCP reads.** The next bytes of the stream are read however they are cut. -/
theorem readExact_bytes (n : Nat) (ended : ReaderError) (reads : List (List UInt8)) :
    ∀ buffered : List UInt8,
      if n ≤ (buffered ++ reads.flatten).length then
        ∃ src, readExact n ended buffered reads =
            .ok ((buffered ++ reads.flatten).take n, src) ∧
          src.bytes = (buffered ++ reads.flatten).drop n ∧ src.ended = ended
      else readExact n ended buffered reads = .error ended := by
  induction reads with
  | nil =>
    intro buffered
    rw [List.flatten_nil, List.append_nil, readExact]
    split
    · exact ⟨_, rfl, by simp [Source.bytes], rfl⟩
    · rfl
  | cons read reads ih =>
    intro buffered
    rw [readExact]
    by_cases hHeld : n ≤ buffered.length
    · have hTotal : n ≤ (buffered ++ (read :: reads).flatten).length := by
        rw [List.length_append]
        omega
      rw [if_pos hHeld, if_pos hTotal, List.take_append_of_le_length hHeld,
        List.drop_append_of_le_length hHeld]
      exact ⟨_, rfl, rfl, rfl⟩
    · rw [if_neg hHeld, List.flatten_cons, ← List.append_assoc]
      exact ih (buffered ++ read)

theorem Source.readExact_of_bytes {src : Source} {front rest : List UInt8}
    (h : src.bytes = front ++ rest) :
    ∃ src', src.readExact front.length = .ok (front, src') ∧ src'.bytes = rest ∧
      src'.ended = src.ended := by
  have hRead := readExact_bytes front.length src.ended src.reads src.buffered
  have hBytes : src.buffered ++ src.reads.flatten = front ++ rest := h
  rw [hBytes, if_pos (by simp), List.take_left, List.drop_left] at hRead
  exact hRead

theorem Source.readExact_ok {src src' : Source} {n : Nat} {front : List UInt8}
    (h : src.readExact n = .ok (front, src')) :
    front.length = n ∧ src.bytes = front ++ src'.bytes ∧ src'.ended = src.ended := by
  have hRead := readExact_bytes n src.ended src.reads src.buffered
  split at hRead
  · next hLe =>
    obtain ⟨found, hFound, hBytes, hEnded⟩ := hRead
    obtain ⟨hFront, rfl⟩ := Prod.mk.inj (Except.ok.inj (hFound.symm.trans h))
    have hSplit : src.bytes = front ++ found.bytes := by
      rw [hBytes, ← hFront, List.take_append_drop]
      rfl
    refine ⟨?_, hSplit, hEnded⟩
    rw [← hFront, List.length_take]
    omega
  · cases hRead.symm.trans h

/-! ## Fragments -/

section fragments

variable {src src' : Source} {rest : List UInt8}

variable {last : Bool} {fragments : List (List UInt8)}

/-- A mark at the front of the stream is read. -/
theorem readMark_of_bytes {fragment : List UInt8} (hSmall : fragment.length < 2 ^ 31)
    (h : src.bytes = mark fragment last ++ rest) :
    ∃ src', readMark src = .ok ((last, fragment.length), src') ∧ src'.bytes = rest ∧
      src'.ended = src.ended := by
  obtain ⟨src', hRead, hBytes, hEnded⟩ := Source.readExact_of_bytes h
  refine ⟨src', ?_, hBytes, hEnded⟩
  have hValue : beNat (mark fragment last) = fragment.length + if last then 2 ^ 31 else 0 :=
    beNat_beU32 (by cases last <;> simp <;> omega)
  rw [readMark, show src.readExact 4 = _ from hRead]
  show Except.ok (((decide (2 ^ 31 ≤ beNat (mark fragment last)),
    beNat (mark fragment last) % 2 ^ 31), src') : (Bool × Nat) × Source) = _
  rw [hValue]
  cases last with
  | false =>
    have hNot : ¬ 2 ^ 31 ≤ fragment.length := Nat.not_le.mpr hSmall
    simp only [Bool.false_eq_true, if_false, Nat.add_zero, decide_eq_false hNot,
      Nat.mod_eq_of_lt hSmall]
  | true =>
    have hLast : 2 ^ 31 ≤ fragment.length + 2 ^ 31 := Nat.le_add_left _ _
    simp only [if_true, decide_eq_true hLast, Nat.add_mod_right, Nat.mod_eq_of_lt hSmall]

/-- A mark that was read stands at the front of the stream. -/
theorem readMark_ok {sz : Nat} (h : readMark src = .ok ((last, sz), src')) :
    sz < 2 ^ 31 ∧ src.bytes = beU32 (sz + if last then 2 ^ 31 else 0) ++ src'.bytes ∧
      src'.ended = src.ended := by
  obtain ⟨⟨hdr, found⟩, hRead, hMark⟩ := Lib.bind_eq_ok_iff.mp h
  obtain ⟨hLength, hBytes, hEnded⟩ := Source.readExact_ok hRead
  obtain ⟨hPair, rfl⟩ := Prod.mk.inj (Except.ok.inj hMark)
  obtain ⟨rfl, rfl⟩ := Prod.mk.inj hPair
  have hTake : hdr.take 4 = hdr := List.take_of_length_le (Nat.le_of_eq hLength)
  have hDrop : hdr.drop 4 = [] := List.drop_of_length_le (Nat.le_of_eq hLength)
  have hLt : beNat hdr < 2 ^ 32 := by
    have := getU32_lt hdr
    rwa [getU32, hTake] at this
  have hHdr : beU32 (beNat hdr) = hdr := by
    have := beU32_getU32 (Nat.not_lt.mpr (Nat.le_of_eq hLength.symm))
    rwa [getU32, hTake, hDrop, List.append_nil] at this
  have hValue : beNat hdr % 2 ^ 31 + (if decide (2 ^ 31 ≤ beNat hdr) = true then 2 ^ 31 else 0) =
      beNat hdr := by
    by_cases hLast : 2 ^ 31 ≤ beNat hdr
    · rw [if_pos (decide_eq_true hLast)]
      omega
    · rw [if_neg (by simpa using hLast)]
      omega
  exact ⟨Nat.mod_lt _ (by decide), by rw [hValue, hHdr, hBytes], hEnded⟩

theorem length_le_encodeRecord (fragments : List (List UInt8)) :
    fragments.length ≤ (encodeRecord fragments).length := by
  induction fragments with
  | nil => exact Nat.zero_le _
  | cons fragment fragments ih =>
    cases fragments with
    | nil => simp [encodeRecord, mark, beU32]
    | cons next fragments =>
      simp only [encodeRecord, List.length_append, List.length_cons, mark, beU32] at ih ⊢
      omega

theorem encodeRecord_cons (h : fragments ≠ []) (fragment : List UInt8) :
    encodeRecord (fragment :: fragments) =
      mark fragment false ++ (fragment ++ encodeRecord fragments) := by
  cases fragments with
  | nil => exact absurd rfl h
  | cons next fragments => rfl

theorem maxRpcResponse_lt : maxRpcResponse < 2 ^ 31 := by decide

/-- The fragments behind the first one are put behind what there is. -/
theorem moreFragments_encode : ∀ {fuel : Nat} {buf : List UInt8}
    {src : Source}, fragments ≠ [] → fragments.length ≤ fuel →
      buf.length + fragments.flatten.length ≤ maxRpcResponse →
      src.bytes = encodeRecord fragments ++ rest →
      ∃ src', moreFragments fuel buf src = .ok (buf ++ fragments.flatten, src') ∧
        src'.bytes = rest ∧ src'.ended = src.ended := by
  have hMax := maxRpcResponse_lt
  induction fragments with
  | nil =>
    intro fuel buf src hNe
    exact absurd rfl hNe
  | cons fragment fragments ih =>
    intro fuel buf src _ hFuel hFits hBytes
    obtain ⟨fuel, rfl⟩ : ∃ n, fuel = n + 1 := ⟨fuel - 1, by simp at hFuel; omega⟩
    rw [List.flatten_cons, List.length_append] at hFits
    have hTotal : ¬ buf.length + fragment.length > maxRpcResponse := by omega
    -- the last fragment ends the loop, and any other one leaves the rest to the induction
    cases hRest : fragments with
    | nil =>
      have hStream : src.bytes = mark fragment true ++ (fragment ++ rest) := by
        rw [hBytes, hRest, encodeRecord, List.append_assoc]
      obtain ⟨src₁, hMark, hBytes₁, hEnded₁⟩ := readMark_of_bytes (by omega) hStream
      obtain ⟨src₂, hData, hBytes₂, hEnded₂⟩ := Source.readExact_of_bytes hBytes₁
      refine ⟨src₂, ?_, hBytes₂, hEnded₂.trans hEnded₁⟩
      rw [moreFragments, hMark]
      show (if _ then _ else _) = _
      rw [if_neg hTotal, hData, List.flatten_cons, List.flatten_nil, List.append_nil]
      rfl
    | cons next more =>
      have hNe : fragments ≠ [] := by simp [hRest]
      have hStream : src.bytes =
          mark fragment false ++ (fragment ++ (encodeRecord fragments ++ rest)) := by
        rw [hBytes, encodeRecord_cons hNe, List.append_assoc, List.append_assoc]
      obtain ⟨src₁, hMark, hBytes₁, hEnded₁⟩ := readMark_of_bytes (by omega) hStream
      obtain ⟨src₂, hData, hBytes₂, hEnded₂⟩ := Source.readExact_of_bytes hBytes₁
      have hFits' : (buf ++ fragment).length + fragments.flatten.length ≤ maxRpcResponse := by
        rw [List.length_append]
        omega
      obtain ⟨src₃, hMore, hBytes₃, hEnded₃⟩ :=
        ih hNe (Nat.le_of_succ_le_succ hFuel) hFits' hBytes₂
      refine ⟨src₃, ?_, hBytes₃, hEnded₃.trans (hEnded₂.trans hEnded₁)⟩
      rw [← hRest, moreFragments, hMark]
      show (if _ then _ else _) = _
      rw [if_neg hTotal, hData, List.flatten_cons, ← List.append_assoc]
      exact hMore

/-- A mark that was read, and the fragment behind it. -/
theorem fragment_ok {src src₁ src₂ : Source} {sz : Nat} {data : List UInt8}
    (hMark : readMark src = .ok ((last, sz), src₁)) (hData : src₁.readExact sz = .ok (data, src₂)) :
    data.length = sz ∧ src.bytes = mark data last ++ (data ++ src₂.bytes) ∧
      src₂.ended = src.ended := by
  obtain ⟨-, hBytes₁, hEnded₁⟩ := readMark_ok hMark
  obtain ⟨hLength, hBytes₂, hEnded₂⟩ := Source.readExact_ok hData
  refine ⟨hLength, ?_, hEnded₂.trans hEnded₁⟩
  rw [hBytes₁, hBytes₂, mark, hLength]

/-- What was read is a record in fragments, and no more than it was consumed. -/
theorem moreFragments_ok {fuel : Nat} : ∀ {buf record : List UInt8} {src src' : Source},
    moreFragments fuel buf src = .ok (record, src') →
      ∃ fragments, fragments ≠ [] ∧ record = buf ++ fragments.flatten ∧
        record.length ≤ maxRpcResponse ∧ src.bytes = encodeRecord fragments ++ src'.bytes ∧
        src'.ended = src.ended := by
  induction fuel with
  | zero =>
    intro buf record src src' h
    cases h
  | succ fuel ih =>
    intro buf record src src' h
    rw [moreFragments] at h
    -- a mark, the check of the size, and the data of one fragment
    obtain ⟨⟨⟨last, sz⟩, src₁⟩, hMark, hChecked⟩ := Lib.bind_eq_ok_iff.mp h
    dsimp only at hChecked
    split at hChecked
    · cases hChecked
    next hTotal =>
    obtain ⟨⟨data, src₂⟩, hData, hNext⟩ := Lib.bind_eq_ok_iff.mp hChecked
    obtain ⟨hLength, hMarked, hEnded⟩ := fragment_ok hMark hData
    cases last with
    | true =>
      obtain ⟨rfl, rfl⟩ := Prod.mk.inj (Except.ok.inj hNext)
      refine ⟨[data], by simp, by simp, ?_, ?_, hEnded⟩
      · show (buf ++ data).length ≤ maxRpcResponse
        rw [List.length_append]
        omega
      · rw [hMarked, encodeRecord, List.append_assoc]
    | false =>
      obtain ⟨fragments, hNe, hRecord, hSmall, hBytes₃, hEnded₃⟩ := ih hNext
      refine ⟨data :: fragments, by simp, ?_, hSmall, ?_, hEnded₃.trans hEnded⟩
      · rw [hRecord, List.flatten_cons, List.append_assoc]
      · rw [hMarked, hBytes₃, encodeRecord_cons hNe]
        simp only [List.append_assoc]

/-- **Records.** A record that fits is read as it was cut. -/
theorem readOneResponse_encode (hFits : Fits fragments)
    (h : src.bytes = encodeRecord fragments ++ rest) :
    ∃ src', readOneResponse src =
        .ok (beNat (fragments.flatten.take 4), fragments.flatten, src') ∧
      src'.bytes = rest ∧ src'.ended = src.ended := by
  have hMax := maxRpcResponse_lt
  have hSmall := hFits.small
  have hXid : ¬ fragments.flatten.length < 4 := Nat.not_lt.mpr hFits.hasXid
  -- the first fragment is read on its own, and the loop is entered only if there are more
  cases hCut : fragments with
  | nil => exact absurd hCut hFits.ne_nil
  | cons fragment more =>
    rw [hCut, List.flatten_cons, List.length_append] at hSmall
    have hFirst : ¬ fragment.length > maxRpcResponse := by omega
    rw [← hCut]
    cases hMore : more with
    | nil =>
      have hWhole : fragments.flatten = fragment := by simp [hCut, hMore]
      have hStream : src.bytes = mark fragment true ++ (fragment ++ rest) := by
        rw [h, hCut, hMore, encodeRecord, List.append_assoc]
      obtain ⟨src₁, hMark, hBytes₁, hEnded₁⟩ := readMark_of_bytes (by omega) hStream
      obtain ⟨src₂, hData, hBytes₂, hEnded₂⟩ := Source.readExact_of_bytes hBytes₁
      refine ⟨src₂, ?_, hBytes₂, hEnded₂.trans hEnded₁⟩
      rw [hWhole] at hXid ⊢
      rw [readOneResponse, hMark]
      show (if _ then _ else _) = _
      rw [if_neg hFirst, hData]
      show (if _ then _ else _) = _
      rw [if_neg hXid]
      rfl
    | cons next fragments' =>
      have hNe : more ≠ [] := by simp [hMore]
      have hStream : src.bytes =
          mark fragment false ++ (fragment ++ (encodeRecord more ++ rest)) := by
        rw [h, hCut, encodeRecord_cons hNe, List.append_assoc, List.append_assoc]
      obtain ⟨src₁, hMark, hBytes₁, hEnded₁⟩ := readMark_of_bytes (by omega) hStream
      obtain ⟨src₂, hData, hBytes₂, hEnded₂⟩ := Source.readExact_of_bytes hBytes₁
      -- every fragment left has a mark of four bytes
      have hFuel : more.length ≤ src₂.bytes.length := by
        have := length_le_encodeRecord more
        rw [hBytes₂, List.length_append]
        omega
      obtain ⟨src₃, hRest, hBytes₃, hEnded₃⟩ := moreFragments_encode hNe hFuel hSmall hBytes₂
      have hWhole : fragments.flatten = fragment ++ more.flatten := by
        rw [hCut, List.flatten_cons]
      refine ⟨src₃, ?_, hBytes₃, hEnded₃.trans (hEnded₂.trans hEnded₁)⟩
      rw [hWhole] at hXid ⊢
      rw [readOneResponse, hMark]
      show (if _ then _ else _) = _
      rw [if_neg hFirst, hData]
      show (restOfRecord false fragment src₂ >>= _) = _
      rw [show restOfRecord false fragment src₂ = _ from hRest]
      show (if _ then _ else _) = _
      rw [if_neg hXid]
      rfl

/-- What is read is the record at the front of the stream, and it fits. -/
theorem readOneResponse_ok {xid : Nat} {record : List UInt8}
    (h : readOneResponse src = .ok (xid, record, src')) :
    ∃ fragments, Fits fragments ∧ record = fragments.flatten ∧ xid = beNat (record.take 4) ∧
      src.bytes = encodeRecord fragments ++ src'.bytes ∧ src'.ended = src.ended := by
  rw [readOneResponse] at h
  obtain ⟨⟨⟨last, sz⟩, src₁⟩, hMark, hChecked⟩ := Lib.bind_eq_ok_iff.mp h
  dsimp only at hChecked
  split at hChecked
  · cases hChecked
  next hFirst =>
  obtain ⟨⟨data, src₂⟩, hData, hRest⟩ := Lib.bind_eq_ok_iff.mp hChecked
  obtain ⟨hLength, hMarked, hEnded⟩ := fragment_ok hMark hData
  obtain ⟨⟨buf, src₃⟩, hBuf, hWhole⟩ := Lib.bind_eq_ok_iff.mp hRest
  -- however it was cut: in one fragment, or in more of them
  have hCut : ∃ fragments, fragments ≠ [] ∧ buf = fragments.flatten ∧
      buf.length ≤ maxRpcResponse ∧ src.bytes = encodeRecord fragments ++ src₃.bytes ∧
      src₃.ended = src.ended := by
    cases last with
    | true =>
      obtain ⟨rfl, rfl⟩ := Prod.mk.inj (Except.ok.inj hBuf)
      have hSmall : data.length ≤ maxRpcResponse := by omega
      refine ⟨[data], by simp, by simp, hSmall, ?_, hEnded⟩
      rw [hMarked, encodeRecord, List.append_assoc]
    | false =>
      obtain ⟨fragments, hNe, hRecord, hSmall, hBytes₃, hEnded₃⟩ := moreFragments_ok hBuf
      refine ⟨data :: fragments, by simp, by rw [hRecord, List.flatten_cons], hSmall, ?_,
        hEnded₃.trans hEnded⟩
      rw [hMarked, hBytes₃, encodeRecord_cons hNe]
      simp only [List.append_assoc]
  dsimp only at hWhole
  split at hWhole
  · cases hWhole
  next hXid =>
  obtain ⟨rfl, hPair⟩ := Prod.mk.inj (Except.ok.inj hWhole)
  obtain ⟨rfl, rfl⟩ := Prod.mk.inj hPair
  obtain ⟨fragments, hNe, rfl, hSmall, hBytes, hEnded⟩ := hCut
  exact ⟨fragments, ⟨hNe, Nat.not_lt.mp hXid, hSmall⟩, rfl, rfl, hBytes, hEnded⟩

end fragments

/-! ## Runs of the reader -/

/-- A record that arrives: the map that the reader finds, and the fragments. -/
structure Arrival where
  pending : Pending
  fragments : List (List UInt8)

namespace Arrival

def record (a : Arrival) : List UInt8 := a.fragments.flatten

def xid (a : Arrival) : Nat := beNat (a.record.take 4)

/-- The turn in which the record is dispatched. -/
def turn (a : Arrival) : Turn :=
  .handed (dispatch a.pending a.xid a.record).1 (dispatch a.pending a.xid a.record).2

end Arrival

/-- The records of a stream are dispatched in order, and the reader stands behind them. -/
theorem readerLoop_arrivals {arrivals : List Arrival} : ∀ {src : Source} {rest : List UInt8},
    (∀ a ∈ arrivals, Fits a.fragments) →
    src.bytes = (arrivals.flatMap fun a => encodeRecord a.fragments) ++ rest →
    ∃ src', src'.bytes = rest ∧ src'.ended = src.ended ∧ ∀ later : List Pending,
      readerLoop (arrivals.map (·.pending) ++ later) src =
        arrivals.map Arrival.turn ++ readerLoop later src' := by
  induction arrivals with
  | nil =>
    intro src rest _ hBytes
    exact ⟨src, hBytes, rfl, fun _ => rfl⟩
  | cons a arrivals ih =>
    intro src rest hFits hBytes
    rw [List.flatMap_cons, List.append_assoc] at hBytes
    obtain ⟨src₁, hRead, hBytes₁, hEnded₁⟩ :=
      readOneResponse_encode (hFits a List.mem_cons_self) hBytes
    obtain ⟨src₂, hBytes₂, hEnded₂, hRun⟩ :=
      ih (fun b hb => hFits b (List.mem_cons_of_mem a hb)) hBytes₁
    refine ⟨src₂, hBytes₂, hEnded₂.trans hEnded₁, fun later => ?_⟩
    rw [List.map_cons, List.cons_append, readerLoop, hRead, List.map_cons, List.cons_append,
      ← hRun later]
    rfl

/-! ## Frames of a request -/

/-- `BigEndian::write_u32` into `buf[pos..pos + 4]`. -/
def writeU32 (buf : List UInt8) (pos value : Nat) : List UInt8 :=
  buf.take pos ++ (beU32 value ++ buf.drop (pos + 4))

def payloadLen (msgBody data : List UInt8) : Nat :=
  (8 + msgBody.length + data.length + pad4 data.length) % 2 ^ 32

/-- The buffer in front of the attempts: room for the prefix, the length and the message type. -/
def prepared (msgBody data : List UInt8) : List UInt8 :=
  writeU32 (writeU32 (List.replicate 12 0 ++ msgBody) 0 (payloadLen msgBody data ||| 0x80000000))
    8 0

/-- The frames of the attempts; the buffer is kept from one to the next. -/
def frames (data : List UInt8) : (msgBody : List UInt8) → (xids : List Nat) → List (List UInt8)
  | _, [] => []
  | msgBody, xid :: xids =>
    (writeU32 msgBody 4 xid ++ (data ++ List.replicate (pad4 data.length) 0)) ::
      frames data (writeU32 msgBody 4 xid) xids

/-- A frame with its XID, on which nothing else depends. -/
def frame (msgBody data : List UInt8) (xid : Nat) : List UInt8 :=
  beU32 (payloadLen msgBody data ||| 0x80000000) ++ (beU32 xid ++ (beU32 0 ++ (msgBody ++
    (data ++ List.replicate (pad4 data.length) 0))))

theorem writeU32_xid (length xid value : Nat) (rest : List UInt8) :
    writeU32 (beU32 length ++ (beU32 xid ++ rest)) 4 value =
      beU32 length ++ (beU32 value ++ rest) := rfl

theorem prepared_eq (msgBody data : List UInt8) :
    prepared msgBody data =
      beU32 (payloadLen msgBody data ||| 0x80000000) ++ (beU32 0 ++ (beU32 0 ++ msgBody)) := rfl

theorem frames_eq (msgBody data : List UInt8) (xids : List Nat) :
    frames data (prepared msgBody data) xids = xids.map (frame msgBody data) := by
  rw [prepared_eq]
  -- whatever XID the attempt before has left in the buffer
  have hFrom : ∀ (old : Nat), frames data (beU32 (payloadLen msgBody data ||| 0x80000000) ++
      (beU32 old ++ (beU32 0 ++ msgBody))) xids = xids.map (frame msgBody data) := by
    induction xids with
    | nil => exact fun _ => rfl
    | cons xid xids ih =>
      intro old
      rw [frames, writeU32_xid, ih xid, List.map_cons, frame]
      simp only [List.append_assoc]
  exact hFrom 0

/-- A frame of a request that has room in one fragment is the record of that request. -/
theorem frame_eq_encodeRecord {msgBody data : List UInt8}
    (h : 8 + msgBody.length + data.length + pad4 data.length < 2 ^ 31) (xid : Nat) :
    frame msgBody data xid = encodeRecord [beU32 xid ++ (beU32 0 ++ (msgBody ++
      (data ++ List.replicate (pad4 data.length) 0)))] := by
  have hLength : (beU32 xid ++ (beU32 0 ++ (msgBody ++
      (data ++ List.replicate (pad4 data.length) 0)))).length =
      8 + msgBody.length + data.length + pad4 data.length := by
    simp only [List.length_append, List.length_replicate, beU32, List.length_cons, List.length_nil]
    omega
  have hMark : payloadLen msgBody data ||| 0x80000000 =
      8 + msgBody.length + data.length + pad4 data.length + 2 ^ 31 := by
    have hMod : payloadLen msgBody data = 8 + msgBody.length + data.length + pad4 data.length :=
      Nat.mod_eq_of_lt (by omega)
    rw [hMod, Nat.lor_comm]
    have hOr := Nat.two_pow_add_eq_or_of_lt h 1
    rw [Nat.mul_one] at hOr
    rw [show 0x80000000 = 2 ^ 31 from rfl, ← hOr, Nat.add_comm]
  rw [frame, encodeRecord, mark, hLength, hMark, if_pos rfl]

/-! ## Record framing -/

/-- An accepted reply message: behind the XID stand its type, status, verifier and payload. -/
def acceptedReply (xid flavor : Nat) (verf payload : List UInt8) : List UInt8 :=
  beU32 xid ++ (beU32 1 ++ (beU32 0 ++ (beU32 flavor ++ (beU32 verf.length ++ (verf ++
    (List.replicate (pad4 verf.length) 0 ++ (beU32 0 ++ payload)))))))

theorem readU32_of_drop {data rest : List UInt8} {pos value : Nat} (hValue : value < 2 ^ 32)
    (h : data.drop pos = beU32 value ++ rest) : readU32 data pos = .ok value := by
  have hLength : ¬ pos + 4 > data.length := by
    have := congrArg List.length h
    simp only [List.length_drop, List.length_append, beU32, List.length_cons] at this
    omega
  have hTake : (beU32 value ++ rest).take 4 = beU32 value := rfl
  rw [readU32, if_neg hLength, h, hTake, beNat_beU32 hValue]

/-- The payload of an accepted reply comes out of the envelope. -/
theorem parseRpcResponse_accepted {xid : Nat} (hXid : xid < 2 ^ 32) (flavor : Nat)
    {verf : List UInt8} (hVerf : verf.length < 2 ^ 32) (payload : List UInt8) :
    parseRpcResponse (acceptedReply xid flavor verf payload) xid = .ok payload := by
  have hZero : 0 < 2 ^ 32 := by decide
  have hLong : (acceptedReply xid flavor verf payload).length =
      24 + (verf.length + pad4 verf.length) + payload.length := by
    simp only [acceptedReply, List.length_append, List.length_replicate, beU32, List.length_cons,
      List.length_nil]
    omega
  have hFirst : beNat ((acceptedReply xid flavor verf payload).take 4) = xid := beNat_beU32 hXid
  have hType : beNat (((acceptedReply xid flavor verf payload).drop 4).take 4) = 1 := rfl
  have hStatus : readU32 (acceptedReply xid flavor verf payload) 8 = .ok 0 :=
    readU32_of_drop hZero rfl
  have hLen : readU32 (acceptedReply xid flavor verf payload) 16 = .ok verf.length :=
    readU32_of_drop hVerf rfl
  -- the verifier is the one part of the envelope whose length is not fixed
  have hBehind : (acceptedReply xid flavor verf payload).drop
      (20 + (verf.length + pad4 verf.length)) = beU32 0 ++ payload := by
    have hSplit : (acceptedReply xid flavor verf payload).drop 20 =
        (verf ++ List.replicate (pad4 verf.length) 0) ++ (beU32 0 ++ payload) := by
      rw [List.append_assoc]
      rfl
    rw [← List.drop_drop, hSplit]
    exact List.drop_left' (by simp)
  have hAccept := readU32_of_drop hZero hBehind
  have hPayload : (acceptedReply xid flavor verf payload).drop
      (24 + (verf.length + pad4 verf.length)) = payload := by
    rw [show 24 + (verf.length + pad4 verf.length) = 20 + (verf.length + pad4 verf.length) + 4 by
      omega, ← List.drop_drop, hBehind]
    rfl
  rw [parseRpcResponse, if_neg (by omega), if_neg (not_not.mpr hFirst),
    if_neg (not_not.mpr hType)]
  simp only [hStatus, hLen, hAccept, hPayload, bind, Except.bind, ne_eq, not_true_eq_false,
    if_false, if_true]
  exact if_neg (by omega)

/-- **Record framing.** Records of any sizes within the limit, cut into fragments in any way and
delivered in any TCP reads, are dispatched one by one exactly as they are; the waiter of the XID
of a reply is handed that reply, whose payload comes out of the envelope. A stream that does not
begin with such a record ends the connection with an error for every waiter, and no record is
delivered. Every attempt of a call sends one frame, with the message and the data in it, and the
frames agree outside the four bytes of the XID. -/
theorem record_framing :
    (∀ (arrivals : List Arrival) (src : Source) (rest : List UInt8),
      (∀ a ∈ arrivals, Fits a.fragments) →
      src.bytes = (arrivals.flatMap fun a => encodeRecord a.fragments) ++ rest →
      ∃ src', src'.bytes = rest ∧ src'.ended = src.ended ∧ ∀ later : List Pending,
        readerLoop (arrivals.map (·.pending) ++ later) src =
          arrivals.map Arrival.turn ++ readerLoop later src') ∧
    (∀ (a : Arrival) (xid waiter : Nat) (body : List UInt8), xid < 2 ^ 32 →
      a.record = beU32 xid ++ body → msgType a.record ≠ 0 → a.pending.lookup xid = some waiter →
      a.turn = .handed (.reply waiter (beU32 xid ++ body))
        (a.pending.filter fun entry => entry.1 ≠ xid)) ∧
    (∀ (xid flavor : Nat) (verf payload : List UInt8), xid < 2 ^ 32 → verf.length < 2 ^ 32 →
      parseRpcResponse (acceptedReply xid flavor verf payload) xid = .ok payload) ∧
    (∀ src : Source,
      (¬ ∃ fragments rest, Fits fragments ∧ src.bytes = encodeRecord fragments ++ rest) →
      ∃ e : ReaderError, ∀ (pending : Pending) (later : List Pending),
        readerLoop (pending :: later) src =
          [.ended (pending.map fun entry => (entry.2, e.reply))]) ∧
    ∀ (msgBody data : List UInt8) (xids : List Nat),
      frames data (prepared msgBody data) xids = xids.map (frame msgBody data) ∧
      ∀ f ∈ frames data (prepared msgBody data) xids,
        (∃ xid ∈ xids, (f.drop 4).take 4 = beU32 xid) ∧
        ∀ g ∈ frames data (prepared msgBody data) xids,
          f.length = g.length ∧ f.take 4 = g.take 4 ∧ f.drop 8 = g.drop 8 := by
  refine ⟨fun arrivals src rest => readerLoop_arrivals, ?_, ?_, ?_, ?_⟩
  · intro a xid waiter body hXid hRecord hReply hWaiter
    have hFirst : a.xid = xid := by
      have hTake : (beU32 xid ++ body).take 4 = beU32 xid := rfl
      rw [Arrival.xid, hRecord, hTake, beNat_beU32 hXid]
    rw [Arrival.turn, hFirst, dispatch, if_neg hReply, hWaiter, hRecord]
  · intro xid flavor verf payload hXid hVerf
    exact parseRpcResponse_accepted hXid flavor hVerf payload
  · intro src hNone
    cases hRead : readOneResponse src with
    | error e =>
      refine ⟨e, fun pending later => ?_⟩
      rw [readerLoop, hRead]
    | ok found =>
      obtain ⟨xid, record, src'⟩ := found
      -- what is read is a record that fits, and the stream does not begin with one
      obtain ⟨fragments, hFits, -, -, hBytes, -⟩ := readOneResponse_ok hRead
      exact absurd ⟨fragments, src'.bytes, hFits, hBytes⟩ hNone
  · intro msgBody data xids
    refine ⟨frames_eq msgBody data xids, fun f hf => ?_⟩
    rw [frames_eq] at hf ⊢
    obtain ⟨xid, hXid, rfl⟩ := List.mem_map.mp hf
    refine ⟨⟨xid, hXid, rfl⟩, fun g hg => ?_⟩
    obtain ⟨other, -, rfl⟩ := List.mem_map.mp hg
    exact ⟨rfl, rfl, rfl⟩

/-- The reply of XID 7 in three fragments, one of them empty. -/
def cutReply : Arrival where
  pending := [(5, 1), (7, 2)]
  fragments := [[0, 0], [], [0, 7, 0, 0, 0, 1]]

/-- TCP cuts the stream within the marks. -/
def cutSource : Source where
  buffered := [0, 0]
  reads := [[0, 2, 0], [0, 0, 0, 0, 0, 128, 0, 0], [6, 0, 7, 0, 0, 0, 1]]
  ended := .io .unexpectedEof "early eof"

/-- The reply of the cut stream reaches its waiter, and the end of the stream the other one. A
message of four bytes with one byte of data behind it, sent twice, makes two frames. -/
theorem record_framing_cutReply :
    readerLoop [cutReply.pending, [(5, 1)]] cutSource =
      [.handed (.reply 2 [0, 0, 0, 7, 0, 0, 0, 1]) [(5, 1)],
        .ended [(1, .readerIo .unexpectedEof "early eof")]] ∧
    frames [9] (prepared [1, 2, 3, 4] [9]) [7, 8] =
      [[128, 0, 0, 16, 0, 0, 0, 7, 0, 0, 0, 0, 1, 2, 3, 4, 9, 0, 0, 0],
        [128, 0, 0, 16, 0, 0, 0, 8, 0, 0, 0, 0, 1, 2, 3, 4, 9, 0, 0, 0]] := by
  have hFits : ∀ a ∈ [cutReply], Fits a.fragments := by
    intro a ha
    obtain rfl := List.mem_singleton.mp ha
    exact ⟨by decide, by decide, by decide⟩
  obtain ⟨src', hBytes, hEnded, hRun⟩ := record_framing.1 [cutReply] cutSource [] hFits rfl
  have hEnd : readerLoop [[(5, 1)]] src' =
      [.ended [(1, .readerIo .unexpectedEof "early eof")]] := by
    have hShort := readExact_bytes 4 src'.ended src'.reads src'.buffered
    have hEmpty : src'.buffered ++ src'.reads.flatten = [] := hBytes
    rw [hEmpty, if_neg (by decide), hEnded] at hShort
    have hRead : readOneResponse src' = .error (.io .unexpectedEof "early eof") := by
      rw [readOneResponse, readMark, Source.readExact, hEnded, hShort]
      rfl
    rw [readerLoop, hRead]
    rfl
  have hStream : readerLoop [cutReply.pending, [(5, 1)]] cutSource =
      [.handed (.reply 2 [0, 0, 0, 7, 0, 0, 0, 1]) [(5, 1)],
        .ended [(1, .readerIo .unexpectedEof "early eof")]] := by
    rw [show [cutReply.pending, [(5, 1)]] = [cutReply].map (·.pending) ++ [[(5, 1)]] from rfl,
      hRun, hEnd]
    rfl
  have hFrames := (record_framing.2.2.2.2 [1, 2, 3, 4] [9] [7, 8]).1
  exact ⟨hStream, hFrames.trans (by decide +kernel)⟩

end NfsRs.Rpc.Records
