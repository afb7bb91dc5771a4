import NfsRs.Nfs41.LayoutCache

/-!
# NfsRs — the layouts that writes use

A write needs a segment that was granted for reading and writing. The cache does not keep the
modes apart: a write that finds a READ segment over its offset sends its WRITEs through it.

Where no READ segment is in the way when a write looks, the write asks for a layout itself, and
the fetch gate keeps the LAYOUTGETs of reads out until it has its answer. What the server
granted for writing is then what the write uses.

## Main results

- `writeInv_step` : an admitted step keeps READ segments away from the writes under way.
- `writes_writable` : every WRITE uses a segment granted for writing.
- `writable_of_grants` : so it is where every LAYOUTGET is answered with such segments only.
- `read_segment_written` : a read's segment is written through.
-/

namespace NfsRs.Nfs41

/-! ## Segments granted for writing -/

/-- Every segment over the offset is granted for writing. -/
def MappedLayout.Writable (layout : MappedLayout) (offset : Nat) : Prop :=
  ∀ segment ∈ layout.segments, segment.covers offset = true → segment.iomode = .readWrite

instance (layout : MappedLayout) (offset : Nat) : Decidable (layout.Writable offset) :=
  inferInstanceAs (Decidable (∀ segment ∈ layout.segments, _ → _))

namespace LayoutCache

/-- No READ segment that the cache offers covers the offset. -/
def Writable (m : LayoutCache) (offset : Nat) : Prop :=
  ∀ layout ∈ m.getLayout, layout.Writable offset

instance (m : LayoutCache) (offset : Nat) : Decidable (m.Writable offset) :=
  inferInstanceAs (Decidable (∀ layout ∈ m.getLayout, _))

variable {m : LayoutCache} {offset : Nat}

/-- What a look finds is the cached layout. -/
theorem getLayout_of_covering {layout : MappedLayout}
    (h : m.getLayoutCovering offset = some layout) : m.getLayout = some layout :=
  (Option.filter_eq_some_iff.mp h).1

/-- Where a look finds nothing, nothing covers the offset. -/
theorem writable_of_missed (h : m.getLayoutCovering offset = none) : m.Writable offset := by
  intro layout hLayout segment hSegment hCovers
  have hNone := Option.filter_eq_none_iff.mp h layout hLayout
  exact absurd (List.any_eq_true.mpr ⟨segment, hSegment, hCovers⟩) hNone

/-- A merge leaves the segments of both sides. -/
theorem writable_mergeLayout {update : MappedLayout} (h : m.Writable offset)
    (hUpdate : update.Writable offset) : (m.mergeLayout update).Writable offset := by
  unfold mergeLayout
  split
  next => exact h
  next hGen =>
    split
    next hNone =>
      intro layout hLayout
      obtain ⟨hSame, -⟩ := getLayout_eq_some hLayout
      rw [← Option.some.inj hSame]
      exact hUpdate
    next current hCurrent =>
      intro layout hLayout segment hSegment hCovers
      obtain ⟨hSame, hActive⟩ := getLayout_eq_some hLayout
      obtain rfl := Option.some.inj hSame
      rcases mem_mergeSegments.mp hSegment with ⟨hOld, -⟩ | hNew
      · have hCached : m.getLayout = some current := by
          unfold getLayout
          rw [hCurrent, Option.filter_some, if_pos (by simpa using hActive)]
        exact h current hCached segment hOld hCovers
      · exact hUpdate segment hNew hCovers

theorem writable_clear : m.clear.Writable offset := nofun

theorem writable_invalidate : m.invalidateLayoutSegments.Writable offset := by
  intro layout hLayout segment hSegment
  obtain ⟨hSame, -⟩ := getLayout_eq_some hLayout
  obtain ⟨old, -, rfl⟩ := Option.map_eq_some_iff.mp hSame
  cases hSegment

end LayoutCache

variable {fh : FileHandle} {s : LayoutCalls}

/-- A WRITE that is sent with a layout uses the segment over the offset. -/
theorem segment_of_sendWrites {env : WriteEnv} {layout : MappedLayout} {offset : Nat}
    {data : List UInt8} {w : SentWrite} (h : w ∈ sendWrites env fh layout offset data) :
    w.segment ∈ layout.segments ∧ w.segment.covers offset = true := by
  unfold sendWrites at h
  split at h
  next segment batch hFind _ =>
    obtain ⟨stripe, -, rfl⟩ := List.mem_map.mp h
    have hFound : layout.segments.find? (fun g => g.covers offset) = some segment := hFind
    have hCovers := List.find?_some hFound
    exact ⟨List.mem_of_find?_eq_some hFound, hCovers⟩
  next => cases h

/-! ## The condition -/

/-- What a write may find when it looks into the cache. After its own LAYOUTGET this matters
only if a recovery came between. -/
def LayoutCalls.LooksWritable (s : LayoutCalls) (c : LayoutCall) : Prop :=
  match c.phase with
  | .lookup | .relookup _ => s.cache.Writable c.offset
  | .final t => t.generation ≠ s.cache.activeGeneration → s.cache.Writable c.offset
  | _ => True

instance (s : LayoutCalls) (c : LayoutCall) : Decidable (s.LooksWritable c) := by
  unfold LayoutCalls.LooksWritable
  split <;> infer_instance

/-- **The condition.** No READ segment over its offset is cached when a write looks for a
layout, and the server answers the LAYOUTGET of a write with segments for writing. Reads are
free in what they ask for and get. -/
def WritesApart (s : LayoutCalls) : LayoutEvent → Prop
  | .advance i => ∀ c ∈ s.calls[i]?, c.iomode = .readWrite → s.LooksWritable c
  | .answered i reply => ∀ c ∈ s.calls[i]?, c.iomode = .readWrite →
      ∀ layout ∈ LayoutCalls.granted reply, layout.Writable c.offset
  | _ => True

instance (s : LayoutCalls) (ev : LayoutEvent) : Decidable (WritesApart s ev) := by
  unfold WritesApart
  split <;> infer_instance

/-! ## Writes under way -/

/-- What a write under way can count on: in its own generation no READ segment comes over its
offset from its LAYOUTGET on, and none is in the layout that it has found. -/
structure LayoutCall.Safe (m : LayoutCache) (c : LayoutCall) : Prop where
  fetched : ∀ t, c.phase.asked? = some t → t.generation = m.activeGeneration →
    m.Writable c.offset
  found : ∀ layout, c.phase = .found layout → layout.Writable c.offset

structure WriteInv (s : LayoutCalls) : Prop where
  safe : ∀ c ∈ s.calls, c.iomode = .readWrite → c.Safe s.cache
  sent : ∀ w ∈ s.sent, w.segment.iomode = .readWrite

section writeInv

variable {fh : FileHandle} {s s' : LayoutCalls} {ev : LayoutEvent} {i : Nat} {c : LayoutCall}

theorem writeInv_init : WriteInv LayoutCalls.initial := ⟨nofun, nofun⟩

variable {cache : LayoutCache}

/-- One call goes on; the others are as safe with the new cache. -/
theorem writeInv_setPhase {sent : List SentWrite} (phase : FetchPhase)
    (hOthers : ∀ j d, j ≠ i → s.calls[j]? = some d → d.iomode = .readWrite → d.Safe cache)
    (hNew : c.iomode = .readWrite → { c with phase := phase }.Safe cache)
    (hSent : ∀ w ∈ sent, w.segment.iomode = .readWrite) :
    WriteInv ({ s with cache := cache, sent := sent }.setPhase i c phase) where
  safe := by
    intro d hd hMode
    obtain ⟨j, hj⟩ := List.mem_iff_getElem?.mp hd
    rcases Lib.of_getElem?_set hj with ⟨-, rfl⟩ | ⟨hNe, hOld⟩
    · exact hNew hMode
    · exact hOthers j d hNe hOld hMode
  sent := hSent

/-- The cache stays as it is. -/
theorem WriteInv.setPhase (h : WriteInv s) (phase : FetchPhase)
    (hNew : c.iomode = .readWrite → { c with phase := phase }.Safe s.cache) :
    WriteInv (s.setPhase i c phase) :=
  writeInv_setPhase phase (fun _ d _ hd => h.safe d (List.mem_of_getElem? hd)) hNew h.sent

/-- The layout of the cache changes by the LAYOUTGET of a call in the active generation. -/
theorem WriteInv.setPhase_granted (h : WriteInv s) (hInv : LayoutInv s) {t : Ticket}
    (phase : FetchPhase) (hCall : s.calls[i]? = some c) (hAsked : c.phase.asked? = some t)
    (hGen : t.generation = s.cache.activeGeneration)
    (hActive : cache.activeGeneration = s.cache.activeGeneration)
    (hNew : c.iomode = .readWrite → { c with phase := phase }.Safe cache) :
    WriteInv ({ s with cache := cache }.setPhase i c phase) := by
  refine writeInv_setPhase phase (fun j d hNe hd hMode => ?_) hNew h.sent
  have hSafe := h.safe d (List.mem_of_getElem? hd) hMode
  refine ⟨fun t' hAsked' hGen' => ?_, hSafe.found⟩
  exact absurd (hGen'.trans hActive) (hInv.not_asked hCall hAsked hGen hNe hd hAsked')

/-- A stretch of a write that reads the cache. -/
theorem PhaseMove.safe {phase : FetchPhase} (hMove : PhaseMove s c phase)
    (h : c.Safe s.cache) (hLooks : s.LooksWritable c) :
    { c with phase := phase }.Safe s.cache := by
  unfold LayoutCalls.LooksWritable at hLooks
  cases hMove with
  | missed | generation | gate | lock | current | refused => exact ⟨nofun, nofun⟩
  | found hPhase layout hFound =>
    have hWritable : s.cache.Writable c.offset := by
      rcases hPhase with hPhase | ⟨t, hPhase⟩
      all_goals
        rw [hPhase] at hLooks
        exact hLooks
    refine ⟨nofun, fun layout' hSame => ?_⟩
    cases hSame
    exact hWritable layout (LayoutCache.getLayout_of_covering hFound)
  | missedAgain t hPhase hNone =>
    exact ⟨fun _ _ _ => LayoutCache.writable_of_missed hNone, nofun⟩
  | request t hPhase | accepted t hPhase =>
    refine ⟨fun t' hAsked hGen => h.fetched t' ?_ hGen, nofun⟩
    rw [hPhase]
    exact hAsked
  | final t hPhase layout hLayout =>
    rw [hPhase] at hLooks
    refine ⟨nofun, fun layout' hSame => ?_⟩
    cases hSame
    by_cases hGen : t.generation = s.cache.activeGeneration
    · exact h.fetched t (by rw [hPhase]; rfl) hGen layout hLayout
    · exact hLooks hGen layout hLayout

/-- The cache loses segments, under the same generation. -/
theorem WriteInv.shrink (h : WriteInv s) {sweeping : Bool}
    (hWritable : ∀ offset, cache.Writable offset) :
    WriteInv { s with cache := cache, sweeping := sweeping } where
  safe := fun d hd hMode => ⟨fun _ _ _ => hWritable d.offset, (h.safe d hd hMode).found⟩
  sent := h.sent

/-- A recovery moves on to a generation in which nobody has asked. -/
theorem WriteInv.fence (h : WriteInv s) (hInv : LayoutInv s) :
    WriteInv { s with cache := s.cache.fence (s.session + 1), sweeping := true } where
  safe := by
    intro d hd hMode
    have hSafe := h.safe d hd hMode
    refine ⟨fun t hAsked hGen => ?_, hSafe.found⟩
    obtain ⟨-, -, hLe⟩ := (hInv.fits d hd).of_asked hAsked
    have hActiveLe := hInv.activeLe
    have hNext : t.generation = s.session + 1 := hGen
    have hSame : s.cache.fence (s.session + 1) = s.cache := by
      rw [show s.session + 1 = s.cache.activeGeneration by omega]
      rfl
    rw [hSame] at hGen ⊢
    exact hSafe.fetched t hAsked hGen
  sent := h.sent

/-- **Every admitted step** keeps READ segments away from the writes under way. -/
theorem writeInv_step (h : WriteInv s) (hInv : LayoutInv s) (hApart : WritesApart s ev)
    (hMove : LayoutMove fh s ev s') : WriteInv s' := by
  cases hMove with
  | start iomode offset =>
    exact ⟨Lib.forall_mem_concat h.safe fun _ => ⟨nofun, nofun⟩, h.sent⟩
  | advance i c phase hCall hPhase =>
    refine h.setPhase phase fun hMode => hPhase.safe ?_ (hApart c hCall hMode)
    exact h.safe c (List.mem_of_getElem? hCall) hMode
  | merged i reply c t layout hCall hPhase hGranted =>
    have hAsked : c.phase.asked? = some t := by rw [hPhase]; rfl
    by_cases hGen : t.generation = s.cache.activeGeneration
    · refine h.setPhase_granted hInv _ hCall hAsked hGen
        (LayoutCache.mergeLayout_activeGeneration _) fun hMode => ⟨fun _ _ _ => ?_, nofun⟩
      have hSafe := h.safe c (List.mem_of_getElem? hCall) hMode
      exact LayoutCache.writable_mergeLayout (hSafe.fetched t hAsked hGen)
        (hApart c hCall hMode layout hGranted)
    · -- a reply of another generation
      rw [LayoutCache.mergeLayout_of_stale hGen]
      refine h.setPhase _ fun _ => ⟨fun t' hAsked' hGen' => ?_, nofun⟩
      obtain rfl := Option.some.inj hAsked'
      exact absurd hGen' hGen
  | stored i reply c t layout hCall hPhase hGranted _ hGen =>
    have hAsked : c.phase.asked? = some t := by rw [hPhase]; rfl
    refine h.setPhase_granted hInv _ hCall hAsked hGen (by rfl) fun hMode =>
      ⟨fun _ _ _ stored hStored => ?_, nofun⟩
    obtain ⟨hSame, -⟩ := LayoutCache.getLayout_eq_some hStored
    obtain rfl := Option.some.inj hSame
    exact hApart c hCall hMode layout hGranted
  | devices i ok c t hCall hPhase =>
    refine h.setPhase _ fun hMode => ⟨fun t' hAsked hGen => ?_, nofun⟩
    refine (h.safe c (List.mem_of_getElem? hCall) hMode).fetched t' ?_ hGen
    rw [hPhase]
    exact hAsked
  | write i env data c layout hCall hMode hPhase =>
    refine writeInv_setPhase _ (fun _ d _ hd => h.safe d (List.mem_of_getElem? hd))
      (fun _ => ⟨nofun, nofun⟩) fun w hw => ?_
    rcases List.mem_append.mp hw with hOld | hNew
    · exact h.sent w hOld
    · obtain ⟨hSegment, hCovers⟩ := segment_of_sendWrites hNew
      -- what was found was safe, and the WRITE takes its segment from there
      have hSafe := h.safe c (List.mem_of_getElem? hCall) hMode
      exact hSafe.found layout hPhase w.segment hSegment hCovers
  | ended _ i c hCall => exact h.setPhase _ fun _ => ⟨nofun, nofun⟩
  | returned | revoked | sweep => exact h.shrink fun _ => LayoutCache.writable_clear
  | refreshed => exact h.shrink fun _ => LayoutCache.writable_invalidate
  | fence => exact h.fence hInv
  | publish => exact ⟨h.safe, h.sent⟩

end writeInv

theorem writeInv_of_reachable (h : (layoutMachine fh).ReachableIf WritesApart s) : WriteInv s :=
  h.invariant writeInv_init fun _ _ _ hReach hApart hstep hInv =>
    writeInv_step hInv (layoutInv_of_reachable hReach) hApart (layoutMove_of_step hstep)

/-- **Write-capable layouts.** In every run that meets the condition, every WRITE uses a segment
that was granted for reading and writing. -/
theorem writes_writable (fh : FileHandle) {s : LayoutCalls}
    (h : (layoutMachine fh).ReachableIf WritesApart s) :
    ∀ w ∈ s.sent, w.segment.iomode = .readWrite :=
  (writeInv_of_reachable h).sent

/-! ## Servers that grant for writing -/

/-- Every LAYOUTGET, of a read or of a write, is answered with segments for writing only. -/
def GrantsForWriting (_ : LayoutCalls) : LayoutEvent → Prop
  | .answered _ reply => ∀ layout ∈ LayoutCalls.granted reply, ∀ segment ∈ layout.segments,
      segment.iomode = .readWrite
  | _ => True

/-- All that is cached is for writing. -/
def LayoutCache.Granted (m : LayoutCache) : Prop :=
  ∀ layout ∈ m.layout, ∀ segment ∈ layout.segments, segment.iomode = .readWrite

theorem LayoutCache.Granted.writable {m : LayoutCache} (h : m.Granted) (offset : Nat) :
    m.Writable offset := by
  intro layout hLayout segment hSegment _
  exact h layout (getLayout_eq_some hLayout).1 segment hSegment

theorem LayoutCache.Granted.mergeLayout {m : LayoutCache} (h : m.Granted) {update : MappedLayout}
    (hUpdate : ∀ segment ∈ update.segments, segment.iomode = .readWrite) :
    (m.mergeLayout update).Granted := by
  unfold LayoutCache.mergeLayout
  split
  next => exact h
  next =>
    split
    next =>
      intro layout hLayout
      obtain rfl := Option.some.inj hLayout
      exact hUpdate
    next current hCurrent =>
      intro layout hLayout segment hSegment
      obtain rfl := Option.some.inj hLayout
      rcases mem_mergeSegments.mp hSegment with ⟨hOld, -⟩ | hNew
      · exact h current hCurrent segment hOld
      · exact hUpdate segment hNew

theorem granted_step {s' : LayoutCalls} {ev : LayoutEvent} (h : s.cache.Granted)
    (hGrants : GrantsForWriting s ev) (hMove : LayoutMove fh s ev s') : s'.cache.Granted := by
  cases hMove with
  | start | advance | devices | write | ended | fence | publish => exact h
  | merged i reply c t layout hCall hPhase hGranted =>
    exact h.mergeLayout (hGrants layout hGranted)
  | stored i reply c t layout hCall hPhase hGranted =>
    intro stored hStored
    obtain rfl := Option.some.inj hStored
    exact hGrants layout hGranted
  | returned | revoked | sweep => exact nofun
  | refreshed =>
    intro layout hLayout segment hSegment
    obtain ⟨old, -, rfl⟩ := Option.map_eq_some_iff.mp hLayout
    cases hSegment

/-- Such a server meets the condition of every write. -/
theorem writesApart_of_granted {ev : LayoutEvent} (h : s.cache.Granted)
    (hGrants : GrantsForWriting s ev) : WritesApart s ev := by
  unfold WritesApart
  split
  next =>
    intro c hCall hMode
    unfold LayoutCalls.LooksWritable
    split
    next => exact h.writable c.offset
    next => exact h.writable c.offset
    next => exact fun _ => h.writable c.offset
    next => trivial
  next =>
    intro c hCall hMode layout hGranted segment hSegment _
    exact hGrants layout hGranted segment hSegment
  next => trivial

/-- **Servers that grant for writing.** No condition on the client's calls is left. -/
theorem writable_of_grants (fh : FileHandle) {s : LayoutCalls}
    (h : (layoutMachine fh).ReachableIf GrantsForWriting s) :
    ∀ w ∈ s.sent, w.segment.iomode = .readWrite := by
  have hBoth : s.cache.Granted ∧ (layoutMachine fh).ReachableIf WritesApart s := by
    induction h with
    | init => exact ⟨nofun, .init⟩
    | step _ hGrants hstep ih =>
      obtain ⟨hCache, hReach⟩ := ih
      exact ⟨granted_step hCache hGrants (layoutMove_of_step hstep),
        .step hReach (writesApart_of_granted hCache hGrants) hstep⟩
  exact (writeInv_of_reachable hBoth.2).sent

/-! ## Runs -/

/-- A LAYOUTGET result: one segment of a sparse layout over the data servers of a device, one
handle for all of them. -/
def grantedSegment (offset length iomode : Nat) : List UInt8 :=
  beU32 0 ++ List.replicate 16 7 ++ beU32 1 ++
    beU32 (offset / 2 ^ 32) ++ beU32 offset ++ beU32 (length / 2 ^ 32) ++ beU32 length ++
    beU32 iomode ++ beU32 1 ++ beU32 44 ++
    (List.replicate 16 0 ++ beU32 64 ++ beU32 0 ++ beU32 0 ++ beU32 0 ++ beU32 1 ++
      beU32 1 ++ [5, 0, 0, 0])

/-- Two data servers, reached and connected. -/
def twoServers : WriteEnv where
  serverAddr := 1
  device := .ok (some { stripeIndices := [0, 1], dsAddrs := [[10], [11]] })
  unreachable := fun _ => false
  layout := .ok none
  preflight := .ok ()
  chunks := fun _ _ _ => lostThenStale
  activeGeneration := 1
  sessionId := 0

/-- The labels of call `i` from its first look to the layout, through a LAYOUTGET. -/
def fetchRun (i : Nat) (reply : List UInt8) (cached : Bool) : List LayoutEvent :=
  List.replicate 7 (.advance i) ++ [.answered i (some reply)] ++
    (if cached then [.advance i] else []) ++ [.devicesFetched i true, .advance i]

/-- A read is granted the first unit for reading. A write behind it asks for its own segment,
and the cache has both. -/
def apartRun : List LayoutEvent :=
  .start .read 0 :: fetchRun 0 (grantedSegment 0 64 1) false ++
    .start .readWrite 64 :: fetchRun 1 (grantedSegment 64 128 2) true ++
    [.write 1 twoServers (List.replicate 100 3)]

theorem writes_writable_apartRun :
    ∃ s, (layoutMachine [1]).ReachableIf WritesApart s ∧ s.sent.length = 2 ∧
      (∃ layout, s.cache.getLayout = some layout ∧ layout.segments.map (·.iomode) =
        [.read, .readWrite]) ∧
      ∀ w ∈ s.sent, w.segment.iomode = .readWrite := by
  have hrun : ((layoutMachine [1]).runChecked WritesApart (layoutMachine [1]).init
      apartRun).any (fun s => decide (s.sent.length = 2) && s.cache.getLayout.any fun layout =>
        decide (layout.segments.map (·.iomode) = [.read, .readWrite])) = true := by
    decide +kernel
  obtain ⟨s, hs, hBoth⟩ := (Option.any_eq_true _ _).mp hrun
  obtain ⟨hSent, hCache⟩ := Bool.and_eq_true_iff.mp hBoth
  obtain ⟨layout, hLayout, hModes⟩ := (Option.any_eq_true _ _).mp hCache
  have hReach := Lib.Machine.reachableIf_of_runChecked apartRun .init hs
  exact ⟨s, hReach, of_decide_eq_true hSent, ⟨layout, hLayout, of_decide_eq_true hModes⟩,
    writes_writable [1] hReach⟩

/-- A write is granted a segment for writing. -/
def grantedWrite : List LayoutEvent :=
  .start .readWrite 0 :: fetchRun 0 (grantedSegment 0 128 2) false ++
    [.write 0 twoServers (List.replicate 100 3)]

theorem writable_of_grants_grantedWrite :
    ∃ s, (layoutMachine [1]).ReachableIf GrantsForWriting s ∧ s.sent ≠ [] ∧
      ∀ w ∈ s.sent, w.segment.iomode = .readWrite := by
  have hFree : ∀ ev ∈ grantedWrite, ∀ s, GrantsForWriting s ev := by
    have hGranted : ∀ layout ∈ LayoutCalls.granted (some (grantedSegment 0 128 2)),
        ∀ segment ∈ layout.segments, segment.iomode = .readWrite := by decide +kernel
    intro ev hev s
    simp only [grantedWrite, fetchRun, List.replicate, Bool.false_eq_true, if_false,
      List.append_nil, List.cons_append, List.nil_append, List.mem_cons, List.not_mem_nil,
      or_false] at hev
    rcases hev with rfl | rfl | rfl | rfl | rfl | rfl | rfl | rfl | rfl | rfl | rfl | rfl <;>
      first
        | exact hGranted
        | trivial
  have hrun : ((layoutMachine [1]).runFrom (layoutMachine [1]).init grantedWrite).any
      (fun s => !s.sent.isEmpty) = true := by decide +kernel
  obtain ⟨s, hs, hSent⟩ := (Option.any_eq_true _ _).mp hrun
  have hReach := Lib.Machine.ReachableIf.run grantedWrite .init hFree hs
  refine ⟨s, hReach, ?_, writable_of_grants [1] hReach⟩
  intro hNil
  rw [hNil] at hSent
  cases hSent

/-- A read is granted the whole file for reading; then the file is written. -/
def readThenWrite : List LayoutEvent :=
  .start .read 0 :: fetchRun 0 (grantedSegment 0 u64Max 1) false ++
    [.finish 0, .start .readWrite 0, .advance 1, .write 1 twoServers [3]]

/-- **A read's segment is written through.** The write finds the segment in the cache and does
not ask for one of its own. -/
theorem read_segment_written :
    ∃ s, (layoutMachine [1]).Reachable s ∧ ∃ w ∈ s.sent, w.segment.iomode = .read := by
  have hrun : ((layoutMachine [1]).runFrom (layoutMachine [1]).init readThenWrite).any
      (fun s => s.sent.any fun w => decide (w.segment.iomode = .read)) = true := by
    decide +kernel
  obtain ⟨s, hs, hSent⟩ := (Option.any_eq_true _ _).mp hrun
  obtain ⟨w, hw, hMode⟩ := List.any_eq_true.mp hSent
  exact ⟨s, Lib.Machine.reachable_of_runFrom readThenWrite hs, w, hw, of_decide_eq_true hMode⟩

end NfsRs.Nfs41
