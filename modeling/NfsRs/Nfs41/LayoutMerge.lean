import NfsRs.Nfs41.LayoutCache

/-!
# NfsRs — what a merge of layouts covers

`merge_layout` drops the cached segments that overlap one of the update, appends the update and
sorts. It compares segments by `layout_segments_overlap`, whose ends are exclusive and saturate
at `u64::MAX`; reads and writes ask `covers`, for which an open-ended segment also has the
offset `u64::MAX`. The two tests differ in two places: on segments that both have the last offset
and of which one starts there, and on an update segment of length zero inside a cached one, which
drops the cached segment without covering any of it. Either does harm only where no other segment
of the update has the cached segment dropped, and everywhere else the merge is the union that the
update wins.

## Main results

- `mergeLayout_law` : the law of the merge holds exactly where the two tests do no harm.
- `mergeLayout_lastOffset` : it fails at the last offset.
-/

namespace NfsRs.Nfs41

namespace LayoutSegment

/-- The offset and the length are values of `u64`. -/
def InU64 (s : LayoutSegment) : Prop := s.offset ≤ u64Max ∧ s.length ≤ u64Max

instance (s : LayoutSegment) : Decidable s.InU64 := inferInstanceAs (Decidable (_ ∧ _))

/-- No offset is in both segments. -/
def Apart (a b : LayoutSegment) : Prop :=
  ∀ offset ≤ u64Max, a.covers offset = true → b.covers offset = false

variable {a b s : LayoutSegment} {offset : Nat}

theorem Apart.symm (h : a.Apart b) : b.Apart a := by
  intro offset hOffset hb
  by_contra ha
  rw [h offset hOffset (by simpa using ha)] at hb
  cases hb

theorem covers_iff :
    s.covers offset = true ↔ s.offset ≤ offset ∧
      (s.length = u64Max ∨ u64Max < s.offset + s.length ∨ offset < s.offset + s.length) := by
  simp [covers, or_assoc]

/-- An offset of a segment is before its end, unless the segment is open. -/
theorem lt_stop_or_open (h : s.covers offset = true) : offset < s.stop ∨ s.stop = u64Max := by
  obtain ⟨-, hEnd⟩ := covers_iff.mp h
  unfold stop satAdd64
  split
  · exact .inr rfl
  · rcases hEnd with hAll | hPast | hLt <;> omega

theorem overlaps_iff : a.overlaps b = true ↔ a.offset < b.stop ∧ b.offset < a.stop := by
  simp [overlaps]

/-- Both segments have the last offset, and one of them starts there. -/
def MeetAtLast (a b : LayoutSegment) : Prop :=
  a.covers u64Max = true ∧ b.covers u64Max = true ∧ (u64Max ≤ a.offset ∨ u64Max ≤ b.offset)

instance (a b : LayoutSegment) : Decidable (a.MeetAtLast b) :=
  inferInstanceAs (Decidable (_ ∧ _ ∧ _))

/-- Segments that share an offset overlap, unless they meet at the last one. -/
theorem apart_of_not_overlaps (hLast : ¬ a.MeetAtLast b) (h : a.overlaps b = false) :
    a.Apart b := by
  intro offset hOffset hCoverA
  by_contra hCoverB
  have hCoverB : b.covers offset = true := by simpa using hCoverB
  have hLeA := (covers_iff.mp hCoverA).1
  have hLeB := (covers_iff.mp hCoverB).1
  have hStopA := lt_stop_or_open hCoverA
  have hStopB := lt_stop_or_open hCoverB
  have hNot : ¬ (a.offset < b.stop ∧ b.offset < a.stop) := by
    intro hBoth
    rw [overlaps_iff.mpr hBoth] at h
    cases h
  -- one of them begins where the other ends: that is the last offset, and both are open
  have hEnd : offset = u64Max ∧ (u64Max ≤ a.offset ∨ u64Max ≤ b.offset) := by omega
  rw [hEnd.1] at hCoverA hCoverB
  exact hLast ⟨hCoverA, hCoverB, hEnd.2⟩

/-- The later of two starts is in a segment that is not empty and ends after both. -/
theorem covers_max {start : Nat} (hLength : a.length ≠ 0) (h : start < a.stop) :
    a.covers (max a.offset start) = true := by
  refine covers_iff.mpr ⟨Nat.le_max_left _ _, ?_⟩
  unfold stop satAdd64 at h
  split at h
  next hAll => exact .inl hAll
  next => omega

/-- Segments that overlap and are not empty share an offset. -/
theorem not_apart_of_overlaps (ha : a.InU64) (hb : b.InU64) (hLengthA : a.length ≠ 0)
    (hLengthB : b.length ≠ 0) (h : a.overlaps b = true) : ¬ a.Apart b := by
  intro hApart
  obtain ⟨hAB, hBA⟩ := overlaps_iff.mp h
  have hCoverA := covers_max hLengthA hBA
  have hCoverB := covers_max hLengthB hAB
  rw [Nat.max_comm] at hCoverB
  rw [hApart _ (Nat.max_le.mpr ⟨ha.1, hb.1⟩) hCoverA] at hCoverB
  cases hCoverB

theorem length_ne_zero_of_covers (hs : s.InU64) (h : s.covers offset = true) : s.length ≠ 0 := by
  intro hZero
  obtain ⟨hLe, hEnd⟩ := covers_iff.mp h
  have hOffset := hs.1
  rcases hEnd with hAll | hPast | hLt
  · simp [hZero, u64Max] at hAll
  all_goals omega

/-- `inner` is empty and lies behind the start and before the end of `outer`. -/
def EmptyInside (inner outer : LayoutSegment) : Prop :=
  inner.length = 0 ∧ outer.offset < inner.offset ∧ inner.offset < outer.stop

instance (inner outer : LayoutSegment) : Decidable (inner.EmptyInside outer) :=
  inferInstanceAs (Decidable (_ ∧ _ ∧ _))

theorem stop_of_empty (hs : s.InU64) (hEmpty : s.length = 0) : s.stop = s.offset := by
  have hOffset := hs.1
  unfold stop satAdd64
  rw [if_neg (by rw [hEmpty]; decide), hEmpty]
  omega

/-- An empty segment overlaps the segments that it is inside of. -/
theorem EmptyInside.overlaps {inner outer : LayoutSegment} (hs : inner.InU64)
    (h : inner.EmptyInside outer) : outer.overlaps inner = true := by
  refine overlaps_iff.mpr ⟨?_, h.2.2⟩
  rw [stop_of_empty hs h.1]
  exact h.2.1

end LayoutSegment

open LayoutSegment

/-! ## The law -/

/-- **What a merge is for.** The update is covered by itself, a cached segment apart from the
update stays as it was, and nothing else is covered. -/
structure MergeLaw (current update merged : List LayoutSegment) : Prop where
  sorted : merged.Pairwise fun a b => a.offset ≤ b.offset
  apart : merged.Pairwise Apart
  granted : ∀ offset ≤ u64Max, ∀ new ∈ update, new.covers offset = true →
    ∀ s, s ∈ merged ∧ s.covers offset = true ↔ s = new
  kept : ∀ offset ≤ u64Max, ∀ old ∈ current, (∀ new ∈ update, old.Apart new) →
    old.covers offset = true → ∀ s, s ∈ merged ∧ s.covers offset = true ↔ s = old
  only : ∀ offset ≤ u64Max, ∀ s ∈ merged, s.covers offset = true →
    s ∈ update ∨ s ∈ current ∧ ∀ new ∈ update, s.Apart new

/-- Where the two tests of the source see a cached segment differently, another segment of the
update decides: one that has it dropped where they meet at the last offset, and one that takes an
offset of it where an empty one is inside it. -/
def Mergeable (current update : List LayoutSegment) : Prop :=
  ∀ old ∈ current,
    (∀ new ∈ update, old.MeetAtLast new → ∃ other ∈ update, old.overlaps other = true) ∧
    ∀ new ∈ update, new.EmptyInside old → ∃ other ∈ update, ¬ old.Apart other

variable {current update : List LayoutSegment}

theorem sorted_mergeSegments :
    (mergeSegments current update).Pairwise fun a b => a.offset ≤ b.offset := by
  have : Std.Total fun a b : LayoutSegment => a.offset ≤ b.offset :=
    ⟨fun a b => Nat.le_total a.offset b.offset⟩
  have : IsTrans LayoutSegment fun a b => a.offset ≤ b.offset :=
    ⟨fun _ _ _ => Nat.le_trans⟩
  exact List.pairwise_insertionSort _ _

/-- A cached segment that no segment of the update overlaps is apart from the update. -/
theorem Mergeable.apart (h : Mergeable current update) {old new : LayoutSegment}
    (hOld : old ∈ current) (hNew : new ∈ update)
    (hNot : ∀ new ∈ update, old.overlaps new = false) : old.Apart new := by
  refine apart_of_not_overlaps (fun hLast => ?_) (hNot new hNew)
  obtain ⟨other, hOther, hOverlap⟩ := (h old hOld).1 new hNew hLast
  rw [hNot other hOther] at hOverlap
  cases hOverlap

/-- The order of the segments does not matter: `Apart` is symmetric. -/
theorem pairwise_mergeSegments : (mergeSegments current update).Pairwise Apart ↔
    ((current.filter fun old => !update.any fun new => old.overlaps new) ++ update).Pairwise
      Apart :=
  (List.perm_insertionSort _ _).pairwise_iff Apart.symm

theorem mem_dropped {old : LayoutSegment} :
    (old ∈ current.filter fun old => !update.any fun new => old.overlaps new) ↔
      old ∈ current ∧ ∀ new ∈ update, old.overlaps new = false := by
  simp

theorem apart_mergeSegments (hCurrent : current.Pairwise Apart) (hUpdate : update.Pairwise Apart)
    (hMergeable : Mergeable current update) : (mergeSegments current update).Pairwise Apart := by
  refine pairwise_mergeSegments.mpr (List.pairwise_append.mpr ⟨hCurrent.filter _, hUpdate, ?_⟩)
  intro old hOld new hNew
  obtain ⟨hMem, hNot⟩ := mem_dropped.mp hOld
  exact hMergeable.apart hMem hNew hNot

/-- Of segments that are apart, one covers an offset. -/
theorem covers_unique {segments : List LayoutSegment} (h : segments.Pairwise Apart)
    {offset : Nat} (hOffset : offset ≤ u64Max) {a : LayoutSegment} (ha : a ∈ segments)
    (hCover : a.covers offset = true) (s : LayoutSegment) :
    s ∈ segments ∧ s.covers offset = true ↔ s = a := by
  constructor
  · rintro ⟨hs, hCoverS⟩
    by_contra hNe
    have : Std.Symm Apart := ⟨fun _ _ => Apart.symm⟩
    have hApart : s.Apart a := h.forall hs ha hNe
    rw [hApart offset hOffset hCoverS] at hCover
    cases hCover
  · rintro rfl
    exact ⟨ha, hCover⟩

/-- **Sufficient.** The merge of mergeable lists keeps the law. -/
theorem mergeLaw_of_mergeable (hU64 : ∀ s ∈ current ++ update, s.InU64)
    (hCurrent : current.Pairwise Apart) (hUpdate : update.Pairwise Apart)
    (hMergeable : Mergeable current update) :
    MergeLaw current update (mergeSegments current update) := by
  have hApart := apart_mergeSegments hCurrent hUpdate hMergeable
  refine ⟨sorted_mergeSegments, hApart, ?_, ?_, ?_⟩
  · intro offset hOffset new hNew hCover
    exact covers_unique hApart hOffset (mem_mergeSegments.mpr (.inr hNew)) hCover
  · intro offset hOffset old hOld hAway hCover
    refine covers_unique hApart hOffset (mem_mergeSegments.mpr (.inl ⟨hOld, ?_⟩)) hCover
    intro new hNew
    by_contra hOverlap
    have hOverlap : old.overlaps new = true := by simpa using hOverlap
    have hOldU64 := hU64 old (List.mem_append_left _ hOld)
    have hNewU64 := hU64 new (List.mem_append_right _ hNew)
    by_cases hEmpty : new.length = 0
    · -- an empty segment inside: then another one shares an offset with the cached segment
      obtain ⟨hStart, hStop⟩ := overlaps_iff.mp hOverlap
      rw [stop_of_empty hNewU64 hEmpty] at hStart
      obtain ⟨other, hOther, hMeets⟩ := (hMergeable old hOld).2 new hNew ⟨hEmpty, hStart, hStop⟩
      exact hMeets (hAway other hOther)
    · exact not_apart_of_overlaps hOldU64 hNewU64 (length_ne_zero_of_covers hOldU64 hCover) hEmpty
        hOverlap (hAway new hNew)
  · intro offset _ s hs _
    rcases mem_mergeSegments.mp hs with ⟨hMem, hNot⟩ | hNew
    · exact .inr ⟨hMem, fun new hNew => hMergeable.apart hMem hNew hNot⟩
    · exact .inl hNew

/-- The condition is needed: either way of breaking it breaks the law. -/
theorem mergeable_of_mergeLaw (hU64 : ∀ s ∈ current ++ update, s.InU64)
    (hLaw : MergeLaw current update (mergeSegments current update)) :
    Mergeable current update := by
  intro old hOld
  have hOldU64 := hU64 old (List.mem_append_left _ hOld)
  refine ⟨fun new hNew hLast => ?_, fun new hNew hInside => ?_⟩
  · -- a cached segment that is not dropped would have the last offset together with the new one
    by_contra hNone
    have hKept : ∀ other ∈ update, old.overlaps other = false := by
      intro other hOther
      by_contra hOverlap
      exact hNone ⟨other, hOther, by simpa using hOverlap⟩
    have hPairs := (List.pairwise_append.mp (pairwise_mergeSegments.mp hLaw.apart)).2.2
    have hApart := hPairs old (mem_dropped.mpr ⟨hOld, hKept⟩) new hNew
    have hNot := hApart u64Max (Nat.le_refl _) hLast.1
    rw [hLast.2.1] at hNot
    cases hNot
  · -- a cached segment that is apart from the update ought to stay, but the empty one drops it
    by_contra hNone
    have hAway : ∀ other ∈ update, old.Apart other := fun other hOther => by
      by_contra hMeets
      exact hNone ⟨other, hOther, hMeets⟩
    have hCover : old.covers old.offset = true := by
      have hStart : old.offset < old.stop := hInside.2.1.trans hInside.2.2
      have hLength : old.length ≠ 0 := by
        intro hZero
        rw [stop_of_empty hOldU64 hZero] at hStart
        exact absurd hStart (Nat.lt_irrefl _)
      have hMax := covers_max hLength hStart
      rwa [Nat.max_self] at hMax
    obtain ⟨hMerged, -⟩ := (hLaw.kept old.offset hOldU64.1 old hOld hAway hCover old).mpr rfl
    rcases mem_mergeSegments.mp hMerged with ⟨-, hNot⟩ | hUpdate
    · have hOverlap := hInside.overlaps (hU64 new (List.mem_append_right _ hNew))
      rw [hNot new hNew] at hOverlap
      cases hOverlap
    · have hSelf := hAway old hUpdate old.offset hOldU64.1 hCover
      rw [hCover] at hSelf
      cases hSelf

/-! ## The merge of the cache -/

/-- **Merge law.** A merge of the active generation leaves the sorted union that the update wins
exactly if no cached segment is kept that meets the update at the last offset, and none is dropped
for an empty segment alone. -/
theorem mergeLayout_law (m : LayoutCache) (cached granted : MappedLayout)
    (hCached : m.layout = some cached) (hGeneration : granted.generation = m.activeGeneration)
    (hU64 : ∀ s ∈ cached.segments ++ granted.segments, s.InU64)
    (hOld : cached.segments.Pairwise Apart) (hNew : granted.segments.Pairwise Apart) :
    ∃ merged, (m.mergeLayout granted).layout = some merged ∧
      (MergeLaw cached.segments granted.segments merged.segments ↔
        Mergeable cached.segments granted.segments) := by
  let merged : MappedLayout := { cached with
    segments := mergeSegments cached.segments granted.segments
    stateid := granted.stateid
    returnOnClose := cached.returnOnClose || granted.returnOnClose }
  refine ⟨merged, ?_, mergeable_of_mergeLaw hU64, mergeLaw_of_mergeable hU64 hOld hNew⟩
  simp [LayoutCache.mergeLayout, hGeneration, hCached, merged]

/-- A layout of generation 1 with one segment. -/
def oneSegment (offset length : Nat) : MappedLayout where
  generation := 1
  stateid := 0
  returnOnClose := false
  segments := [⟨offset, length, .readWrite, .nfsV41Files, .opaqueBytes []⟩]

/-- A cached segment and an open-ended update behind it, which fits the condition. -/
theorem mergeLayout_law_openEnd :
    ∃ merged, ((LayoutCache.mk 1 (some (oneSegment 0 100))).mergeLayout
        (oneSegment 100 u64Max)).layout = some merged ∧
      (MergeLaw (oneSegment 0 100).segments (oneSegment 100 u64Max).segments merged.segments ↔
        Mergeable (oneSegment 0 100).segments (oneSegment 100 u64Max).segments) ∧
      Mergeable (oneSegment 0 100).segments (oneSegment 100 u64Max).segments := by
  have hMergeable : Mergeable (oneSegment 0 100).segments (oneSegment 100 u64Max).segments := by
    intro old hOld
    obtain rfl := List.mem_singleton.mp hOld
    refine ⟨fun new hNew => ?_, fun new hNew => ?_⟩ <;> obtain rfl := List.mem_singleton.mp hNew
    · exact fun hLast => absurd hLast (by decide)
    · exact fun hInside => absurd hInside (by decide)
  obtain ⟨merged, hMerged, hLaw⟩ := mergeLayout_law (LayoutCache.mk 1 (some (oneSegment 0 100)))
    (oneSegment 0 100) (oneSegment 100 u64Max) rfl rfl (by decide) (List.pairwise_singleton _ _)
    (List.pairwise_singleton _ _)
  exact ⟨merged, hMerged, hLaw, hMergeable⟩

/-- A cached segment to the end of the file and an update at the last offset both stay, and
both cover the last offset. -/
theorem mergeLayout_lastOffset :
    ∃ merged, ((LayoutCache.mk 1 (some (oneSegment 0 u64Max))).mergeLayout
        (oneSegment u64Max 1)).layout = some merged ∧
      (∀ s ∈ (oneSegment 0 u64Max).segments ++ (oneSegment u64Max 1).segments, s.InU64) ∧
      (oneSegment 0 u64Max).segments.Pairwise Apart ∧
      (oneSegment u64Max 1).segments.Pairwise Apart ∧
      ¬ MergeLaw (oneSegment 0 u64Max).segments (oneSegment u64Max 1).segments
        merged.segments := by
  refine ⟨_, rfl, by decide, List.pairwise_singleton _ _, List.pairwise_singleton _ _,
    fun h => ?_⟩
  have hFirst := List.rel_of_pairwise_cons h.apart (List.mem_singleton_self _)
  exact absurd (hFirst u64Max (Nat.le_refl _) (by decide)) (by decide)

end NfsRs.Nfs41
