import NfsRs.Rpc.Mux

/-!
# NfsRs — admission by connection generation

A request is refused for a stopped reader when `failed_generation > generation`. The
refusal is right when the reader of the published connection has indeed stopped, and the
numbering is meant to guarantee it: a published connection has a number of its own, so the
failures of older readers stay at or below it.

Interim connections break the numbering. A reconnect whose handler fails leaves behind a
connection that carries the number of the *next* published one; when its reader fails, the
mark is one too high for the connection published later under that number.

## Main results

- `admissionInv_step` : every step that is no failure of an orphaned connection keeps the
  invariant relating published, interim and failed generations.
- `refuses_imp_readerStopped` : in every run without such a failure, a request is refused
  only if the published connection's reader has stopped.
- `refused_behind_live_reader` : a run in which an orphaned connection's reader fails, and
  the next published connection refuses requests although its reader runs.
-/

namespace NfsRs.Rpc

/-! ## Saturating generations -/

theorem le_saturatingSucc {n : Nat} (h : n ≤ 2 ^ 64 - 1) : n ≤ saturatingSucc n := by
  unfold saturatingSucc
  omega

theorem saturatingSucc_mono {m n : Nat} (h : m ≤ n) : saturatingSucc m ≤ saturatingSucc n := by
  unfold saturatingSucc
  omega

theorem saturatingSucc_le (n : Nat) : saturatingSucc n ≤ 2 ^ 64 - 1 := by
  unfold saturatingSucc
  omega

/-! ## The invariant -/

namespace Mux

/-- The connection that a reconnect has installed and not yet published or given up. -/
def interim? (s : Mux) : Option Nat :=
  match s.reconnect with
  | some ⟨_, .installed c⟩ => some c
  | some ⟨_, .stored c⟩ => some c
  | _ => none

/-- The reader of connection `c` has ended or has been aborted. -/
def readerStopped (s : Mux) (c : Nat) : Prop := (s.conns c).reader ≠ .running

/-- What holds of the failure mark in each phase of a reconnect. Only the reader of the
interim connection may raise it past the next generation. -/
def PhaseInv (s : Mux) : Option Reconnect → Prop
  | none => s.failedGeneration ≤ saturatingSucc s.generation
  | some ⟨g, .connecting⟩ => g ≤ s.generation ∧
      s.failedGeneration ≤ saturatingSucc s.generation
  | some ⟨g, .rebinding⟩ => g = s.generation ∧ s.readerStopped s.published ∧
      s.failedGeneration ≤ saturatingSucc s.generation
  | some ⟨g, .installed c⟩ => g = s.generation ∧ s.readerStopped s.published ∧
      c < s.opened ∧ c ≠ s.published ∧
      (s.conns c).generation = saturatingSucc s.generation ∧
      ((s.conns c).reader = .running → s.handle = some c) ∧
      s.failedGeneration ≤ saturatingSucc (saturatingSucc s.generation) ∧
      (s.failedGeneration ≤ saturatingSucc s.generation ∨ (s.conns c).reader = .failed)
  | some ⟨_, .stored c⟩ => s.readerStopped s.published ∧
      c < s.opened ∧ c ≠ s.published ∧ (s.conns c).generation = s.generation ∧
      saturatingSucc (s.conns s.published).generation ≤ s.generation ∧
      ((s.conns c).reader = .running → s.handle = some c) ∧
      s.failedGeneration ≤ saturatingSucc s.generation ∧
      (s.failedGeneration ≤ s.generation ∨ (s.conns c).reader = .failed)

end Mux

/-- Published, interim and failed generations. -/
structure AdmissionInv (s : Mux) : Prop where
  isOpen : s.published < s.opened
  bounded : s.generation ≤ 2 ^ 64 - 1
  seen : ∀ g ∈ s.observed, g ≤ s.generation
  publishedGen : (s.conns s.published).generation ≤ s.generation
  /-- Every other connection that is neither interim nor orphaned has an older number. -/
  others : ∀ c, c < s.opened → c ≠ s.published → (s.conns c).orphaned = false →
    s.interim? ≠ some c → saturatingSucc (s.conns c).generation ≤ s.generation
  held : (s.conns s.published).reader = .running → s.handle = some s.published
  admits : s.generation < s.failedGeneration → s.readerStopped s.published
  phase : s.PhaseInv s.reconnect

/-- The steps after which the numbering stays sound: no connection whose reconnect handler
failed has its reader fail, neither later nor before the handler gives up. -/
def NoOrphanFailure (s : Mux) : MuxEvent → Prop
  | .readerFail c => (s.conns c).orphaned = false
  | .handlerErr => ∀ g c, s.reconnect = some ⟨g, .installed c⟩ → (s.conns c).reader ≠ .failed
  | _ => True

theorem admissionInv_connect : AdmissionInv .connect where
  isOpen := by decide
  bounded := by decide
  seen := by simp [Mux.connect]
  publishedGen := by decide
  others := by
    intro c hc hne
    simp only [Mux.connect] at hc hne
    omega
  held := fun _ => rfl
  admits := by simp [Mux.connect]
  phase := by simp [Mux.PhaseInv, Mux.connect]

/-! ## Reader failures and aborts -/

namespace Mux

@[simp] theorem failReader_reader_self (s : Mux) (c : Nat) :
    ((s.failReader c).conns c).reader = .failed := by
  simp [failReader]

variable {x : Nat} {s : Mux}

theorem failReader_conns_ne (s : Mux) {c : Nat} (h : x ≠ c) :
    (s.failReader c).conns x = s.conns x := by
  simp [failReader, h]

@[simp] theorem failReader_generation (s : Mux) (c x : Nat) :
    ((s.failReader c).conns x).generation = (s.conns x).generation := by
  by_cases h : x = c
  · subst h
    simp [failReader]
  · rw [failReader_conns_ne s h]

@[simp] theorem failReader_orphaned (s : Mux) (c x : Nat) :
    ((s.failReader c).conns x).orphaned = (s.conns x).orphaned := by
  by_cases h : x = c
  · subst h
    simp [failReader]
  · rw [failReader_conns_ne s h]

/-- A failure stops one more reader and starts none. -/
theorem failReader_stopped (c : Nat) (h : s.readerStopped x) :
    (s.failReader c).readerStopped x := by
  unfold readerStopped
  by_cases hx : x = c
  · subst hx
    simp
  · rw [failReader_conns_ne s hx]
    exact h

theorem failReader_running {c : Nat} (h : ((s.failReader c).conns x).reader = .running) :
    (s.conns x).reader = .running := by
  by_contra hne
  exact failReader_stopped c hne h

theorem failReader_failed (c : Nat) (h : (s.conns x).reader = .failed) :
    ((s.failReader c).conns x).reader = .failed := by
  by_cases hx : x = c
  · subst hx
    simp
  · rw [failReader_conns_ne s hx]
    exact h

end Mux

variable {s : Mux} {c g : Nat}

/-- The failure of a connection that is neither interim nor orphaned marks at most the
next generation. -/
theorem AdmissionInv.mark_le (h : AdmissionInv s) (hc : c < s.opened)
    (hOrphan : (s.conns c).orphaned = false) (hInterim : s.interim? ≠ some c) :
    saturatingSucc (s.conns c).generation ≤ saturatingSucc s.generation := by
  by_cases hp : c = s.published
  · subst hp
    exact saturatingSucc_mono h.publishedGen
  · exact le_trans (h.others c hc hp hOrphan hInterim) (le_saturatingSucc h.bounded)

/-- While a connection is interim, the published reader is stopped. -/
theorem AdmissionInv.stopped_of_interim (h : AdmissionInv s) (hInterim : s.interim? = some c) :
    s.readerStopped s.published := by
  have hPhase := h.phase
  unfold Mux.interim? at hInterim
  split at hInterim
  · rename_i g c' hr
    rw [hr] at hPhase
    exact hPhase.2.1
  · rename_i g c' hr
    rw [hr] at hPhase
    exact hPhase.1
  · cases hInterim

/-- A failed reader marks the generation behind its own; the reconnect that is under way allows
for the mark of the connection it has installed. -/
theorem phaseInv_failReader (h : AdmissionInv s) (hc : c < s.opened)
    (hOrphan : (s.conns c).orphaned = false) : (s.failReader c).PhaseInv s.reconnect := by
  have hPhase := h.phase
  have hMark : (s.failReader c).failedGeneration =
      max s.failedGeneration (saturatingSucc (s.conns c).generation) := rfl
  have hUp := le_saturatingSucc (saturatingSucc_le s.generation)
  rcases hr : s.reconnect with _ | ⟨g, phase⟩
  · have hLe := h.mark_le hc hOrphan (by simp [Mux.interim?, hr])
    rw [hr] at hPhase
    simp only [Mux.PhaseInv] at hPhase ⊢
    rw [hMark]
    exact max_le hPhase hLe
  · cases phase with
    | connecting =>
      have hLe := h.mark_le hc hOrphan (by simp [Mux.interim?, hr])
      rw [hr] at hPhase
      exact ⟨hPhase.1, hMark ▸ max_le hPhase.2 hLe⟩
    | rebinding =>
      have hLe := h.mark_le hc hOrphan (by simp [Mux.interim?, hr])
      rw [hr] at hPhase
      exact ⟨hPhase.1, Mux.failReader_stopped c hPhase.2.1, hMark ▸ max_le hPhase.2.2 hLe⟩
    | installed i =>
      rw [hr] at hPhase
      obtain ⟨hg, hStop, hi, hne, hGen, hHandle, hTwo, hOne⟩ := hPhase
      refine ⟨hg, Mux.failReader_stopped c hStop, hi, hne, ?_, ?_, ?_, ?_⟩
      · rw [Mux.failReader_generation]
        exact hGen
      · exact fun hrun => hHandle (Mux.failReader_running hrun)
      -- only the installed connection itself can mark the generation about to be stored
      · rw [hMark]
        by_cases hci : c = i
        · rw [hci, hGen]
          exact max_le hTwo le_rfl
        · have hLe := h.mark_le hc hOrphan (by simp [Mux.interim?, hr, Ne.symm hci])
          exact max_le hTwo (le_trans hLe hUp)
      · by_cases hci : c = i
        · exact .inr (by rw [hci, Mux.failReader_reader_self])
        · have hLe := h.mark_le hc hOrphan (by simp [Mux.interim?, hr, Ne.symm hci])
          rcases hOne with hOne | hFailed
          · exact .inl (hMark ▸ max_le hOne hLe)
          · exact .inr (Mux.failReader_failed c hFailed)
    | stored i =>
      rw [hr] at hPhase
      obtain ⟨hStop, hi, hne, hGen, hOld, hHandle, hTwo, hOne⟩ := hPhase
      refine ⟨Mux.failReader_stopped c hStop, hi, hne, ?_, ?_, ?_, ?_, ?_⟩
      · rw [Mux.failReader_generation]
        exact hGen
      · rw [Mux.failReader_generation]
        exact hOld
      · exact fun hrun => hHandle (Mux.failReader_running hrun)
      · rw [hMark]
        by_cases hci : c = i
        · rw [hci, hGen]
          exact max_le hTwo le_rfl
        · exact max_le hTwo (h.mark_le hc hOrphan (by simp [Mux.interim?, hr, Ne.symm hci]))
      · by_cases hci : c = i
        · exact .inr (by rw [hci, Mux.failReader_reader_self])
        · -- neither the old published connection nor an older one reaches this generation
          have hLe : saturatingSucc (s.conns c).generation ≤ s.generation := by
            by_cases hp : c = s.published
            · rw [hp]
              exact hOld
            · exact h.others c hc hp hOrphan (by simp [Mux.interim?, hr, Ne.symm hci])
          rcases hOne with hOne | hFailed
          · exact .inl (hMark ▸ max_le hOne hLe)
          · exact .inr (Mux.failReader_failed c hFailed)

/-- A reader fails and marks its generation. -/
theorem admissionInv_failReader (h : AdmissionInv s) (hc : c < s.opened)
    (hOrphan : (s.conns c).orphaned = false) : AdmissionInv (s.failReader c) where
  isOpen := h.isOpen
  bounded := h.bounded
  seen := h.seen
  publishedGen := by
    rw [Mux.failReader_generation]
    exact h.publishedGen
  others := by
    intro x hx hne hOrph hInt
    rw [Mux.failReader_orphaned] at hOrph
    rw [Mux.failReader_generation]
    exact h.others x hx hne hOrph hInt
  held := fun hrun => h.held (Mux.failReader_running hrun)
  admits := by
    intro hlt
    change s.generation < max s.failedGeneration _ at hlt
    by_cases hp : c = s.published
    · subst hp
      simp [Mux.readerStopped, Mux.failReader]
    · by_cases hInt : s.interim? = some c
      · exact Mux.failReader_stopped c (h.stopped_of_interim hInt)
      · have hOld := h.others c hc hp hOrphan hInt
        exact Mux.failReader_stopped c (h.admits (by omega))
  phase := phaseInv_failReader h hc hOrphan

namespace Mux

/-- What an abort leaves alone: everything but the reader and the handle. -/
theorem abortReader_frame (s : Mux) :
    s.abortReader.generation = s.generation ∧
      s.abortReader.failedGeneration = s.failedGeneration ∧
      s.abortReader.published = s.published ∧ s.abortReader.opened = s.opened ∧
      s.abortReader.observed = s.observed ∧ s.abortReader.reconnect = s.reconnect := by
  unfold abortReader
  split
  · exact ⟨rfl, rfl, rfl, rfl, rfl, rfl⟩
  · exact ⟨rfl, rfl, rfl, rfl, rfl, rfl⟩

theorem abortReader_conn (s : Mux) (x : Nat) :
    (s.abortReader.conns x).generation = (s.conns x).generation ∧
      (s.abortReader.conns x).orphaned = (s.conns x).orphaned := by
  unfold abortReader
  split
  · exact ⟨rfl, rfl⟩
  · rename_i c hc
    by_cases hx : x = c
    · subst hx
      simp
    · simp [hx]

/-- No reader that the handle names runs behind an abort. -/
theorem abortReader_running {s : Mux} {x : Nat}
    (h : (s.abortReader.conns x).reader = .running) :
    (s.conns x).reader = .running ∧ s.handle ≠ some x := by
  unfold abortReader at h
  split at h
  · rename_i hNone
    exact ⟨h, by simp [hNone]⟩
  · rename_i c hc
    by_cases hx : x = c
    · subst hx
      simp only [Function.update_self] at h
      split at h
      · cases h
      · contradiction
    · simp only [Function.update_of_ne hx] at h
      exact ⟨h, by simp [hc, Ne.symm hx]⟩

theorem abortReader_failed {s : Mux} {x : Nat} (h : (s.conns x).reader = .failed) :
    (s.abortReader.conns x).reader = .failed := by
  unfold abortReader
  split
  · exact h
  · rename_i c hc
    by_cases hx : x = c
    · subst hx
      simp [h]
    · simp [hx, h]

end Mux

/-- Behind an abort the published reader does not run. -/
theorem AdmissionInv.abortReader_published (h : AdmissionInv s) :
    s.abortReader.readerStopped s.published := by
  intro hrun
  obtain ⟨hrun', hHandle⟩ := Mux.abortReader_running hrun
  exact hHandle (h.held hrun')

/-- An aborted reader keeps what the reconnect has established. -/
theorem phaseInv_abortReader (h : AdmissionInv s) : s.abortReader.PhaseInv s.reconnect := by
  obtain ⟨hGen, hFail, hPub, hOpen, -, -⟩ := s.abortReader_frame
  have hPhase := h.phase
  rcases hr : s.reconnect with _ | ⟨g, phase⟩
  · rw [hr] at hPhase
    simpa only [Mux.PhaseInv, hGen, hFail] using hPhase
  · rw [hr] at hPhase
    cases phase with
    | connecting => simpa only [Mux.PhaseInv, hGen, hFail] using hPhase
    | rebinding =>
      simp only [Mux.PhaseInv, hGen, hFail, hPub] at hPhase ⊢
      exact ⟨hPhase.1, h.abortReader_published, hPhase.2.2⟩
    | installed i =>
      simp only [Mux.PhaseInv, hGen, hFail, hPub, hOpen,
        (s.abortReader_conn i).1] at hPhase ⊢
      obtain ⟨hg, -, hi, hne, hGenI, hHandle, hTwo, hOne⟩ := hPhase
      refine ⟨hg, h.abortReader_published, hi, hne, hGenI, fun hrun => ?_, hTwo,
        hOne.imp_right Mux.abortReader_failed⟩
      obtain ⟨hrun', hNe⟩ := Mux.abortReader_running hrun
      exact absurd (hHandle hrun') hNe
    | stored i =>
      simp only [Mux.PhaseInv, hGen, hFail, hPub, hOpen, (s.abortReader_conn i).1,
        (s.abortReader_conn s.published).1] at hPhase ⊢
      obtain ⟨-, hi, hne, hGenI, hOld, hHandle, hTwo, hOne⟩ := hPhase
      refine ⟨h.abortReader_published, hi, hne, hGenI, hOld, fun hrun => ?_, hTwo,
        hOne.imp_right Mux.abortReader_failed⟩
      obtain ⟨hrun', hNe⟩ := Mux.abortReader_running hrun
      exact absurd (hHandle hrun') hNe

/-- The reader in the handle is aborted. -/
theorem admissionInv_abortReader (h : AdmissionInv s) : AdmissionInv s.abortReader := by
  obtain ⟨hGen, hFail, hPub, hOpen, hObs, hRec⟩ := s.abortReader_frame
  have hInterim : s.abortReader.interim? = s.interim? := by
    unfold Mux.interim?
    rw [hRec]
  constructor
  · rw [hPub, hOpen]
    exact h.isOpen
  · rw [hGen]
    exact h.bounded
  · rw [hObs, hGen]
    exact h.seen
  · rw [hPub, hGen, (s.abortReader_conn _).1]
    exact h.publishedGen
  · intro x hx hne hOrph hInt
    rw [hOpen] at hx
    rw [hPub] at hne
    rw [(s.abortReader_conn x).2] at hOrph
    rw [hInterim] at hInt
    rw [hGen, (s.abortReader_conn x).1]
    exact h.others x hx hne hOrph hInt
  · rw [hPub]
    exact fun hrun => absurd hrun h.abortReader_published
  · rw [hPub]
    exact fun _ => h.abortReader_published
  · rw [hRec]
    exact phaseInv_abortReader h

/-! ## The phases of a reconnect -/

/-- Moving between phases without an interim connection. -/
theorem admissionInv_setReconnect (h : AdmissionInv s) (hInt : s.interim? = none)
    (readiness : Readiness) {r : Option Reconnect} (hPhase : s.PhaseInv r) :
    AdmissionInv { s with readiness := readiness, reconnect := r } where
  isOpen := h.isOpen
  bounded := h.bounded
  seen := h.seen
  publishedGen := h.publishedGen
  others := fun c hc hne hOrph _ => h.others c hc hne hOrph (by simp [hInt])
  held := h.held
  admits := h.admits
  phase := by
    rcases r with _ | ⟨g, phase⟩
    · exact hPhase
    · cases phase <;> exact hPhase

/-- The new connection has a fresh name, so every older one keeps its facts. -/
theorem admissionInv_install (h : AdmissionInv s) (hr : s.reconnect = some ⟨g, .rebinding⟩) :
    AdmissionInv (s.install g) := by
  have hPhase := h.phase
  rw [hr] at hPhase
  obtain ⟨hg, hStop, hMark⟩ := hPhase
  have hOld : ∀ x, x < s.opened → (s.install g).conns x = s.conns x := by
    intro x hx
    simp [Mux.install, Nat.ne_of_lt hx]
  have hPub := hOld s.published h.isOpen
  have hNew : (s.install g).conns s.opened =
      { generation := saturatingSucc g, reader := .running, orphaned := false } := by
    simp [Mux.install]
  constructor
  · exact Nat.lt_succ_of_lt h.isOpen
  · exact h.bounded
  · exact h.seen
  · change ((s.install g).conns s.published).generation ≤ s.generation
    rw [hPub]
    exact h.publishedGen
  · intro x hx hne hOrph hInt
    -- the new connection is the interim one, which this part leaves out
    have hx' : x < s.opened := by
      rcases Nat.lt_succ_iff_lt_or_eq.mp hx with hlt | heq
      · exact hlt
      · exact absurd (congrArg some heq.symm) hInt
    rw [hOld x hx'] at hOrph ⊢
    exact h.others x hx' hne hOrph (by simp [Mux.interim?, hr])
  · change ((s.install g).conns s.published).reader = .running → _
    rw [hPub]
    exact fun hrun => absurd hrun hStop
  · intro _
    change ((s.install g).conns s.published).reader ≠ .running
    rw [hPub]
    exact hStop
  · change g = s.generation ∧ ((s.install g).conns s.published).reader ≠ .running ∧
      s.opened < s.opened + 1 ∧ s.opened ≠ s.published ∧
      ((s.install g).conns s.opened).generation = saturatingSucc s.generation ∧
      (((s.install g).conns s.opened).reader = .running → some s.opened = some s.opened) ∧
      s.failedGeneration ≤ saturatingSucc (saturatingSucc s.generation) ∧
      (s.failedGeneration ≤ saturatingSucc s.generation ∨
        ((s.install g).conns s.opened).reader = .failed)
    rw [hPub, hNew]
    have hUp := le_saturatingSucc (saturatingSucc_le s.generation)
    exact ⟨hg, hStop, Nat.lt_succ_self _, (Nat.ne_of_lt h.isOpen).symm, by rw [hg],
      fun _ => rfl, le_trans hMark hUp, .inl hMark⟩

/-- The new generation is stored: every published number so far is older. -/
theorem admissionInv_store (h : AdmissionInv s) (hr : s.reconnect = some ⟨g, .installed c⟩) :
    AdmissionInv { s with
      generation := saturatingSucc g
      reconnect := some { failedGen := g, phase := .stored c } } := by
  have hPhase := h.phase
  rw [hr] at hPhase
  obtain ⟨rfl, hStop, hc, hne, hGen, hHandle, hTwo, hOne⟩ := hPhase
  have hUp := le_saturatingSucc h.bounded
  constructor
  · exact h.isOpen
  · exact saturatingSucc_le _
  · exact fun g hg => le_trans (h.seen g hg) hUp
  · exact le_trans h.publishedGen hUp
  · intro x hx hne' hOrph hInt
    refine le_trans (h.others x hx hne' hOrph ?_) hUp
    simpa [Mux.interim?, hr] using hInt
  · exact h.held
  · exact fun _ => hStop
  · exact ⟨hStop, hc, hne, hGen, saturatingSucc_mono h.publishedGen, hHandle, hTwo, hOne⟩

/-- The new connection becomes the published one. -/
theorem admissionInv_publish (h : AdmissionInv s) (hr : s.reconnect = some ⟨g, .stored c⟩) :
    AdmissionInv { s with readiness := .ready, published := c, reconnect := none } := by
  have hPhase := h.phase
  rw [hr] at hPhase
  obtain ⟨hStop, hc, hne, hGen, hOld, hHandle, hTwo, hOne⟩ := hPhase
  constructor
  · exact hc
  · exact h.bounded
  · exact h.seen
  · exact le_of_eq hGen
  · intro x hx hne' hOrph _
    by_cases hp : x = s.published
    · rw [hp]
      exact hOld
    · exact h.others x hx hp hOrph (by simpa [Mux.interim?, hr] using Ne.symm hne')
  · exact hHandle
  · intro hlt
    rcases hOne with hOne | hFailed
    · exact absurd hOne (Nat.not_le.mpr hlt)
    · simp [Mux.readerStopped, hFailed]
  · exact hTwo

/-- A connection given up whose reader has not failed leaves the mark where it was. -/
theorem admissionInv_orphan (h : AdmissionInv s) (hr : s.reconnect = some ⟨g, .installed c⟩)
    (hAlive : (s.conns c).reader ≠ .failed) : AdmissionInv (s.orphan c) := by
  have hPhase := h.phase
  rw [hr] at hPhase
  obtain ⟨hg, hStop, hc, hne, hGen, hHandle, hTwo, hOne⟩ := hPhase
  have hOld : ∀ x, x ≠ c → (s.orphan c).conns x = s.conns x := by
    intro x hx
    simp [Mux.orphan, hx]
  have hPub := hOld s.published (Ne.symm hne)
  constructor
  · exact h.isOpen
  · exact h.bounded
  · exact h.seen
  · change ((s.orphan c).conns s.published).generation ≤ s.generation
    rw [hPub]
    exact h.publishedGen
  · intro x hx hne' hOrph _
    -- the one that was given up is an orphan now
    by_cases hxc : x = c
    · subst hxc
      simp [Mux.orphan] at hOrph
    · rw [hOld x hxc] at hOrph ⊢
      exact h.others x hx hne' hOrph (by simpa [Mux.interim?, hr] using Ne.symm hxc)
  · change ((s.orphan c).conns s.published).reader = .running → _
    rw [hPub]
    exact fun hrun => absurd hrun hStop
  · intro _
    change ((s.orphan c).conns s.published).reader ≠ .running
    rw [hPub]
    exact hStop
  · exact hOne.resolve_right hAlive

/-- Taking the old reader off and announcing the rebind. -/
theorem admissionInv_swap (h : AdmissionInv s) (hr : s.reconnect = some ⟨g, .connecting⟩)
    (hGen : ¬ s.generation > g) :
    AdmissionInv { s.abortReader with
      readiness := .rebinding
      reconnect := some { failedGen := g, phase := .rebinding } } := by
  obtain ⟨hGenEq, hFail, hPub, -, -, hRec⟩ := s.abortReader_frame
  have hPhase := h.phase
  rw [hr] at hPhase
  refine admissionInv_setReconnect (admissionInv_abortReader h)
    (by simp [Mux.interim?, hRec, hr]) .rebinding ?_
  simp only [Mux.PhaseInv, hGenEq, hFail, hPub]
  exact ⟨le_antisymm hPhase.1 (Nat.not_lt.mp hGen), h.abortReader_published, hPhase.2⟩

/-- **One step.** Every step that is no failure of an orphaned connection keeps the
invariant. -/
theorem admissionInv_step {s' : Mux} {a : MuxEvent} (h : AdmissionInv s) (hok : NoOrphanFailure s a)
    (hstep : s.step a = some s') : AdmissionInv s' := by
  cases a with
  | observe =>
    cases hstep
    refine ⟨h.isOpen, h.bounded, ?_, h.publishedGen, h.others, h.held, h.admits, ?_⟩
    · intro g hg
      rcases List.mem_cons.mp hg with rfl | hg
      · exact le_rfl
      · exact h.seen g hg
    · have hPhase := h.phase
      rcases hr : s.reconnect with _ | ⟨g, phase⟩
      · rw [hr] at hPhase
        exact hPhase
      · rw [hr] at hPhase
        cases phase <;> exact hPhase
  | readerFail c =>
    simp only [Mux.step] at hstep
    split at hstep
    · rename_i hc
      cases hstep
      exact admissionInv_failReader h hc.1 hok
    · cases hstep
  | lockReconnect g =>
    simp only [Mux.step] at hstep
    split at hstep
    · rename_i hg
      split at hstep
      · cases hstep
        exact h
      · cases hstep
        have hPhase := h.phase
        rw [hg.2] at hPhase
        exact admissionInv_setReconnect h (by simp [Mux.interim?, hg.2]) s.readiness
          ⟨h.seen g hg.1, hPhase⟩
    · cases hstep
  | connectFail =>
    simp only [Mux.step] at hstep
    split at hstep
    · rename_i g hr
      cases hstep
      have hPhase := h.phase
      rw [hr] at hPhase
      exact admissionInv_setReconnect h (by simp [Mux.interim?, hr]) s.readiness hPhase.2
    · cases hstep
  | swap =>
    simp only [Mux.step] at hstep
    split at hstep
    -- `connecting`: the generation is compared again before the old reader is aborted
    · rename_i g hr
      have hPhase := h.phase
      rw [hr] at hPhase
      split at hstep
      · cases hstep
        exact admissionInv_setReconnect h (by simp [Mux.interim?, hr]) s.readiness hPhase.2
      · rename_i hGen
        cases hstep
        exact admissionInv_swap h hr (fun hlt => hGen (.inl hlt))
    · cases hstep
  | install =>
    simp only [Mux.step] at hstep
    split at hstep
    · rename_i g hr
      cases hstep
      exact admissionInv_install h hr
    · cases hstep
  | handlerOk =>
    simp only [Mux.step] at hstep
    split at hstep
    · rename_i g c hr
      cases hstep
      exact admissionInv_store h hr
    · cases hstep
  | handlerErr =>
    simp only [Mux.step] at hstep
    split at hstep
    · rename_i g c hr
      cases hstep
      exact admissionInv_orphan h hr (hok g c hr)
    · cases hstep
  | publish =>
    simp only [Mux.step] at hstep
    split at hstep
    · rename_i g c hr
      cases hstep
      exact admissionInv_publish h hr
    · cases hstep
  -- the reader is aborted, not failed, so no generation is marked
  | shutdown =>
    cases hstep
    have hAbort := admissionInv_abortReader h
    refine ⟨hAbort.isOpen, hAbort.bounded, hAbort.seen, hAbort.publishedGen, hAbort.others,
      hAbort.held, hAbort.admits, ?_⟩
    have hPhase := hAbort.phase
    rcases hr : s.abortReader.reconnect with _ | ⟨g, phase⟩
    · rw [hr] at hPhase
      exact hPhase
    · rw [hr] at hPhase
      cases phase <;> exact hPhase

/-- **Admission.** In every run in which no orphaned connection's reader fails, a request
is refused for a stopped reader only if the reader of the published connection has
stopped. -/
theorem refuses_imp_readerStopped {s : Mux} (h : muxMachine.ReachableIf NoOrphanFailure s)
    (hRefuses : s.refuses = true) : (s.conns s.published).reader ≠ .running := by
  have hInv : AdmissionInv s := h.invariant admissionInv_connect
    (fun _ _ _ _ hok hstep hInv => admissionInv_step hInv hok hstep)
  exact hInv.admits (by simpa [Mux.refuses] using hRefuses)

instance (s : Mux) : (a : MuxEvent) → Decidable (NoOrphanFailure s a)
  | .readerFail c => inferInstanceAs (Decidable ((s.conns c).orphaned = false))
  | .handlerErr =>
    match hr : s.reconnect with
    | some ⟨_, .installed c⟩ => decidable_of_iff ((s.conns c).reader ≠ .failed)
        ⟨fun h _ _ hr' => by cases hr.symm.trans hr'; exact h, fun h => h _ _ hr⟩
    | none => .isTrue fun _ _ hr' => nomatch hr.symm.trans hr'
    | some ⟨_, .connecting⟩ => .isTrue fun _ _ hr' => nomatch hr.symm.trans hr'
    | some ⟨_, .rebinding⟩ => .isTrue fun _ _ hr' => nomatch hr.symm.trans hr'
    | some ⟨_, .stored _⟩ => .isTrue fun _ _ hr' => nomatch hr.symm.trans hr'
  | .observe | .lockReconnect _ | .connectFail | .swap | .install | .handlerOk | .publish
  | .shutdown => .isTrue trivial

/-- The first reader fails; the handler gives connection 1 up while its reader runs, the next
reconnect publishes connection 2, and then the reader of that one fails. -/
def republishedRun : List MuxEvent :=
  [.readerFail 0, .observe, .lockReconnect 0, .swap, .install, .handlerErr,
   .lockReconnect 0, .swap, .install, .handlerOk, .publish, .readerFail 2]

/-- Behind the reconnects requests are refused, and rightly so. -/
theorem refuses_after_readerFail :
    ∃ s, muxMachine.ReachableIf NoOrphanFailure s ∧ s.published = 2 ∧ s.readiness = .ready ∧
      s.refuses = true ∧ (s.conns s.published).reader ≠ .running := by
  obtain ⟨s, hRun, hPublished, hReady, hRefuses⟩ : ∃ s,
      muxMachine.runChecked NoOrphanFailure muxMachine.init republishedRun = some s ∧
      s.published = 2 ∧ s.readiness = .ready ∧ s.refuses = true := ⟨_, rfl, by decide⟩
  have hReach := Lib.Machine.reachableIf_of_runChecked republishedRun .init hRun
  exact ⟨s, hReach, hPublished, hReady, hRefuses, refuses_imp_readerStopped hReach hRefuses⟩

/-- The reader of the first connection fails; the reconnect installs connection 1, whose
reader fails too, and its handler gives up; the next reconnect for the same generation
installs and publishes connection 2. -/
def orphanFailureRun : List MuxEvent :=
  [.readerFail 0, .observe, .lockReconnect 0, .swap, .install, .readerFail 1, .handlerErr,
   .lockReconnect 0, .swap, .install, .handlerOk, .publish]

/-- Connection 2 is published as generation 1 and its reader runs, but the orphaned
connection's failure mark is 2, so requests are refused. -/
theorem refused_behind_live_reader :
    ∃ s, muxMachine.Reachable s ∧ s.refuses = true ∧ s.readiness = .ready ∧
      (s.conns s.published).reader = .running := by
  obtain ⟨s, hrun, hs⟩ : ∃ s, muxMachine.runFrom muxMachine.init orphanFailureRun = some s ∧
      (s.refuses = true ∧ s.readiness = .ready ∧ (s.conns s.published).reader = .running) :=
    ⟨_, rfl, by decide⟩
  exact ⟨s, Lib.Machine.reachable_of_runFrom _ hrun, hs⟩

end NfsRs.Rpc
