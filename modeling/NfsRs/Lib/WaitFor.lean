import Mathlib.Logic.Relation
import NfsRs.Lib.List

/-!
# Waiting for locks

Parties hold shared and exclusive locks and queue for one more at a time. Each lock serves its
queue in order, so a queued party waits for the holders of its lock and for those that queued
before it. A party is at a program point; `LockUse` says what each point holds and wants, and a
queued party has a ticket, the lower the earlier.

When a party that holds a lock only queues for locks of a higher level, nobody waits for
itself: along the edges of the graph the level rises, or the lock stays and the tickets fall.

## Main results

- `acyclic_of_levels` : locks taken in the order of their levels leave no cycle.
- `Exclusion.set` : what a grant or a release leaves of the exclusion at a lock.
-/

namespace NfsRs.Lib

inductive LockMode where
  | shared | exclusive
  deriving DecidableEq, Repr

/-- What a program point holds, and the lock it is about to take. -/
structure LockUse (φ ℓ : Type*) where
  holds : φ → List (ℓ × LockMode)
  wants : φ → Option (ℓ × LockMode)

/-- A party at a point, with a ticket while it is queued. -/
structure Party (φ : Type*) where
  point : φ
  ticket : Option Nat
  deriving DecidableEq, Repr

variable {φ ℓ : Type*} (u : LockUse φ ℓ)

def Party.Holds (P : Party φ) (l : ℓ) : Prop := ∃ m, (l, m) ∈ u.holds P.point

/-- The party is in the queue of the lock, with this ticket. -/
def Party.Queued (P : Party φ) (l : ℓ) (t : Nat) : Prop :=
  P.ticket = some t ∧ ∃ m, u.wants P.point = some (l, m)

/-- The wait-for graph: a queued party waits for holders and for those before it. -/
def WaitsFor (ps : List (Party φ)) (p q : Nat) : Prop :=
  ∃ P Q l t, ps[p]? = some P ∧ ps[q]? = some Q ∧ P.Queued u l t ∧
    (Q.Holds u l ∨ ∃ t', Q.Queued u l t' ∧ t' < t)

/-! ## Levels -/

/-- A place in a queue at a level lies further along the graph. -/
def Further (a b : Nat × Nat) : Prop := a.1 < b.1 ∨ a.1 = b.1 ∧ b.2 < a.2

theorem Further.trans {a b c : Nat × Nat} (hab : Further a b) (hbc : Further b c) :
    Further a c := by
  unfold Further at *
  omega

theorem Further.irrefl (a : Nat × Nat) : ¬ Further a a := by
  unfold Further
  omega

variable {u} {ps : List (Party φ)} {level : ℓ → Nat}

theorem Party.Queued.unique {P : Party φ} {l l' : ℓ} {t t' : Nat} (h : P.Queued u l t)
    (h' : P.Queued u l' t') : l = l' ∧ t = t' := by
  obtain ⟨hTicket, m, hWants⟩ := h
  obtain ⟨hTicket', m', hWants'⟩ := h'
  rw [hTicket] at hTicket'
  rw [hWants] at hWants'
  cases hTicket'
  cases hWants'
  exact ⟨rfl, rfl⟩

/-- Nobody queues below a lock it holds while someone else is queued for that lock. -/
def Ordered (u : LockUse φ ℓ) (level : ℓ → Nat) (ps : List (Party φ)) : Prop :=
  ∀ (p q : Nat) (P Q : Party φ) (l l' : ℓ) (t t' : Nat), ps[p]? = some P → ps[q]? = some Q →
    P.Queued u l t → Q.Holds u l → Q.Queued u l' t' → level l < level l'

theorem WaitsFor.further (h : Ordered u level ps) {p q : Nat} (hEdge : WaitsFor u ps p q)
    {P Q : Party φ} (hP : ps[p]? = some P) (hQ : ps[q]? = some Q) {l l' : ℓ} {t t' : Nat}
    (hp : P.Queued u l t) (hq : Q.Queued u l' t') : Further (level l, t) (level l', t') := by
  obtain ⟨P', Q', l₀, t₀, hP', hQ', hp', hBlocks⟩ := hEdge
  rw [hP] at hP'
  rw [hQ] at hQ'
  cases hP'
  cases hQ'
  obtain ⟨rfl, rfl⟩ := hp.unique hp'
  rcases hBlocks with hHolds | ⟨t₁, hq₁, hLt⟩
  · exact .inl (h p q P Q l l' t t' hP hQ hp hHolds hq)
  · obtain ⟨rfl, rfl⟩ := hq.unique hq₁
    exact .inr ⟨rfl, hLt⟩

/-- **Locks in the order of their levels leave no cycle.** -/
theorem acyclic_of_levels (h : Ordered u level ps) (p : Nat) :
    ¬ Relation.TransGen (WaitsFor u ps) p p := by
  -- along a walk to a queued party, its place lies further than the start's
  have hWalk : ∀ q, Relation.TransGen (WaitsFor u ps) p q →
      ∀ P Q l l' t t', ps[p]? = some P → ps[q]? = some Q → P.Queued u l t →
        Q.Queued u l' t' → Further (level l, t) (level l', t') := by
    intro q hWalk
    induction hWalk with
    | single hEdge =>
      intro P Q l l' t t' hP hQ hp hq
      exact hEdge.further h hP hQ hp hq
    | tail _ hEdge ih =>
      intro P Q l l' t t' hP hQ hp hq
      obtain ⟨B, _, lb, tb, hB, _, hb, _⟩ := id hEdge
      exact (ih P B l lb t tb hP hB hp hb).trans (hEdge.further h hB hQ hb hq)
  intro hCycle
  obtain ⟨q, ⟨P, _, l, t, hP, _, hp, _⟩, _⟩ := Relation.TransGen.head'_iff.mp hCycle
  exact (Further.irrefl _) (hWalk p hCycle P P l l t t hP hP hp hp)

/-! ## Grants -/

/-- The exclusive holder of a lock is its only holder. -/
def Exclusion (u : LockUse φ ℓ) (ps : List (Party φ)) (l : ℓ) : Prop :=
  ∀ (p q : Nat) (P Q : Party φ), ps[p]? = some P → ps[q]? = some Q →
    (l, .exclusive) ∈ u.holds P.point → Q.Holds u l → p = q

/-- A party without the lock joins. -/
theorem Exclusion.concat {l : ℓ} (h : Exclusion u ps l) {P' : Party φ}
    (hNone : ¬ P'.Holds u l) : Exclusion u (ps ++ [P']) l := by
  intro p q A B hA hB hExclusive hHolds
  rcases of_getElem?_concat hA with hA | ⟨-, rfl⟩
  · rcases of_getElem?_concat hB with hB | ⟨-, rfl⟩
    · exact h p q A B hA hB hExclusive hHolds
    · exact absurd hHolds hNone
  · exact absurd ⟨_, hExclusive⟩ hNone

section grants

variable [DecidableEq ℓ]

/-- The lock can be held in both modes at once. -/
def LockMode.compatible : LockMode → LockMode → Bool
  | .shared, .shared => true
  | _, _ => false

/-- The holders admit the mode. -/
def admits (u : LockUse φ ℓ) (ps : List (Party φ)) (l : ℓ) (m : LockMode) : Bool :=
  ps.all fun Q => (u.holds Q.point).all fun h => h.1 != l || h.2.compatible m

/-- Nobody is before the ticket in the queue of the lock. -/
def isNext (u : LockUse φ ℓ) (ps : List (Party φ)) (l : ℓ) (t : Nat) : Bool :=
  ps.all fun Q => !(Q.ticket.any (· < t) && (u.wants Q.point).any fun w => w.1 == l)

theorem not_holds_of_admits {l : ℓ} (h : admits u ps l .exclusive = true) {q : Nat} {Q : Party φ}
    (hQ : ps[q]? = some Q) : ¬ Q.Holds u l := by
  rintro ⟨m, hm⟩
  have hAll := List.all_eq_true.mp (List.all_eq_true.mp h Q (List.mem_of_getElem? hQ)) _ hm
  cases m <;> simp [LockMode.compatible] at hAll

/-- A party moves: it keeps or drops the lock, or takes it exclusively when nobody holds it. -/
theorem Exclusion.set {l : ℓ} (h : Exclusion u ps l) {i : Nat} {P P' : Party φ}
    (hP : ps[i]? = some P)
    (hMove : (∀ m, (l, m) ∈ u.holds P'.point → (l, m) ∈ u.holds P.point) ∨
      admits u ps l .exclusive = true) : Exclusion u (ps.set i P') l := by
  intro p q A B hA hB hExclusive hHolds
  rcases of_getElem?_set hA with ⟨rfl, rfl⟩ | ⟨hpi, hOldA⟩
  · rcases of_getElem?_set hB with ⟨rfl, -⟩ | ⟨hqi, hOldB⟩
    · rfl
    · rcases hMove with hKeeps | hAdmits
      · exact h p q P B hP hOldB (hKeeps _ hExclusive) hHolds
      · exact absurd hHolds (not_holds_of_admits hAdmits hOldB)
  · rcases of_getElem?_set hB with ⟨rfl, rfl⟩ | ⟨hqi, hOldB⟩
    · rcases hMove with hKeeps | hAdmits
      · obtain ⟨m, hm⟩ := hHolds
        exact h p q A P hOldA hP hExclusive ⟨m, hKeeps m hm⟩
      · exact absurd ⟨_, hExclusive⟩ (not_holds_of_admits hAdmits hOldA)
    · exact h p q A B hOldA hOldB hExclusive hHolds

end grants

end NfsRs.Lib
