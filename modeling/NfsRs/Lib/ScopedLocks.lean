import NfsRs.Lib.WaitFor

/-!
# Programs with scoped locks

A program that takes each lock for the extent of a block, as guards that are dropped at the end
of their scope do. Its points are what it may hold and wait for: a block of a lock waits for the
lock, and inside of it the lock is held. Branches and repetitions add no points of their own.

Where every block takes a lock above those around it, parties at any points of such programs have
an acyclic wait-for graph.
-/

namespace NfsRs.Lib

inductive Scoped (ℓ : Type*) where
  | skip
  | hold (l : ℓ) (m : LockMode) (body : Scoped ℓ)
  | seq (first second : Scoped ℓ)
  | choice (left right : Scoped ℓ)
  | loop (body : Scoped ℓ)

/-- The locks held at a point, and the one it waits for. -/
abbrev LockPoint (ℓ : Type*) := List (ℓ × LockMode) × Option (ℓ × LockMode)

/-- Points are their own use of locks. -/
def pointUse (ℓ : Type*) : LockUse (LockPoint ℓ) ℓ where
  holds := Prod.fst
  wants := Prod.snd

namespace Scoped

variable {ℓ : Type*}

/-- Inside of a block its lock is held too. -/
def under (l : ℓ) (m : LockMode) (point : LockPoint ℓ) : LockPoint ℓ :=
  ((l, m) :: point.1, point.2)

def points : Scoped ℓ → List (LockPoint ℓ)
  | skip => [([], none)]
  | hold l m body => ([], some (l, m)) :: body.points.map (under l m)
  | seq first second => first.points ++ second.points
  | choice left right => left.points ++ right.points
  | loop body => ([], none) :: body.points

/-- Every block takes a lock above the floor and above the blocks around it. -/
def Increasing (level : ℓ → Nat) : Nat → Scoped ℓ → Prop
  | _, skip => True
  | floor, hold l _ body => floor < level l ∧ body.Increasing level (level l)
  | floor, seq first second => first.Increasing level floor ∧ second.Increasing level floor
  | floor, choice left right => left.Increasing level floor ∧ right.Increasing level floor
  | floor, loop body => body.Increasing level floor

variable {level : ℓ → Nat}

theorem Increasing.mono {p : Scoped ℓ} {floor floor' : Nat} (h : p.Increasing level floor)
    (hLe : floor' ≤ floor) : p.Increasing level floor' := by
  induction p generalizing floor floor' with
  | skip => trivial
  | hold l m body _ => exact ⟨Nat.lt_of_le_of_lt hLe h.1, h.2⟩
  | seq first second ihFirst ihSecond => exact ⟨ihFirst h.1 hLe, ihSecond h.2 hLe⟩
  | choice left right ihLeft ihRight => exact ⟨ihLeft h.1 hLe, ihRight h.2 hLe⟩
  | loop body ih => exact ih h hLe

/-- At every point, the lock waited for is above the floor and above the locks held. -/
theorem Increasing.above {p : Scoped ℓ} {floor : Nat} (h : p.Increasing level floor)
    {point : LockPoint ℓ} (hPoint : point ∈ p.points) {l' : ℓ} {m' : LockMode}
    (hWants : point.2 = some (l', m')) :
    floor < level l' ∧ ∀ l m, (l, m) ∈ point.1 → level l < level l' := by
  induction p generalizing floor point with
  | skip =>
      obtain rfl := List.mem_singleton.mp hPoint
      cases hWants
  | hold l m body ih =>
      rcases List.mem_cons.mp hPoint with rfl | hInside
      · cases hWants
        exact ⟨h.1, nofun⟩
      · obtain ⟨inner, hInner, rfl⟩ := List.mem_map.mp hInside
        -- inside, the lock taken here is the floor
        obtain ⟨hAbove, hHeld⟩ := ih h.2 hInner hWants
        refine ⟨Nat.lt_trans h.1 hAbove, fun l₀ m₀ hMem => ?_⟩
        rcases List.mem_cons.mp hMem with hEq | hMem
        · cases hEq
          exact hAbove
        · exact hHeld l₀ m₀ hMem
  | seq first second ihFirst ihSecond =>
      rcases List.mem_append.mp hPoint with hIn | hIn
      · exact ihFirst h.1 hIn hWants
      · exact ihSecond h.2 hIn hWants
  | choice left right ihLeft ihRight =>
      rcases List.mem_append.mp hPoint with hIn | hIn
      · exact ihLeft h.1 hIn hWants
      · exact ihRight h.2 hIn hWants
  | loop body ih =>
      rcases List.mem_cons.mp hPoint with rfl | hIn
      · cases hWants
      · exact ih h hIn hWants

/-- **Increasing programs do not wait in a cycle**, wherever they are. -/
theorem acyclic_of_increasing (level : ℓ → Nat) {ps : List (Party (LockPoint ℓ))}
    (h : ∀ P ∈ ps, ∃ p : Scoped ℓ, p.Increasing level 0 ∧ P.point ∈ p.points) (i : Nat) :
    ¬ Relation.TransGen (WaitsFor (pointUse ℓ) ps) i i := by
  have hOrdered : Ordered (pointUse ℓ) level ps := by
    intro _ q _ Q l l' _ t' _ hQ _ hHolds hQueued
    obtain ⟨p, hIncreasing, hPoint⟩ := h Q (List.mem_of_getElem? hQ)
    obtain ⟨m, hMem⟩ := hHolds
    obtain ⟨-, m', hWants⟩ := hQueued
    exact (hIncreasing.above hPoint hWants).2 l m hMem
  exact acyclic_of_levels hOrdered i

end Scoped

end NfsRs.Lib
