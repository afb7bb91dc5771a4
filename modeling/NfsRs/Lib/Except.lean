import Mathlib.Algebra.Order.Ring.Nat

/-!
# Peeling fallible computations

A chain of `Except` steps fails at one of them, or every step succeeds. The lemmas below
take the first step off, so that a proof about a long `do` block follows its statements one
by one.
-/

namespace NfsRs.Lib

universe u v

/-- A chain fails in its head, or in the rest on the value of the head. -/
theorem bind_eq_error_iff {ε : Type u} {α β : Type v} {head : Except ε α}
    {rest : α → Except ε β} {e : ε} :
    (head >>= rest) = .error e ↔
      head = .error e ∨ ∃ a, head = .ok a ∧ rest a = .error e := by
  cases head with
  | error e' => simp [bind, Except.bind]
  | ok a => simp [bind, Except.bind]

/-- A chain succeeds when its head and the rest do. -/
theorem bind_eq_ok_iff {ε : Type u} {α β : Type v} {head : Except ε α}
    {rest : α → Except ε β} {b : β} :
    (head >>= rest) = .ok b ↔ ∃ a, head = .ok a ∧ rest a = .ok b := by
  cases head with
  | error e => simp [bind, Except.bind]
  | ok a => simp [bind, Except.bind]

theorem ok_bind {ε α γ : Type} (x : α) (f : α → Except ε γ) : (Except.ok x >>= f) = f x := rfl

theorem mapError_eq_ok_iff {ε δ : Type u} {α : Type v} {x : Except ε α} {f : ε → δ} {a : α} :
    x.mapError f = .ok a ↔ x = .ok a := by
  cases x with
  | error e => simp [Except.mapError]
  | ok a' => simp [Except.mapError]

theorem eq_ok_of_toOption {ε : Type u} {α : Type v} {x : Except ε α} {a : α}
    (h : x.toOption = some a) : x = .ok a := by
  cases x with
  | error e => cases h
  | ok a' => exact congrArg Except.ok (Option.some.inj h)

end NfsRs.Lib
