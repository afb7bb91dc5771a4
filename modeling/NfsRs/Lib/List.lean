import Mathlib.Algebra.Order.Ring.Nat
import Mathlib.Data.List.Basic

/-!
# Lists of concurrent parties

A system of many parties keeps them in a list and moves one of them at a time with
`List.set`. These are the rules by which a count over the parties, or a property of all of
them, follows such a move, and what a party met after a move was before it.

## Main results

- `countP_set_add` : a count after a move, without subtraction; `countP_set_eq`,
  `countP_set_stop`, `countP_set_start` and `countP_set_le` are its cases.
- `index_unique_of_countP` : a count of at most one is a unique party.
- `forall_mem_set` : a property of all parties holds again if it holds of the moved one.
- `of_getElem?_set`, `of_getElem?_concat` : a party after a move, or after a new one has joined.
- `sum_map_set`, `sum_map_eraseIdx` : a sum over the parties when one moves or leaves.
-/

namespace NfsRs.Lib

variable {α : Type*} {l : List α} {i j : Nat} {a b : α}

/-- A party that counts makes the count positive. -/
theorem countP_pos_of_getElem? {p : α → Bool} (h : l[i]? = some a) (ha : p a = true) :
    0 < l.countP p :=
  List.countP_pos_iff.mpr ⟨a, List.mem_of_getElem? h, ha⟩

/-- The party at `i` moves from `a` to `b`. -/
theorem countP_set_add (p : α → Bool) (h : l[i]? = some a) :
    (l.set i b).countP p + (if p a then 1 else 0) = l.countP p + if p b then 1 else 0 := by
  obtain ⟨hLt, hGet⟩ := List.getElem?_eq_some_iff.mp h
  rw [List.countP_set hLt, hGet]
  have hPos : p a = true → 0 < l.countP p := countP_pos_of_getElem? h
  split
  · have := hPos ‹_›
    omega
  · omega

/-- A move between two that count alike. -/
theorem countP_set_eq (p : α → Bool) (h : l[i]? = some a) (hab : p b = p a) :
    (l.set i b).countP p = l.countP p := by
  have hSet := countP_set_add (b := b) p h
  rw [hab] at hSet
  omega

/-- A move that stops counting. -/
theorem countP_set_stop (p : α → Bool) (h : l[i]? = some a) (ha : p a = true)
    (hb : p b = false) : (l.set i b).countP p + 1 = l.countP p := by
  have hSet := countP_set_add (b := b) p h
  simpa [ha, hb] using hSet

/-- A move that starts counting. -/
theorem countP_set_start (p : α → Bool) (h : l[i]? = some a) (ha : p a = false)
    (hb : p b = true) : (l.set i b).countP p = l.countP p + 1 := by
  have hSet := countP_set_add (b := b) p h
  simpa [ha, hb] using hSet

/-- A move that does not come to count does not raise the count. -/
theorem countP_set_le (p : α → Bool) (h : l[i]? = some a) (hab : p b = true → p a = true) :
    (l.set i b).countP p ≤ l.countP p := by
  have hSet := countP_set_add (b := b) p h
  by_cases hb : p b = true
  · rw [if_pos hb, if_pos (hab hb)] at hSet
    omega
  · rw [if_neg hb] at hSet
    omega

/-- Where at most one party counts, two that count are one. -/
theorem index_unique_of_countP {p : α → Bool} :
    ∀ {l : List α} {i j : Nat}, l.countP p ≤ 1 → l[i]? = some a → p a = true →
      l[j]? = some b → p b = true → i = j
  | x :: l, 0, 0, _, _, _, _, _ => rfl
  | x :: l, 0, j + 1, hLe, hi, ha, hj, hb => by
    have hPos := countP_pos_of_getElem? (l := l) (by simpa using hj) hb
    have hx : x = a := by simpa using hi
    rw [List.countP_cons, hx, if_pos ha] at hLe
    omega
  | x :: l, i + 1, 0, hLe, hi, ha, hj, hb => by
    have hPos := countP_pos_of_getElem? (l := l) (by simpa using hi) ha
    have hx : x = b := by simpa using hj
    rw [List.countP_cons, hx, if_pos hb] at hLe
    omega
  | x :: l, i + 1, j + 1, hLe, hi, ha, hj, hb => by
    rw [List.countP_cons] at hLe
    have hRest : i = j := index_unique_of_countP (l := l) (by omega) (by simpa using hi) ha
      (by simpa using hj) hb
    omega

theorem forall_mem_set {P : α → Prop} (hAll : ∀ x ∈ l, P x) (hb : P b) :
    ∀ x ∈ l.set i b, P x := by
  intro x hx
  rcases List.mem_or_eq_of_mem_set hx with hOld | rfl
  · exact hAll x hOld
  · exact hb

theorem forall_mem_concat {P : α → Prop} (hAll : ∀ x ∈ l, P x) (hb : P b) :
    ∀ x ∈ l ++ [b], P x := by
  intro x hx
  rcases List.mem_append.mp hx with hOld | hNew
  · exact hAll x hOld
  · rw [List.mem_singleton.mp hNew]
    exact hb

/-- The party at `j` is the one that moved, or is as it was. -/
theorem of_getElem?_set (h : (l.set i b)[j]? = some a) :
    j = i ∧ a = b ∨ j ≠ i ∧ l[j]? = some a := by
  by_cases hEq : i = j
  · rw [List.getElem?_set, if_pos hEq] at h
    split at h
    next => exact .inl ⟨hEq.symm, (Option.some.inj h).symm⟩
    next => cases h
  · rw [List.getElem?_set_ne hEq] at h
    exact .inr ⟨fun hji => hEq hji.symm, h⟩

/-- The party at `j` was there before, or is the new one. -/
theorem of_getElem?_concat (h : (l ++ [b])[j]? = some a) :
    l[j]? = some a ∨ j = l.length ∧ a = b := by
  rcases Nat.lt_trichotomy j l.length with hLt | hEq | hGt
  · rw [List.getElem?_append_left hLt] at h
    exact .inl h
  · rw [hEq, List.getElem?_concat_length] at h
    exact .inr ⟨hEq, (Option.some.inj h).symm⟩
  · rw [List.getElem?_eq_none (by simp; omega)] at h
    cases h

/-- A sum over the parties when one moves. -/
theorem sum_map_set (f : α → Nat) (h : l[i]? = some a) :
    ((l.set i b).map f).sum + f a = (l.map f).sum + f b := by
  induction l generalizing i with
  | nil => cases h
  | cons x l ih =>
    cases i with
    | zero =>
      cases h
      simp only [List.set_cons_zero, List.map_cons, List.sum_cons]
      omega
    | succ i =>
      have hRest := ih (i := i) (by simpa using h)
      simp only [List.set_cons_succ, List.map_cons, List.sum_cons]
      omega

/-- A sum over the parties when one leaves. -/
theorem sum_map_eraseIdx (f : α → Nat) (h : l[i]? = some a) :
    ((l.eraseIdx i).map f).sum + f a = (l.map f).sum := by
  induction l generalizing i with
  | nil => cases h
  | cons x l ih =>
    cases i with
    | zero =>
      cases h
      simp only [List.eraseIdx_cons_zero, List.map_cons, List.sum_cons]
      omega
    | succ i =>
      have hRest := ih (i := i) (by simpa using h)
      simp only [List.eraseIdx_cons_succ, List.map_cons, List.sum_cons]
      omega

end NfsRs.Lib
