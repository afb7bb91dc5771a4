import NfsRs.Lib.Except

/-!
# Readers and their codes

A reader takes a value off the front of a list and returns the rest. `Decodes r code x` says what
makes `code` a code of `x` for the reader `r`: in front of anything, `r` takes exactly the code
and returns `x`, and it fails on every proper prefix of the code. Codes are closed under
sequencing and repetition, so that a decoder of a nested format is treated field by field.

## Main results

- `Decodes.bind`, `Decodes.times` : codes of sequences and of repetitions.
- `Decodes.lift` : computations that do not read.
- `decodes_of_length` : codes of a fixed length.
-/

namespace NfsRs.Lib

/-- A reader of values from lists of `β`. -/
abbrev Reader (ε β : Type) : Type → Type := StateT (List β) (Except ε)

/-- `code` is a code of `x`, and no prefix of it is read. -/
structure Decodes {ε β α : Type} (r : Reader ε β α) (code : List β) (x : α) : Prop where
  read : ∀ rest, r (code ++ rest) = .ok (x, rest)
  short : ∀ front, front <+: code → front ≠ code → ∃ e, r front = .error e

namespace Reader

variable {ε β α : Type}

/-- The reader `n` times. -/
def times (r : Reader ε β α) : Nat → Reader ε β (List α)
  | 0 => pure []
  | n + 1 => do
    let x ← r
    let xs ← times r n
    return x :: xs

end Reader

theorem Reader.bind_apply {ε β α γ : Type} (r : Reader ε β α) (f : α → Reader ε β γ)
    (l : List β) : (r >>= f) l = r l >>= fun p => f p.1 p.2 := rfl

namespace Decodes

variable {ε β α γ ι : Type} {r : Reader ε β α} {code code' : List β} {x : α} {y : γ}

theorem pure (x : α) : Decodes (Pure.pure x : Reader ε β α) [] x where
  read _ := rfl
  short _ hPrefix hNe := absurd (List.prefix_nil.mp hPrefix) hNe

/-- One reader behind another. -/
theorem bind {f : α → Reader ε β γ} (hr : Decodes r code x) (hf : Decodes (f x) code' y) :
    Decodes (r >>= f) (code ++ code') y where
  read rest := by
    rw [Reader.bind_apply, List.append_assoc, hr.read]
    exact hf.read rest
  short front hPrefix hNe := by
    rw [Reader.bind_apply]
    -- the front ends within the first code, or behind it
    rcases List.prefix_or_prefix_of_prefix hPrefix (List.prefix_append code code') with
      hFirst | ⟨behind, rfl⟩
    · by_cases hAll : front = code
      · subst hAll
        have hNil : code' ≠ [] := fun hNil => hNe (by rw [hNil, List.append_nil])
        obtain ⟨e, he⟩ := hf.short [] List.nil_prefix hNil.symm
        have hRead := hr.read []
        rw [List.append_nil] at hRead
        rw [hRead]
        exact ⟨e, he⟩
      · obtain ⟨e, he⟩ := hr.short front hFirst hAll
        rw [he]
        exact ⟨e, rfl⟩
    · have hBehind : behind <+: code' := (List.prefix_append_right_inj code).mp hPrefix
      obtain ⟨e, he⟩ := hf.short behind hBehind fun h => hNe (by rw [h])
      rw [hr.read]
      exact ⟨e, he⟩

/-- A value computed from what was read. -/
theorem map {f : α → γ} (hr : Decodes r code x) :
    Decodes (r >>= fun a => Pure.pure (f a)) code (f x) := by
  have h := hr.bind (f := fun a => (Pure.pure (f a) : Reader ε β γ)) (.pure (f x))
  rwa [List.append_nil] at h

/-- A computation that does not read. -/
theorem lift {c : Except ε γ} (h : c = .ok y) : Decodes (liftM c : Reader ε β γ) [] y := by
  rw [h]
  exact .pure y

/-- As many codes as the reader is run. -/
theorem times {encode : ι → List β} {value : ι → α} : ∀ {items : List ι},
    (∀ i ∈ items, Decodes r (encode i) (value i)) →
      Decodes (r.times items.length) (items.flatMap encode) (items.map value)
  | [], _ => .pure []
  | i :: items, h => by
    have hFirst := h i List.mem_cons_self
    have hRest : Decodes (r.times items.length) (items.flatMap encode) (items.map value) :=
      times fun j hj => h j (List.mem_cons_of_mem i hj)
    exact hFirst.bind (hRest.map (f := fun as => value i :: as))

end Decodes

/-- A reader that asks for the length of the code first. -/
theorem decodes_of_length {ε β α : Type} {r : Reader ε β α} {code : List β} {x : α}
    (hShort : ∀ l : List β, l.length < code.length → ∃ e, r l = .error e)
    (hRead : ∀ rest, r (code ++ rest) = .ok (x, rest)) : Decodes r code x where
  read := hRead
  short front hPrefix hNe := by
    refine hShort front (Nat.lt_of_le_of_ne hPrefix.length_le fun hLength => ?_)
    exact hNe (hPrefix.eq_of_length hLength)

end NfsRs.Lib
