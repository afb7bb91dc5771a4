import NfsRs.Lib.Reader

/-!
# Codecs

A codec is an encoding together with a reader of it. Lengths are written in front of what they
count, in a field of limited width, so an encoding can only be read back as long as it is short
enough: `decodes` asks for a code below `bound`. A part of a code is no longer than the code, so
that the bound on the whole is all that ever has to be known.

## Main definitions

- `Codec.pair`, `Codec.sigma`, `Codec.array` : sequences, discriminated unions and counted arrays.
- `Codec.tagged`, `Codec.either`, `Codec.special` : unions of one arm, of two, and of one arm with
  every other discriminant standing for itself.
-/

namespace NfsRs.Lib

/-- What follows the reader reads nothing more. -/
theorem Decodes.last {ε β α γ : Type} {r : Reader ε β α} {f : α → Reader ε β γ} {code : List β}
    {x : α} {y : γ} (hr : Decodes r code x) (hf : Decodes (f x) [] y) :
    Decodes (r >>= f) code y := by
  have h := hr.bind hf
  rwa [List.append_nil] at h

/-- An encoding of `α` in `β`, and the reader of its codes below `bound`. -/
structure Codec (ε β : Type) (bound : Nat) (α : Type) where
  encode : α → List β
  read : Reader ε β α
  decodes : ∀ x, (encode x).length < bound → Decodes read (encode x) x

namespace Codec

variable {ε β α γ τ : Type} {bound : Nat}

/-- Nothing is written. -/
def unit : Codec ε β bound Unit where
  encode _ := []
  read := pure ()
  decodes _ _ := .pure ()

/-- A discriminant, and the arm it chooses. -/
def sigma {V : τ → Type} (tag : Codec ε β bound τ) (arm : (t : τ) → Codec ε β bound (V t)) :
    Codec ε β bound (Σ t, V t) where
  encode x := tag.encode x.1 ++ (arm x.1).encode x.2
  read := do
    let t ← tag.read
    let v ← (arm t).read
    return ⟨t, v⟩
  decodes x h := by
    rw [List.length_append] at h
    have hTag := tag.decodes x.1 (by omega)
    have hArm := (arm x.1).decodes x.2 (by omega)
    exact hTag.bind hArm.map

def pair (a : Codec ε β bound α) (c : Codec ε β bound γ) : Codec ε β bound (α × γ) where
  encode x := a.encode x.1 ++ c.encode x.2
  read := do
    let first ← a.read
    let second ← c.read
    return (first, second)
  decodes x h := by
    rw [List.length_append] at h
    have hFirst := a.decodes x.1 (by omega)
    have hSecond := c.decodes x.2 (by omega)
    exact hFirst.bind hSecond.map

/-- A list of items that all take room is no longer than its code. -/
theorem length_le_flatMap {c : Codec ε β bound α} (hItem : ∀ x, c.encode x ≠ []) (l : List α) :
    l.length ≤ (l.flatMap c.encode).length := by
  induction l with
  | nil => exact Nat.zero_le _
  | cons x l ih =>
    have hPos := List.length_pos_iff.mpr (hItem x)
    rw [List.flatMap_cons, List.length_append, List.length_cons]
    omega

theorem length_le_of_mem {c : Codec ε β bound α} {l : List α} {x : α} (h : x ∈ l) :
    (c.encode x).length ≤ (l.flatMap c.encode).length := by
  obtain ⟨before, after, rfl⟩ := List.append_of_mem h
  rw [List.flatMap_append, List.flatMap_cons, List.length_append, List.length_append]
  omega

/-- The number of items, and the items. -/
def array (count : Nat → List β) (readCount : Reader ε β Nat)
    (hCount : ∀ n, n < bound → Decodes readCount (count n) n) (c : Codec ε β bound α)
    (hItem : ∀ x, c.encode x ≠ []) : Codec ε β bound (List α) where
  encode l := count l.length ++ l.flatMap c.encode
  read := do
    let n ← readCount
    c.read.times n
  decodes l h := by
    rw [List.length_append] at h
    have hLength := length_le_flatMap hItem l
    have hItems : ∀ x ∈ l, Decodes c.read (c.encode x) (id x) := fun x hx =>
      c.decodes x (by have := length_le_of_mem (c := c) hx; omega)
    have hAll := Decodes.times hItems
    rw [List.map_id] at hAll
    exact (hCount l.length (by omega)).bind hAll

section unions

variable [DecidableEq τ]

/-- The only discriminant, and its arm. -/
def tagged (tag : Codec ε β bound τ) (t : τ) (refused : ε) (c : Codec ε β bound α) :
    Codec ε β bound α where
  encode x := tag.encode t ++ c.encode x
  read := do
    let t' ← tag.read
    if t' = t then c.read else throw refused
  decodes x h := by
    rw [List.length_append] at h
    have hArm := c.decodes x (by omega)
    exact (tag.decodes t (by omega)).bind (by rwa [if_pos rfl])

/-- One arm for each value of a flag. -/
def either (flag : Codec ε β bound Bool) (a : Codec ε β bound α) (c : Codec ε β bound γ) :
    Codec ε β bound (α ⊕ γ) where
  encode
    | .inl x => flag.encode true ++ a.encode x
    | .inr y => flag.encode false ++ c.encode y
  read := do
    if ← flag.read then return .inl (← a.read) else return .inr (← c.read)
  decodes
    | .inl x, h => by
      rw [List.length_append] at h
      have hArm := a.decodes x (by omega)
      exact (flag.decodes true (by omega)).bind hArm.map
    | .inr y, h => by
      rw [List.length_append] at h
      have hArm := c.decodes y (by omega)
      exact (flag.decodes false (by omega)).bind hArm.map

/-- One discriminant has an arm, and every other one stands for itself. -/
def special (tag : Codec ε β bound τ) (t : τ) (c : Codec ε β bound α) :
    Codec ε β bound (α ⊕ {d : τ // d ≠ t}) where
  encode
    | .inl x => tag.encode t ++ c.encode x
    | .inr d => tag.encode d
  read := do
    let d ← tag.read
    if h : d = t then return .inl (← c.read) else return .inr ⟨d, h⟩
  decodes
    | .inl x, h => by
      rw [List.length_append] at h
      have hArm := (c.decodes x (by omega)).map (f := fun x => (.inl x : α ⊕ {d : τ // d ≠ t}))
      exact (tag.decodes t (by omega)).bind (by rwa [dif_pos rfl])
    | .inr d, h => (tag.decodes d.val h).last (by
      rw [dif_neg d.property]
      exact .pure _)

end unions

end Codec

end NfsRs.Lib
