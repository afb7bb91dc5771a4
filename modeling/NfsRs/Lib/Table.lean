import Mathlib.Algebra.Order.Ring.Nat
import Mathlib.Data.List.AList

/-!
# Tables

A finite map with a value for each key is `AList` of the library. One operation is added, a change
of all values.

## Main results

- `lookup_insert_eq`, `lookup_erase_eq` : one rule for the key and for the others.
- `lookup_eq_some` : a lookup finds the entries.
- `Table.lookup_mapValues` : the values behind a change of all of them.
-/

namespace NfsRs.Lib

abbrev Table (κ ν : Type*) := AList fun _ : κ => ν

namespace Table

variable {κ ν : Type*} (t : Table κ ν)

def mapValues (f : ν → ν) : Table κ ν :=
  ⟨t.entries.map fun e => ⟨e.1, f e.2⟩, t.nodupKeys.map₂ (fun _ => f) t.entries⟩

variable [DecidableEq κ] {t} {k k' : κ} {v w : ν}

theorem lookup_insert_eq :
    AList.lookup k' (AList.insert k v t) = if k' = k then some v else AList.lookup k' t := by
  split
  next h =>
    rw [h]
    exact AList.lookup_insert t
  next h => exact AList.lookup_insert_ne h

theorem lookup_erase_eq :
    AList.lookup k' (AList.erase k t) = if k' = k then none else AList.lookup k' t := by
  split
  next h =>
    rw [h]
    exact AList.lookup_erase k t
  next h => exact AList.lookup_erase_ne h

theorem lookup_eq_some :
    AList.lookup k t = some v ↔ (⟨k, v⟩ : Sigma fun _ => ν) ∈ t.entries :=
  AList.mem_lookup_iff

theorem lookup_mapValues {f : ν → ν} :
    AList.lookup k (t.mapValues f) = (AList.lookup k t).map f := by
  ext v
  rw [Option.map_eq_some_iff, lookup_eq_some]
  refine List.mem_map.trans ⟨?_, ?_⟩
  · rintro ⟨⟨k', w⟩, hEntry, hEq⟩
    cases hEq
    exact ⟨w, lookup_eq_some.mpr hEntry, rfl⟩
  · rintro ⟨w, hw, rfl⟩
    exact ⟨⟨k, w⟩, lookup_eq_some.mp hw, rfl⟩

end Table

end NfsRs.Lib
