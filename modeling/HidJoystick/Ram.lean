import Mathlib.Data.List.Basic
import Mathlib.Tactic.Common

/-!
# Flat memory

A memory by addresses, without bounds: what keeps a program to its own buffers is for the
program to say. `load` and `store` read and write runs of addresses, and `copy` is a `memcpy`.

* `load_store_next` — what is stored where the last run ended makes that run longer.
* `store_of_outside`, `load_store_of_disjoint` — a store changes nothing else.

Items are of type `β`.
-/

universe u

/-- A memory -/
abbrev Ram (β : Type u) : Type u := ℕ → β

namespace Ram

variable {β : Type u}

/-- The `n` items from an address on -/
def load (a n : ℕ) (ram : Ram β) : List β := (List.range n).map fun i => ram (a + i)

/-- The memory with these items from an address on -/
def store (a : ℕ) (data : List β) (ram : Ram β) : Ram β := fun i =>
  if h : a ≤ i ∧ i - a < data.length then data.get ⟨i - a, h.2⟩ else ram i

/-- The memory with `n` items copied -/
def copy (dest source n : ℕ) (ram : Ram β) : Ram β := ram.store dest (ram.load source n)

variable {a b n : ℕ} {data : List β} {ram : Ram β}

@[simp] theorem length_load : (ram.load a n).length = n := by
  rw [load, List.length_map, List.length_range]

@[simp] theorem load_zero : ram.load a 0 = [] := rfl

/-- Two runs that meet -/
theorem load_add (k : ℕ) : ram.load a (n + k) = ram.load a n ++ ram.load (a + n) k := by
  rw [load, load, load, List.range_add, List.map_append, List.map_map]
  congr 1
  refine List.map_congr_left fun i _ => ?_
  rw [Function.comp_apply, Nat.add_assoc]

theorem take_load (k : ℕ) : (ram.load a n).take k = ram.load a (min k n) := by
  rw [load, load, ← List.map_take, List.take_range]

/-- **The frame**: a store changes nothing outside, -/
theorem store_of_outside {i : ℕ} (h : i < a ∨ a + data.length ≤ i) : ram.store a data i = ram i := by
  rw [store, dif_neg]
  omega

/-- so that what is elsewhere is still read, -/
theorem load_store_of_disjoint (h : b + n ≤ a ∨ a + data.length ≤ b) :
    (ram.store a data).load b n = ram.load b n := by
  refine List.map_congr_left fun i hi => store_of_outside ?_
  have hlt : i < n := List.mem_range.mp hi
  omega

/-- and what was stored is read back. -/
theorem load_store : (ram.store a data).load a data.length = data := by
  refine List.ext_getElem length_load fun i hi hi' => ?_
  have hin : a ≤ a + i ∧ a + i - a < data.length := ⟨Nat.le_add_right _ _, by omega⟩
  have hstored : ram.store a data (a + i) = data.get ⟨a + i - a, hin.2⟩ := dif_pos hin
  simp only [load, List.getElem_map, List.getElem_range, hstored, List.get_eq_getElem,
    Nat.add_sub_cancel_left]

/-- **A run grows** by what is stored where it ended. -/
theorem load_store_next :
    (ram.store (a + n) data).load a (n + data.length) = ram.load a n ++ data := by
  rw [load_add, load_store_of_disjoint (Or.inl (Nat.le_refl _)), load_store]

/-- A copy changes nothing outside, either. -/
theorem copy_of_outside {i : ℕ} (h : i < a ∨ a + n ≤ i) : ram.copy a b n i = ram i := by
  refine store_of_outside ?_
  rw [length_load]
  exact h

/-- What was copied is read at both places, -/
theorem load_copy {k : ℕ} (h : k ≤ n) : (ram.copy a b n).load a k = ram.load b k := by
  have hall : (ram.copy a b n).load a n = ram.load b n := by
    have hstored : (ram.copy a b n).load a (ram.load b n).length = ram.load b n := load_store
    rwa [length_load] at hstored
  have htake (r : Ram β) (c : ℕ) : r.load c k = (r.load c n).take k := by
    rw [take_load, Nat.min_eq_left h]
  rw [htake, hall, ← htake]

/-- and the rest where it was. -/
theorem load_copy_of_disjoint {c k : ℕ} (h : c + k ≤ a ∨ a + n ≤ c) :
    (ram.copy a b n).load c k = ram.load c k := by
  refine load_store_of_disjoint ?_
  rw [length_load]
  exact h

end Ram
