import Mathlib.Data.Finmap

/-!
# Finite maps of bounded capacity

A map with at most `cap` keys.  A new key is set only while there is room for it.
-/

/-- A finite map with at most `cap` keys. -/
structure BoundedMap (κ ν : Type*) (cap : ℕ) where
  entries : Finmap fun _ : κ => ν
  card_le : entries.keys.card ≤ cap

namespace BoundedMap

variable {κ ν : Type*} {cap : ℕ}

/-- The map without keys. -/
def empty : BoundedMap κ ν cap where
  entries := ∅
  card_le := by simp

variable [DecidableEq κ]

/-- The key is set to a value. -/
def set (m : BoundedMap κ ν cap) (k : κ) (v : ν)
    (room : k ∈ m.entries ∨ m.entries.keys.card < cap) : BoundedMap κ ν cap where
  entries := m.entries.insert k v
  card_le := by
    have keys : (m.entries.insert k v).keys = insert k m.entries.keys := by
      ext a
      simp only [Finmap.mem_keys, Finmap.mem_insert, Finset.mem_insert]
    have le := m.card_le
    rw [keys]
    rcases room with mem | room
    · rwa [Finset.insert_eq_of_mem (Finmap.mem_keys.2 mem)]
    · exact (Finset.card_insert_le _ _).trans room

/-- The key is removed. -/
def erase (m : BoundedMap κ ν cap) (k : κ) : BoundedMap κ ν cap where
  entries := m.entries.erase k
  card_le := by
    rw [Finmap.keys_erase]
    exact (Finset.card_erase_le).trans m.card_le

/-- The map that has the same value at all keys of a set. -/
def const (ks : Finset κ) (v : ν) (room : ks.card ≤ cap) : BoundedMap κ ν cap where
  entries := Finmap.keysLookupEquiv.symm
    ⟨(ks, fun k => if k ∈ ks then some v else none), fun k => by by_cases k ∈ ks <;> simp [*]⟩
  card_le := by
    rwa [Finmap.keysLookupEquiv_symm_apply_keys]

theorem lookup_const {ks : Finset κ} {v : ν} (room : ks.card ≤ cap) (k : κ) :
    (const ks v room).entries.lookup k = if k ∈ ks then some v else none :=
  Finmap.keysLookupEquiv_symm_apply_lookup _ k

theorem mem_const {ks : Finset κ} {v : ν} {room : ks.card ≤ cap} {k : κ} :
    k ∈ (const ks v room).entries ↔ k ∈ ks := by
  rw [← Finmap.lookup_isSome, lookup_const]
  by_cases mem : k ∈ ks <;> simp [mem]

end BoundedMap
