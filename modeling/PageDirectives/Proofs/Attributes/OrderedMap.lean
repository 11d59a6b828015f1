import Mathlib

set_option autoImplicit false

/-! # Maps in the order of insertion

A finite map from names to texts that remembers in which order its keys were added. There are two
ways to change it: a key is given a value (`OrderedMap.insert`), which leaves the key in its place or
adds it at the end, and a key is taken out (`OrderedMap.erase`). Both change what is found under one
key only.
-/

namespace PageDirectives

/-- A finite map, with its keys in the order in which they were added. -/
structure OrderedMap where
  keys : List String
  value? : String → Option String
  nodup : keys.Nodup
  mem_keys_iff : ∀ key, key ∈ keys ↔ (value? key).isSome

namespace OrderedMap

def empty : OrderedMap where
  keys := []
  value? _ := none
  nodup := List.nodup_nil
  mem_keys_iff := by simp

/-- Gives a key a value. A key that is there stays in its place, a new one goes to the end. -/
def insert (m : OrderedMap) (key value : String) : OrderedMap where
  keys := if key ∈ m.keys then m.keys else m.keys ++ [key]
  value? := Function.update m.value? key (some value)
  nodup := by
    split
    · exact m.nodup
    · next hnew =>
        refine List.nodup_append.mpr ⟨m.nodup, List.nodup_singleton key, ?_⟩
        intro k hk k' hk'
        rw [List.mem_singleton.mp hk']
        exact ne_of_mem_of_not_mem hk hnew
  mem_keys_iff k := by
    have hold := m.mem_keys_iff k
    by_cases hk : k = key
    · subst hk
      by_cases hmem : k ∈ m.keys <;> simp [hmem]
    · by_cases hmem : key ∈ m.keys <;> simp [hmem, hk, hold]

/-- Takes a key out, if it is there. -/
def erase (m : OrderedMap) (key : String) : OrderedMap where
  keys := m.keys.filter (· ≠ key)
  value? := Function.update m.value? key none
  nodup := m.nodup.filter _
  mem_keys_iff k := by
    by_cases hk : k = key
    · simp [hk]
    · simp [hk, m.mem_keys_iff k]

/-- Gives a key a value, or takes it out. -/
def put (m : OrderedMap) (key : String) : Option String → OrderedMap
  | none => m.erase key
  | some value => m.insert key value

/-- The keys with their values, in order. -/
def entries (m : OrderedMap) : List (String × String) :=
  m.keys.map fun key => (key, (m.value? key).getD "")

/-- Only what is found under the key changes. -/
theorem value?_put (m : OrderedMap) (key : String) (value : Option String) (other : String) :
    (m.put key value).value? other = if other = key then value else m.value? other := by
  cases value with
  | none => exact Function.update_apply m.value? key none other
  | some value => exact Function.update_apply m.value? key (some value) other

end OrderedMap

end PageDirectives
