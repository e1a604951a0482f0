import Mathlib.Data.Finmap

/-!
# Tables of keyed entries

Finite maps with the entry operations of a concurrent hash map: insertion,
removal, in-place modification of a present entry, and modification after
inserting a default.  Each operation comes with its effect on `lookup` as one
conditional, which is the form the proofs about tables rewrite with.
-/

namespace TurbocableServer.Foundations

universe u v

/-- A finite map from keys to values of one type. -/
abbrev Table (κ : Type u) (ν : Type v) : Type (max u v) :=
  Finmap (fun _ : κ => ν)

namespace Table

variable {κ : Type u} {ν : Type v} [DecidableEq κ]

/-- Change the entry at `key`, if there is one. -/
def modify (table : Table κ ν) (key : κ) (change : ν → ν) : Table κ ν :=
  match table.lookup key with
  | some value => table.insert key (change value)
  | none => table

/-- Change the entry at `key`, starting from `fallback` when there is none. -/
def upsert (table : Table κ ν) (key : κ) (fallback : ν)
    (change : ν → ν) : Table κ ν :=
  table.insert key (change ((table.lookup key).getD fallback))

theorem lookup_insert_eq_ite
    (table : Table κ ν) (key tested : κ) (value : ν) :
    (table.insert key value).lookup tested =
      if tested = key then some value else table.lookup tested := by
  by_cases same : tested = key
  · subst same
    simp
  · simp [same]

theorem lookup_erase_eq_ite (table : Table κ ν) (key tested : κ) :
    (table.erase key).lookup tested =
      if tested = key then none else table.lookup tested := by
  by_cases same : tested = key
  · subst same
    simp
  · simp [same]

theorem lookup_modify
    (table : Table κ ν) (key tested : κ) (change : ν → ν) :
    (modify table key change).lookup tested =
      if tested = key then (table.lookup key).map change
      else table.lookup tested := by
  unfold modify
  split
  · rename_i value present
    rw [lookup_insert_eq_ite, present]
    rfl
  · rename_i missing
    by_cases same : tested = key
    · subst same
      simp [missing]
    · simp [same]

theorem lookup_upsert
    (table : Table κ ν) (key tested : κ) (fallback : ν)
    (change : ν → ν) :
    (upsert table key fallback change).lookup tested =
      if tested = key then
        some (change ((table.lookup key).getD fallback))
      else table.lookup tested :=
  lookup_insert_eq_ite _ _ _ _

theorem mem_iff_isSome (table : Table κ ν) (key : κ) :
    key ∈ table ↔ (table.lookup key).isSome := by
  exact Finmap.lookup_isSome.symm

/-- Modifying a present entry changes no key. -/
theorem keys_modify
    (table : Table κ ν) (key : κ) (change : ν → ν) :
    (modify table key change).keys = table.keys := by
  ext tested
  simp only [Finmap.mem_keys, mem_iff_isSome, lookup_modify]
  by_cases same : tested = key
  · subst same
    simp
  · simp [same]

theorem keys_insert (table : Table κ ν) (key : κ) (value : ν) :
    (table.insert key value).keys = insert key table.keys := by
  ext tested
  simp [Finmap.mem_keys]

end Table

end TurbocableServer.Foundations
