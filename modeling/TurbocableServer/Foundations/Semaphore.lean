import Mathlib.Data.List.Nodup

/-!
# Counting semaphores

A semaphore with a fixed number of permits.  It knows who holds a permit and who
waits, and nobody does both or either twice.  Which of the waiters gets a permit
that is free is not part of it.
-/

namespace TurbocableServer.Foundations

universe u

structure Semaphore (κ : Type u) where
  permits : Nat
  holders : List κ
  waiters : List κ
  fits : holders.length ≤ permits
  distinct : (holders ++ waiters).Nodup

namespace Semaphore

variable {κ : Type u}

def new (permits : Nat) : Semaphore κ where
  permits := permits
  holders := []
  waiters := []
  fits := Nat.zero_le permits
  distinct := List.nodup_nil

variable {semaphore granted : Semaphore κ} {key other : κ}

theorem nodup_holders : semaphore.holders.Nodup :=
  (List.nodup_append.mp semaphore.distinct).1

/-- Nobody who waits holds a permit. -/
theorem not_mem_holders_of_mem_waiters (waits : key ∈ semaphore.waiters) :
    key ∉ semaphore.holders :=
  fun holds =>
    (List.nodup_append.mp semaphore.distinct).2.2 key holds key waits rfl

section

variable [DecidableEq κ]

/-- Queue up, unless the key is known already. -/
def request (semaphore : Semaphore κ) (key : κ) : Semaphore κ :=
  if known : key ∈ semaphore.holders ++ semaphore.waiters then
    semaphore
  else
    { semaphore with
      waiters := semaphore.waiters ++ [key]
      distinct := by
        rw [← List.append_assoc, List.nodup_append]
        refine ⟨semaphore.distinct, List.nodup_singleton key, ?_⟩
        intro other member last isLast same
        rw [same, List.mem_singleton.mp isLast] at member
        exact known member }

/-- A waiter gets a free permit. -/
def grant (semaphore : Semaphore κ) (key : κ) :
    Option (Semaphore κ) :=
  if ready :
      key ∈ semaphore.waiters ∧
        semaphore.holders.length < semaphore.permits then
    some
      { permits := semaphore.permits
        holders := semaphore.holders ++ [key]
        waiters := semaphore.waiters.erase key
        fits := by
          rw [List.length_append, List.length_singleton]
          exact ready.2
        distinct := by
          rw [List.append_assoc]
          have reordered := List.perm_cons_erase ready.1
          exact (reordered.append_left _).nodup_iff.mp semaphore.distinct }
  else
    none

/-- Give a permit back. -/
def release (semaphore : Semaphore κ) (key : κ) : Semaphore κ :=
  { semaphore with
    holders := semaphore.holders.erase key
    fits := Nat.le_trans List.length_erase_le semaphore.fits
    distinct :=
      semaphore.distinct.sublist
        ((List.erase_sublist).append (List.Sublist.refl _)) }

theorem grant_eq_some (isGrant : semaphore.grant key = some granted) :
    key ∈ semaphore.waiters ∧
      granted.waiters = semaphore.waiters.erase key ∧
      granted.holders = semaphore.holders ++ [key] ∧
      granted.permits = semaphore.permits := by
  unfold grant at isGrant
  split at isGrant
  · rename_i ready
    obtain rfl := Option.some.inj isGrant
    exact ⟨ready.1, rfl, rfl, rfl⟩
  · cases isGrant

theorem mem_waiters_of_grant (isGrant : semaphore.grant key = some granted)
    (waits : other ∈ granted.waiters) : other ∈ semaphore.waiters := by
  rw [(grant_eq_some isGrant).2.1] at waits
  exact List.mem_of_mem_erase waits

@[simp]
theorem request_permits :
    (semaphore.request key).permits = semaphore.permits := by
  unfold request
  split <;> rfl

@[simp]
theorem request_holders :
    (semaphore.request key).holders = semaphore.holders := by
  unfold request
  split <;> rfl

/-- A request leaves the waiters before it where they are. -/
theorem waiters_request (semaphore : Semaphore κ) (key : κ) :
    (semaphore.request key).waiters = semaphore.waiters ∨
      (semaphore.request key).waiters = semaphore.waiters ++ [key] := by
  unfold request
  split
  · exact Or.inl rfl
  · exact Or.inr rfl

theorem mem_holders_release :
    other ∈ (semaphore.release key).holders ↔
      other ≠ key ∧ other ∈ semaphore.holders :=
  nodup_holders.mem_erase_iff

end

end Semaphore

end TurbocableServer.Foundations
