import TurbocableServer.Foundations.Table

/-!
# Connection limiter

`connection/limiter.rs`: the number of connections per IP address.
`try_acquire` checks and counts under one entry guard, so it is one access;
`release` is two, a decrement and a conditional removal, each a definition of
its own.
-/

namespace TurbocableServer.Connection

open Foundations

universe u

structure ConnectionLimiter (ι : Type u) where
  counts : Table ι Nat
  maxPerIp : Nat

namespace ConnectionLimiter

variable {ι : Type u} [DecidableEq ι]

def new (maxPerIp : Nat) : ConnectionLimiter ι where
  counts := ∅
  maxPerIp := maxPerIp

/-- The count of an address; an absent entry counts as zero. -/
def countFor (limiter : ConnectionLimiter ι) (ip : ι) : Nat :=
  (limiter.counts.lookup ip).getD 0

def tryAcquire (limiter : ConnectionLimiter ι) (ip : ι) :
    ConnectionLimiter ι × Bool :=
  if limiter.countFor ip ≥ limiter.maxPerIp then
    ({ limiter with counts := Table.upsert limiter.counts ip 0 id }, false)
  else
    ({ limiter with counts := Table.upsert limiter.counts ip 0 (· + 1) },
      true)

/-- The first access of `release`, with the value of `should_remove`. -/
def decrement (limiter : ConnectionLimiter ι) (ip : ι) :
    ConnectionLimiter ι × Bool :=
  match limiter.counts.lookup ip with
  | some count =>
      ({ limiter with
          counts := Table.modify limiter.counts ip (· - 1) },
        count - 1 == 0)
  | none => (limiter, false)

/-- `counts.remove_if(ip, |_, v| *v == 0)`. -/
def removeIfZero (limiter : ConnectionLimiter ι) (ip : ι) :
    ConnectionLimiter ι :=
  match limiter.counts.lookup ip with
  | some 0 => { limiter with counts := limiter.counts.erase ip }
  | _ => limiter

def release (limiter : ConnectionLimiter ι) (ip : ι) : ConnectionLimiter ι :=
  let (decremented, shouldRemove) := limiter.decrement ip
  if shouldRemove then decremented.removeIfZero ip else decremented

/-! ## What the accesses do to the counts -/

variable (limiter : ConnectionLimiter ι) (ip tested : ι)

@[simp]
theorem countFor_new (maxPerIp : Nat) :
    (new maxPerIp : ConnectionLimiter ι).countFor tested = 0 := by
  simp [countFor, new]

@[simp]
theorem tryAcquire_maxPerIp :
    (limiter.tryAcquire ip).1.maxPerIp = limiter.maxPerIp := by
  unfold tryAcquire
  split <;> rfl

theorem tryAcquire_snd :
    (limiter.tryAcquire ip).2 = true ↔
      limiter.countFor ip < limiter.maxPerIp := by
  unfold tryAcquire
  split
  · rename_i full
    simp [Nat.not_lt.mpr full]
  · rename_i free
    simpa using free

/-- A refused attempt leaves every count as it is; at most an entry with the
value zero is new. -/
theorem countFor_tryAcquire :
    (limiter.tryAcquire ip).1.countFor tested =
      limiter.countFor tested +
        if (limiter.tryAcquire ip).2 ∧ tested = ip then 1 else 0 := by
  unfold tryAcquire
  split
  · by_cases same : tested = ip
    · subst same
      simp [countFor, Table.lookup_upsert]
    · simp [countFor, Table.lookup_upsert, same]
  · by_cases same : tested = ip
    · subst same
      simp [countFor, Table.lookup_upsert]
    · simp [countFor, Table.lookup_upsert, same]

@[simp]
theorem decrement_maxPerIp :
    (limiter.decrement ip).1.maxPerIp = limiter.maxPerIp := by
  unfold decrement
  split <;> rfl

theorem countFor_decrement :
    (limiter.decrement ip).1.countFor tested =
      limiter.countFor tested - if tested = ip then 1 else 0 := by
  unfold decrement
  split
  · rename_i count present
    by_cases same : tested = ip
    · subst same
      simp [countFor, Table.lookup_modify, present]
    · simp [countFor, Table.lookup_modify, same]
  · rename_i missing
    by_cases same : tested = ip
    · subst same
      simp [countFor, missing]
    · simp [same]

@[simp]
theorem removeIfZero_maxPerIp :
    (limiter.removeIfZero ip).maxPerIp = limiter.maxPerIp := by
  unfold removeIfZero
  split <;> rfl

@[simp]
theorem countFor_removeIfZero :
    (limiter.removeIfZero ip).countFor tested = limiter.countFor tested := by
  unfold removeIfZero
  split
  · rename_i zero
    by_cases same : tested = ip
    · subst same
      simp [countFor, zero]
    · simp [countFor, same]
  · rfl

/-- Undisturbed, `release` gives back one slot. -/
theorem countFor_release :
    (limiter.release ip).countFor tested =
      limiter.countFor tested - if tested = ip then 1 else 0 := by
  unfold release
  simp only
  split
  · rw [countFor_removeIfZero, countFor_decrement]
  · rw [countFor_decrement]

end ConnectionLimiter

end TurbocableServer.Connection
