import Mathlib.Algebra.Order.Ring.Nat

/-!
# Rounding to a significand

A natural number in a binary format with a significand of a given number of
bits: the bits that do not fit are rounded to nearest, ties to even.  Exponents
are not bounded.
-/

namespace TurbocableServer.Foundations

/-- The number has a significand of `bits` bits. -/
def Representable (bits number : Nat) : Prop :=
  ∃ significand exponent,
    significand < 2 ^ bits ∧ number = significand * 2 ^ exponent

/-- The weight of the last bit that is kept. -/
def lastPlace (bits number : Nat) : Nat :=
  2 ^ (number.log2 + 1 - bits)

def roundToBits (bits number : Nat) : Nat :=
  let place := lastPlace bits number
  let kept := number / place
  let rest := number % place
  if place < 2 * rest ∨ place = 2 * rest ∧ kept % 2 = 1 then
    (kept + 1) * place
  else
    kept * place

section

variable {bits number : Nat}

theorem lastPlace_pos : 0 < lastPlace bits number :=
  Nat.two_pow_pos _

theorem div_lastPlace_lt : number / lastPlace bits number < 2 ^ bits := by
  rw [Nat.div_lt_iff_lt_mul lastPlace_pos, lastPlace, ← Nat.pow_add]
  calc number
      _ < 2 ^ (number.log2 + 1) := Nat.lt_log2_self
      _ ≤ 2 ^ (bits + (number.log2 + 1 - bits)) :=
        Nat.pow_le_pow_right Nat.two_pos (by omega)

/-- In a number that fits, every bit below the last place is zero. -/
theorem Representable.lastPlace_dvd (fits : Representable bits number) :
    lastPlace bits number ∣ number := by
  obtain ⟨significand, exponent, small, isNumber⟩ := fits
  by_cases isZero : number = 0
  · rw [isZero]
    exact Nat.dvd_zero _
  · have below : number < 2 ^ (bits + exponent) := by
      rw [isNumber, Nat.pow_add]
      exact Nat.mul_lt_mul_of_pos_right small (Nat.two_pow_pos _)
    have short : number.log2 < bits + exponent :=
      (Nat.log2_lt isZero).mpr below
    have divides : lastPlace bits number ∣ 2 ^ exponent :=
      Nat.pow_dvd_pow 2 (by omega)
    conv => rhs; rw [isNumber]
    exact Nat.dvd_mul_left_of_dvd divides significand

theorem roundToBits_of_dvd (divides : lastPlace bits number ∣ number) :
    roundToBits bits number = number := by
  have noRest : number % lastPlace bits number = 0 :=
    Nat.mod_eq_zero_of_dvd divides
  have positive : 0 < lastPlace bits number := lastPlace_pos
  rw [roundToBits, noRest, if_neg (by omega)]
  exact Nat.div_mul_cancel divides

/-- The result is one of the two neighbours. -/
theorem roundToBits_cases :
    roundToBits bits number =
        (number / lastPlace bits number + 1) * lastPlace bits number ∨
      roundToBits bits number =
        number / lastPlace bits number * lastPlace bits number := by
  simp only [roundToBits]
  split
  · exact Or.inl rfl
  · exact Or.inr rfl

/-- Rounding keeps exactly the numbers that fit. -/
theorem roundToBits_eq_self_iff :
    roundToBits bits number = number ↔ Representable bits number := by
  constructor
  · intro same
    refine ⟨number / lastPlace bits number, number.log2 + 1 - bits,
      div_lastPlace_lt, ?_⟩
    have below :
        number < (number / lastPlace bits number + 1) *
          lastPlace bits number :=
      Nat.lt_mul_of_div_lt (Nat.lt_succ_self _) lastPlace_pos
    rcases @roundToBits_cases bits number with up | down
    · omega
    · exact same.symm.trans down
  · intro fits
    exact roundToBits_of_dvd fits.lastPlace_dvd

/-- Rounding does not lose a number altogether. -/
theorem roundToBits_pos (hasBits : 0 < bits) (positive : 0 < number) :
    0 < roundToBits bits number := by
  have atMost : lastPlace bits number ≤ number := by
    calc lastPlace bits number
        _ ≤ 2 ^ number.log2 := Nat.pow_le_pow_right Nat.two_pos (by omega)
        _ ≤ number := Nat.log2_self_le (Nat.ne_of_gt positive)
  have kept : 0 < number / lastPlace bits number :=
    Nat.div_pos atMost lastPlace_pos
  rcases @roundToBits_cases bits number with up | down
  · rw [up]
    exact Nat.mul_pos (Nat.succ_pos _) lastPlace_pos
  · rw [down]
    exact Nat.mul_pos kept lastPlace_pos

end

-- Ties go to the even neighbour, and a carry may lengthen the number.
example : roundToBits 53 (2 ^ 53 + 1) = 2 ^ 53 := by decide
example : roundToBits 53 (2 ^ 53 + 3) = 2 ^ 53 + 4 := by decide
example : roundToBits 53 (2 ^ 63 - 1) = 2 ^ 63 := by decide

end TurbocableServer.Foundations
