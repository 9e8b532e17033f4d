import Mathlib.Algebra.Order.Floor.Div
import ModularControl.I2c.Driver
import ModularControl.Sync.Counter

/-!
# The divisor of the I2C bus

`i2c_set_divisor` of `i2c_regs.c`: the divisor of a bus frequency in kHz and a core clock in MHz, in
32-bit arithmetic. The division is rounded up, so that a quarter of a bit is never shorter than
asked for, and no step of it wraps or is cut.
-/

namespace ModularControl.I2c

def I2C_REG_DIVISOR_OFFSET : BitVec 32 := 0x04

section Program

variable {σ : Type} (m : Mmio σ) (freqKHz : BitVec 16) (coreMHz : BitVec 8)

def i2cWriteDivisorRaw (divisor : BitVec 16) : StateM σ Unit :=
  m.write32 I2C_REG_DIVISOR_OFFSET (divisor.setWidth 32)

/-- `numerator`. -/
def divNumerator : BitVec 32 := coreMHz.setWidth 32 * 1000

/-- `denominator`. -/
def divDenominator : BitVec 32 := 4 * freqKHz.setWidth 32

/-- `divisor32` before it is limited. -/
def divisor32 : BitVec 32 :=
  (divNumerator coreMHz + divDenominator freqKHz - 1) / divDenominator freqKHz

/-- The two limits. -/
def limitDivisor (divisor : BitVec 32) : BitVec 32 :=
  let divisor := if divisor < 1 then 1 else divisor
  if 0xFFFF < divisor then 0xFFFF else divisor

/-- What is programmed for a frequency and a clock other than 0. -/
def divisorFor : BitVec 16 := (limitDivisor (divisor32 freqKHz coreMHz)).setWidth 16

def i2cSetDivisor : StateM σ Unit :=
  if freqKHz = 0 ∨ coreMHz = 0 then i2cWriteDivisorRaw m 1
  else i2cWriteDivisorRaw m (divisorFor freqKHz coreMHz)

end Program

/-- No step of the computation wraps, and neither the limits nor the cast to 16 bits change its
    result. -/
structure Unwrapped (freqKHz : BitVec 16) (coreMHz : BitVec 8) : Prop where
  numerator : (divNumerator coreMHz).toNat = coreMHz.toNat * 1000
  denominator : (divDenominator freqKHz).toNat = 4 * freqKHz.toNat
  sum : (divNumerator coreMHz + divDenominator freqKHz).toNat =
    (divNumerator coreMHz).toNat + (divDenominator freqKHz).toNat
  pred : (divNumerator coreMHz + divDenominator freqKHz - 1).toNat + 1 =
    (divNumerator coreMHz + divDenominator freqKHz).toNat
  limits : limitDivisor (divisor32 freqKHz coreMHz) = divisor32 freqKHz coreMHz
  cast : (divisorFor freqKHz coreMHz).toNat = (divisor32 freqKHz coreMHz).toNat

section Arithmetic

variable {freqKHz : BitVec 16} {coreMHz : BitVec 8}

lemma toNat_divNumerator (coreMHz : BitVec 8) :
    (divNumerator coreMHz).toNat = coreMHz.toNat * 1000 := by
  have lt := coreMHz.isLt
  rw [divNumerator, BitVec.toNat_mul, BitVec.toNat_setWidth]
  show coreMHz.toNat % 2 ^ 32 * 1000 % 2 ^ 32 = _
  rw [Nat.mod_eq_of_lt (by omega), Nat.mod_eq_of_lt (by omega)]

lemma toNat_divDenominator (freqKHz : BitVec 16) :
    (divDenominator freqKHz).toNat = 4 * freqKHz.toNat := by
  have lt := freqKHz.isLt
  rw [divDenominator, BitVec.toNat_mul, BitVec.toNat_setWidth]
  show 4 * (freqKHz.toNat % 2 ^ 32) % 2 ^ 32 = _
  rw [Nat.mod_eq_of_lt (by omega), Nat.mod_eq_of_lt (by omega)]

lemma toNat_divSum (freqKHz : BitVec 16) (coreMHz : BitVec 8) :
    (divNumerator coreMHz + divDenominator freqKHz).toNat =
      coreMHz.toNat * 1000 + 4 * freqKHz.toNat := by
  have lt := coreMHz.isLt
  have lt' := freqKHz.isLt
  rw [BitVec.toNat_add, toNat_divNumerator, toNat_divDenominator, Nat.mod_eq_of_lt (by omega)]

/-- The division is rounded up. -/
lemma toNat_divisor32 (freq : 0 < freqKHz.toNat) (coreMHz : BitVec 8) :
    (divisor32 freqKHz coreMHz).toNat = (coreMHz.toNat * 1000) ⌈/⌉ (4 * freqKHz.toNat) := by
  rw [divisor32, BitVec.toNat_udiv, Sync.toNat_pred, toNat_divSum, toNat_divDenominator,
    Nat.ceilDiv_eq_add_pred_div]
  rw [toNat_divSum]
  omega

/-- A divisor is large enough exactly if it is at least that quotient. -/
lemma divisor32_le_iff (freq : 0 < freqKHz.toNat) (coreMHz : BitVec 8) (d : Nat) :
    (divisor32 freqKHz coreMHz).toNat ≤ d ↔ coreMHz.toNat * 1000 ≤ 4 * d * freqKHz.toNat := by
  rw [toNat_divisor32 freq, ceilDiv_le_iff_le_mul (by omega), Nat.mul_right_comm]

lemma divisor32_pos (freq : 0 < freqKHz.toNat) (clock : 0 < coreMHz.toNat) :
    0 < (divisor32 freqKHz coreMHz).toNat := by
  by_contra zero
  have le := (divisor32_le_iff freq coreMHz 0).mp (Nat.le_of_not_lt zero)
  omega

lemma divisor32_le (freq : 0 < freqKHz.toNat) (coreMHz : BitVec 8) :
    (divisor32 freqKHz coreMHz).toNat ≤ 0xFFFF := by
  have lt := coreMHz.isLt
  rw [divisor32_le_iff freq]
  omega

lemma unwrapped (freq : 0 < freqKHz.toNat) (clock : 0 < coreMHz.toNat) :
    Unwrapped freqKHz coreMHz := by
  have pos := divisor32_pos freq clock
  have top := divisor32_le freq coreMHz
  have limits : limitDivisor (divisor32 freqKHz coreMHz) = divisor32 freqKHz coreMHz := by
    have low : ¬ divisor32 freqKHz coreMHz < 1 := by
      rw [BitVec.lt_def]
      exact Nat.not_lt.mpr pos
    have high : ¬ 0xFFFF < divisor32 freqKHz coreMHz := by
      rw [BitVec.lt_def]
      exact Nat.not_lt.mpr top
    simp only [limitDivisor, if_neg low, if_neg high]
  refine ⟨toNat_divNumerator _, toNat_divDenominator _, ?_, ?_, limits, ?_⟩
  · rw [toNat_divSum, toNat_divNumerator, toNat_divDenominator]
  · have sum : 0 < (divNumerator coreMHz + divDenominator freqKHz).toNat := by
      rw [toNat_divSum]
      omega
    rw [Sync.toNat_pred sum]
    exact Nat.sub_add_cancel sum
  · rw [divisorFor, limits, BitVec.toNat_setWidth]
    exact Nat.mod_eq_of_lt (Nat.lt_succ_of_le top)

/-- What is programmed is the least divisor that does not exceed the frequency. -/
lemma divisorFor_least (freq : 0 < freqKHz.toNat) (clock : 0 < coreMHz.toNat) :
    IsLeast {d : Nat | 1 ≤ d ∧ 1000 * coreMHz.toNat ≤ 4 * d * freqKHz.toNat}
      (divisorFor freqKHz coreMHz).toNat := by
  rw [(unwrapped freq clock).cast, Nat.mul_comm 1000]
  constructor
  · exact ⟨divisor32_pos freq clock, (divisor32_le_iff freq _ _).mp (Nat.le_refl _)⟩
  · rintro d ⟨-, enough⟩
    exact (divisor32_le_iff freq _ d).mpr enough

end Arithmetic

end ModularControl.I2c
