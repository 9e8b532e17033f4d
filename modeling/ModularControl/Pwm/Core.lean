import Mathlib.Tactic.Common

/-!
# The PWM timebase

The counter of `pwm_timebase.sv` under the period selection of `pwm_core_ip.sv`, for any counter
width `w`.
-/

namespace ModularControl.Pwm

variable {w : Nat}

/-- `DEFAULT_PERIOD_CYCLES` of `pwm_core_ip`, cast to the counter width. -/
def defaultPeriodCycles (w : Nat) : BitVec w := BitVec.ofNat w 5000

/-- `period_active` of `pwm_core_ip`: a period of 0 selects the default. -/
def periodOrDefault (periodCyclesI : BitVec w) : BitVec w :=
  if periodCyclesI = 0 then defaultPeriodCycles w else periodCyclesI

/-- `period_cycles_eff` of `pwm_timebase`: at least 2. -/
def periodCyclesEff (periodCycles : BitVec w) : BitVec w :=
  let candidate := if periodCycles = 0 then defaultPeriodCycles w else periodCycles
  if candidate < BitVec.ofNat w 2 then BitVec.ofNat w 2 else candidate

/-- The last count of a period, for the period the core is configured with. -/
def lastCount (periodCyclesI : BitVec w) : BitVec w :=
  periodCyclesEff (periodOrDefault periodCyclesI) - BitVec.ofNat w 1

/-- `period_end`. -/
def periodEnd (enable : Bool) (periodCyclesI cnt : BitVec w) : Bool :=
  enable && cnt == lastCount periodCyclesI

/-- `cnt` after a clock edge; `RST_CNT_WHEN_DISABLED` is 1 in the core. -/
def nextCnt (enable : Bool) (periodCyclesI cnt : BitVec w) : BitVec w :=
  if !enable then 0 else if lastCount periodCyclesI ≤ cnt then 0 else cnt + 1

variable {p c : BitVec w}

lemma nextCnt_wraps (le : lastCount p ≤ c) : nextCnt true p c = 0 := by
  rw [nextCnt, Bool.not_true, if_neg Bool.false_ne_true, if_pos le]

/-- Before the last count of its period the counter counts on. -/
lemma nextCnt_counts (lt : c < lastCount p) : (nextCnt true p c).toNat = c.toNat + 1 := by
  have top := (lastCount p).isLt
  have lt' : c.toNat < (lastCount p).toNat := lt
  have one : (c + 1).toNat = (c.toNat + 1) % 2 ^ w := by simp [BitVec.toNat_add]
  rw [nextCnt, Bool.not_true, if_neg Bool.false_ne_true, if_neg (BitVec.not_le.mpr lt), one]
  exact Nat.mod_eq_of_lt (by omega)

/-- Whatever an enabled counter was, it is inside its period after a clock edge. -/
lemma nextCnt_le (p c : BitVec w) : nextCnt true p c ≤ lastCount p := by
  by_cases le : lastCount p ≤ c
  · rw [nextCnt_wraps le]
    exact Nat.zero_le _
  · have lt := BitVec.not_le.mp le
    rw [BitVec.le_def, nextCnt_counts lt]
    exact lt

end ModularControl.Pwm
