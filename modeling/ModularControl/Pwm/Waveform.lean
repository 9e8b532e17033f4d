import ModularControl.Pwm.Core
import ModularControl.Sync.Machine

/-!
# The PWM waveform

`pwm_core_ip.sv` with its bank of `pwm_compare.sv`, for any number `n` of channels. Over a period
the core shows the wave of its configuration: each enabled channel is high for its duty and low for
the rest, and the period ends once.
-/

namespace ModularControl.Pwm
open Sync

variable {w n : Nat}

/-- `pwm_o` of `pwm_compare`: the duty is saturated to the period. -/
def pwmCompare (enable : Bool) (cnt periodCyclesEff dutyCycles : BitVec w) : Bool :=
  let dutyEff := if periodCyclesEff ≤ dutyCycles then periodCyclesEff else dutyCycles
  if !enable then false else cnt < dutyEff

/-- The configuration inputs of `pwm_core_ip`. -/
structure CoreIpIn (w n : Nat) where
  enable : Bool
  chEnableI : BitVec n
  periodCyclesI : BitVec w
  dutyCyclesI : Vector (BitVec w) n
deriving DecidableEq

/-- What `pwm_core_ip` drives in a cycle, besides its counter. -/
structure CoreIpOut (n : Nat) where
  pwmO : Fin n → Bool
  periodEnd : Bool

namespace CoreIpIn

variable (c : CoreIpIn w n)

/-- `pwm_o` and `period_end` at the count `cnt`. -/
def drive (cnt : BitVec w) : CoreIpOut n where
  pwmO i :=
    pwmCompare (c.enable && c.chEnableI.getLsbD i) cnt
      (periodCyclesEff (periodOrDefault c.periodCyclesI)) (c.dutyCyclesI.get i)
  periodEnd := Pwm.periodEnd c.enable c.periodCyclesI cnt

/-- The length of a period: the larger of 2 and the configured period, or of 2 and the default
    period if that is 0. -/
def period : Nat :=
  max 2 (if c.periodCyclesI = 0 then (defaultPeriodCycles w).toNat else c.periodCyclesI.toNat)

/-- Cycle `k` of a period: an enabled channel is high for the first cycles of its duty, and the
    period ends in its last cycle. -/
def wave (k : Nat) : CoreIpOut n where
  pwmO i :=
    c.enable && c.chEnableI.getLsbD i && decide (k < min (c.dutyCyclesI.get i).toNat c.period)
  periodEnd := c.enable && decide (k + 1 = c.period)

end CoreIpIn

/-- `pwm_core_ip`; its register is the counter of its timebase. -/
def pwmCoreIp (w n : Nat) : Machine (BitVec w) (CoreIpIn w n) (CoreIpOut n) where
  init := 0
  step cnt c := nextCnt c.enable c.periodCyclesI cnt
  out cnt c := c.drive cnt

namespace CoreIpIn

variable {c : CoreIpIn w n} {cnt : BitVec w}

/-- From a width of 2 on the counter can hold the smallest period. -/
lemma toNat_periodCyclesEff (wide : 2 ≤ w) (p : BitVec w) :
    (periodCyclesEff (periodOrDefault p)).toNat =
      max 2 (if p = 0 then (defaultPeriodCycles w).toNat else p.toNat) := by
  have room : 2 ^ 2 ≤ 2 ^ w := Nat.pow_le_pow_right (by decide) wide
  have two : (BitVec.ofNat w 2).toNat = 2 := by
    rw [BitVec.toNat_ofNat]
    exact Nat.mod_eq_of_lt (by omega)
  have candidate : (if periodOrDefault p = 0 then defaultPeriodCycles w else periodOrDefault p) =
      if p = 0 then defaultPeriodCycles w else p := by
    by_cases h : p = 0
    · rw [periodOrDefault, if_pos h, ite_self]
    · rw [periodOrDefault, if_neg h, if_neg h]
  rw [periodCyclesEff, candidate, ← apply_ite BitVec.toNat]
  generalize (if p = 0 then defaultPeriodCycles w else p) = x
  by_cases small : x < BitVec.ofNat w 2
  · have lt := BitVec.lt_def.mp small
    rw [if_pos small, two]
    omega
  · have ge := mt BitVec.lt_def.mpr small
    rw [if_neg small]
    omega

lemma toNat_eff (wide : 2 ≤ w) (c : CoreIpIn w n) :
    (periodCyclesEff (periodOrDefault c.periodCyclesI)).toNat = c.period :=
  toNat_periodCyclesEff wide _

lemma toNat_lastCount (wide : 2 ≤ w) (c : CoreIpIn w n) :
    (lastCount c.periodCyclesI).toNat + 1 = c.period := by
  have room : 2 ^ 2 ≤ 2 ^ w := Nat.pow_le_pow_right (by decide) wide
  have one : (BitVec.ofNat w 1).toNat = 1 := by
    rw [BitVec.toNat_ofNat]
    exact Nat.mod_eq_of_lt (by omega)
  have two : 2 ≤ c.period := Nat.le_max_left _ _
  rw [lastCount, BitVec.toNat_sub_of_le, toNat_eff wide, one]
  · omega
  · rw [BitVec.le_def, toNat_eff wide, one]
    omega

/-- The outputs at a count of the period are those of the wave. -/
lemma drive_eq (wide : 2 ≤ w) {k : Nat} (count : c.enable = true → cnt.toNat = k) :
    c.drive cnt = c.wave k := by
  cases en : c.enable with
  | false => simp [drive, wave, pwmCompare, Pwm.periodEnd, en]
  | true =>
    have at_k := count en
    have last := toNat_lastCount wide c
    have ended : (cnt == lastCount c.periodCyclesI) = decide (k + 1 = c.period) := by
      rw [Bool.eq_iff_iff, beq_iff_eq, decide_eq_true_eq, ← BitVec.toNat_inj, at_k]
      omega
    simp only [drive, wave, Pwm.periodEnd, en, Bool.true_and, ended]
    congr 1
    funext i
    rw [pwmCompare]
    cases c.chEnableI.getLsbD i with
    | false => rfl
    | true =>
      simp only [Bool.not_true, Bool.false_eq_true, if_false, Bool.true_and, BitVec.lt_def,
        apply_ite BitVec.toNat, BitVec.le_def, toNat_eff wide, at_k]
      congr 1
      split_ifs with sat
      · rw [Nat.min_eq_right sat]
      · rw [Nat.min_eq_left (by omega)]

/-- From count 0 on, an enabled core counts the cycles of its period. -/
lemma count_along (wide : 2 ≤ w) (en : c.enable = true) {k : Nat} (lt : k < c.period) :
    ((pwmCoreIp w n).runFrom 0 (List.replicate k c)).toNat = k := by
  induction k with
  | zero => simp
  | succ k ih =>
    have last := toNat_lastCount wide c
    have before := ih (by omega)
    have below : (pwmCoreIp w n).runFrom 0 (List.replicate k c) < lastCount c.periodCyclesI := by
      rw [BitVec.lt_def, before]
      omega
    rw [List.replicate_succ', Machine.runFrom_append]
    simp only [Machine.runFrom_cons, Machine.runFrom_nil, pwmCoreIp, en]
    exact (nextCnt_counts below).trans (congrArg (· + 1) before)

lemma trace_along (wide : 2 ≤ w) {k : Nat} (le : k ≤ c.period) :
    (pwmCoreIp w n).traceFrom 0 (List.replicate k c) = (List.range k).map c.wave := by
  induction k with
  | zero => rfl
  | succ k ih =>
    have shown : c.drive ((pwmCoreIp w n).runFrom 0 (List.replicate k c)) = c.wave k :=
      drive_eq wide fun en => count_along wide en (by omega)
    rw [List.replicate_succ', Machine.traceFrom_append, ih (by omega), List.range_succ,
      List.map_append, List.map_singleton, ← shown]
    rfl

/-- The counter is back at 0 when the period is over. -/
lemma count_back (wide : 2 ≤ w) (c : CoreIpIn w n) :
    (pwmCoreIp w n).runFrom 0 (List.replicate c.period c) = 0 := by
  cases en : c.enable with
  | false =>
    have stays : ∀ k, (pwmCoreIp w n).runFrom 0 (List.replicate k c) = 0 := by
      intro k
      induction k with
      | zero => rfl
      | succ k ih =>
        rw [List.replicate_succ', Machine.runFrom_append, ih]
        simp [pwmCoreIp, nextCnt, en]
    exact stays _
  | true =>
    have last := toNat_lastCount wide c
    obtain ⟨k, eq⟩ : ∃ k, c.period = k + 1 := ⟨_, last.symm⟩
    have before := count_along wide en (c := c) (k := k) (by omega)
    rw [eq, List.replicate_succ', Machine.runFrom_append]
    simp only [Machine.runFrom_cons, Machine.runFrom_nil, pwmCoreIp, en]
    apply nextCnt_wraps
    rw [BitVec.le_def]
    exact le_of_le_of_eq (by omega) before.symm

end CoreIpIn

/-- For every counter width that can hold a period, number of channels and configuration: wherever a
    run has come to count 0, one period of the configuration shows its wave, and the next period
    begins. -/
theorem pwm_period_wave (wide : 2 ≤ w) (is : List (CoreIpIn w n)) (c : CoreIpIn w n)
    (start : (pwmCoreIp w n).after is = 0) :
    (pwmCoreIp w n).trace (is ++ List.replicate c.period c) =
        (pwmCoreIp w n).trace is ++ (List.range c.period).map c.wave ∧
      (pwmCoreIp w n).after (is ++ List.replicate c.period c) = 0 := by
  refine ⟨?_, ?_⟩
  · rw [← CoreIpIn.trace_along wide (Nat.le_refl _), ← start]
    exact Machine.traceFrom_append _ _ is _
  · rw [Machine.after_append, start]
    exact CoreIpIn.count_back wide c

/-- A period of 1 with one channel at full duty. -/
def shortest : CoreIpIn 32 2 := ⟨true, 0b01, 1, #v[7, 7]⟩

/-- From reset it takes two cycles, with the enabled channel high in both. -/
theorem pwm_period_wave_shortest :
    (pwmCoreIp 32 2).trace (List.replicate shortest.period shortest) =
        (List.range shortest.period).map shortest.wave ∧
      (pwmCoreIp 32 2).after (List.replicate shortest.period shortest) = 0 :=
  pwm_period_wave (by decide) [] shortest rfl

end ModularControl.Pwm
