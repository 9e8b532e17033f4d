import ModularControl.I2c.Timing

/-!
# The shortest phases of the I2C master

A timed phase is left when the tick counter equals a compare value: `quarter_cnt` is the divisor
latched at the last START, `half_cnt_wide[DIVISOR_W-1:0]` its double without the top bit. The counter
wraps, so what is compared is the time in the phase modulo `2 ^ 16`.
-/

namespace ModularControl.I2c
open Sync

/-- The core with its phase clock and the divisor of its last START, at least `MIN_DIVISOR`. -/
structure Latched where
  phased : Phased
  divisor : Nat
deriving DecidableEq

namespace Latched

variable (p : Params) (s : Latched) (i : CoreIn)

/-- The core itself. -/
def core : Core := s.phased.core

def step : Latched where
  phased := s.phased.step p i
  divisor :=
    if s.core.idleStartFire i then max p.minDivisor.toNat i.divisor.toNat else s.divisor

/-- The clocks a phase is to last: one more than the divisor, or than its double. -/
def minimum : Nat := if s.core.stateReg.half then 2 * s.divisor + 1 else s.divisor + 1

/-- A phase that is left without an abort has lasted its minimum, the present clock included. -/
def Lasts : Prop :=
  s.core.timed = true → s.core.abortFire p i = false →
    (s.core.step p i).stateReg ≠ s.core.stateReg → s.minimum ≤ s.phased.elapsed + 1

/-- A half phase of a divisor from `0x8000` on is `2 ^ 16` clocks short of its time, and ready to end
    if it waits for SCL. -/
def Hurried : Prop :=
  s.core.stateReg.half = true ∧ s.core.abortFire p i = false ∧ 2 ^ 15 ≤ s.divisor ∧
    s.phased.elapsed + 2 ^ 16 = 2 * s.divisor ∧ s.core.highPhaseReady = true

instance : Decidable (s.Lasts p i) := inferInstanceAs (Decidable (_ → _ → _ → _))

instance : Decidable (s.Hurried p i) := inferInstanceAs (Decidable (_ ∧ _))

end Latched

/-- The core with its phase clock and its latched divisor. -/
def latched (p : Params) : Machine Latched CoreIn Unit where
  init := ⟨⟨.reset p, 0⟩, p.minDivisor.toNat⟩
  step s i := s.step p i
  out _ _ := ()

namespace Latched

variable {p : Params} {s : Latched} {i : CoreIn}

/-- The tick counter shows the clocks of a timed phase modulo its range, and the divisor register the
    divisor of the last START. -/
structure Shows (s : Latched) : Prop where
  tick : s.core.timed = true → s.core.tickCntReg.toNat = s.phased.elapsed % 2 ^ 16
  divisor : s.core.divisorReg.toNat = s.divisor

lemma toNat_divisorClamped (p : Params) (i : CoreIn) :
    (Core.divisorClamped p i).toNat = max p.minDivisor.toNat i.divisor.toNat := by
  rw [Core.divisorClamped]
  split_ifs with below
  · rw [Nat.max_eq_left (Nat.le_of_lt below)]
  · rw [Nat.max_eq_right (Nat.le_of_not_lt below)]

lemma Shows.step (sh : s.Shows) : (s.step p i).Shows := by
  constructor
  · intro timed'
    by_cases stays : (s.core.step p i).stateReg = s.core.stateReg ∧ s.core.abortFire p i = false
    · obtain ⟨same, noAbort⟩ := stays
      have timed := Phased.timed_before same timed'
      obtain ⟨-, tick, elapsed, -⟩ := Phased.stay same noAbort timed
      have before := sh.tick timed
      calc (s.step p i).core.tickCntReg.toNat
          = (s.core.tickCntReg + 1).toNat := congrArg BitVec.toNat tick
        _ = (s.phased.elapsed + 1) % 2 ^ 16 := by
          rw [BitVec.toNat_add, before]
          simp
        _ = (s.step p i).phased.elapsed % 2 ^ 16 := by rw [← elapsed]; rfl
    · obtain ⟨tick, elapsed⟩ := Phased.new stays
      have elapsed : (s.step p i).phased.elapsed = 0 := elapsed
      rw [elapsed]
      exact congrArg BitVec.toNat tick
  · have div : (s.step p i).core.divisorReg =
        if s.core.idleStartFire i then Core.divisorClamped p i else s.core.divisorReg := rfl
    rw [div, Latched.step]
    cases s.core.idleStartFire i with
    | true => exact toNat_divisorClamped p i
    | false => exact sh.divisor

/-- What the tick counter is compared with, as a time. -/
lemma Shows.toNat_phaseCnt (sh : s.Shows) :
    s.core.phaseCnt.toNat =
      if s.core.stateReg.half then 2 * s.divisor % 2 ^ 16 else s.divisor := by
  rw [Core.phaseCnt]
  cases s.core.stateReg.half with
  | true => rw [if_pos rfl, if_pos rfl, Core.toNat_halfCnt, sh.divisor]
  | false => exact sh.divisor

/-- A timed phase is left when the time in it agrees with the compare value modulo the range. -/
lemma Shows.leaves_iff (sh : s.Shows) (timed : s.core.timed = true)
    (noAbort : s.core.abortFire p i = false) :
    (s.core.step p i).stateReg ≠ s.core.stateReg ↔
      s.phased.elapsed % 2 ^ 16 = s.core.phaseCnt.toNat ∧ s.core.highPhaseReady = true := by
  rw [Core.leaves_iff timed noAbort, Core.phaseEnd_iff, ← sh.tick timed, BitVec.toNat_inj]

/-- A phase that is left too early is hurried. -/
lemma Shows.lasts_iff (sh : s.Shows) : s.Lasts p i ↔ ¬ s.Hurried p i := by
  have lt : s.divisor < 2 ^ 16 := sh.divisor ▸ s.core.divisorReg.isLt
  have cnt := sh.toNat_phaseCnt
  constructor
  · rintro lasts ⟨half, noAbort, big, short, ready⟩
    have timed : s.core.timed = true := by rw [Core.timed, half, Bool.true_or]
    rw [half, if_pos rfl] at cnt
    have leaves := (sh.leaves_iff timed noAbort).mpr ⟨by omega, ready⟩
    have long := lasts timed noAbort leaves
    rw [minimum, half, if_pos rfl] at long
    omega
  · intro calm timed noAbort leaves
    obtain ⟨reached, ready⟩ := (sh.leaves_iff timed noAbort).mp leaves
    rw [minimum]
    cases half : s.core.stateReg.half with
    | false =>
      rw [half, if_neg Bool.false_ne_true] at cnt
      rw [if_neg Bool.false_ne_true]
      have le := Nat.mod_le s.phased.elapsed (2 ^ 16)
      omega
    | true =>
      rw [half, if_pos rfl] at cnt
      rw [if_pos rfl]
      by_contra early
      -- the only earlier time that agrees modulo the range is one range before
      exact calm ⟨half, noAbort, by omega, by omega, ready⟩

end Latched

/-- For both parameters and every run, whatever the bus and the divisor register do: every phase
    that is not aborted lasts its minimum exactly if no half phase is hurried. -/
theorem phase_minimum_iff (p : Params) (is : List CoreIn) :
    (latched p).Along (fun s i => s.Lasts p i) is ↔
      (latched p).Along (fun s i => ¬ s.Hurried p i) is := by
  refine (latched p).along_congr (P := Latched.Shows) (C := fun _ _ => True) ?_ ?_ ?_
    ((latched p).along_true is)
  · refine ⟨fun timed => ?_, rfl⟩
    cases timed
  · intro s i sh _ _
    exact sh.step
  · intro s i sh _
    exact sh.lasts_iff

/-- With a divisor of `0x8000` the doubled divisor is compared as 0: the START condition is held for
    one clock. -/
theorem phase_minimum_missed :
    ((latched {}).after [{ command START_CMD 0 with divisor := 0x8000 }]).core.stateReg = .start1 ∧
      ((latched {}).after [{ command START_CMD 0 with divisor := 0x8000 }]).minimum = 2 ^ 16 + 1 ∧
      ((latched {}).after [{ command START_CMD 0 with divisor := 0x8000 }, pause]).core.stateReg =
        .start2 ∧
      ¬ (latched {}).Along (fun s i => s.Lasts {} i)
        [{ command START_CMD 0 with divisor := 0x8000 }, pause] := by
  decide +kernel

end ModularControl.I2c
