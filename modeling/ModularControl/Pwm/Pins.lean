import ModularControl.Pwm.Snapshot
import ModularControl.Pwm.Waveform
import ModularControl.Sync.Stream

/-!
# The pins of the motors

`pwm_hbridge_adapter.sv` behind `pwm_subsystem_motor.sv`, for any counter width and number of
channels. As long as no APPLY finds the core running on its default period, every commit begins a
new period, so that whatever software accesses, the pins show the settings committed last, period by
period from their commit on, and no period is torn.
-/

namespace ModularControl.Pwm
open Sync Axi

/-- The pins of one H-bridge. -/
structure HbridgePins where
  pwmO : Bool
  in1O : Bool
  in2O : Bool
deriving DecidableEq, Repr

/-- `pwm_hbridge_adapter`. -/
def pwmHbridgeAdapter (directionI brakeI coastI pwmI : Bool) : HbridgePins :=
  if brakeI then ⟨true, true, true⟩
  else if coastI then ⟨true, false, false⟩
  else ⟨pwmI, directionI, !directionI⟩

variable {w n : Nat}

namespace Settings

variable (st : Settings w n)

/-- The inputs of the core. -/
def coreIn : CoreIpIn w n where
  enable := st.config.ctrl.getLsbD 0
  chEnableI := st.config.chEnable
  periodCyclesI := st.config.period
  dutyCyclesI := st.config.duty

/-- The pins of a channel while the core drives `pwm`. -/
def pinsOf (pwm : Fin n → Bool) (i : Fin n) : HbridgePins :=
  pwmHbridgeAdapter (st.masks.dir.getLsbD i) (st.masks.brake.getLsbD i) (st.masks.coast.getLsbD i)
    (pwm i)

/-- The pins in cycle `k` of a period. -/
def wave (k : Nat) : Fin n → HbridgePins := st.pinsOf (st.coreIn.wave k).pwmO

end Settings

/-- `pwm_o`, `in1_o` and `in2_o`. -/
def Motor.pins (s : Motor w n) : Fin n → HbridgePins :=
  s.active.pinsOf (s.active.coreIn.drive s.timed.cnt).pwmO

/-- What the pins are about: the settings written so far, those that are shown, and for how many
    cycles they have been. -/
structure Desk (w n : Nat) where
  written : Settings w n
  shown : Settings w n
  since : Nat

namespace Desk

variable (d : Desk w n)

/-- Nothing is written or shown. -/
def reset (w n : Nat) : Desk w n :=
  ⟨⟨⟨0, 0, Vector.replicate n 0, 0⟩, ⟨0, 0, 0⟩⟩, ⟨⟨0, 0, Vector.replicate n 0, 0⟩, ⟨0, 0, 0⟩⟩, 0⟩

/-- A write is performed, and a commit shows what was written before it from the start. -/
def step (write : Option MmioReq) (commit : Bool) : Desk w n where
  written := write.toList.foldl Settings.write d.written
  shown := if commit then d.written else d.shown
  since := if commit then 0 else d.since + 1

/-- The pins, period by period. -/
def pins : Fin n → HbridgePins := d.shown.wave (d.since % d.shown.coreIn.period)

end Desk

section Run

variable (g : Nat → Mmio)

/-- The registers in a cycle of a run. -/
def motorAt (w n t : Nat) : Motor w n := (pwmMotor w n).atCycle g t

/-- `apply_commit`. -/
def commitAt (w n t : Nat) : Bool :=
  (motorAt g w n t).applyCommit true (g t).valid (g t).req (g t).rspReady

/-- The writes accepted and the commits of a run so far. -/
def deskAt (w n : Nat) : Nat → Desk w n
  | 0 => .reset w n
  | t + 1 => (deskAt w n t).step ((motorAt g w n t).acceptedWrite (g t)) (commitAt g w n t)

/-- Up to a cycle no APPLY finds the core running on its default period. -/
def Orderly (w n t : Nat) : Prop := ∀ u < t, commitAt g w n u = true →
  (motorAt g w n u).timed.enable = true → (motorAt g w n u).timed.regs.active.period ≠ 0

instance (w n t : Nat) : Decidable (Orderly g w n t) :=
  inferInstanceAs (Decidable (∀ u < t, _ → _ → _))

end Run

/-- A cycle of a period. -/
lemma CoreIpIn.count_next (wide : 2 ≤ w) {c : CoreIpIn w n} {cnt : BitVec w} {k : Nat}
    (now : cnt.toNat = k % c.period) :
    (nextCnt true c.periodCyclesI cnt).toNat = (k + 1) % c.period := by
  have last := toNat_lastCount wide c
  have pos : 0 < c.period := Nat.lt_of_lt_of_le Nat.zero_lt_two (Nat.le_max_left 2 _)
  have within : k % c.period < c.period := Nat.mod_lt k pos
  rw [← Nat.mod_add_mod, ← now]
  by_cases ends : cnt.toNat + 1 = c.period
  · have wraps : lastCount c.periodCyclesI ≤ cnt := by
      rw [BitVec.le_def]
      omega
    rw [nextCnt_wraps wraps, ends, Nat.mod_self]
    exact BitVec.toNat_ofNat _ _
  · have counts : cnt < lastCount c.periodCyclesI := by
      rw [BitVec.lt_def]
      omega
    rw [nextCnt_counts counts, Nat.mod_eq_of_lt (by omega)]

/-- The registers are as the desk says: they hold what was written and what is shown, and a running
    core counts through the periods of what is shown. -/
structure Motor.OnDesk (s : Motor w n) (d : Desk w n) : Prop where
  tracked : s.Tracked
  written : s.shadow = d.written
  shown : s.active = d.shown
  counts : d.shown.coreIn.enable = true → s.timed.cnt.toNat = d.since % d.shown.coreIn.period

namespace Motor.OnDesk

variable {s : Motor w n} {d : Desk w n}

lemma reset : (Motor.reset w n).OnDesk (.reset w n) := by
  refine ⟨(pwmSubsystemMotor_lawful true).init, rfl, rfl, fun en => ?_⟩
  have off : (Desk.reset w n).shown.config.ctrl = 0#32 := rfl
  rw [Settings.coreIn, off, BitVec.getLsbD_zero] at en
  cases en

lemma pins (wide : 2 ≤ w) (on : s.OnDesk d) : s.pins = d.pins := by
  have count := on.counts
  rw [← on.shown] at count
  rw [Motor.pins, CoreIpIn.drive_eq wide count, Desk.pins, ← on.shown]
  rfl

/-- A core that runs and is not on its default period is at the end of a period when a commit
    comes. -/
lemma commit_wraps {m : Mmio} (commit : s.applyCommit true m.valid m.req m.rspReady = true)
    (en : s.timed.enable = true) (period : s.timed.regs.active.period ≠ 0) :
    s.timed.cnt = lastCount s.timed.regs.active.period := by
  obtain ⟨-, unsafe' | ended⟩ := (s.timed.applyCommit_iff ⟨s.commonReqValid m.valid m.req, m.req,
    s.commonRspReady m.rspReady⟩).mp commit
  · have en : s.timed.regs.active.ctrl.getLsbD 0 = true := en
    rw [RegsCommon.safeToDelayApply, en, bne_iff_ne.mpr period] at unsafe'
    cases unsafe'
  · rw [Timed.periodEnd, periodEnd, Bool.and_eq_true, beq_iff_eq] at ended
    exact ended.2

/-- What a cycle does to the registers it does to the desk, if no commit finds the core running on
    its default period. -/
lemma step (wide : 2 ≤ w) (on : s.OnDesk d) (m : Mmio)
    (order : s.applyCommit true m.valid m.req m.rspReady = true → s.timed.enable = true →
      s.timed.regs.active.period ≠ 0) :
    (s.after m).OnDesk
      (d.step (s.acceptedWrite m) (s.applyCommit true m.valid m.req m.rspReady)) := by
  have active := s.active_after m
  refine ⟨on.tracked.step true m.valid m.req m.rspReady, ?_, ?_, ?_⟩
  · rw [on.tracked.shadow_after m, on.written]
    rfl
  · rw [active, on.written, on.shown]
    rfl
  · have cnt : (s.after m).timed.cnt =
        nextCnt s.timed.enable s.timed.regs.active.period s.timed.cnt := rfl
    cases commit : s.applyCommit true m.valid m.req m.rspReady with
    | true =>
      intro _
      have zero : (s.after m).timed.cnt = 0 := by
        rw [cnt]
        cases en : s.timed.enable with
        | false => rfl
        | true =>
          have last := commit_wraps commit en (order commit en)
          exact nextCnt_wraps (Nat.le_of_eq (congrArg BitVec.toNat last.symm))
      rw [zero]
      exact (BitVec.toNat_ofNat _ _).trans (Nat.zero_mod _).symm
    | false =>
      intro en
      have en : d.shown.coreIn.enable = true := en
      have running : s.active.coreIn.enable = true := on.shown ▸ en
      have running : s.timed.enable = true := running
      have now := on.counts en
      rw [← on.shown] at now
      rw [cnt, running]
      refine (CoreIpIn.count_next (c := s.active.coreIn) wide now).trans ?_
      rw [on.shown]
      rfl

end Motor.OnDesk

variable {g : Nat → Mmio} {t : Nat}

/-- The desk tells the registers of every cycle. -/
lemma motorAt_onDesk (wide : 2 ≤ w) (order : Orderly g w n t) :
    (motorAt g w n t).OnDesk (deskAt g w n t) := by
  induction t with
  | zero => exact .reset
  | succ t ih =>
    have step := (ih fun u lt => order u (Nat.lt_succ_of_lt lt)).step wide (g t)
      (order t (Nat.lt_succ_self t))
    rw [motorAt, Machine.atCycle_succ]
    exact step

end ModularControl.Pwm
