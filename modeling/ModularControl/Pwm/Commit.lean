import ModularControl.Pwm.Subsystem

/-!
# When the active PWM configuration changes

With `APPLY_ON_PERIOD_END = 1` a commit waits for the end of the running period if
`safe_to_delay_apply` holds. An APPLY is pending only while it does, so the one commit that lands
inside a period is the bypass: an APPLY accepted while the active period is 0, for which the core
counts its default period.
-/

namespace ModularControl.Pwm
open Sync Axi

variable {w n : Nat}

/-- A cycle of the MMIO channel: `req_valid`, the request lines and `rsp_ready`. -/
structure Mmio where
  valid : Bool
  req : MmioReq
  rspReady : Bool
deriving DecidableEq

/-- The common register block with the core it configures, with deferred commits. -/
def pwmTimed (w n : Nat) : Machine (Timed w n) Mmio Unit where
  init := .reset w n
  step s m := s.step true m.valid m.req m.rspReady
  out _ _ := ()

/-- `pwm_subsystem_motor`, with deferred commits. -/
def pwmMotor (w n : Nat) : Machine (Motor w n) Mmio Unit where
  init := .reset w n
  step s m := s.step true m.valid m.req m.rspReady
  out _ _ := ()

/-- An APPLY is left pending only while its commit may wait for the end of a period. -/
def Timed.PendingSafe (s : Timed w n) : Prop :=
  s.regs.applyPending = true → s.regs.safeToDelayApply = true

/-- What a clock edge does to the active registers. -/
lemma Timed.step_active (s : Timed w n) (m : Mmio) :
    (s.applyCommit true m.valid m.req m.rspReady = true ∧
        (s.step true m.valid m.req m.rspReady).regs.active = s.regs.shadow ∧
        (s.step true m.valid m.req m.rspReady).regs.applyPending = false) ∨
      (s.applyCommit true m.valid m.req m.rspReady = false ∧
        (s.step true m.valid m.req m.rspReady).regs.active = s.regs.active) := by
  cases h : s.applyCommit true m.valid m.req m.rspReady with
  | true =>
    left
    have h : s.regs.applyCommitNow true s.periodEnd m.valid m.req m.rspReady = true := h
    simp [Timed.step, RegsCommon.step, h]
  | false =>
    right
    have h : s.regs.applyCommitNow true s.periodEnd m.valid m.req m.rspReady = false := h
    simp [Timed.step, RegsCommon.step, h]

/-- When a commit happens: an APPLY is requested, and may not or need not wait. -/
lemma Timed.applyCommit_iff (s : Timed w n) (m : Mmio) :
    s.applyCommit true m.valid m.req m.rspReady = true ↔
      (s.regs.applyPulse m.valid m.req m.rspReady = true ∨ s.regs.applyPending = true) ∧
        (s.regs.safeToDelayApply = false ∨ s.periodEnd = true) := by
  simp [Timed.applyCommit, RegsCommon.applyCommitNow]

lemma Timed.PendingSafe.step {s : Timed w n} (ps : s.PendingSafe) (m : Mmio) :
    (s.step true m.valid m.req m.rspReady).PendingSafe := by
  intro pending
  obtain ⟨-, -, cleared⟩ | ⟨wait, kept⟩ := s.step_active m
  · rw [cleared] at pending
    cases pending
  · -- nothing was committed, so the guard reads the same active registers as before
    have guard : (s.step true m.valid m.req m.rspReady).regs.safeToDelayApply =
        s.regs.safeToDelayApply := by
      simp only [RegsCommon.safeToDelayApply, kept]
    rw [guard]
    have wait' : s.regs.applyCommitNow true s.periodEnd m.valid m.req m.rspReady = false := wait
    cases safe : s.regs.safeToDelayApply with
    | true => rfl
    | false =>
      have old : s.regs.applyPending = true := by
        simpa [Timed.step, RegsCommon.step, wait', safe] using pending
      rw [ps old] at safe
      cases safe

lemma pendingSafe_reachable (is : List Mmio) : ((pwmTimed w n).after is).PendingSafe := by
  refine (pwmTimed w n).invariant_rule (P := Timed.PendingSafe) (C := fun _ _ => True) ?_ ?_
    ((pwmTimed w n).along_true is)
  · intro h
    cases h
  · intro s m ps _
    exact ps.step m

/-- Nothing is committed and the active registers stay, or the core is disabled, or a period ends,
    or it is the cycle of an APPLY that finds the active period 0. -/
def Timed.ChangesInOrder (s : Timed w n) (m : Mmio) : Prop :=
  (s.applyCommit true m.valid m.req m.rspReady = false ∧
      (s.step true m.valid m.req m.rspReady).regs.active = s.regs.active) ∨
    s.enable = false ∨ s.periodEnd = true ∨
    (s.regs.active.period = 0 ∧ s.regs.applyPulse m.valid m.req m.rspReady = true)

lemma Timed.PendingSafe.changesInOrder {s : Timed w n} (ps : s.PendingSafe) (m : Mmio) :
    s.ChangesInOrder m := by
  obtain ⟨commit, -, -⟩ | kept := s.step_active m
  · right
    obtain ⟨asked, now⟩ := (s.applyCommit_iff m).mp commit
    obtain unsafe' | ended := now
    · cases en : s.enable with
      | false => exact .inl rfl
      | true =>
        -- enabled and not safe to wait: the active period is 0, and nothing was pending
        have period : s.regs.active.period = 0 := by
          have en : s.regs.active.ctrl.getLsbD 0 = true := en
          simpa [RegsCommon.safeToDelayApply, en] using unsafe'
        obtain pulse | pending := asked
        · exact .inr (.inr ⟨period, pulse⟩)
        · rw [ps pending] at unsafe'
          cases unsafe'
    · exact .inr (.inl ended)
  · exact .inl kept

/-- In every reachable state of the register block composed with the core, for every MMIO cycle. -/
theorem pwm_changes_in_order (is : List Mmio) (m : Mmio) :
    ((pwmTimed w n).after is).ChangesInOrder m :=
  (pendingSafe_reachable is).changesInOrder m

/-- A write of a whole word that is accepted at once. -/
def write (addr : BitVec 12) (data : BitVec 32) : Mmio := ⟨true, ⟨true, addr, data, 0b1111#4⟩, true⟩

/-- Enable is applied with the period still 0, and a duty written. -/
def enabledDefaultPeriod : List Mmio :=
  [write REG_CTRL 1, write REG_APPLY 1, write REG_DUTY_BASE 5]

/-- The next APPLY changes the active registers in the second cycle of a period of 5000, under an
    enabled core. -/
theorem pwm_commit_inside_default_period :
    ((pwmTimed 32 4).after enabledDefaultPeriod).enable = true ∧
      ((pwmTimed 32 4).after enabledDefaultPeriod).cnt = 1 ∧
      lastCount ((pwmTimed 32 4).after enabledDefaultPeriod).regs.active.period = 4999 ∧
      ((pwmTimed 32 4).after enabledDefaultPeriod).periodEnd = false ∧
      ((pwmTimed 32 4).after (enabledDefaultPeriod ++ [write REG_APPLY 1])).regs.active ≠
        ((pwmTimed 32 4).after enabledDefaultPeriod).regs.active := by
  decide +kernel

/-- The common part of the motor subsystem is the raw one, behind the request routing. -/
lemma motor_timed_reachable (w n : Nat) (is : List Mmio) :
    ∃ js, ((pwmMotor w n).after is).timed = (pwmTimed w n).after js :=
  (pwmMotor w n).after_project (pwmTimed w n) Motor.timed
    (fun s m => ⟨s.commonReqValid m.valid m.req, m.req, s.commonRspReady m.rspReady⟩) rfl
    (fun _ _ => rfl) is

/-- The same order holds inside the motor subsystem. -/
theorem motor_changes_in_order (is : List Mmio) (m : Mmio) :
    (((pwmMotor w n).after is).timed).ChangesInOrder
      ⟨((pwmMotor w n).after is).commonReqValid m.valid m.req, m.req,
        ((pwmMotor w n).after is).commonRspReady m.rspReady⟩ := by
  obtain ⟨js, e⟩ := motor_timed_reachable w n is
  rw [e]
  exact (pendingSafe_reachable js).changesInOrder _

end ModularControl.Pwm
