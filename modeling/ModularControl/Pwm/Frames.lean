import ModularControl.Axi.Words
import ModularControl.Pwm.Deferred
import ModularControl.Pwm.Pins

/-!
# Frames of settings

`pwm_regs.h` and `motor_pwm.h` in front of `pwm_subsystem_motor.sv`: a frame is some settings followed
by an APPLY. If the next frame does not begin before a period of the settings shown has gone by, no
frame is torn: the pins show the frame before up to the commit, and all of this one from then on.
-/

namespace ModularControl.Pwm
open Sync Axi

def MOTOR_PWM_BASE : BitVec 32 := 0x00053000

def PWM_REG_CTRL_OFFSET : BitVec 32 := 0x00
def PWM_REG_PERIOD_OFFSET : BitVec 32 := 0x04
def PWM_REG_APPLY_OFFSET : BitVec 32 := 0x08
def PWM_REG_CH_ENABLE_OFFSET : BitVec 32 := 0x0C
def PWM_REG_DUTY_BASE_OFFSET : BitVec 32 := 0x20
def MOTOR_PWM_REG_DIR_MASK_OFFSET : BitVec 32 := 0x40
def MOTOR_PWM_REG_BRAKE_MASK_OFFSET : BitVec 32 := 0x44
def MOTOR_PWM_REG_COAST_MASK_OFFSET : BitVec 32 := 0x48

/-- `PWM_REG_DUTY_OFFSET`. -/
def pwmRegDutyOffset (ch : BitVec 32) : BitVec 32 := PWM_REG_DUTY_BASE_OFFSET + 4 * ch

section Driver

variable {σ : Type} (m : Words σ) (base : BitVec 32)

def pwmSetPeriod (period : BitVec 32) : StateM σ Unit :=
  m.store (base + PWM_REG_PERIOD_OFFSET) period

def pwmSetCtrl (ctrl : BitVec 32) : StateM σ Unit := m.store (base + PWM_REG_CTRL_OFFSET) ctrl

def pwmSetChEnable (channels : BitVec 32) : StateM σ Unit :=
  m.store (base + PWM_REG_CH_ENABLE_OFFSET) channels

def pwmSetDutyCh (channel duty : BitVec 32) : StateM σ Unit :=
  m.store (base + pwmRegDutyOffset channel) duty

def pwmApply : StateM σ Unit := m.store (base + PWM_REG_APPLY_OFFSET) 1

def motorPwmBrakeChannels (channels : BitVec 32) : StateM σ Unit :=
  m.store (MOTOR_PWM_BASE + MOTOR_PWM_REG_BRAKE_MASK_OFFSET) channels

def motorPwmCoastChannels (channels : BitVec 32) : StateM σ Unit :=
  m.store (MOTOR_PWM_BASE + MOTOR_PWM_REG_COAST_MASK_OFFSET) channels

def motorPwmDirChannels (channels : BitVec 32) : StateM σ Unit :=
  m.store (MOTOR_PWM_BASE + MOTOR_PWM_REG_DIR_MASK_OFFSET) channels

end Driver

/-- The calls that write settings, for `n` channels. -/
inductive MotorCall (n : Nat) where
  | setPeriod (period : BitVec 32)
  | setCtrl (ctrl : BitVec 32)
  | enableCh (channels : BitVec 32)
  | setChDuty (channel : Fin n) (duty : BitVec 32)
  | dirChannels (channels : BitVec 32)
  | brakeChannels (channels : BitVec 32)
  | coastChannels (channels : BitVec 32)
deriving DecidableEq

namespace MotorCall

variable {w n : Nat}

def run {σ : Type} (m : Words σ) : MotorCall n → StateM σ Unit
  | setPeriod period => pwmSetPeriod m MOTOR_PWM_BASE period
  | setCtrl ctrl => pwmSetCtrl m MOTOR_PWM_BASE ctrl
  | enableCh channels => pwmSetChEnable m MOTOR_PWM_BASE channels
  | setChDuty channel duty => pwmSetDutyCh m MOTOR_PWM_BASE (.ofNat 32 channel) duty
  | dirChannels channels => motorPwmDirChannels m channels
  | brakeChannels channels => motorPwmBrakeChannels m channels
  | coastChannels channels => motorPwmCoastChannels m channels

/-- What a call does to the settings. -/
def set (st : Settings w n) : MotorCall n → Settings w n
  | setPeriod period => { st with config.period := period.setWidth w }
  | setCtrl ctrl => { st with config.ctrl := ctrl }
  | enableCh channels => { st with config.chEnable := channels.setWidth n }
  | setChDuty channel duty =>
    { st with config.duty := st.config.duty.set channel (duty.setWidth w) channel.isLt }
  | dirChannels channels => { st with masks.dir := channels.setWidth n }
  | brakeChannels channels => { st with masks.brake := channels.setWidth n }
  | coastChannels channels => { st with masks.coast := channels.setWidth n }

/-- The word that a call stores to, and what it stores. -/
def word : MotorCall n → BitVec 32 × BitVec 32
  | setPeriod period => (MOTOR_PWM_BASE + PWM_REG_PERIOD_OFFSET, period)
  | setCtrl ctrl => (MOTOR_PWM_BASE + PWM_REG_CTRL_OFFSET, ctrl)
  | enableCh channels => (MOTOR_PWM_BASE + PWM_REG_CH_ENABLE_OFFSET, channels)
  | setChDuty channel duty => (MOTOR_PWM_BASE + pwmRegDutyOffset (.ofNat 32 channel), duty)
  | dirChannels channels => (MOTOR_PWM_BASE + MOTOR_PWM_REG_DIR_MASK_OFFSET, channels)
  | brakeChannels channels => (MOTOR_PWM_BASE + MOTOR_PWM_REG_BRAKE_MASK_OFFSET, channels)
  | coastChannels channels => (MOTOR_PWM_BASE + MOTOR_PWM_REG_COAST_MASK_OFFSET, channels)

lemma run_eq {σ : Type} (m : Words σ) (call : MotorCall n) :
    call.run m = m.store call.word.1 call.word.2 := by
  cases call <;> rfl

/-- The register that a call stores to. -/
lemma toNat_duty (few : n ≤ 8) (k : Fin n) :
    ((MOTOR_PWM_BASE + pwmRegDutyOffset (.ofNat 32 k)).setWidth 12).toNat = 32 + 4 * k.val := by
  have lt := k.isLt
  have base : MOTOR_PWM_BASE.toNat = 0x53000 := rfl
  have duty : PWM_REG_DUTY_BASE_OFFSET.toNat = 32 := rfl
  have four : (4 : BitVec 32).toNat = 4 := rfl
  rw [BitVec.toNat_setWidth, BitVec.toNat_add, base, pwmRegDutyOffset, BitVec.toNat_add, duty,
    BitVec.toNat_mul, four, BitVec.toNat_ofNat]
  omega

lemma dutyHit_duty (few : n ≤ 8) (k : Fin n) :
    dutyHit n ((MOTOR_PWM_BASE + pwmRegDutyOffset (.ofNat 32 k)).setWidth 12) = some k := by
  have at_k := toNat_duty few k
  have base : REG_DUTY_BASE.toNat = 32 := rfl
  rw [dutyHit, dif_pos (by omega)]
  simp only [at_k, base, Option.some.injEq, Fin.ext_iff]
  omega

/-- The duty registers lie below the masks. -/
lemma route_duty (few : n ≤ 8) (k : Fin n) (duty : BitVec 32) :
    Motor.routeToExt (storeReq (MOTOR_PWM_BASE + pwmRegDutyOffset (.ofNat 32 k)) duty) = false := by
  have lt := k.isLt
  have at_k := toNat_duty few k
  have below (reg : BitVec 12) (high : 64 ≤ reg.toNat) :
      ((MOTOR_PWM_BASE + pwmRegDutyOffset (.ofNat 32 k)).setWidth 12 == reg) = false := by
    rw [beq_eq_false_iff_ne]
    intro same
    rw [same] at at_k
    omega
  simp [Motor.routeToExt, RegsHbridge.regHit, below REG_DIR_MASK (by decide),
    below REG_BRAKE_MASK (by decide), below REG_COAST_MASK (by decide)]

/-- No call stores to APPLY. -/
lemma addr_ne (few : n ≤ 8) (call : MotorCall n) :
    (storeReq call.word.1 call.word.2).addr ≠ REG_APPLY := by
  cases call with
  | setChDuty channel duty =>
    intro same
    have at_k := toNat_duty few channel
    have apply : REG_APPLY.toNat = 8 := rfl
    rw [show (MOTOR_PWM_BASE + pwmRegDutyOffset (.ofNat 32 channel)).setWidth 12 = REG_APPLY from
      same] at at_k
    omega
  | _ =>
    simp [word, MOTOR_PWM_BASE, REG_APPLY, PWM_REG_PERIOD_OFFSET, PWM_REG_CTRL_OFFSET,
      PWM_REG_CH_ENABLE_OFFSET, MOTOR_PWM_REG_DIR_MASK_OFFSET, MOTOR_PWM_REG_BRAKE_MASK_OFFSET,
      MOTOR_PWM_REG_COAST_MASK_OFFSET]

/-- A call's store does to the settings what the call means. -/
lemma write_eq (few : n ≤ 8) (st : Settings w n) (call : MotorCall n) :
    st.write (storeReq call.word.1 call.word.2) = call.set st := by
  cases call with
  | setChDuty channel duty =>
    have hit := dutyHit_duty few channel
    have route := route_duty few channel duty
    simp [Settings.write, RegsCommon.written, word, set, hit, route]
  | _ =>
    simp [Settings.write, Motor.routeToExt, RegsHbridge.regHit, word, set, MOTOR_PWM_BASE,
      PWM_REG_PERIOD_OFFSET, PWM_REG_CTRL_OFFSET, PWM_REG_CH_ENABLE_OFFSET,
      MOTOR_PWM_REG_DIR_MASK_OFFSET, MOTOR_PWM_REG_BRAKE_MASK_OFFSET,
      MOTOR_PWM_REG_COAST_MASK_OFFSET, REG_DIR_MASK, REG_BRAKE_MASK, REG_COAST_MASK,
      RegsHbridge.written, RegsCommon.written, dutyHit, REG_DUTY_BASE, REG_CTRL, REG_PERIOD,
      REG_CH_ENABLE]

end MotorCall

/-- `pwm_subsystem_motor` with `APPLY_ON_PERIOD_END` set. -/
abbrev motorBlock (w n : Nat) := pwmSubsystemMotor w n true

/-- The motor subsystem with all it has seen. -/
abbrev MotorBench (w n : Nat) := Bench (Motor w n) Unit MmioReq

lemma motorBlock_lawful (w n : Nat) : (motorBlock w n).Lawful Motor.Tracked :=
  pwmSubsystemMotor_lawful true

lemma motorBlock_steady (w n : Nat) : (motorBlock w n).Steady := by
  intro s e q full
  have common : s.commonReqValid false q = false := rfl
  have fire : s.reqFire false q false = false := rfl
  cases pending : s.pendingCommon <;>
    simp [pwmSubsystemMotor, Motor.rsp, Motor.step, Timed.step, RegsCommon.step,
      RegsCommon.reqFire, common, fire, pending]

variable {w n : Nat}

namespace Motor

variable {s : Motor w n} {q : MmioReq} {r : Bool}

lemma applies_nothing : s.applyPulse ⟨false, q, r⟩ = false := rfl

/-- While no response waits a write is accepted. -/
lemma accepts (tr : s.Tracked) (empty : s.rspValid = false) (write : q.write = true) :
    s.acceptedWrite ⟨true, q, false⟩ = some q := by
  have ready : s.reqReady q false = true := (motorBlock_lawful w n).ready q false tr empty
  simp [acceptedWrite, reqFire, ready, write]

/-- Only a write of APPLY asks for a commit. -/
lemma applies_not (other : q.addr ≠ REG_APPLY) : s.applyPulse ⟨true, q, false⟩ = false := by
  simp [applyPulse, RegsCommon.applyPulse, other]

/-- Without a request no commit comes. -/
lemma commits_not {m : Mmio} (clear : s.timed.regs.applyPending = false)
    (pulse : s.applyPulse m = false) :
    s.applyCommit true m.valid m.req m.rspReady = false ∧
      (s.after m).timed.regs.applyPending = false := by
  constructor
  · rw [← Bool.not_eq_true]
    intro commit
    obtain asked | asked := commit_asked commit
    · rw [pulse] at asked
      cases asked
    · rw [clear] at asked
      cases asked
  · rw [← Bool.not_eq_true]
    intro pending
    obtain asked | asked := pending_after pending
    · rw [pulse] at asked
      cases asked
    · rw [clear] at asked
      cases asked

/-- A write of one to APPLY that is accepted asks for a commit. -/
lemma applies (tr : s.Tracked) (empty : s.rspValid = false) (addr : BitVec 32)
    (apply : addr.setWidth 12 = REG_APPLY) :
    s.applyPulse ⟨true, storeReq addr 1, false⟩ = true := by
  have ready : s.reqReady (storeReq addr 1) false = true :=
    (motorBlock_lawful w n).ready _ false tr empty
  have common : Motor.routeToExt (storeReq addr 1) = false := by
    simp only [routeToExt, RegsHbridge.regHit, storeReq_addr, apply]
    decide
  have fire := tr.commonFire ⟨true, storeReq addr 1, false⟩
  simp only [reqFire, ready, common, Bool.not_false, Bool.and_self] at fire
  simp only [applyPulse, RegsCommon.applyPulse, fire, storeReq_write, storeReq_addr, apply,
    beq_self_eq_true, Bool.true_and]
  simp [storeReq, writeReq]

end Motor

/-- The pins have shown `st` since cycle `c`, and `written` is what an APPLY would commit. -/
structure On (st : Settings w n) (c : Nat) (written : Settings w n) (t : MotorBench w n) : Prop where
  run : t.RunFrom (motorBlock w n) (.reset w n)
  begun : c ≤ t.now
  desk : t.regs.OnDesk ⟨written, st, t.now - c⟩
  shown : t.Since (motorBlock w n) c fun u s => s.pins = st.wave ((u - c) % st.coreIn.period)

/-- No APPLY is pending. -/
structure Writing (st : Settings w n) (c : Nat) (written : Settings w n) (t : MotorBench w n) : Prop
    extends On st c written t where
  clear : t.regs.timed.regs.applyPending = false

/-- An APPLY is pending, at the latest until the end of the running period. -/
structure Waiting (st : Settings w n) (c : Nat) (written : Settings w n) (t : MotorBench w n) : Prop
    extends On st c written t where
  pending : t.regs.timed.regs.applyPending = true
  enabled : st.coreIn.enable = true

/-- The settings may be shown: a core that runs is not on its default period. -/
def Settings.Sound (st : Settings w n) : Prop :=
  st.coreIn.enable = true → st.config.period ≠ 0

instance (st : Settings w n) : Decidable st.Sound := inferInstanceAs (Decidable (_ → _))

/-- An APPLY was accepted in cycle `a`. -/
def AppliesAt (a : Nat) (t : MotorBench w n) : Prop :=
  t.Occurs (motorBlock w n) (fun s p => s.applyPulse ⟨p.valid, p.req, p.rspReady⟩ = true) a

/-- Cycle `b` was a commit. -/
def CommitsAt (b : Nat) (t : MotorBench w n) : Prop :=
  t.Occurs (motorBlock w n) (fun s p => s.applyCommit true p.valid p.req p.rspReady = true) b

/-- An APPLY of cycle `a` is committed in cycle `b`: at once, or where a period ends of the settings
    that a running core has shown since `c`. -/
def InTime (st : Settings w n) (c a b : Nat) : Prop :=
  b = a ∨ a < b ∧ st.coreIn.enable = true ∧ st.coreIn.period ∣ b + 1 - c

lemma InTime.le {st : Settings w n} {c a b : Nat} (inTime : InTime st c a b) : a ≤ b := by
  obtain now | ⟨later, -⟩ := inTime
  · exact Nat.le_of_eq now.symm
  · exact Nat.le_of_lt later

/-- The settings have changed in cycle `c'`. -/
structure Changed (st : Settings w n) (c : Nat) (st' : Settings w n) (c' : Nat)
    (t : MotorBench w n) : Prop extends Writing st' c' st' t where
  before : ∀ u, c ≤ u → u < c' →
    (t.atCycle (motorBlock w n) u).pins = st.wave ((u - c) % st.coreIn.period)

/-- They have by the commit of cycle `b`. -/
structure Switched (st : Settings w n) (c : Nat) (st' : Settings w n) (b : Nat)
    (t : MotorBench w n) : Prop extends Changed st c st' (b + 1) t where
  commit : CommitsAt b t

/-- APPLY is no settings register. -/
lemma Settings.write_apply (st : Settings w n) {q : MmioReq} (apply : q.addr = REG_APPLY) :
    st.write q = st := by
  have hit : dutyHit n 0x08#12 = none := by
    simp [dutyHit, REG_DUTY_BASE]
  simp [Settings.write, Motor.routeToExt, RegsHbridge.regHit, RegsCommon.written, apply, hit,
    REG_APPLY, REG_DIR_MASK, REG_BRAKE_MASK, REG_COAST_MASK, REG_CTRL, REG_PERIOD, REG_CH_ENABLE]

section Cycle

variable {W : World Unit} {st st' written : Settings w n} {c c' : Nat} {t : MotorBench w n}
  {q : MmioReq} {v r : Bool}

/-- A cycle without a commit. -/
lemma On.cycle (wide : 2 ≤ w) (on : On st c written t)
    (stays : t.regs.applyCommit true v q r = false) :
    On st c ((t.regs.acceptedWrite ⟨v, q, r⟩).toList.foldl Settings.write written)
      (t.cycle (motorBlock w n) W v q r) := by
  have desk := on.desk.step wide ⟨v, q, r⟩ fun commit => by
    rw [stays] at commit
    cases commit
  have later : t.now + 1 - c = t.now - c + 1 := Nat.succ_sub on.begun
  rw [Desk.step, stays, if_neg Bool.false_ne_true, if_neg Bool.false_ne_true, ← later] at desk
  refine ⟨on.run.cycle v q r, ?_, ?_, on.shown.cycle on.run (desk.pins wide)⟩
  · rw [Bench.now_cycle]
    exact Nat.le_succ_of_le on.begun
  · rw [Bench.now_cycle]
    exact desk

/-- A cycle with a commit. -/
lemma On.commits (wide : 2 ≤ w) (sound : st.Sound) (on : On st c written t)
    (commit : t.regs.applyCommit true v q r = true)
    (same : (t.regs.acceptedWrite ⟨v, q, r⟩).toList.foldl Settings.write written = written) :
    Switched st c written t.now (t.cycle (motorBlock w n) W v q r) := by
  have desk := on.desk.step wide ⟨v, q, r⟩ fun _ running => by
    have shown : t.regs.active = st := on.desk.shown
    have running : t.regs.active.coreIn.enable = true := running
    rw [shown] at running
    have period := sound running
    rw [← shown] at period
    exact period
  rw [Desk.step, commit, if_pos rfl, if_pos rfl, same] at desk
  have zero : (t.cycle (motorBlock w n) W v q r).now - (t.now + 1) = 0 := by
    rw [Bench.now_cycle, Nat.sub_self]
  have run := on.run.cycle (W := W) v q r
  have cleared : (t.regs.after ⟨v, q, r⟩).timed.regs.applyPending = false := by
    obtain ⟨-, -, cleared⟩ | ⟨stays, -⟩ := t.regs.timed.step_active
      ⟨t.regs.commonReqValid v q, q, t.regs.commonRspReady r⟩
    · exact cleared
    · have commit : t.regs.timed.applyCommit true (t.regs.commonReqValid v q) q
        (t.regs.commonRspReady r) = true := commit
      rw [commit] at stays
      cases stays
  refine ⟨⟨⟨⟨run, Nat.le_of_eq Bench.now_cycle.symm, ?_, ?_⟩, cleared⟩, fun u ge lt => ?_⟩,
    Bench.occurs_now on.run commit⟩
  · rw [zero]
    exact desk
  · rw [← Bench.now_cycle (R := motorBlock w n) (W := W) (v := v) (q := q) (r := r)]
    refine .now run ?_
    rw [Nat.sub_self]
    exact desk.pins wide
  · rw [Bench.atCycle_cycle (Nat.le_of_lt_succ lt)]
    exact on.shown u ge (Nat.le_of_lt_succ lt)

/-- Nothing is requested, and nothing is pending. -/
lemma Writing.idle (wide : 2 ≤ w) (wr : Writing st c written t) :
    Writing st c written (t.cycle (motorBlock w n) W false q r) := by
  obtain ⟨stays, clear⟩ :=
    Motor.commits_not (m := ⟨false, q, r⟩) wr.clear Motor.applies_nothing
  exact ⟨wr.toOn.cycle wide stays, clear⟩

/-- A write of a settings register. -/
lemma Writing.writes (wide : 2 ≤ w) (wr : Writing st c written t)
    (free : t.Free (motorBlock w n) Motor.Tracked) (write : q.write = true)
    (other : q.addr ≠ REG_APPLY) :
    Writing st c (written.write q) (t.cycle (motorBlock w n) W true q false) := by
  obtain ⟨stays, clear⟩ :=
    Motor.commits_not (m := ⟨true, q, false⟩) wr.clear (Motor.applies_not other)
  have on := wr.toOn.cycle (W := W) wide stays
  rw [Motor.accepts free.inv free.empty write] at on
  exact ⟨on, clear⟩

/-- A core that an APPLY waits for runs. -/
lemma Waiting.running (wide : 2 ≤ w) (sound : st.Sound) (wt : Waiting st c written t) :
    t.regs.timed.Running := by
  have shown : t.regs.active = st := wt.desk.shown
  have last := CoreIpIn.toNat_lastCount wide st.coreIn
  have count : t.regs.timed.cnt.toNat = (t.now - c) % st.coreIn.period := wt.desk.counts wt.enabled
  have within : (t.now - c) % st.coreIn.period < st.coreIn.period := Nat.mod_lt _ (by omega)
  have enabled := wt.enabled
  have period := sound enabled
  have inPeriod : t.regs.timed.cnt.toNat ≤ (lastCount st.config.period).toNat := by
    have last : (lastCount st.config.period).toNat + 1 = st.coreIn.period := last
    omega
  rw [← shown] at enabled period inPeriod
  exact ⟨enabled, period, inPeriod⟩

/-- A pending APPLY is committed in the last cycle of the period, which comes closer. -/
lemma Waiting.idle (wide : 2 ≤ w) (sound : st.Sound) (wt : Waiting st c written t) :
    (st.coreIn.period ∣ t.now + 1 - c ∧
        Switched st c written t.now (t.cycle (motorBlock w n) W false q r)) ∨
      Waiting st c written (t.cycle (motorBlock w n) W false q r) ∧
        (t.cycle (motorBlock w n) W false q r).regs.timed.left < t.regs.timed.left := by
  have running := wt.running wide sound
  let m : Mmio := ⟨t.regs.commonReqValid false q, q, t.regs.commonRspReady r⟩
  cases commit : t.regs.applyCommit true false q r with
  | true =>
    refine .inl ⟨?_, wt.toOn.commits wide sound commit rfl⟩
    have last : t.regs.timed.left = 0 := (running.commit_iff wt.pending m).mp commit
    have shown : t.regs.timed.regs.active.period = st.coreIn.periodCyclesI :=
      congrArg (fun st => st.config.period) wt.desk.shown
    have count : t.regs.timed.cnt.toNat = (t.now - c) % st.coreIn.period := wt.desk.counts wt.enabled
    have top := CoreIpIn.toNat_lastCount wide st.coreIn
    have within : (t.now - c) % st.coreIn.period < st.coreIn.period := Nat.mod_lt _ (by omega)
    rw [Timed.left, shown, count] at last
    rw [Nat.succ_sub wt.begun, Nat.succ_eq_add_one, Nat.dvd_iff_mod_eq_zero, ← Nat.mod_add_mod,
      show (t.now - c) % st.coreIn.period + 1 = st.coreIn.period by omega, Nat.mod_self]
  | false =>
    right
    have more : 0 < t.regs.timed.left := by
      have last := running.commit_iff wt.pending m
      have commit : t.regs.timed.applyCommit true m.valid m.req m.rspReady = false := commit
      rw [commit] at last
      simp only [Bool.false_eq_true, false_iff] at last
      omega
    obtain ⟨-, pending, active, cnt⟩ := running.waits wt.pending m more
    refine ⟨⟨wt.toOn.cycle wide commit, pending, wt.enabled⟩, ?_⟩
    show (t.regs.timed.step true m.valid m.req m.rspReady).left < t.regs.timed.left
    rw [Timed.left, active, cnt]
    rw [Timed.left] at more ⊢
    omega

lemma Switched.idle (wide : 2 ≤ w) {b : Nat} (sw : Switched st c st' b t) :
    Switched st c st' b (t.cycle (motorBlock w n) W false q r) := by
  refine ⟨⟨sw.toWriting.idle wide, fun u ge lt => ?_⟩, sw.commit.cycle⟩
  rw [Bench.atCycle_cycle (by have := sw.begun; omega)]
  exact sw.before u ge lt

/-- The cycle of an APPLY: it is committed at once, or waits for a running core. -/
lemma Writing.applies (wide : 2 ≤ w) (sound : st.Sound) (wr : Writing st c written t)
    (free : t.Free (motorBlock w n) Motor.Tracked) {addr : BitVec 32}
    (apply : addr.setWidth 12 = REG_APPLY) :
    Switched st c written t.now (t.cycle (motorBlock w n) W true (storeReq addr 1) false) ∨
      Waiting st c written (t.cycle (motorBlock w n) W true (storeReq addr 1) false) := by
  have pulse := Motor.applies free.inv free.empty addr apply
  have accepted := Motor.accepts free.inv free.empty (q := storeReq addr 1) rfl
  have same : (t.regs.acceptedWrite ⟨true, storeReq addr 1, false⟩).toList.foldl Settings.write
      written = written := by
    rw [accepted]
    exact written.write_apply apply
  cases commit : t.regs.applyCommit true true (storeReq addr 1) false with
  | true => exact .inl (wr.toOn.commits wide sound commit same)
  | false =>
    right
    have on := wr.toOn.cycle (W := W) wide commit
    rw [same] at on
    let m : Mmio := ⟨t.regs.commonReqValid true (storeReq addr 1), storeReq addr 1,
      t.regs.commonRspReady false⟩
    have pulse : t.regs.timed.regs.applyPulse m.valid m.req m.rspReady = true := pulse
    have stays : t.regs.timed.applyCommit true m.valid m.req m.rspReady = false := commit
    -- what keeps the commit waiting is a running core
    have safe : t.regs.timed.regs.safeToDelayApply = true := by
      cases safe : t.regs.timed.regs.safeToDelayApply with
      | true => rfl
      | false =>
        rw [(t.regs.timed.applyCommit_iff m).mpr ⟨.inl pulse, .inl safe⟩] at stays
        cases stays
    refine ⟨on, ?_, ?_⟩
    · have stays : t.regs.timed.regs.applyCommitNow true t.regs.timed.periodEnd m.valid m.req
        m.rspReady = false := stays
      show (t.regs.timed.step true m.valid m.req m.rspReady).regs.applyPending = true
      simp [Timed.step, RegsCommon.step, stays, pulse, safe]
    · have enabled := (t.regs.timed.safe_iff.mp safe).1
      have shown : t.regs.active = st := wr.desk.shown
      rw [← shown]
      exact enabled

end Cycle

/-- An APPLY has been accepted since cycle `a`: it waits, or the settings have changed after it. -/
def Applied (st : Settings w n) (c : Nat) (st' : Settings w n) (a : Nat) (t : MotorBench w n) : Prop :=
  ∃ b, a ≤ b ∧ AppliesAt b t ∧
    (Waiting st c st' t ∨ ∃ d, InTime st c b d ∧ Switched st c st' d t)

/-- A frame of settings. -/
def motorFrame {σ : Type} (m : Words σ) (calls : List (MotorCall n)) : StateM σ Unit := do
  calls.forM (MotorCall.run m)
  pwmApply m MOTOR_PWM_BASE

section Driver

variable {W : World Unit} {st st' written : Settings w n} {c a : Nat} {t : MotorBench w n}

lemma Applied.idle (wide : 2 ≤ w) (sound : st.Sound) (ap : Applied st c st' a t) (q : MmioReq)
    (r : Bool) : Applied st c st' a (t.cycle (motorBlock w n) W false q r) := by
  obtain ⟨b, ge, applies, wt | ⟨d, inTime, sw⟩⟩ := ap
  · refine ⟨b, ge, applies.cycle, ?_⟩
    obtain ⟨whole, sw⟩ | ⟨wt, -⟩ := wt.idle wide sound (W := W) (q := q) (r := r)
    · exact .inr ⟨_, .inr ⟨applies.lt, wt.enabled, whole⟩, sw⟩
    · exact .inl wt
  · exact ⟨b, ge, applies.cycle, .inr ⟨d, inTime, sw.idle wide⟩⟩

lemma call_triple (wide : 2 ≤ w) (few : n ≤ 8) (call : MotorCall n) :
    Triple (fun t => t.Free (motorBlock w n) Motor.Tracked ∧ Writing st c written t ∧ a ≤ t.now)
      (call.run (deviceWords (motorBlock w n) W)) fun _ t =>
      t.Free (motorBlock w n) Motor.Tracked ∧ Writing st c (call.set written) t ∧ a ≤ t.now := by
  rw [call.run_eq]
  refine store_triple (motorBlock_lawful w n) (motorBlock_steady w n) (fun t ⟨wr, ge⟩ => ?_)
    (fun t free ⟨wr, ge⟩ => ?_) fun t r ⟨wr, ge⟩ => ?_
  · exact ⟨wr.idle wide, Bench.now_cycle ▸ Nat.le_succ_of_le ge⟩
  · refine ⟨?_, Bench.now_cycle ▸ Nat.le_succ_of_le ge⟩
    rw [← call.write_eq few]
    exact wr.writes wide free rfl (call.addr_ne few)
  · exact ⟨wr.idle wide, Bench.now_cycle ▸ Nat.le_succ_of_le ge⟩

lemma calls_triple (wide : 2 ≤ w) (few : n ≤ 8) (calls : List (MotorCall n)) :
    Triple (fun t => t.Free (motorBlock w n) Motor.Tracked ∧ Writing st c written t ∧ a ≤ t.now)
      (calls.forM (MotorCall.run (deviceWords (motorBlock w n) W))) fun _ t =>
      t.Free (motorBlock w n) Motor.Tracked ∧ Writing st c (calls.foldl MotorCall.set written) t ∧
        a ≤ t.now := by
  induction calls generalizing written with
  | nil => exact .pure fun _ h => h
  | cons call calls ih => exact (call_triple wide few call).bind fun _ => ih

lemma apply_triple (wide : 2 ≤ w) (sound : st.Sound) :
    Triple (fun t => t.Free (motorBlock w n) Motor.Tracked ∧ Writing st c written t ∧ a ≤ t.now)
      (pwmApply (deviceWords (motorBlock w n) W) MOTOR_PWM_BASE) fun _ t =>
      t.Free (motorBlock w n) Motor.Tracked ∧ Applied st c written a t := by
  refine store_triple (motorBlock_lawful w n) (motorBlock_steady w n) (fun t ⟨wr, ge⟩ => ?_)
    (fun t free ⟨wr, ge⟩ => ?_) fun t r ap => ap.idle wide sound _ r
  · exact ⟨wr.idle wide, Bench.now_cycle ▸ Nat.le_succ_of_le ge⟩
  · have apply : (MOTOR_PWM_BASE + PWM_REG_APPLY_OFFSET).setWidth 12 = REG_APPLY := rfl
    have pulse := Motor.applies free.inv free.empty _ apply
    refine ⟨t.now, ge, Bench.occurs_now wr.run pulse, ?_⟩
    obtain sw | wt := wr.applies wide sound free (W := W) apply
    · exact .inr ⟨_, .inl rfl, sw⟩
    · exact .inl wt

lemma frame_triple (wide : 2 ≤ w) (few : n ≤ 8) (sound : st.Sound) (calls : List (MotorCall n)) :
    Triple (fun t => t.Free (motorBlock w n) Motor.Tracked ∧ Writing st c written t ∧ a ≤ t.now)
      (motorFrame (deviceWords (motorBlock w n) W) calls) fun _ t =>
      t.Free (motorBlock w n) Motor.Tracked ∧
        Applied st c (calls.foldl MotorCall.set written) a t :=
  (calls_triple wide few calls).bind fun _ => apply_triple wide sound

/-- After a period of the settings shown the APPLY has been committed. -/
lemma Applied.changes (wide : 2 ≤ w) (sound : st.Sound) (ap : Applied st c st' a t) (q : MmioReq)
    {k : Nat} (slow : st.coreIn.enable = true → st.coreIn.period ≤ k) :
    ∃ b d, a ≤ b ∧ AppliesAt b (t.waits (motorBlock w n) W q k) ∧ InTime st c b d ∧
      Switched st c st' d (t.waits (motorBlock w n) W q k) := by
  obtain ⟨b, ge, applies, wt | ⟨d, inTime, sw⟩⟩ := ap
  · have slow := slow wt.enabled
    have last := CoreIpIn.toNat_lastCount wide st.coreIn
    have short : t.regs.timed.left < k := by
      have shown : t.regs.timed.regs.active.period = st.coreIn.periodCyclesI :=
        congrArg (fun st => st.config.period) wt.desk.shown
      rw [Timed.left, shown]
      omega
    have changes : AppliesAt b (t.waits (motorBlock w n) W q k) ∧
        ∃ d, InTime st c b d ∧ Switched st c st' d (t.waits (motorBlock w n) W q k) := by
      refine Bench.waits_reaches (A := fun t => AppliesAt b t ∧ Waiting st c st' t)
        (B := fun t => AppliesAt b t ∧ ∃ d, InTime st c b d ∧ Switched st c st' d t)
        (fun t => t.regs.timed.left) ?_ ?_ ⟨applies, wt⟩ short
      · intro t before
        obtain ⟨applies, wt⟩ := before
        obtain ⟨whole, sw⟩ | ⟨wt', less⟩ := wt.idle wide sound (W := W) (q := q) (r := false)
        · exact .inl ⟨applies.cycle, _, .inr ⟨applies.lt, wt.enabled, whole⟩, sw⟩
        · exact .inr ⟨⟨applies.cycle, wt'⟩, less⟩
      · intro t after
        obtain ⟨applies, d, inTime, sw⟩ := after
        exact ⟨applies.cycle, d, inTime, sw.idle wide⟩
    obtain ⟨applies, d, inTime, sw⟩ := changes
    exact ⟨b, d, ge, applies, inTime, sw⟩
  · obtain ⟨applies, sw⟩ := Bench.waits_keeps (R := motorBlock w n) (W := W) (q := q)
      (K := fun t => AppliesAt b t ∧ Switched st c st' d t)
      (fun t h => ⟨h.1.cycle, h.2.idle wide⟩) k ⟨applies, sw⟩
    exact ⟨b, d, ge, applies, inTime, sw⟩

end Driver

/-- A frame, and the cycles until the next one begins. -/
structure Frame (n : Nat) where
  calls : List (MotorCall n)
  pause : Nat

/-- What a frame makes of the settings. -/
def Frame.settings (st : Settings w n) (f : Frame n) : Settings w n := f.calls.foldl MotorCall.set st

/-- The settings after the first `i` frames. -/
def framed (w : Nat) (fs : List (Frame n)) (i : Nat) : Settings w n :=
  (fs.take i).foldl Frame.settings (Desk.reset w n).shown

section Frames

variable (W : World Unit) (fs : List (Frame n))

def Frame.play (f : Frame n) : StateM (MotorBench w n) Unit := do
  motorFrame (deviceWords (motorBlock w n) W) f.calls
  modify fun t => t.waits (motorBlock w n) W (readReq 0) f.pause

/-- The motors after the first `i` frames. -/
def played (w : Nat) (i : Nat) : MotorBench w n :=
  ((forM (fs.take i) (Frame.play W)).run ⟨.reset w n, []⟩).2

end Frames

/-- A frame shown: its APPLY is accepted in cycle `a` and committed in cycle `b`, at once or at the
    end of a period, and with the next cycle, `c'`, the pins change from the settings shown since
    `c` to those of the frame. -/
structure Frame.Shown (st : Settings w n) (c : Nat) (st' : Settings w n) (c' : Nat)
    (t t' : MotorBench w n) : Prop where
  after : ∃ a b, t.now ≤ a ∧ AppliesAt a t' ∧ InTime st c a b ∧ CommitsAt b t' ∧ c' = b + 1
  before : c' ≤ t'.now
  pins : ∀ u, t.now ≤ u → u ≤ t'.now → (t'.atCycle (motorBlock w n) u).pins =
    if u < c' then st.wave ((u - c) % st.coreIn.period)
    else st'.wave ((u - c') % st'.coreIn.period)

variable {W : World Unit} {fs : List (Frame n)} {i : Nat} {f : Frame n} {st : Settings w n} {c : Nat}

lemma framed_succ (at_i : fs[i]? = some f) :
    framed w fs (i + 1) = f.settings (framed w fs i) := by
  rw [framed, List.take_add_one, at_i, List.foldl_append]
  rfl

lemma played_succ (at_i : fs[i]? = some f) :
    played W fs w (i + 1) = ((f.play W).run (played W fs w i)).2 := by
  rw [played, List.take_add_one, at_i, List.forM_append]
  rfl

/-- The motors between two frames. -/
structure Settled (st : Settings w n) (c : Nat) (t : MotorBench w n) : Prop where
  free : t.Free (motorBlock w n) Motor.Tracked
  writing : Writing st c st t

lemma settled_reset (wide : 2 ≤ w) :
    Settled (Desk.reset w n).shown 0 ⟨.reset w n, []⟩ := by
  have run : Bench.RunFrom (motorBlock w n) (.reset w n) ⟨.reset w n, []⟩ := rfl
  exact ⟨⟨(motorBlock_lawful w n).init, rfl⟩,
    ⟨run, Nat.le_refl 0, .reset, .now run (Motor.OnDesk.reset.pins wide)⟩, rfl⟩

/-- A frame after which enough time goes by is shown. -/
lemma Settled.play (wide : 2 ≤ w) (few : n ≤ 8) (sound : st.Sound) {t : MotorBench w n}
    (se : Settled st c t) (slow : st.coreIn.enable = true → st.coreIn.period ≤ f.pause) :
    ∃ c', Settled (f.settings st) c' ((f.play W).run t).2 ∧
      Frame.Shown st c (f.settings st) c' t ((f.play W).run t).2 := by
  obtain ⟨free, ap⟩ := frame_triple (W := W) (a := t.now) wide few sound f.calls t
    ⟨se.free, se.writing, Nat.le_refl _⟩
  obtain ⟨a, b, later, applies, inTime, sw⟩ := ap.changes wide sound (readReq 0) slow (W := W)
  have free := Bench.waits_keeps (W := W) (q := readReq 0)
    (fun t free => free.idle (motorBlock_lawful w n) (readReq 0) false) f.pause free
  refine ⟨b + 1, ⟨free, sw.toWriting⟩, ⟨a, b, later, applies, inTime, sw.commit, rfl⟩, sw.begun,
    fun u ge le => ?_⟩
  split_ifs with early
  · exact sw.before u (Nat.le_trans se.writing.begun ge) early
  · exact sw.shown u (Nat.le_of_not_lt early) le

/-- Channel 0 is started with a duty of 3 in 8, and then turned round with one of 5. -/
def twoFrames : List (Frame 2) :=
  [⟨[.setPeriod 8, .setChDuty 0 3, .enableCh 1, .setCtrl 1], 2⟩,
    ⟨[.setChDuty 0 5, .dirChannels 1], 8⟩]

/-- Between two accesses go up to three cycles by. -/
def dawdling : World Unit := ⟨fun _ => (), fun t => t % 3, fun _ => 1⟩

end ModularControl.Pwm
