import ModularControl.Pwm.RegsCommon
import ModularControl.Pwm.RegsHbridge
import ModularControl.Sync.Responder

/-!
# The PWM subsystems

`pwm_subsystem_raw.sv` is the common register block wired to the core. `pwm_subsystem_motor.sv` adds
the H-bridge slice, routes each request to the block that owns its address, and keeps one request
outstanding. The raw subsystem is also the part of the motor subsystem on which APPLY works, so it
is a state of its own here (`Timed`).
-/

namespace ModularControl.Pwm
open Sync Axi

/-- The common register block with the counter of the core it configures. -/
structure Timed (w n : Nat) where
  regs : RegsCommon w n
  cnt : BitVec w
deriving DecidableEq

variable {w n : Nat} (applyOnPeriodEnd : Bool)

namespace Timed

def reset (w n : Nat) : Timed w n := ⟨.reset w n, 0⟩

variable (s : Timed w n) (v : Bool) (q : MmioReq) (r : Bool)

/-- `enable_o`. -/
def enable : Bool := s.regs.active.ctrl.getLsbD 0

/-- `period_end`, as the core computes it from the active registers. -/
def periodEnd : Bool := Pwm.periodEnd s.enable s.regs.active.period s.cnt

/-- `apply_commit_o`. -/
def applyCommit : Bool := s.regs.applyCommitNow applyOnPeriodEnd s.periodEnd v q r

def step : Timed w n where
  regs := s.regs.step applyOnPeriodEnd s.periodEnd s.cnt v q r
  cnt := nextCnt s.enable s.regs.active.period s.cnt

end Timed

/-- `pwm_subsystem_raw` behind its MMIO channels. -/
def pwmSubsystemRaw (w n : Nat) (applyOnPeriodEnd : Bool) :
    Responder (Timed w n) Unit MmioReq MmioRsp where
  init := .reset w n
  ready s _ r := s.regs.reqReady r
  valid s := s.regs.rspValid
  rsp s := ⟨s.regs.rspRdata, s.regs.rspErr⟩
  answer s _ q := s.regs.answer s.periodEnd s.cnt q
  next s _ v q r := s.step applyOnPeriodEnd v q r

/-- The registers of `pwm_subsystem_motor`. -/
structure Motor (w n : Nat) where
  timed : Timed w n
  ext : RegsHbridge n
  pendingCommon : Bool
  extRspValidReg : Bool
  extRspRdataReg : BitVec 32
  extRspErrReg : Bool
deriving DecidableEq

namespace Motor

def reset (w n : Nat) : Motor w n where
  timed := .reset w n
  ext := .reset n
  pendingCommon := false
  extRspValidReg := false
  extRspRdataReg := 0
  extRspErrReg := false

variable (s : Motor w n) (v : Bool) (q : MmioReq) (r : Bool)

def idle : Bool := !s.pendingCommon && !s.extRspValidReg
def routeToExt : Bool := RegsHbridge.regHit q.addr
def commonRspReady : Bool := s.pendingCommon && r
def reqReady : Bool :=
  s.idle && (if routeToExt q then true else s.timed.regs.reqReady (s.commonRspReady r))
def reqFire : Bool := v && s.reqReady q r
def commonReqValid : Bool := v && s.idle && !routeToExt q
def extWrEn : Bool := s.reqFire v q r && routeToExt q && q.write

/-- `apply_commit`, seen by both register blocks. -/
def applyCommit : Bool :=
  s.timed.applyCommit applyOnPeriodEnd (s.commonReqValid v q) q (s.commonRspReady r)

def rspValid : Bool := if s.pendingCommon then s.timed.regs.rspValid else s.extRspValidReg

/-- `rsp_rdata` and `rsp_err`. -/
def rsp : MmioRsp :=
  if s.pendingCommon then ⟨s.timed.regs.rspRdata, s.timed.regs.rspErr⟩
  else ⟨s.extRspRdataReg, s.extRspErrReg⟩

/-- The answer of the block that owns the request's address. -/
def answer : MmioRsp :=
  if routeToExt q then ⟨s.ext.rdata q.addr, false⟩
  else s.timed.regs.answer s.timed.periodEnd s.timed.cnt q

/-- The two register blocks, the core and the response tracking. -/
def step : Motor w n where
  timed := s.timed.step applyOnPeriodEnd (s.commonReqValid v q) q (s.commonRspReady r)
  ext := s.ext.step (s.extWrEn v q r) q (s.applyCommit applyOnPeriodEnd v q r)
  pendingCommon :=
    if s.reqFire v q r && !routeToExt q then true
    else if s.pendingCommon && s.timed.regs.rspValid && r then false
    else s.pendingCommon
  extRspValidReg :=
    if s.reqFire v q r && routeToExt q then true
    else if s.extRspValidReg && r && !s.pendingCommon then false
    else s.extRspValidReg
  extRspRdataReg :=
    if s.reqFire v q r && routeToExt q then s.ext.rdata q.addr else s.extRspRdataReg
  extRspErrReg := if s.reqFire v q r && routeToExt q then false else s.extRspErrReg

end Motor

/-- `pwm_subsystem_motor` behind its MMIO channels. -/
def pwmSubsystemMotor (w n : Nat) (applyOnPeriodEnd : Bool) :
    Responder (Motor w n) Unit MmioReq MmioRsp where
  init := .reset w n
  ready s q r := s.reqReady q r
  valid s := s.rspValid
  rsp s := s.rsp
  answer s _ q := s.answer q
  next s _ v q r := s.step applyOnPeriodEnd v q r

/-- The raw subsystem answers every request once, whatever its registers hold. -/
lemma pwmSubsystemRaw_lawful : (pwmSubsystemRaw w n applyOnPeriodEnd).Lawful fun _ => True where
  init := trivial
  next _ _ _ _ _ := trivial
  idle := rfl
  ready := by
    intro s q r _ h
    have h : s.regs.rspValid = false := h
    simp [pwmSubsystemRaw, RegsCommon.reqReady, h]
  valid := by
    intro s e v q r _
    cases h : s.regs.rspValid <;> cases v <;> cases r <;>
      simp [pwmSubsystemRaw, Timed.step, RegsCommon.step, RegsCommon.reqFire, RegsCommon.reqReady,
        RegsCommon.rspFire, h]
  rsp := by
    intro s e q r _ h
    have h : s.regs.rspValid = false := h
    simp [pwmSubsystemRaw, Timed.step, RegsCommon.step, RegsCommon.reqFire, RegsCommon.reqReady,
      RegsCommon.rspFire, h]

/-- The response tracking of the motor subsystem: one response at a time, and the common block has
    one exactly while it is waited for. -/
structure Motor.Tracked (s : Motor w n) : Prop where
  common : s.timed.regs.rspValid = s.pendingCommon
  one : s.pendingCommon = true → s.extRspValidReg = false

lemma Motor.Tracked.rspValid_eq {s : Motor w n} (tr : s.Tracked) :
    s.rspValid = (s.pendingCommon || s.extRspValidReg) := by
  cases h : s.pendingCommon <;> simp [Motor.rspValid, tr.common, h]

lemma Motor.Tracked.step {s : Motor w n} (tr : s.Tracked) (v : Bool) (q : MmioReq) (r : Bool) :
    (s.step applyOnPeriodEnd v q r).Tracked := by
  have common := tr.common
  have one := tr.one
  cases hp : s.pendingCommon with
  | true =>
    have he := one hp
    rw [hp] at common
    constructor <;> cases r <;>
      simp [Motor.step, Timed.step, RegsCommon.step, RegsCommon.reqFire, RegsCommon.rspFire,
        Motor.reqFire, Motor.reqReady, Motor.idle, Motor.commonReqValid, Motor.commonRspReady, hp,
        he, common]
  | false =>
    rw [hp] at common
    cases he : s.extRspValidReg <;> cases v <;> cases hx : Motor.routeToExt q <;> constructor <;>
      simp [Motor.step, Timed.step, RegsCommon.step, RegsCommon.reqFire, RegsCommon.reqReady,
        RegsCommon.rspFire, Motor.reqFire, Motor.reqReady, Motor.idle, Motor.commonReqValid,
        Motor.commonRspReady, hp, he, hx, common]

/-- The motor subsystem answers every request once, from the block that owns its address. -/
lemma pwmSubsystemMotor_lawful :
    (pwmSubsystemMotor w n applyOnPeriodEnd).Lawful Motor.Tracked where
  init := ⟨rfl, fun h => nomatch h⟩
  next _ v q r tr := tr.step applyOnPeriodEnd v q r
  idle := rfl
  ready := by
    intro s q r tr h
    have h : s.rspValid = false := h
    rw [tr.rspValid_eq, Bool.or_eq_false_iff] at h
    have common := tr.common
    simp [pwmSubsystemMotor, Motor.reqReady, Motor.idle, RegsCommon.reqReady, common, h]
  valid := by
    intro s e v q r tr
    have common := tr.common
    have one := tr.one
    have next := (tr.step applyOnPeriodEnd v q r).rspValid_eq
    have now := tr.rspValid_eq
    simp only [pwmSubsystemMotor, next, now]
    cases hp : s.pendingCommon <;> cases he : s.extRspValidReg <;> cases v <;> cases r <;>
      cases hx : Motor.routeToExt q <;>
      simp [Motor.step, Motor.reqFire, Motor.reqReady, Motor.idle, RegsCommon.reqReady, common, hp,
        he, hx] at one ⊢
  rsp := by
    intro s e q r tr h
    have h : s.rspValid = false := h
    rw [tr.rspValid_eq, Bool.or_eq_false_iff] at h
    have common := tr.common
    rw [h.1] at common
    cases hx : Motor.routeToExt q <;>
      simp [pwmSubsystemMotor, Motor.rsp, Motor.answer, Motor.step, Motor.reqFire, Motor.reqReady,
        Motor.idle, Motor.commonReqValid, Motor.commonRspReady, Timed.step, RegsCommon.step,
        RegsCommon.reqFire, RegsCommon.reqReady, RegsCommon.rspFire, common, h, hx]

end ModularControl.Pwm
