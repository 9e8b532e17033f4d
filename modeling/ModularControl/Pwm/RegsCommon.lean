import ModularControl.Axi.Mmio
import ModularControl.Pwm.Core

/-!
# The common PWM register block

`pwm_regs_common.sv`, for any counter width `w` and any number `n` of channels: shadow registers
written by software, active registers seen by the core, and the APPLY that commits the ones to the
others.
-/

namespace ModularControl.Pwm
open Axi

/-- One set of configuration registers: the shadow set or the active set. -/
structure Config (w n : Nat) where
  ctrl : BitVec 32
  period : BitVec w
  duty : Vector (BitVec w) n
  chEnable : BitVec n
deriving DecidableEq

/-- The registers of `pwm_regs_common`. -/
structure RegsCommon (w n : Nat) where
  shadow : Config w n
  active : Config w n
  applyPending : Bool
  rspValid : Bool
  rspRdata : BitVec 32
  rspErr : Bool
deriving DecidableEq

def REG_CTRL : BitVec 12 := 0x00
def REG_PERIOD : BitVec 12 := 0x04
def REG_APPLY : BitVec 12 := 0x08
def REG_CH_ENABLE : BitVec 12 := 0x0C
def REG_STATUS : BitVec 12 := 0x10
def REG_CNT : BitVec 12 := 0x14
def REG_DUTY_BASE : BitVec 12 := 0x20

variable {w n : Nat}

/-- `duty_addr_hit` and `duty_idx`: the channel whose duty register an address is. -/
def dutyHit (n : Nat) (addr : BitVec 12) : Option (Fin n) :=
  if h : REG_DUTY_BASE.toNat ≤ addr.toNat ∧ addr.toNat < REG_DUTY_BASE.toNat + n * 4 ∧
      addr.toNat % 4 = 0 then
    some ⟨(addr.toNat - REG_DUTY_BASE.toNat) / 4, by omega⟩
  else none

namespace RegsCommon

/-- The registers when reset is released. -/
def reset (w n : Nat) : RegsCommon w n where
  shadow := ⟨0, 0, Vector.replicate n 0, 0⟩
  active := ⟨0, 0, Vector.replicate n 0, 0⟩
  applyPending := false
  rspValid := false
  rspRdata := 0
  rspErr := false

variable (applyOnPeriodEnd : Bool) (s : RegsCommon w n) (periodEndI : Bool) (cntI : BitVec w)
  (v : Bool) (q : MmioReq) (r : Bool)

def rspFire : Bool := s.rspValid && r
def reqReady : Bool := !s.rspValid || s.rspFire r
def reqFire : Bool := v && s.reqReady r

/-- The read mux (`rdata_next`, `err_next`): software reads back what it wrote last. -/
def answer : MmioRsp :=
  match dutyHit n q.addr with
  | some k => ⟨s.shadow.duty[k].setWidth 32, false⟩
  | none =>
    if q.addr = REG_CTRL then ⟨s.shadow.ctrl, false⟩
    else if q.addr = REG_PERIOD then ⟨s.shadow.period.setWidth 32, false⟩
    else if q.addr = REG_CH_ENABLE then ⟨s.shadow.chEnable.setWidth 32, false⟩
    else if q.addr = REG_APPLY then ⟨0, false⟩
    else if q.addr = REG_STATUS then
      ⟨(BitVec.ofBool (s.active.ctrl.getLsbD 0) ++ BitVec.ofBool s.applyPending ++
        BitVec.ofBool periodEndI).setWidth 32, false⟩
    else if q.addr = REG_CNT then ⟨cntI.setWidth 32, false⟩
    else ⟨0, true⟩

/-- `apply_pulse`. -/
def applyPulse : Bool :=
  s.reqFire v r && q.write && q.addr == REG_APPLY && (q.wstrb.getLsbD 0 && q.wdata.getLsbD 0)

/-- `safe_to_delay_apply`. -/
def safeToDelayApply : Bool := s.active.ctrl.getLsbD 0 && s.active.period != 0

/-- `apply_commit_now`. -/
def applyCommitNow : Bool :=
  if applyOnPeriodEnd then
    (s.applyPulse v q r || s.applyPending) && (!s.safeToDelayApply || periodEndI)
  else s.applyPulse v q r

/-- The shadow registers after an accepted write. -/
def written (c : Config w n) (q : MmioReq) : Config w n :=
  match dutyHit n q.addr with
  | some k =>
    { c with
      duty := c.duty.set k ((mergeWstrb (c.duty[k].setWidth 32) q.wdata q.wstrb).setWidth w) }
  | none =>
    if q.addr = REG_CTRL then { c with ctrl := mergeWstrb c.ctrl q.wdata q.wstrb }
    else if q.addr = REG_PERIOD then
      { c with period := (mergeWstrb (c.period.setWidth 32) q.wdata q.wstrb).setWidth w }
    else if q.addr = REG_CH_ENABLE then
      { c with chEnable := (mergeWstrb (c.chEnable.setWidth 32) q.wdata q.wstrb).setWidth n }
    else c

/-- The sequential block. A commit copies the shadow registers as they are before the edge. -/
def step : RegsCommon w n where
  shadow := if s.reqFire v r && q.write then written s.shadow q else s.shadow
  active := if s.applyCommitNow applyOnPeriodEnd periodEndI v q r then s.shadow else s.active
  applyPending :=
    if s.applyCommitNow applyOnPeriodEnd periodEndI v q r then false
    else if s.applyPulse v q r && applyOnPeriodEnd && s.safeToDelayApply then true
    else s.applyPending
  rspValid := if s.reqFire v r then true else if s.rspFire r then false else s.rspValid
  rspRdata := if s.reqFire v r then (s.answer periodEndI cntI q).rdata else s.rspRdata
  rspErr := if s.reqFire v r then (s.answer periodEndI cntI q).err else s.rspErr

end RegsCommon

end ModularControl.Pwm
