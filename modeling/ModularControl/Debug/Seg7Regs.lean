import ModularControl.Axi.Mmio
import ModularControl.Sync.Responder

/-!
# The seven-segment debug register block

`seg7_debug_regs.sv` for any number of digits `n` (`NUM_DIGITS`). Its registers are decoded from the
low byte of the address, and two of its read values are combinational in the live value it watches.
-/

namespace ModularControl.Debug
open Sync Axi

/-- The registers of `seg7_debug_regs`. -/
structure Seg7Regs where
  ctrlReg : BitVec 32
  swValueReg : BitVec 32
  dpNReg : BitVec 32
  blankReg : BitVec 32
  frozenValueReg : BitVec 32
  rspValid : Bool
  rsp : MmioRsp
deriving DecidableEq

def REG_CTRL : BitVec 8 := 0x00
def REG_SW_VALUE : BitVec 8 := 0x04
def REG_DP_N : BitVec 8 := 0x08
def REG_BLANK : BitVec 8 := 0x0C
def REG_LIVE_VALUE : BitVec 8 := 0x10
def REG_FROZEN_VALUE : BitVec 8 := 0x14
def REG_ACTIVE_VALUE : BitVec 8 := 0x18
def REG_STATUS : BitVec 8 := 0x1C

def CTRL_EN_BIT : Nat := 0
def CTRL_MODE_LSB : Nat := 1
def CTRL_SRC_SEL_BIT : Nat := 4
def CTRL_FREEZE_BIT : Nat := 5
def CTRL_SNAPSHOT_BIT : Nat := 6

namespace Seg7Regs

variable (n : Nat)

/-- The registers when reset is released: every decimal point is off. -/
def reset : Seg7Regs where
  ctrlReg := 0
  swValueReg := 0
  dpNReg := (BitVec.allOnes n).setWidth 32
  blankReg := 0
  frozenValueReg := 0
  rspValid := false
  rsp := ⟨0, false⟩

variable {n} (s : Seg7Regs) (liveValue : BitVec (n * 4)) (v : Bool) (q : MmioReq) (r : Bool)

def reqReady : Bool := !s.rspValid || r
def rspFire : Bool := s.rspValid && r
def reqFire : Bool := v && s.reqReady r
def wrFire : Bool := s.reqFire v r && q.write

/-- `req_addr_i[7:0]`, all of the address that is decoded. -/
def reg (q : MmioReq) : BitVec 8 := q.addr.setWidth 8

/-- A write of the register at `addr`. -/
def wrReg (addr : BitVec 8) : Bool := s.wrFire v q r && reg q == addr

def ctrlMerged : BitVec 32 := mergeWstrb s.ctrlReg q.wdata q.wstrb

/-- `mode_o`. -/
def mode : BitVec 3 := s.ctrlReg.extractLsb' CTRL_MODE_LSB 3

def statusRdata : BitVec 32 :=
  bitAt CTRL_EN_BIT (s.ctrlReg.getLsbD CTRL_EN_BIT) ||| s.mode.setWidth 32 <<< CTRL_MODE_LSB |||
    bitAt CTRL_SRC_SEL_BIT (s.ctrlReg.getLsbD CTRL_SRC_SEL_BIT) |||
    bitAt CTRL_FREEZE_BIT (s.ctrlReg.getLsbD CTRL_FREEZE_BIT)

def snapshotPulse : Bool :=
  s.wrReg v q r REG_CTRL && q.wstrb.getLsbD 0 && q.wdata.getLsbD CTRL_SNAPSHOT_BIT

def freezeRise : Bool :=
  s.wrReg v q r REG_CTRL && !s.ctrlReg.getLsbD CTRL_FREEZE_BIT &&
    (s.ctrlMerged q).getLsbD CTRL_FREEZE_BIT

/-- `active_value_o`. -/
def activeValue : BitVec (n * 4) :=
  if s.ctrlReg.getLsbD CTRL_SRC_SEL_BIT then s.swValueReg.setWidth (n * 4)
  else if s.ctrlReg.getLsbD CTRL_FREEZE_BIT then s.frozenValueReg.setWidth (n * 4)
  else liveValue

/-- A word with its low bits replaced by `low`. -/
def withLow {k : Nat} (old : BitVec 32) (low : BitVec k) : BitVec 32 :=
  old >>> k <<< k ||| low.setWidth 32

/-- The response decode of a write. -/
def writeErr (addr : BitVec 8) : Bool :=
  !(addr = REG_CTRL ∨ addr = REG_SW_VALUE ∨ addr = REG_DP_N ∨ addr = REG_BLANK)

/-- The response decode of a read. -/
def readMux (addr : BitVec 8) : MmioRsp :=
  if addr = REG_CTRL then ⟨s.ctrlReg, false⟩
  else if addr = REG_SW_VALUE then ⟨s.swValueReg, false⟩
  else if addr = REG_DP_N then ⟨s.dpNReg, false⟩
  else if addr = REG_BLANK then ⟨s.blankReg, false⟩
  else if addr = REG_LIVE_VALUE then ⟨liveValue.setWidth 32, false⟩
  else if addr = REG_FROZEN_VALUE then ⟨s.frozenValueReg, false⟩
  else if addr = REG_ACTIVE_VALUE then ⟨(s.activeValue liveValue).setWidth 32, false⟩
  else if addr = REG_STATUS then ⟨s.statusRdata, false⟩
  else ⟨0, true⟩

def answer : MmioRsp :=
  if q.write then ⟨0, writeErr (reg q)⟩ else s.readMux liveValue (reg q)

/-- The sequential blocks. -/
def step : Seg7Regs where
  ctrlReg :=
    if s.wrReg v q r REG_CTRL then s.ctrlMerged q &&& ~~~(1#32 <<< CTRL_SNAPSHOT_BIT)
    else s.ctrlReg
  swValueReg :=
    if s.wrReg v q r REG_SW_VALUE then mergeWstrb s.swValueReg q.wdata q.wstrb else s.swValueReg
  dpNReg := if s.wrReg v q r REG_DP_N then mergeWstrb s.dpNReg q.wdata q.wstrb else s.dpNReg
  blankReg := if s.wrReg v q r REG_BLANK then mergeWstrb s.blankReg q.wdata q.wstrb else s.blankReg
  frozenValueReg :=
    if s.snapshotPulse v q r || s.freezeRise v q r then withLow s.frozenValueReg liveValue
    else s.frozenValueReg
  rspValid := if s.reqFire v r then true else if s.rspFire r then false else s.rspValid
  rsp := if s.reqFire v r then s.answer liveValue q else s.rsp

end Seg7Regs

/-- `seg7_debug_regs` behind its MMIO channels; its environment is the live value. -/
def seg7Regs (n : Nat) : Responder Seg7Regs (BitVec (n * 4)) MmioReq MmioRsp where
  init := .reset n
  ready s _ r := s.reqReady r
  valid s := s.rspValid
  rsp s := s.rsp
  answer s liveValue q := s.answer liveValue q
  next s liveValue v q r := s.step liveValue v q r

/-- The register block answers every request once, whatever its registers hold. -/
lemma seg7Regs_lawful (n : Nat) : (seg7Regs n).Lawful fun _ => True :=
  Responder.lawful_of_slot rfl (fun _ _ _ => rfl) (fun _ _ _ _ _ => rfl) fun s _ q r taken => by
    simp [seg7Regs, Seg7Regs.step, Seg7Regs.reqFire, show s.reqReady r = true from taken]

end ModularControl.Debug
