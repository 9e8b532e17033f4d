import ModularControl.Axi.Mmio
import ModularControl.I2c.Core
import ModularControl.Sync.Responder

/-!
# The I2C register block

`i2c_regs.sv` with the core it contains: command launch and abort, sticky results, and sticky copies
of the core's fault outputs. The block leaves the core's watchdog at its default.
-/

namespace ModularControl.I2c
open Sync Axi

/-- The bus pins the block sees. -/
structure Pins where
  sdaIn : Bool := true
  sclIn : Bool := true
deriving DecidableEq, Repr

/-- The registers of `i2c_regs`, with those of its core. -/
structure I2cRegs where
  txdataReg : BitVec 8
  rxdataReg : BitVec 8
  divisorReg : BitVec 16
  doneSticky : Bool
  ackValidSticky : Bool
  ackSticky : Bool
  rdDataValidSticky : Bool
  cmdIllegalSticky : Bool
  faultAbortSeenSticky : Bool
  faultSdaUnstableSticky : Bool
  faultSclHighTimeoutSticky : Bool
  rspValid : Bool
  rsp : MmioRsp
  core : Core
deriving DecidableEq

def REG_STATUS : BitVec 12 := 0x000
def REG_DIVISOR : BitVec 12 := 0x004
def REG_TXDATA : BitVec 12 := 0x008
def REG_RXDATA : BitVec 12 := 0x00C
def REG_CMD : BitVec 12 := 0x010
def REG_DEBUG : BitVec 12 := 0x014
def REG_FAULT : BitVec 12 := 0x018

def CMD_ABORT_BIT : Nat := 7
def CMD_RD_LAST_BIT : Nat := 8

def STATUS_CMD_READY : Nat := 0
def STATUS_BUS_IDLE : Nat := 1
def STATUS_DONE : Nat := 2
def STATUS_ACK_VALID : Nat := 3
def STATUS_ACK : Nat := 4
def STATUS_RD_DATA_VALID : Nat := 5
def STATUS_CMD_ILLEGAL : Nat := 6
def STATUS_MASTER_RECEIVING : Nat := 7

def FAULT_ANY : Nat := 0
def FAULT_ABORT_SEEN : Nat := 1
def FAULT_SDA_UNSTABLE : Nat := 2
def FAULT_SCL_HIGH_TIMEOUT : Nat := 3

namespace I2cRegs

variable (minDivisor : BitVec 16)

/-- The registers when reset is released. -/
def reset : I2cRegs where
  txdataReg := 0
  rxdataReg := 0
  divisorReg := minDivisor
  doneSticky := false
  ackValidSticky := false
  ackSticky := false
  rdDataValidSticky := false
  cmdIllegalSticky := false
  faultAbortSeenSticky := false
  faultSdaUnstableSticky := false
  faultSclHighTimeoutSticky := false
  rspValid := false
  rsp := ⟨0, false⟩
  core := .reset { minDivisor }

variable (s : I2cRegs) (e : Pins) (v : Bool) (q : MmioReq) (r : Bool)

def rspFire : Bool := s.rspValid && r
def reqReady : Bool := !s.rspValid || s.rspFire r
def reqFire : Bool := v && s.reqReady r
def wrFire : Bool := s.reqFire v r && q.write
def wrStatusFire : Bool := s.wrFire v q r && q.addr == REG_STATUS
def wrDivisorFire : Bool := s.wrFire v q r && q.addr == REG_DIVISOR
def wrTxdataFire : Bool := s.wrFire v q r && q.addr == REG_TXDATA
def wrCmdFire : Bool := s.wrFire v q r && q.addr == REG_CMD
def wrFaultFire : Bool := s.wrFire v q r && q.addr == REG_FAULT

/-- `status_w1c_merged`, `cmd_merged` and `fault_w1c_merged`. -/
def merged (q : MmioReq) : BitVec 32 := mergeWstrb 0 q.wdata q.wstrb

/-- `i2c_abort_fire`. -/
def abortFire : Bool :=
  s.wrCmdFire v q r && q.wstrb.getLsbD 0 && (merged q).getLsbD CMD_ABORT_BIT

def launchCmdFire : Bool :=
  s.wrCmdFire v q r && q.wstrb.getLsbD 0 && !(merged q).getLsbD CMD_ABORT_BIT && s.core.cmdReady

/-- What the block drives into its core. -/
def coreIn : CoreIn where
  divisor := s.divisorReg
  txDataI := s.txdataReg
  rdLastI := (merged q).getLsbD CMD_RD_LAST_BIT
  sdaIn := e.sdaIn
  sclIn := e.sclIn
  cmd := (merged q).setWidth 3
  cmdValidI := s.launchCmdFire v q r
  abortI := s.abortFire v q r

def statusRdata : BitVec 32 :=
  bitAt STATUS_CMD_READY s.core.cmdReady ||| bitAt STATUS_BUS_IDLE s.core.busIdle |||
    bitAt STATUS_MASTER_RECEIVING s.core.masterReceiving ||| bitAt STATUS_DONE s.doneSticky |||
    bitAt STATUS_ACK_VALID s.ackValidSticky ||| bitAt STATUS_ACK s.ackSticky |||
    bitAt STATUS_RD_DATA_VALID s.rdDataValidSticky ||| bitAt STATUS_CMD_ILLEGAL s.cmdIllegalSticky

def faultAnySticky : Bool :=
  s.faultAbortSeenSticky || s.faultSdaUnstableSticky || s.faultSclHighTimeoutSticky

def faultRdata : BitVec 32 :=
  bitAt FAULT_ANY s.faultAnySticky ||| bitAt FAULT_ABORT_SEEN s.faultAbortSeenSticky |||
    bitAt FAULT_SDA_UNSTABLE s.faultSdaUnstableSticky |||
    bitAt FAULT_SCL_HIGH_TIMEOUT s.faultSclHighTimeoutSticky

/-- The read mux (`rdata_next`, `err_next`). -/
def answer : MmioRsp :=
  if q.addr = REG_STATUS then ⟨if q.write then 0 else s.statusRdata, false⟩
  else if q.addr = REG_DIVISOR then ⟨s.divisorReg.setWidth 32, false⟩
  else if q.addr = REG_TXDATA then ⟨s.txdataReg.setWidth 32, false⟩
  else if q.addr = REG_RXDATA then
    if q.write then ⟨0, true⟩ else ⟨s.rxdataReg.setWidth 32, false⟩
  else if q.addr = REG_CMD then
    ⟨0, !q.write || !q.wstrb.getLsbD 0 ||
      (!(merged q).getLsbD CMD_ABORT_BIT && !s.core.cmdReady)⟩
  else if q.addr = REG_DEBUG then if q.write then ⟨0, true⟩ else ⟨0xDECAFBAD, false⟩
  else if q.addr = REG_FAULT then ⟨if q.write then 0 else s.faultRdata, false⟩
  else ⟨0, true⟩

/-- The sequential blocks. Where the source assigns a register twice in a cycle, the later
    assignment is tested first. -/
def step : I2cRegs where
  txdataReg :=
    if s.wrTxdataFire v q r then
      (mergeWstrb (s.txdataReg.setWidth 32) q.wdata q.wstrb).setWidth 8
    else s.txdataReg
  rxdataReg := if s.core.rdDataValid then s.core.rxData else s.rxdataReg
  divisorReg :=
    if s.wrDivisorFire v q r then
      (mergeWstrb (s.divisorReg.setWidth 32) q.wdata q.wstrb).setWidth 16
    else s.divisorReg
  doneSticky :=
    if s.core.doneTick then true
    else if s.launchCmdFire v q r then false
    else if s.wrStatusFire v q r && (merged q).getLsbD STATUS_DONE then false else s.doneSticky
  ackValidSticky :=
    if s.core.ackValid then true
    else if s.launchCmdFire v q r then false
    else if s.wrStatusFire v q r &&
      ((merged q).getLsbD STATUS_ACK_VALID || (merged q).getLsbD STATUS_ACK) then false
    else s.ackValidSticky
  ackSticky :=
    if s.core.ackValid then s.core.ack
    else if s.launchCmdFire v q r then false
    else if s.wrStatusFire v q r &&
      ((merged q).getLsbD STATUS_ACK_VALID || (merged q).getLsbD STATUS_ACK) then false
    else s.ackSticky
  rdDataValidSticky :=
    if s.core.rdDataValid then true
    else if s.launchCmdFire v q r then false
    else if s.wrStatusFire v q r && (merged q).getLsbD STATUS_RD_DATA_VALID then false
    else s.rdDataValidSticky
  cmdIllegalSticky :=
    if s.core.cmdIllegal (s.coreIn e v q r) then true
    else if s.launchCmdFire v q r then false
    else if s.wrStatusFire v q r && (merged q).getLsbD STATUS_CMD_ILLEGAL then false
    else s.cmdIllegalSticky
  faultAbortSeenSticky :=
    if s.core.faultAbortSeenReg then true
    else if s.wrFaultFire v q r && (merged q).getLsbD FAULT_ABORT_SEEN then false
    else s.faultAbortSeenSticky
  faultSdaUnstableSticky :=
    if s.core.faultSdaUnstableReg then true
    else if s.wrFaultFire v q r && (merged q).getLsbD FAULT_SDA_UNSTABLE then false
    else s.faultSdaUnstableSticky
  faultSclHighTimeoutSticky :=
    if s.core.faultSclHighTimeoutReg then true
    else if s.wrFaultFire v q r && (merged q).getLsbD FAULT_SCL_HIGH_TIMEOUT then false
    else s.faultSclHighTimeoutSticky
  rspValid := if s.reqFire v r then true else if s.rspFire r then false else s.rspValid
  rsp := if s.reqFire v r then s.answer q else s.rsp
  core := s.core.step { minDivisor } (s.coreIn e v q r)

end I2cRegs

/-- `i2c_regs` behind its MMIO channels. -/
def i2cRegs (minDivisor : BitVec 16) : Responder I2cRegs Pins MmioReq MmioRsp where
  init := .reset minDivisor
  ready s _ r := s.reqReady r
  valid s := s.rspValid
  rsp s := s.rsp
  answer s _ q := s.answer q
  next s e v q r := s.step minDivisor e v q r

end ModularControl.I2c
