import ModularControl.Axi.Ledger

/-!
# The holding state machine wrapper

`axi_lite_gpio.sv` and `axil_lite_seg7_debug.sv` have one wrapper around two register blocks: AW, W
and AR are collected in one-deep holding registers while the machine is idle, and it then serves
one complete request at a time, writes first. It is modelled once, over any responder.
-/

namespace ModularControl.Axi
open Sync

variable {σ ε : Type*}

/-- `state_t` of the two wrappers. -/
inductive HoldFsmState where
  | idle
  | writeReq
  | writeWaitRsp
  | writeB
  | readReq
  | readWaitRsp
  | readR
deriving DecidableEq, Repr

/-- The registers of the wrapper, with those of the register block behind it. -/
structure HoldFsm (σ : Type*) where
  stateReg : HoldFsmState
  awHoldValidReg : Bool
  awaddrHoldReg : BitVec 12
  wHoldValidReg : Bool
  wdataHoldReg : BitVec 32
  wstrbHoldReg : BitVec 4
  arHoldValidReg : Bool
  araddrHoldReg : BitVec 12
  brespReg : BitVec 2
  rdataReg : BitVec 32
  rrespReg : BitVec 2
  regs : σ
deriving DecidableEq

namespace HoldFsm

variable (R : Responder σ ε MmioReq MmioRsp)

/-- The wrapper when reset is released. -/
def reset : HoldFsm σ where
  stateReg := .idle
  awHoldValidReg := false
  awaddrHoldReg := 0
  wHoldValidReg := false
  wdataHoldReg := 0
  wstrbHoldReg := 0
  arHoldValidReg := false
  araddrHoldReg := 0
  brespReg := axiRespOkay
  rdataReg := 0
  rrespReg := axiRespOkay
  regs := R.init

variable (s : HoldFsm σ) (i : AxiIn)

def awready : Bool := s.stateReg == .idle && !s.awHoldValidReg
def wready : Bool := s.stateReg == .idle && !s.wHoldValidReg
def arready : Bool := s.stateReg == .idle && !s.arHoldValidReg
def bvalid : Bool := s.stateReg == .writeB
def rvalid : Bool := s.stateReg == .readR

def awFire : Bool := i.awvalid && s.awready
def wFire : Bool := i.wvalid && s.wready
def bFire : Bool := s.bvalid && i.bready
def arFire : Bool := i.arvalid && s.arready
def rFire : Bool := s.rvalid && i.rready

def mmioReqValid : Bool := s.stateReg == .writeReq || s.stateReg == .readReq

/-- The MMIO request lines, all low outside the two request states. -/
def mmioReq : MmioReq :=
  match s.stateReg with
  | .writeReq => ⟨true, s.awaddrHoldReg, s.wdataHoldReg, s.wstrbHoldReg⟩
  | .readReq => ⟨false, s.araddrHoldReg, 0, 0⟩
  | _ => ⟨false, 0, 0, 0⟩

def mmioRspReady : Bool := s.stateReg == .writeWaitRsp || s.stateReg == .readWaitRsp

def mmioReqFire : Bool := s.mmioReqValid && R.ready s.regs s.mmioReq s.mmioRspReady
def mmioRspFire : Bool := R.valid s.regs && s.mmioRspReady

/-- The next-state logic: in the idle state a write goes before a read. -/
def stateNext : HoldFsmState :=
  match s.stateReg with
  | .idle =>
    if s.awHoldValidReg && s.wHoldValidReg then .writeReq
    else if s.arHoldValidReg then .readReq
    else .idle
  | .writeReq => if s.mmioReqFire R then .writeWaitRsp else .writeReq
  | .writeWaitRsp => if s.mmioRspFire R then .writeB else .writeWaitRsp
  | .writeB => if s.bFire i then .idle else .writeB
  | .readReq => if s.mmioReqFire R then .readWaitRsp else .readReq
  | .readWaitRsp => if s.mmioRspFire R then .readR else .readWaitRsp
  | .readR => if s.rFire i then .idle else .readR

/-- The registers after a clock edge; a holding register is released when its request is
    accepted. -/
def step (e : ε) : HoldFsm σ where
  stateReg := s.stateNext R i
  awHoldValidReg :=
    if s.stateReg == .writeReq && s.mmioReqFire R then false
    else if s.awFire i then true else s.awHoldValidReg
  awaddrHoldReg := if s.awFire i then i.awaddr else s.awaddrHoldReg
  wHoldValidReg :=
    if s.stateReg == .writeReq && s.mmioReqFire R then false
    else if s.wFire i then true else s.wHoldValidReg
  wdataHoldReg := if s.wFire i then i.wdata else s.wdataHoldReg
  wstrbHoldReg := if s.wFire i then i.wstrb else s.wstrbHoldReg
  arHoldValidReg :=
    if s.stateReg == .readReq && s.mmioReqFire R then false
    else if s.arFire i then true else s.arHoldValidReg
  araddrHoldReg := if s.arFire i then i.araddr else s.araddrHoldReg
  brespReg :=
    if s.stateReg == .writeWaitRsp && s.mmioRspFire R then axiResp (R.rsp s.regs) else s.brespReg
  rdataReg :=
    if s.stateReg == .readWaitRsp && s.mmioRspFire R then (R.rsp s.regs).rdata else s.rdataReg
  rrespReg :=
    if s.stateReg == .readWaitRsp && s.mmioRspFire R then axiResp (R.rsp s.regs) else s.rrespReg
  regs := R.next s.regs e s.mmioReqValid s.mmioReq s.mmioRspReady

/-- BVALID and BRESP. -/
def presentedB : Option (BitVec 2) := if s.bvalid then some s.brespReg else none

/-- RVALID, RDATA and RRESP. -/
def presentedR : Option (BitVec 32 × BitVec 2) :=
  if s.rvalid then some (s.rdataReg, s.rrespReg) else none

/-- What a cycle of the wrapper shows. -/
def observe (e : ε) : Cycle where
  aw := if s.awFire i then some i.awaddr else none
  w := if s.wFire i then some (i.wdata, i.wstrb) else none
  ar := if s.arFire i then some i.araddr else none
  mmio := if s.mmioReqFire R then some (s.mmioReq, R.answer s.regs e s.mmioReq) else none
  b := s.presentedB
  bready := i.bready
  r := s.presentedR
  rready := i.rready

/-- The wrapper and its register block as one machine. -/
def machine : Machine (HoldFsm σ) (AxiIn × ε) Cycle where
  init := reset R
  step s i := s.step R i.1 i.2
  out s i := s.observe R i.1 i.2

end HoldFsm

end ModularControl.Axi
