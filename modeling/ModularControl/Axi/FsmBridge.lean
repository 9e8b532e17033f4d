import ModularControl.Axi.Ledger

/-!
# The state machine wrapper

`axi_lite_pwm_motor.sv` and `axi_lite_pwm_raw.sv` are one wrapper around two subsystems: a Moore
machine that serves one AXI transaction at a time, with a holding register for each payload. It is
modelled once, over any responder.
-/

namespace ModularControl.Axi
open Sync

variable {σ ε : Type*}

/-- `state_t`. -/
inductive FsmState where
  | idle
  | wrWaitData
  | wrWaitAddr
  | wrIssue
  | wrWaitRsp
  | wrSendB
  | rdIssue
  | rdWaitRsp
  | rdSendR
deriving DecidableEq, Repr

/-- The registers of the wrapper, with those of the subsystem behind it. -/
structure FsmBridge (σ : Type*) where
  currentState : FsmState
  awaddrReg : BitVec 12
  wdataReg : BitVec 32
  wstrbReg : BitVec 4
  araddrReg : BitVec 12
  brespReg : BitVec 2
  rdataReg : BitVec 32
  rrespReg : BitVec 2
  sub : σ
deriving DecidableEq

namespace FsmBridge

variable (R : Responder σ ε MmioReq MmioRsp)

/-- The wrapper when reset is released. -/
def reset : FsmBridge σ where
  currentState := .idle
  awaddrReg := 0
  wdataReg := 0
  wstrbReg := 0
  araddrReg := 0
  brespReg := axiRespOkay
  rdataReg := 0
  rrespReg := axiRespOkay
  sub := R.init

variable (s : FsmBridge σ) (i : AxiIn)

def awready : Bool := s.currentState = .idle ∨ s.currentState = .wrWaitAddr
def wready : Bool := s.currentState = .idle ∨ s.currentState = .wrWaitData
def arready : Bool := s.currentState = .idle
def bvalid : Bool := s.currentState = .wrSendB
def rvalid : Bool := s.currentState = .rdSendR

def awFire : Bool := i.awvalid && s.awready
def wFire : Bool := i.wvalid && s.wready
def arFire : Bool := i.arvalid && s.arready
def bFire : Bool := s.bvalid && i.bready
def rFire : Bool := s.rvalid && i.rready

def reqValid : Bool := s.currentState = .wrIssue ∨ s.currentState = .rdIssue

/-- The MMIO request lines, all low outside the two issue states. -/
def req : MmioReq :=
  match s.currentState with
  | .wrIssue => ⟨true, s.awaddrReg, s.wdataReg, s.wstrbReg⟩
  | .rdIssue => ⟨false, s.araddrReg, 0, 0⟩
  | _ => ⟨false, 0, 0, 0⟩

def rspReady : Bool := s.currentState = .wrWaitRsp ∨ s.currentState = .rdWaitRsp

def reqFire : Bool := s.reqValid && R.ready s.sub s.req s.rspReady
def rspFire : Bool := R.valid s.sub && s.rspReady

/-- The next-state logic. In the idle state a write goes before a read. -/
def nextState : FsmState :=
  match s.currentState with
  | .idle =>
    if s.awFire i && s.wFire i then .wrIssue
    else if s.awFire i then .wrWaitData
    else if s.wFire i then .wrWaitAddr
    else if s.arFire i then .rdIssue
    else .idle
  | .wrWaitData => if s.wFire i then .wrIssue else .wrWaitData
  | .wrWaitAddr => if s.awFire i then .wrIssue else .wrWaitAddr
  | .wrIssue => if s.reqFire R then .wrWaitRsp else .wrIssue
  | .wrWaitRsp => if s.rspFire R then .wrSendB else .wrWaitRsp
  | .wrSendB => if s.bFire i then .idle else .wrSendB
  | .rdIssue => if s.reqFire R then .rdWaitRsp else .rdIssue
  | .rdWaitRsp => if s.rspFire R then .rdSendR else .rdWaitRsp
  | .rdSendR => if s.rFire i then .idle else .rdSendR

/-- The state register and the storage block. -/
def step (e : ε) : FsmBridge σ where
  currentState := s.nextState R i
  awaddrReg := if s.awFire i then i.awaddr else s.awaddrReg
  wdataReg := if s.wFire i then i.wdata else s.wdataReg
  wstrbReg := if s.wFire i then i.wstrb else s.wstrbReg
  araddrReg := if s.arFire i then i.araddr else s.araddrReg
  brespReg :=
    if s.currentState = .wrWaitRsp ∧ s.rspFire R then axiResp (R.rsp s.sub) else s.brespReg
  rdataReg :=
    if s.currentState = .rdWaitRsp ∧ s.rspFire R then (R.rsp s.sub).rdata else s.rdataReg
  rrespReg :=
    if s.currentState = .rdWaitRsp ∧ s.rspFire R then axiResp (R.rsp s.sub) else s.rrespReg
  sub := R.next s.sub e s.reqValid s.req s.rspReady

/-- BVALID and BRESP. -/
def presentedB : Option (BitVec 2) := if s.bvalid then some s.brespReg else none

/-- RVALID, RDATA and RRESP. -/
def presentedR : Option (BitVec 32 × BitVec 2) :=
  if s.rvalid then some (s.rdataReg, s.rrespReg) else none

/-- What a cycle of the wrapper shows. -/
def observe (e : ε) : Cycle where
  aw := if s.awFire i then some i.awaddr else none
  w := if s.wFire i then some (i.wdata, i.wstrb) else none
  ar := if s.arFire i then some i.araddr else none
  mmio := if s.reqFire R then some (s.req, R.answer s.sub e s.req) else none
  b := s.presentedB
  bready := i.bready
  r := s.presentedR
  rready := i.rready

/-- The wrapper and its subsystem as one machine. -/
def machine : Machine (FsmBridge σ) (AxiIn × ε) Cycle where
  init := reset R
  step s i := s.step R i.1 i.2
  out s i := s.observe R i.1 i.2

end FsmBridge

end ModularControl.Axi
