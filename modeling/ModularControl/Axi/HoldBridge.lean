import ModularControl.Axi.Ledger

/-!
# The holding-register wrapper

`axi_lite_spi.sv` and `axi_lite_i2c.sv` are one wrapper around two register blocks: AW, W and AR are
captured in one-deep holding registers, assembled into one staged MMIO request at a time, and the
register block's response is moved into the B or R output register. They differ in one condition:
the I2C wrapper launches nothing while an AXI response is presented (`axi_resp_busy`), the SPI
wrapper does not look. The wrapper is modelled once, over any lawful register block, with that
difference as the parameter `gated`.
-/

namespace ModularControl.Axi
open Sync

variable {σ ε : Type*}

/-- The registers of the wrapper, with those of the register block behind it. -/
structure HoldBridge (σ : Type*) where
  awHoldValid : Bool
  awHoldAddr : BitVec 12
  wHoldValid : Bool
  wHoldData : BitVec 32
  wHoldStrb : BitVec 4
  arHoldValid : Bool
  arHoldAddr : BitVec 12
  reqPendingValid : Bool
  reqPendingWrite : Bool
  reqPendingAddr : BitVec 12
  reqPendingWdata : BitVec 32
  reqPendingWstrb : BitVec 4
  mmioBusy : Bool
  mmioActiveWrite : Bool
  bvalid : Bool
  bresp : BitVec 2
  rvalid : Bool
  rresp : BitVec 2
  rdata : BitVec 32
  regs : σ
deriving DecidableEq

namespace HoldBridge

variable (gated : Bool) (R : Responder σ ε MmioReq MmioRsp)

/-- The wrapper when reset is released. -/
def reset : HoldBridge σ where
  awHoldValid := false
  awHoldAddr := 0
  wHoldValid := false
  wHoldData := 0
  wHoldStrb := 0
  arHoldValid := false
  arHoldAddr := 0
  reqPendingValid := false
  reqPendingWrite := false
  reqPendingAddr := 0
  reqPendingWdata := 0
  reqPendingWstrb := 0
  mmioBusy := false
  mmioActiveWrite := false
  bvalid := false
  bresp := axiRespOkay
  rvalid := false
  rresp := axiRespOkay
  rdata := 0
  regs := R.init

variable (s : HoldBridge σ) (i : AxiIn)

/-- `aw_fire`: AWREADY is the emptiness of the AW holding register. -/
def awFire : Bool := i.awvalid && !s.awHoldValid

/-- `w_fire`. -/
def wFire : Bool := i.wvalid && !s.wHoldValid

/-- `ar_fire`. -/
def arFire : Bool := i.arvalid && !s.arHoldValid

/-- `b_fire`. -/
def bFire : Bool := s.bvalid && i.bready

/-- `r_fire`. -/
def rFire : Bool := s.rvalid && i.rready

/-- The staged MMIO request (`req_write`, `req_addr`, `req_wdata`, `req_wstrb`). -/
def req : MmioReq := ⟨s.reqPendingWrite, s.reqPendingAddr, s.reqPendingWdata, s.reqPendingWstrb⟩

/-- `req_fire`: the register block takes the staged request; `rsp_ready` is `mmio_busy`. -/
def reqFire : Bool := s.reqPendingValid && R.ready s.regs s.req s.mmioBusy

/-- `rsp_fire`. -/
def rspFire : Bool := R.valid s.regs && s.mmioBusy

/-- `axi_resp_busy`. -/
def axiRespBusy : Bool := s.bvalid || s.rvalid

/-- The common condition of the two launch decisions. -/
def mayLaunch : Bool :=
  !s.reqPendingValid && !s.mmioBusy && !(gated && s.axiRespBusy)

/-- `launch_write_req`. -/
def launchWriteReq : Bool := s.mayLaunch gated && (s.awHoldValid && s.wHoldValid)

/-- `launch_read_req`: writes go first. -/
def launchReadReq : Bool :=
  s.mayLaunch gated && !(s.awHoldValid && s.wHoldValid) && s.arHoldValid

/-- The sequential block. Where the source assigns a register twice in a cycle, the later
    assignment is tested first. -/
def step (e : ε) : HoldBridge σ where
  awHoldValid :=
    if s.reqFire R && s.reqPendingWrite then false else if s.awFire i then true else s.awHoldValid
  awHoldAddr := if s.awFire i then i.awaddr else s.awHoldAddr
  wHoldValid :=
    if s.reqFire R && s.reqPendingWrite then false else if s.wFire i then true else s.wHoldValid
  wHoldData := if s.wFire i then i.wdata else s.wHoldData
  wHoldStrb := if s.wFire i then i.wstrb else s.wHoldStrb
  arHoldValid :=
    if s.reqFire R && !s.reqPendingWrite then false else if s.arFire i then true else s.arHoldValid
  arHoldAddr := if s.arFire i then i.araddr else s.arHoldAddr
  reqPendingValid :=
    if s.reqFire R then false
    else if s.launchReadReq gated then true
    else if s.launchWriteReq gated then true else s.reqPendingValid
  reqPendingWrite :=
    if s.launchReadReq gated then false
    else if s.launchWriteReq gated then true else s.reqPendingWrite
  reqPendingAddr :=
    if s.launchReadReq gated then s.arHoldAddr
    else if s.launchWriteReq gated then s.awHoldAddr else s.reqPendingAddr
  reqPendingWdata :=
    if s.launchReadReq gated then 0
    else if s.launchWriteReq gated then s.wHoldData else s.reqPendingWdata
  reqPendingWstrb :=
    if s.launchReadReq gated then 0
    else if s.launchWriteReq gated then s.wHoldStrb else s.reqPendingWstrb
  mmioBusy := if s.rspFire R then false else if s.reqFire R then true else s.mmioBusy
  mmioActiveWrite := if s.reqFire R then s.reqPendingWrite else s.mmioActiveWrite
  -- The handshake's clear stands after the response's set in the source: it wins.
  bvalid := if s.bFire i then false else if s.rspFire R && s.mmioActiveWrite then true else s.bvalid
  bresp := if s.rspFire R && s.mmioActiveWrite then axiResp (R.rsp s.regs) else s.bresp
  rvalid :=
    if s.rFire i then false else if s.rspFire R && !s.mmioActiveWrite then true else s.rvalid
  rresp := if s.rspFire R && !s.mmioActiveWrite then axiResp (R.rsp s.regs) else s.rresp
  rdata := if s.rspFire R && !s.mmioActiveWrite then (R.rsp s.regs).rdata else s.rdata
  regs := R.next s.regs e s.reqPendingValid s.req s.mmioBusy

/-- BVALID and BRESP. -/
def presentedB : Option (BitVec 2) := if s.bvalid then some s.bresp else none

/-- RVALID, RDATA and RRESP. -/
def presentedR : Option (BitVec 32 × BitVec 2) := if s.rvalid then some (s.rdata, s.rresp) else none

/-- What a cycle of the wrapper shows. -/
def observe (e : ε) : Cycle where
  aw := if s.awFire i then some i.awaddr else none
  w := if s.wFire i then some (i.wdata, i.wstrb) else none
  ar := if s.arFire i then some i.araddr else none
  mmio := if s.reqFire R then some (s.req, R.answer s.regs e s.req) else none
  b := s.presentedB
  bready := i.bready
  r := s.presentedR
  rready := i.rready

/-- The wrapper and its register block as one machine. -/
def machine : Machine (HoldBridge σ) (AxiIn × ε) Cycle where
  init := reset R
  step s i := s.step gated R i.1 i.2
  out s i := s.observe R i.1 i.2

end HoldBridge

end ModularControl.Axi
