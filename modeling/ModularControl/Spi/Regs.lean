import ModularControl.Axi.Ledger

/-!
# The SPI register block

`spi_regs.sv`, with the vendor core's outputs as its environment: the core's ready and received
word, and the chip select it drives, may take any value in any cycle. Addresses have the default
`ADDR_W = 12`; `DATA_W = 32` and `SPI_DW = 8` are what the block's own checks expect.
-/

namespace ModularControl.Spi
open Sync Axi

/-- What the vendor core drives in a cycle. -/
structure CoreIn where
  wready : Bool := false
  rvalid : Bool := false
  rdata : BitVec 8 := 0
  csN : Bool := true
deriving DecidableEq, Repr

/-- The registers of `spi_regs`. -/
structure SpiRegs where
  ctrlEnable : Bool
  ctrlXferEnd : Bool
  txdataReg : BitVec 8
  rxdataReg : BitVec 8
  startPending : Bool
  busy : Bool
  done : Bool
  rxValid : Bool
  irqEnDone : Bool
  irqEnRxValid : Bool
  irqDonePending : Bool
  irqRxValidPending : Bool
  xferOpen : Bool
  launchedXferEnd : Bool
  rspValid : Bool
  rsp : MmioRsp
deriving DecidableEq

def REG_CTRL : BitVec 12 := 0x0
def REG_STATUS : BitVec 12 := 0x4
def REG_TXDATA : BitVec 12 := 0x8
def REG_RXDATA : BitVec 12 := 0xC
def REG_IRQ_EN : BitVec 12 := 0x10
def REG_IRQ_STATUS : BitVec 12 := 0x14

def CTRL_ENABLE_BIT : Nat := 0
def CTRL_START_BIT : Nat := 1
def CTRL_XFER_END_BIT : Nat := 2
def CTRL_CLR_DONE_BIT : Nat := 3
def CTRL_CLR_RX_VALID_BIT : Nat := 4

def STATUS_BUSY_BIT : Nat := 0
def STATUS_DONE_BIT : Nat := 1
def STATUS_RX_VALID_BIT : Nat := 2
def STATUS_TX_READY_BIT : Nat := 3
def STATUS_ENABLED_BIT : Nat := 4
def STATUS_CS_ACTIVE_BIT : Nat := 5
def STATUS_XFER_OPEN_BIT : Nat := 6

def IRQ_DONE_BIT : Nat := 0
def IRQ_RX_VALID_BIT : Nat := 1

namespace SpiRegs

/-- The registers when reset is released. -/
def reset : SpiRegs where
  ctrlEnable := false
  ctrlXferEnd := true
  txdataReg := 0
  rxdataReg := 0
  startPending := false
  busy := false
  done := false
  rxValid := false
  irqEnDone := false
  irqEnRxValid := false
  irqDonePending := false
  irqRxValidPending := false
  xferOpen := false
  launchedXferEnd := true
  rspValid := false
  rsp := ⟨0, false⟩

variable (s : SpiRegs) (e : CoreIn) (v : Bool) (q : MmioReq)

def reqReady : Bool := !s.rspValid
def reqFire : Bool := v && s.reqReady
def wrFire : Bool := s.reqFire v && q.write
def wrCtrlFire : Bool := s.wrFire v q && q.addr == REG_CTRL
def wrTxdataFire : Bool := s.wrFire v q && q.addr == REG_TXDATA
def wrIrqEnFire : Bool := s.wrFire v q && q.addr == REG_IRQ_EN
def wrIrqStatusFire : Bool := s.wrFire v q && q.addr == REG_IRQ_STATUS

def startCmdFire : Bool :=
  s.wrCtrlFire v q && q.wstrb.getLsbD 0 && q.wdata.getLsbD CTRL_START_BIT
def clrDoneCmdFire : Bool :=
  s.wrCtrlFire v q && q.wstrb.getLsbD 0 && q.wdata.getLsbD CTRL_CLR_DONE_BIT
def clrRxValidCmdFire : Bool :=
  s.wrCtrlFire v q && q.wstrb.getLsbD 0 && q.wdata.getLsbD CTRL_CLR_RX_VALID_BIT

/-- `start_xfer_end`: a CTRL write in the launch cycle overrides the stored qualifier. -/
def startXferEnd : Bool :=
  if s.wrCtrlFire v q && q.wstrb.getLsbD 0 then q.wdata.getLsbD CTRL_XFER_END_BIT
  else s.ctrlXferEnd

def startFire : Bool := s.startPending && s.ctrlEnable && !s.busy && e.wready
def txFire : Bool := s.startFire e
def rxFire : Bool := e.rvalid

/-- `core_wvalid`, `core_wdata` and `core_transfer_end`, driven to the vendor core. -/
def coreWvalid : Bool := s.txFire e
def coreWdata : BitVec 8 := s.txdataReg
def coreTransferEnd : Bool := if s.txFire e then s.startXferEnd v q else s.launchedXferEnd

def irq : Bool := s.irqEnDone && s.irqDonePending || s.irqEnRxValid && s.irqRxValidPending

/-- The read mux (`rdata_next`, `err_next`). It does not look at `req_write`. -/
def answer : MmioRsp :=
  if q.addr = REG_CTRL then
    ⟨bitAt CTRL_ENABLE_BIT s.ctrlEnable ||| bitAt CTRL_XFER_END_BIT s.ctrlXferEnd, false⟩
  else if q.addr = REG_STATUS then
    ⟨bitAt STATUS_BUSY_BIT s.busy ||| bitAt STATUS_DONE_BIT s.done |||
      bitAt STATUS_RX_VALID_BIT s.rxValid ||| bitAt STATUS_TX_READY_BIT e.wready |||
      bitAt STATUS_ENABLED_BIT s.ctrlEnable ||| bitAt STATUS_CS_ACTIVE_BIT (!e.csN) |||
      bitAt STATUS_XFER_OPEN_BIT s.xferOpen, false⟩
  else if q.addr = REG_TXDATA then ⟨s.txdataReg.setWidth 32, false⟩
  else if q.addr = REG_RXDATA then ⟨s.rxdataReg.setWidth 32, false⟩
  else if q.addr = REG_IRQ_EN then
    ⟨bitAt IRQ_DONE_BIT s.irqEnDone ||| bitAt IRQ_RX_VALID_BIT s.irqEnRxValid, false⟩
  else if q.addr = REG_IRQ_STATUS then
    ⟨bitAt IRQ_DONE_BIT s.irqDonePending ||| bitAt IRQ_RX_VALID_BIT s.irqRxValidPending, false⟩
  else ⟨0, true⟩

/-- The sequential blocks. Where the source assigns a register twice in a cycle, the later
    assignment is tested first. -/
def step (r : Bool) : SpiRegs where
  ctrlEnable :=
    if s.wrCtrlFire v q && q.wstrb.getLsbD 0 && !s.xferOpen then q.wdata.getLsbD CTRL_ENABLE_BIT
    else s.ctrlEnable
  ctrlXferEnd :=
    if s.wrCtrlFire v q && q.wstrb.getLsbD 0 then q.wdata.getLsbD CTRL_XFER_END_BIT
    else s.ctrlXferEnd
  txdataReg :=
    if s.wrTxdataFire v q && q.wstrb.getLsbD 0 then q.wdata.setWidth 8 else s.txdataReg
  rxdataReg := if rxFire e then e.rdata else s.rxdataReg
  startPending :=
    if s.txFire e then false
    else if s.startCmdFire v q && s.ctrlEnable && !s.busy then true else s.startPending
  busy := if rxFire e then false else if s.txFire e then true else s.busy
  done :=
    if s.clrDoneCmdFire v q then false
    else if rxFire e && s.launchedXferEnd then true else s.done
  rxValid :=
    if s.clrRxValidCmdFire v q then false else if rxFire e then true else s.rxValid
  irqEnDone :=
    if s.wrIrqEnFire v q && q.wstrb.getLsbD 0 then q.wdata.getLsbD IRQ_DONE_BIT else s.irqEnDone
  irqEnRxValid :=
    if s.wrIrqEnFire v q && q.wstrb.getLsbD 0 then q.wdata.getLsbD IRQ_RX_VALID_BIT
    else s.irqEnRxValid
  irqDonePending :=
    if s.wrIrqStatusFire v q && q.wstrb.getLsbD 0 && q.wdata.getLsbD IRQ_DONE_BIT then false
    else if rxFire e && s.launchedXferEnd then true else s.irqDonePending
  irqRxValidPending :=
    if s.wrIrqStatusFire v q && q.wstrb.getLsbD 0 && q.wdata.getLsbD IRQ_RX_VALID_BIT then false
    else if rxFire e then true else s.irqRxValidPending
  xferOpen :=
    if rxFire e then !s.launchedXferEnd else if s.txFire e then true else s.xferOpen
  launchedXferEnd := if s.txFire e then s.startXferEnd v q else s.launchedXferEnd
  rspValid :=
    if !s.rspValid && s.reqFire v then true else if s.rspValid && r then false else s.rspValid
  rsp := if !s.rspValid && s.reqFire v then s.answer e q else s.rsp

end SpiRegs

/-- `spi_regs` behind its MMIO channels. -/
def spiRegs : Responder SpiRegs CoreIn MmioReq MmioRsp where
  init := SpiRegs.reset
  ready s _ _ := s.reqReady
  valid s := s.rspValid
  rsp s := s.rsp
  answer s e q := s.answer e q
  next s e v q r := s.step e v q r

/-- The register block answers every request once, whatever its registers hold. -/
lemma spiRegs_lawful : spiRegs.Lawful fun _ => True where
  init := trivial
  next _ _ _ _ _ := trivial
  idle := rfl
  ready _ _ _ h := by
    simpa [spiRegs, SpiRegs.reqReady] using h
  valid := by
    intro s e v q r _
    simp only [spiRegs, SpiRegs.step, SpiRegs.reqFire, SpiRegs.reqReady]
    by_cases h : s.rspValid = true <;> cases v <;> cases r <;> simp [h]
  rsp := by
    intro s e q r _ h
    have h : s.rspValid = false := h
    simp [spiRegs, SpiRegs.step, SpiRegs.reqFire, SpiRegs.reqReady, h]

end ModularControl.Spi
