import ModularControl.Axi.Mmio
import ModularControl.Sync.Responder

/-!
# The GPIO register block

`gpio_regs.sv` for any number of pins `w` (`GPIO_W`): a two-stage input synchroniser, edge pending
bits over the polarity-normalised inputs, and the output registers. Addresses and data have the
default widths.
-/

namespace ModularControl.Gpio
open Sync Axi

/-- The registers of `gpio_regs`. -/
structure GpioRegs (w : Nat) where
  gpioSync1Reg : BitVec w
  gpioSync2Reg : BitVec w
  gpioPrevReg : BitVec w
  dataOutReg : BitVec 32
  dataOeReg : BitVec 32
  riseIrqPendingReg : BitVec 32
  fallIrqPendingReg : BitVec 32
  irqMaskReg : BitVec 32
  inputPolReg : BitVec 32
  rspValid : Bool
  rsp : MmioRsp
deriving DecidableEq

def REG_DATA_IN : BitVec 12 := 0x000
def REG_DATA_OUT : BitVec 12 := 0x004
def REG_DATA_OE : BitVec 12 := 0x008
def REG_RISE_IP : BitVec 12 := 0x00C
def REG_FALL_IP : BitVec 12 := 0x010
def REG_IRQ_MASK : BitVec 12 := 0x014
def REG_INPUT_POL : BitVec 12 := 0x018
def REG_DATA_RAW : BitVec 12 := 0x01C

namespace GpioRegs

variable {w : Nat}

/-- The registers when reset is released. -/
def reset : GpioRegs w where
  gpioSync1Reg := 0
  gpioSync2Reg := 0
  gpioPrevReg := 0
  dataOutReg := 0
  dataOeReg := 0
  riseIrqPendingReg := 0
  fallIrqPendingReg := 0
  irqMaskReg := 0
  inputPolReg := 0
  rspValid := false
  rsp := ⟨0, false⟩

/-- `pack_gpio`. -/
def packGpio (vec : BitVec w) : BitVec 32 := vec.setWidth 32

variable (s : GpioRegs w) (gpioIn : BitVec w) (v : Bool) (q : MmioReq) (r : Bool)

def gpioInNorm : BitVec w := s.gpioSync2Reg ^^^ s.inputPolReg.setWidth w
def riseEvt : BitVec w := s.gpioInNorm &&& ~~~s.gpioPrevReg
def fallEvt : BitVec w := ~~~s.gpioInNorm &&& s.gpioPrevReg

def reqReady : Bool := !s.rspValid || r
def rspFire : Bool := s.rspValid && r
def reqFire : Bool := v && s.reqReady r

/-- `wr_data_out_hit` and the other write decodes. -/
def wrHit (reg : BitVec 12) : Bool := s.reqFire v r && q.write && q.addr == reg

/-- `req_wmask`. -/
def reqWmask (q : MmioReq) : BitVec 32 := mergeWstrb 0 q.wdata q.wstrb

def inputPolWriteData : BitVec 32 := mergeWstrb s.inputPolReg q.wdata q.wstrb

/-- The read mux (`read_data`, `read_err`). -/
def readMux (addr : BitVec 12) : MmioRsp :=
  if addr = REG_DATA_IN then ⟨packGpio s.gpioInNorm, false⟩
  else if addr = REG_DATA_OUT then ⟨s.dataOutReg, false⟩
  else if addr = REG_DATA_OE then ⟨s.dataOeReg, false⟩
  else if addr = REG_RISE_IP then ⟨s.riseIrqPendingReg, false⟩
  else if addr = REG_FALL_IP then ⟨s.fallIrqPendingReg, false⟩
  else if addr = REG_IRQ_MASK then ⟨s.irqMaskReg, false⟩
  else if addr = REG_INPUT_POL then ⟨s.inputPolReg, false⟩
  else if addr = REG_DATA_RAW then ⟨packGpio s.gpioSync2Reg, false⟩
  else ⟨0, true⟩

/-- `write_err`: the inputs are read-only. -/
def writeErr (addr : BitVec 12) : Bool :=
  !(addr = REG_DATA_OUT ∨ addr = REG_DATA_OE ∨ addr = REG_RISE_IP ∨ addr = REG_FALL_IP ∨
    addr = REG_IRQ_MASK ∨ addr = REG_INPUT_POL)

def answer : MmioRsp := if q.write then ⟨0, writeErr q.addr⟩ else s.readMux q.addr

/-- A pending register with the edges of this cycle (`evt`), which a polarity write suppresses. -/
def pendingNext (pending : BitVec 32) (evt : BitVec w) : BitVec 32 :=
  if s.wrHit v q r REG_INPUT_POL then pending else pending ||| packGpio evt

/-- The sequential block. -/
def step : GpioRegs w where
  gpioSync1Reg := gpioIn
  gpioSync2Reg := s.gpioSync1Reg
  gpioPrevReg :=
    if s.wrHit v q r REG_INPUT_POL then s.gpioSync2Reg ^^^ (s.inputPolWriteData q).setWidth w
    else s.gpioInNorm
  dataOutReg :=
    if s.wrHit v q r REG_DATA_OUT then mergeWstrb s.dataOutReg q.wdata q.wstrb else s.dataOutReg
  dataOeReg :=
    if s.wrHit v q r REG_DATA_OE then mergeWstrb s.dataOeReg q.wdata q.wstrb else s.dataOeReg
  riseIrqPendingReg :=
    if s.wrHit v q r REG_RISE_IP then
      s.pendingNext v q r s.riseIrqPendingReg s.riseEvt &&& ~~~reqWmask q
    else s.pendingNext v q r s.riseIrqPendingReg s.riseEvt
  fallIrqPendingReg :=
    if s.wrHit v q r REG_FALL_IP then
      s.pendingNext v q r s.fallIrqPendingReg s.fallEvt &&& ~~~reqWmask q
    else s.pendingNext v q r s.fallIrqPendingReg s.fallEvt
  irqMaskReg :=
    if s.wrHit v q r REG_IRQ_MASK then mergeWstrb s.irqMaskReg q.wdata q.wstrb else s.irqMaskReg
  inputPolReg := if s.wrHit v q r REG_INPUT_POL then s.inputPolWriteData q else s.inputPolReg
  rspValid := if s.reqFire v r then true else if s.rspFire r then false else s.rspValid
  rsp := if s.reqFire v r then s.answer q else s.rsp

end GpioRegs

/-- `gpio_regs` behind its MMIO channels; its environment is the pins. -/
def gpioRegs (w : Nat) : Responder (GpioRegs w) (BitVec w) MmioReq MmioRsp where
  init := .reset
  ready s _ r := s.reqReady r
  valid s := s.rspValid
  rsp s := s.rsp
  answer s _ q := s.answer q
  next s gpioIn v q r := s.step gpioIn v q r

/-- The register block answers every request once, whatever its registers hold. -/
lemma gpioRegs_lawful (w : Nat) : (gpioRegs w).Lawful fun _ => True :=
  Responder.lawful_of_slot rfl (fun _ _ _ => rfl) (fun _ _ _ _ _ => rfl) fun s _ q r taken => by
    simp [gpioRegs, GpioRegs.step, GpioRegs.reqFire, show s.reqReady r = true from taken]

end ModularControl.Gpio
