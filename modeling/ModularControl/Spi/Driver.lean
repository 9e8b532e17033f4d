import ModularControl.Sync.Total

/-!
# The SPI driver

The blocking transfers of `spi_regs.h` and `spi_regs.c`. The driver runs on any registers `σ` behind
its `SPI_REG_*` macros; its loops have no bound of their own and are run with a number of turns.
-/

namespace ModularControl.Spi
open Sync

/-- The `volatile` words at `SPI_BASE_ADDR`, by their offset. -/
structure Volatile (σ : Type) where
  load : BitVec 32 → StateM σ (BitVec 32)
  store : BitVec 32 → BitVec 32 → StateM σ Unit

def SPI_REG_CTRL_OFFSET : BitVec 32 := 0x00
def SPI_REG_STATUS_OFFSET : BitVec 32 := 0x04
def SPI_REG_TXDATA_OFFSET : BitVec 32 := 0x08
def SPI_REG_RXDATA_OFFSET : BitVec 32 := 0x0C
def SPI_REG_IRQ_EN_OFFSET : BitVec 32 := 0x10
def SPI_REG_IRQ_STATUS_OFFSET : BitVec 32 := 0x14

def SPI_CTRL_ENABLE : BitVec 32 := 1#32 <<< 0
def SPI_CTRL_START : BitVec 32 := 1#32 <<< 1
def SPI_CTRL_XFER_END : BitVec 32 := 1#32 <<< 2
def SPI_CTRL_CLR_DONE : BitVec 32 := 1#32 <<< 3
def SPI_CTRL_CLR_RX_VALID : BitVec 32 := 1#32 <<< 4

def SPI_STATUS_BUSY : BitVec 32 := 1#32 <<< 0
def SPI_STATUS_RX_VALID : BitVec 32 := 1#32 <<< 2

def SPI_IRQ_DONE : BitVec 32 := 1#32 <<< 0
def SPI_IRQ_RX_VALID : BitVec 32 := 1#32 <<< 1

variable {σ : Type} (m : Volatile σ)

def spiCtrlRead : StateM σ (BitVec 32) := m.load SPI_REG_CTRL_OFFSET

def spiIsBusy : StateM σ Bool := do
  return (← m.load SPI_REG_STATUS_OFFSET) &&& SPI_STATUS_BUSY != 0

def spiRxValid : StateM σ Bool := do
  return (← m.load SPI_REG_STATUS_OFFSET) &&& SPI_STATUS_RX_VALID != 0

def spiWriteTxdata (data : BitVec 8) : StateM σ Unit :=
  m.store SPI_REG_TXDATA_OFFSET (data.setWidth 32)

def spiReadRxdata : StateM σ (BitVec 8) := do
  return ((← m.load SPI_REG_RXDATA_OFFSET) &&& 0xFF).setWidth 8

/-- The stored bits of CTRL are written back with the two clears. -/
def spiClearStatusFlags : StateM σ Unit := do
  let ctrl ← spiCtrlRead m
  m.store SPI_REG_CTRL_OFFSET (ctrl ||| SPI_CTRL_CLR_DONE ||| SPI_CTRL_CLR_RX_VALID)

def spiInit : StateM σ Unit := do
  m.store SPI_REG_CTRL_OFFSET (SPI_CTRL_ENABLE ||| SPI_CTRL_XFER_END)
  spiClearStatusFlags m
  m.store SPI_REG_IRQ_EN_OFFSET 0
  m.store SPI_REG_IRQ_STATUS_OFFSET (SPI_IRQ_DONE ||| SPI_IRQ_RX_VALID)

def spiWaitNotBusy (fuel : Nat) : OptionT (StateM σ) Unit := spin (spiIsBusy m) fuel

def spiWaitRxValid (fuel : Nat) : OptionT (StateM σ) Unit :=
  spin (do return !(← spiRxValid m)) fuel

def spiStartByte (finalByte : Bool) : StateM σ Unit :=
  let ctrl := SPI_CTRL_ENABLE ||| if finalByte then SPI_CTRL_XFER_END else 0
  let ctrl := ctrl ||| SPI_CTRL_START
  m.store SPI_REG_CTRL_OFFSET ctrl

def spiWriteByte (fuel : Nat) (data : BitVec 8) (finalByte : Bool) : OptionT (StateM σ) Unit := do
  spiWaitNotBusy m fuel
  spiWriteTxdata m data
  spiStartByte m finalByte

def spiTransferByteBlocking (fuel : Nat) (txData : BitVec 8) (finalByte : Bool) :
    OptionT (StateM σ) (BitVec 8) := do
  spiClearStatusFlags m
  spiWriteByte m fuel txData finalByte
  spiWaitNotBusy m fuel
  spiWaitRxValid m fuel
  spiReadRxdata m

end ModularControl.Spi
