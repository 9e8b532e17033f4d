import ModularControl.Axi.HoldBridgeServed
import ModularControl.I2c.Regs

/-!
# The I2C AXI4-Lite wrapper

`axi_lite_i2c.sv` launches nothing while a response is presented, so no response of the register
block ever meets an occupied output register, whatever the bus and the master do.
-/

namespace ModularControl.I2c
open Sync Axi

/-- The register block answers every request once, whatever its registers hold. -/
lemma i2cRegs_lawful (minDivisor : BitVec 16) : (i2cRegs minDivisor).Lawful fun _ => True := by
  apply Responder.lawful_of_slot rfl
  · intro s q r
    show (!s.rspValid || s.rspValid && r) = (!s.rspValid || r)
    by_cases h : s.rspValid = true <;> simp [h]
  · intro s e v q r
    rfl
  · intro s e q r taken
    simp [i2cRegs, I2cRegs.step, I2cRegs.reqFire, show s.reqReady r = true from taken]

/-- `axi_lite_i2c` with its `i2c_regs` and `i2c_master`; the bus pins are inputs of the machine. -/
def axiLiteI2c (minDivisor : BitVec 16) : Machine (HoldBridge I2cRegs) (AxiIn × Pins) Cycle :=
  HoldBridge.machine true (i2cRegs minDivisor)

/-- No read address held is passed over by more than `n` writes. -/
def PassedAtMost (minDivisor : BitVec 16) (n : Nat) (is : List (AxiIn × Pins)) : Prop :=
  HoldBridge.PassedAtMost true (i2cRegs minDivisor) n is

instance (minDivisor : BitVec 16) (n : Nat) (is : List (AxiIn × Pins)) :
    Decidable (PassedAtMost minDivisor n is) :=
  inferInstanceAs (Decidable (HoldBridge.PassedAtMost ..))

/-- A write of the divisor and a read offered together, their responses taken at once. -/
def writeAndRead : List (AxiIn × Pins) :=
  (.offerBoth REG_DIVISOR 4 REG_STATUS, {}) :: List.replicate 13 (.idle, {})

/-- A write of the divisor offered in every cycle, and with the first one a read; the bus is idle
    and every response is taken at once. -/
def writesForEver (n : Nat) : List (AxiIn × Pins) :=
  ({ AxiIn.offerBoth REG_DIVISOR 4 REG_STATUS with bready := true, rready := true }, {}) ::
    List.replicate n
      ({ AxiIn.offerWrite REG_DIVISOR 4 with bready := true, rready := true }, {})

end ModularControl.I2c
