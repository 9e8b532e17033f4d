import ModularControl.Axi.HoldFsmServed
import ModularControl.Debug.Seg7Regs
import ModularControl.Gpio.Regs

/-!
# The GPIO and the debug display AXI4-Lite wrappers

`axi_lite_gpio.sv` and `axil_lite_seg7_debug.sv`: the holding state machine in front of `gpio_regs`
and in front of `seg7_debug_regs`. Both register blocks are lawful, so both wrappers serve every
run.
-/

namespace ModularControl.Axi
open Sync Gpio Debug

/-- `axi_lite_gpio` with `w` pins, which are inputs of the machine. -/
def axiLiteGpio (w : Nat) : Machine (HoldFsm (GpioRegs w)) (AxiIn × BitVec w) Cycle :=
  HoldFsm.machine (gpioRegs w)

/-- `axil_lite_seg7_debug` with `n` digits; the live value is an input of the machine. -/
def axilLiteSeg7Debug (n : Nat) : Machine (HoldFsm Seg7Regs) (AxiIn × BitVec (n * 4)) Cycle :=
  HoldFsm.machine (seg7Regs n)

/-- Both wrappers serve their master in every run, for every number of pins and of digits: whatever
    else is asked for, a request accepted is performed and answered within eight cycles that leave
    no response waiting. -/
theorem axiLiteGpio_axilLiteSeg7Debug_exactly_once (w n : Nat) :
    (∀ is : List (AxiIn × BitVec w), ServesWell 8 8 ((axiLiteGpio w).trace is)) ∧
      ∀ is : List (AxiIn × BitVec (n * 4)), ServesWell 8 8 ((axilLiteSeg7Debug n).trace is) :=
  ⟨HoldFsm.servesWell (gpioRegs_lawful w), HoldFsm.servesWell (seg7Regs_lawful n)⟩

end ModularControl.Axi
