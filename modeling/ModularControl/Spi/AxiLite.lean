import ModularControl.Axi.HoldBridgeServed
import ModularControl.Spi.Regs

/-!
# The SPI AXI4-Lite wrapper

`axi_lite_spi.sv` launches a request without looking at the responses presented, so a write (read)
can complete while the response of the one before it still waits on BREADY (RREADY): the waiting
response is overwritten, or, if it is taken in that very cycle, the new one is lost. Those are the
only cycles in which anything goes wrong. A launch decision that finds a complete write leaves the
read waiting, so how long a read takes depends on how many writes pass it.
-/

namespace ModularControl.Spi
open Sync Axi

/-- `axi_lite_spi` with its `spi_regs`; the vendor core's outputs are inputs of the machine. -/
def axiLiteSpi : Machine (HoldBridge SpiRegs) (AxiIn × CoreIn) Cycle :=
  HoldBridge.machine false spiRegs

/-- No register block response arrives for a channel whose previous AXI response is still
    waiting. -/
def NoOverrun (s : HoldBridge SpiRegs) (_ : AxiIn × CoreIn) : Prop := HoldBridge.Clear spiRegs s

instance : DecidableRel NoOverrun := fun s _ => inferInstanceAs (Decidable (HoldBridge.Clear _ s))

/-- A cycle in which the master waits and takes what it is offered. -/
def waiting : AxiIn × CoreIn := (.idle, {})

/-- A write of CTRL and a read of it offered together, their responses taken at once. -/
def writeAndRead : List (AxiIn × CoreIn) :=
  (.offerBoth REG_CTRL 1 REG_CTRL, {}) :: List.replicate 13 waiting

/-- A write of CTRL, and a write of an address outside the map while the first response waits. -/
def twoWrites : List (AxiIn × CoreIn) :=
  [(.offerWrite REG_CTRL 1, {}), (.stall, {}), (.stall, {}), (.offerWrite 0x40 0, {}), (.stall, {}),
    (.stall, {}), (.stall, {}), (.stall, {})]

/-- No read address held is passed over by more than `n` writes. -/
def PassedAtMost (n : Nat) (is : List (AxiIn × CoreIn)) : Prop :=
  HoldBridge.PassedAtMost false spiRegs n is

instance (n : Nat) (is : List (AxiIn × CoreIn)) : Decidable (PassedAtMost n is) :=
  inferInstanceAs (Decidable (HoldBridge.PassedAtMost ..))

/-- In every run without an overrun the wrapper serves its master, whatever it asks for and however
    late it takes responses: every write accepted is performed and answered within nine cycles that
    leave no response waiting, and every read within four more for each write that may pass it. -/
theorem axiLiteSpi_exactly_once (n : Nat) (is : List (AxiIn × CoreIn))
    (al : axiLiteSpi.Along NoOverrun is) (few : PassedAtMost n is) :
    ServesWell 9 (9 + 4 * n) (axiLiteSpi.trace is) :=
  ⟨HoldBridge.served_along spiRegs_lawful al, HoldBridge.writesWithin_along spiRegs_lawful al,
    HoldBridge.readsWithin_along spiRegs_lawful al few⟩

/-- A write and a read offered together: no overrun, and the write passes the read. -/
theorem axiLiteSpi_exactly_once_write_read : ServesWell 9 13 (axiLiteSpi.trace writeAndRead) :=
  axiLiteSpi_exactly_once 1 writeAndRead (by decide +kernel) (by decide +kernel)

/-- A master that offers each beat in a cycle in which it is accepted and takes the first write
    response late: it sees BRESP change under BVALID, and gets one response for two writes, however
    long it waits. -/
theorem axiLiteSpi_overrun :
    axiLiteSpi.Along (AtOnce axiLiteSpi) (twoWrites ++ List.replicate 12 waiting) ∧
      ¬ Served (axiLiteSpi.trace twoWrites) ∧
      ∀ k, ¬ Settled (axiLiteSpi.trace (twoWrites ++ List.replicate (12 + k) waiting)) := by
  refine ⟨by decide +kernel, fun h => ?_, fun k h => ?_⟩
  · exact absurd h.held (by decide +kernel)
  · rw [List.replicate_add, ← List.append_assoc,
      Machine.trace_append_replicate _ (by decide +kernel)] at h
    exact absurd (h.of_silent (by decide +kernel)).write_answered (by decide +kernel)

end ModularControl.Spi
