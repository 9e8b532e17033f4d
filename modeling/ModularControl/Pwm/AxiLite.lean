import ModularControl.Axi.FsmBridgeServed
import ModularControl.Pwm.Subsystem

/-!
# The PWM AXI4-Lite wrappers

`axi_lite_pwm_motor.sv` and `axi_lite_pwm_raw.sv`. In the idle state the wrapper is ready on all
three request channels, but it serves one of them: a read accepted in the same cycle as an address
or data beat of a write is forgotten.
-/

namespace ModularControl.Pwm
open Sync Axi

variable {σ : Type*} (w n : Nat) (applyOnPeriodEnd : Bool)

def axiLitePwmMotor : Machine (FsmBridge (Motor w n)) (AxiIn × Unit) Cycle :=
  FsmBridge.machine (pwmSubsystemMotor w n applyOnPeriodEnd)

def axiLitePwmRaw : Machine (FsmBridge (Timed w n)) (AxiIn × Unit) Cycle :=
  FsmBridge.machine (pwmSubsystemRaw w n applyOnPeriodEnd)

/-- No read is offered in the idle state together with an address or data beat of a write. -/
def NoCollision (s : FsmBridge σ) (i : AxiIn × Unit) : Prop := FsmBridge.Clear s i.1

instance (s : FsmBridge σ) (i : AxiIn × Unit) : Decidable (NoCollision s i) :=
  inferInstanceAs (Decidable (FsmBridge.Clear s i.1))

/-- A write of one register and then a read of it, each alone in its cycle. -/
def writeRead (addr : BitVec 12) : List (AxiIn × Unit) :=
  (.offerWrite addr 5, ()) :: List.replicate 4 (.idle, ()) ++ (.offerRead addr, ()) ::
    List.replicate 4 (.idle, ())

/-- A write of PERIOD and a read of STATUS in one cycle. -/
def collision : List (AxiIn × Unit) := [(.offerBoth REG_PERIOD 9 REG_STATUS, ())]

/-- In every run without a collision both wrappers serve their master, for every counter width,
    number of channels and commit mode: whatever else is asked for, a request accepted is answered
    within three cycles that leave no response waiting. -/
theorem axiLitePwm_exactly_once (is : List (AxiIn × Unit)) :
    ((axiLitePwmMotor w n applyOnPeriodEnd).Along NoCollision is →
        ServesWell 3 3 ((axiLitePwmMotor w n applyOnPeriodEnd).trace is)) ∧
      ((axiLitePwmRaw w n applyOnPeriodEnd).Along NoCollision is →
        ServesWell 3 3 ((axiLitePwmRaw w n applyOnPeriodEnd).trace is)) :=
  ⟨FsmBridge.servesWell_along (pwmSubsystemMotor_lawful applyOnPeriodEnd),
    FsmBridge.servesWell_along (pwmSubsystemRaw_lawful applyOnPeriodEnd)⟩

/-- A write and a read that do not meet. -/
theorem axiLitePwm_exactly_once_write_read :
    ServesWell 3 3 ((axiLitePwmMotor 32 4 true).trace (writeRead REG_DIR_MASK)) ∧
      ServesWell 3 3 ((axiLitePwmRaw 32 4 true).trace (writeRead REG_PERIOD)) :=
  ⟨(axiLitePwm_exactly_once 32 4 true _).1 (by decide +kernel),
    (axiLitePwm_exactly_once 32 4 true _).2 (by decide +kernel)⟩

/-- A read accepted together with a write is never performed and never answered, by either wrapper,
    however long the master waits. -/
theorem axiLitePwm_collision :
    (axiLitePwmMotor 32 4 true).Along (AtOnce (axiLitePwmMotor 32 4 true)) collision ∧
      (axiLitePwmRaw 32 4 true).Along (AtOnce (axiLitePwmRaw 32 4 true)) collision ∧
      (∀ k, ¬ Settled ((axiLitePwmMotor 32 4 true).trace
        (collision ++ List.replicate (4 + k) (.idle, ())))) ∧
      ∀ k, ¬ Settled ((axiLitePwmRaw 32 4 true).trace
        (collision ++ List.replicate (4 + k) (.idle, ()))) := by
  refine ⟨by decide +kernel, by decide +kernel, fun k h => ?_, fun k h => ?_⟩
  · rw [List.replicate_add, ← List.append_assoc,
      Machine.trace_append_replicate _ (by decide +kernel)] at h
    exact absurd (h.of_silent (by decide +kernel)).read_done (by decide +kernel)
  · rw [List.replicate_add, ← List.append_assoc,
      Machine.trace_append_replicate _ (by decide +kernel)] at h
    exact absurd (h.of_silent (by decide +kernel)).read_done (by decide +kernel)

end ModularControl.Pwm
