import ModularControl.Spi.Transaction

/-!
# Completions and clears

The flags of a word that comes back are set before the clears of the same cycle are applied. A clear
that was meant for the word before, and is accepted in the cycle in which the next one is returned,
takes the flags of both.
-/

namespace ModularControl.Spi
open Sync Axi

namespace Accounted

variable (s : Accounted) (i : SpiIn)

/-- A word that is returned shows in the next cycle: it is in RXDATA with RX_VALID and its interrupt
    set, and if it was launched as final, so are DONE and its interrupt. -/
def CompletionKept : Prop :=
  s.completes i = true →
    (s.step i).regs.rxdataReg = i.core.rdata ∧ (s.step i).regs.rxValid = true ∧
      (s.step i).regs.irqRxValidPending = true ∧
        (lastFlag s.past = some true →
          (s.step i).regs.done = true ∧ (s.step i).regs.irqDonePending = true)

/-- No clear of a flag meets the word that sets it. -/
def ClearsApart : Prop :=
  s.completes i = true →
    s.regs.clrRxValidCmdFire i.reqValid i.req = false ∧ s.w1c i IRQ_RX_VALID_BIT = false ∧
      (lastFlag s.past = some true →
        s.regs.clrDoneCmdFire i.reqValid i.req = false ∧ s.w1c i IRQ_DONE_BIT = false)

instance : Decidable (s.CompletionKept i) := inferInstanceAs (Decidable (_ → _))

variable {s i}

lemma irqRxValid_step (s : Accounted) (i : SpiIn) : (s.step i).regs.irqRxValidPending =
    (!s.w1c i IRQ_RX_VALID_BIT && (s.completes i || s.regs.irqRxValidPending)) := by
  show (if s.w1c i IRQ_RX_VALID_BIT then false
    else if s.completes i then true else s.regs.irqRxValidPending) = _
  cases s.w1c i IRQ_RX_VALID_BIT <;> cases s.completes i <;> rfl

/-- A flag that a word sets is set exactly if it is not cleared. -/
lemma set_iff {clear old : Bool} : (!clear && (true || old)) = true ↔ clear = false := by
  rw [Bool.true_or, Bool.and_true, Bool.not_eq_true']

lemma Latched.completionKept_iff (la : Latched s) (i : SpiIn) :
    s.CompletionKept i ↔ s.ClearsApart i := by
  refine imp_congr_right fun back => ?_
  obtain ⟨-, -, word⟩ := la.returns back
  have valid : (s.step i).regs.rxValid = (!s.regs.clrRxValidCmdFire i.reqValid i.req &&
      (s.completes i || s.regs.rxValid)) := SpiSystem.rxValid_step
  rw [valid, irqRxValid_step, back, set_iff, set_iff, and_iff_right word]
  refine and_congr_right fun _ => and_congr_right fun _ => imp_congr_right fun final => ?_
  have flag := la.completes back
  rw [final] at flag
  have flag : s.regs.launchedXferEnd = true := (Option.some.inj flag).symm
  rw [done_step, irqDone_step, back, flag, Bool.and_true, set_iff, set_iff]

end Accounted

/-- For every sequence of requests and every timing of the vendor core: every word that is returned
    shows in the next cycle exactly if no clear of one of its flags comes with its return. -/
theorem spi_completions_kept_iff (is : List SpiIn) :
    accounted.Along Accounted.CompletionKept is ↔ accounted.Along Accounted.ClearsApart is := by
  refine accounted.along_congr (C := fun _ _ => True) (P := Accounted.Latched) ?_
    (fun _ i la _ _ => la.step i) (fun _ i la _ => la.completionKept_iff i) (accounted.along_true is)
  exact Accounted.latched []

/-- A final byte is on its way when ENABLE|XFER_END|CLR_DONE|CLR_RX_VALID is written, in the cycle in
    which it comes back. -/
def clearedWord : List SpiIn :=
  [writing REG_CTRL 0b00101, {}, writing REG_CTRL 0b00111, {}, offering,
    { writing REG_CTRL 0b11101 with core := { rvalid := true, rdata := 0xA5 } }]

/-- The byte comes back, but neither RX_VALID nor DONE tells so. -/
theorem spi_completion_lost :
    ¬ accounted.Along Accounted.CompletionKept clearedWord ∧
      (accounted.after clearedWord).past = [.launch 0 true, .word 0xA5] ∧
      (accounted.after clearedWord).regs.rxValid = false ∧
      (accounted.after clearedWord).regs.done = false := by
  refine ⟨?_, ?_, ?_, ?_⟩
  · decide +kernel
  · decide +kernel
  · decide +kernel
  · decide +kernel

end ModularControl.Spi
