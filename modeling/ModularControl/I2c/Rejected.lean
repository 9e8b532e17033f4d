import ModularControl.I2c.Faults

/-!
# Rejected commands

A command write is rejected in two places: the register block answers it with an error if byte lane
0 is not written or the core is not ready, and the core calls a command illegal that its state does
not take. The first kind is rejected before anything happens. The second kind has been launched by
then, and a launch clears the results of the earlier command.
-/

namespace ModularControl.I2c
open Sync Axi

namespace I2cRegs

variable (s : I2cRegs) (i : RegsIn)

/-- A write of REG_CMD without an abort that is answered with an error or that the core finds
    illegal. -/
def Rejects : Prop :=
  s.wrCmdFire i.valid i.req i.rspReady = true ∧
    (merged i.req).getLsbD CMD_ABORT_BIT = false ∧
    ((s.answer i.req).err = true ∨
      s.core.cmdIllegal (s.coreIn i.pins i.valid i.req i.rspReady) = true)

/-- The registers besides the MMIO response and the `cmd_illegal` bit. -/
def besides : I2cRegs := { s with rspValid := false, rsp := ⟨0, false⟩, cmdIllegalSticky := false }

/-- The cycle leaves the registers as it would without its request, but for the response and the
    `cmd_illegal` bit. -/
def NoOp (minDivisor : BitVec 16) : Prop :=
  ((i2c minDivisor).step s i).besides = ((i2c minDivisor).step s { i with valid := false }).besides

/-- No result of an earlier command is recorded. -/
def NoResult : Prop :=
  s.doneSticky = false ∧ s.ackValidSticky = false ∧ s.ackSticky = false ∧
    s.rdDataValidSticky = false

instance : Decidable (s.Rejects i) := inferInstanceAs (Decidable (_ ∧ _))

instance (minDivisor : BitVec 16) : Decidable (s.NoOp i minDivisor) :=
  inferInstanceAs (Decidable (_ = _))

end I2cRegs

namespace Core

variable {p : Params} {s : Core} {i : CoreIn}

/-- An illegal command is none of those the core takes. -/
lemma noFire_of_illegal (illegal : s.cmdIllegal i = true) :
    (s.stateReg = .idle ∨ s.stateReg = .hold) ∧ s.idleStartFire i = false ∧
      s.holdWrFire i = false ∧ s.holdRdFire i = false ∧ s.holdStopFire i = false ∧
      s.holdRestartFire i = false := by
  simp only [cmdIllegal, decide_eq_true_eq] at illegal
  obtain ⟨h, -, ne⟩ | ⟨h, -, wr, rd, stop, restart⟩ := illegal
  · simp [idleStartFire, holdWrFire, holdRdFire, holdStopFire, holdRestartFire, h, ne]
  · simp [idleStartFire, holdWrFire, holdRdFire, holdStopFire, holdRestartFire, h, wr, rd, stop,
      restart]

/-- The core goes on after an illegal command as if there were none. -/
lemma step_illegal (illegal : s.cmdIllegal i = true) :
    s.step p i = s.step p { i with cmdValidI := false } := by
  obtain ⟨-, start, wr, rd, stop, restart⟩ := noFire_of_illegal illegal
  have start' : s.idleStartFire { i with cmdValidI := false } = false := by simp [idleStartFire]
  have wr' : s.holdWrFire { i with cmdValidI := false } = false := by simp [holdWrFire]
  have rd' : s.holdRdFire { i with cmdValidI := false } = false := by simp [holdRdFire]
  have stop' : s.holdStopFire { i with cmdValidI := false } = false := by simp [holdStopFire]
  have restart' : s.holdRestartFire { i with cmdValidI := false } = false := by
    simp [holdRestartFire]
  simp only [step, stateNext, tickCntNext, bitIdxNext, txNext, rxNext, highWaitCntNext, abortFire,
    cmdFire, holdCmdFire, start, wr, rd, stop, restart, start', wr', rd', stop', restart',
    Bool.or_self, Bool.false_eq_true, if_false]
  rfl

/-- No byte completes where commands are taken. -/
lemma noDone_of_illegal (illegal : s.cmdIllegal i = true) :
    s.doneTick = false ∧ s.ackValid = false ∧ s.rdDataValid = false := by
  obtain ⟨h | h, -⟩ := noFire_of_illegal illegal <;>
    simp [doneTick, ackValid, rdDataValid, h]

end Core

namespace I2cRegs

variable {minDivisor : BitVec 16} {s : I2cRegs} {i : RegsIn}

/-- Of the register writes, the cycle of a command write makes that one only. -/
lemma cmd_alone (cmd : s.wrCmdFire i.valid i.req i.rspReady = true) :
    s.wrStatusFire i.valid i.req i.rspReady = false ∧
      s.wrTxdataFire i.valid i.req i.rspReady = false ∧
      s.wrDivisorFire i.valid i.req i.rspReady = false ∧
      s.wrFaultFire i.valid i.req i.rspReady = false := by
  rw [wrCmdFire, Bool.and_eq_true, beq_iff_eq] at cmd
  simp [wrStatusFire, wrTxdataFire, wrDivisorFire, wrFaultFire, cmd.2, REG_CMD, REG_STATUS,
    REG_TXDATA, REG_DIVISOR, REG_FAULT]

/-- A cycle without a request writes nothing. -/
lemma no_request (s : I2cRegs) (q : MmioReq) (r : Bool) :
    s.wrStatusFire false q r = false ∧ s.wrTxdataFire false q r = false ∧
      s.wrDivisorFire false q r = false ∧ s.wrFaultFire false q r = false ∧
      s.launchCmdFire false q r = false ∧ s.abortFire false q r = false := by
  simp [wrStatusFire, wrTxdataFire, wrDivisorFire, wrFaultFire, launchCmdFire, abortFire, wrCmdFire,
    wrFire, reqFire]

/-- A command write is launched exactly if it is not answered with an error. -/
lemma launch_iff (cmd : s.wrCmdFire i.valid i.req i.rspReady = true)
    (noAbort : (merged i.req).getLsbD CMD_ABORT_BIT = false) :
    s.launchCmdFire i.valid i.req i.rspReady = !(s.answer i.req).err := by
  have write : i.req.write = true ∧ i.req.addr = REG_CMD := by
    simp only [wrCmdFire, wrFire, Bool.and_eq_true, beq_iff_eq] at cmd
    exact ⟨cmd.1.2, cmd.2⟩
  simp [launchCmdFire, answer, cmd, noAbort, write, REG_CMD, REG_STATUS, REG_DIVISOR, REG_TXDATA,
    REG_RXDATA]

/-- What the cycle of a rejected command write makes of the registers, against the cycle without
    it. -/
lemma rejected_step (rej : s.Rejects i) :
    ((i2c minDivisor).step s i).besides =
      if (s.answer i.req).err then ((i2c minDivisor).step s { i with valid := false }).besides
      else { ((i2c minDivisor).step s { i with valid := false }).besides with
        doneSticky := false, ackValidSticky := false, ackSticky := false
        rdDataValidSticky := false } := by
  obtain ⟨cmd, noAbort, why⟩ := rej
  obtain ⟨status, txdata, divisor, fault⟩ := cmd_alone cmd
  have launch := launch_iff cmd noAbort
  have abort : s.abortFire i.valid i.req i.rspReady = false := by simp [abortFire, noAbort]
  obtain ⟨status', txdata', divisor', fault', launch', abort'⟩ := s.no_request i.req i.rspReady
  cases err : (s.answer i.req).err with
  | true =>
    rw [err, Bool.not_true] at launch
    simp only [i2c, step, besides, coreIn, status, txdata, divisor, fault, launch, abort, status',
      txdata', divisor', fault', launch', abort', if_true]
  | false =>
    rw [err, Bool.not_false] at launch
    have illegal := why.resolve_left (by simp [err])
    obtain ⟨done, ack, rd⟩ := Core.noDone_of_illegal illegal
    have core := Core.step_illegal (p := { minDivisor }) illegal
    simp only [coreIn, launch, abort] at core
    simp only [i2c, step, besides, coreIn, status, txdata, divisor, fault, launch, status', txdata',
      divisor', fault', launch', abort', done, ack, rd, core, abort, Bool.false_eq_true, if_true,
      if_false]

/-- The cycle without the request of an illegal command keeps the results that are recorded. -/
lemma results_kept (illegal : s.core.cmdIllegal (s.coreIn i.pins i.valid i.req i.rspReady) = true) :
    ((i2c minDivisor).step s { i with valid := false }).NoResult ↔ s.NoResult := by
  obtain ⟨done, ack, rd⟩ := Core.noDone_of_illegal illegal
  obtain ⟨status, -, -, -, launch, -⟩ := s.no_request i.req i.rspReady
  simp only [NoResult, i2c, step, done, ack, rd, status, launch, Bool.false_and,
    Bool.false_eq_true, if_false]

/-- Clearing the results leaves registers without a result alone. -/
lemma clear_results_iff (t : I2cRegs) :
    { t.besides with
        doneSticky := false, ackValidSticky := false, ackSticky := false
        rdDataValidSticky := false } = t.besides ↔ t.NoResult := by
  constructor
  · intro e
    exact ⟨(congrArg doneSticky e).symm, (congrArg ackValidSticky e).symm,
      (congrArg ackSticky e).symm, (congrArg rdDataValidSticky e).symm⟩
  · rintro ⟨done, ackValid, ack, rd⟩
    simp only [besides, done, ackValid, ack, rd]

/-- A rejected command is a no-op if it is answered with an error or finds no result recorded, and
    only then. -/
lemma noOp_iff (rej : s.Rejects i) :
    s.NoOp i minDivisor ↔ (s.answer i.req).err = true ∨ s.NoResult := by
  rw [NoOp, rejected_step rej]
  cases err : (s.answer i.req).err with
  | true => simp
  | false =>
    have illegal := rej.2.2.resolve_left (by simp [err])
    rw [if_neg Bool.false_ne_true, clear_results_iff, results_kept illegal]
    simp

end I2cRegs

/-- For every minimal divisor and every run: every rejected command is a no-op exactly if each was
    answered with an error or found no result recorded. -/
theorem i2c_rejected_noop_iff (minDivisor : BitVec 16) (is : List RegsIn) :
    (i2c minDivisor).Along (fun s i => s.Rejects i → s.NoOp i minDivisor) is ↔
      (i2c minDivisor).Along
        (fun s i => s.Rejects i → (s.answer i.req).err = true ∨ s.NoResult) is := by
  refine (i2c minDivisor).along_congr (P := fun _ => True) (C := fun _ _ => True) trivial
    (fun _ _ _ _ _ => trivial) (fun s i _ _ => ?_)
    ((i2c minDivisor).along_true is)
  exact forall_congr' fun rej => I2cRegs.noOp_iff rej

/-- The inputs `is` with the two lines where the master itself drives them: a bus without delay and
    without a slave. -/
def idealPins (minDivisor : BitVec 16) : I2cRegs → List RegsIn → List RegsIn
  | _, [] => []
  | s, i :: is =>
    let j := { i with pins := ⟨s.core.sdaDriven, s.core.sclOutReg⟩ }
    j :: idealPins minDivisor ((i2c minDivisor).step s j) is

/-- A START and a WR with a divisor of 8, with time for each to complete. -/
def writtenByte : List RegsIn :=
  idealPins 1 (.reset 1) (write REG_DIVISOR 8 :: write REG_CMD 0x00 :: List.replicate 30 {} ++
    write REG_CMD 0x01 :: List.replicate 340 {})

/-- A START in place of the next byte is illegal, and takes the record of the WR's completion and
    acknowledge with it. -/
theorem i2c_illegal_clears_results :
    ((i2c 1).after writtenByte).Rejects (write REG_CMD 0x00) ∧
      ((i2c 1).after writtenByte).doneSticky = true ∧
      ((i2c 1).after writtenByte).ackValidSticky = true ∧
      ((i2c 1).step ((i2c 1).after writtenByte) (write REG_CMD 0x00)).doneSticky = false ∧
      ((i2c 1).step ((i2c 1).after writtenByte) (write REG_CMD 0x00)).ackValidSticky = false ∧
      ¬ (i2c 1).Along (fun s i => s.Rejects i → s.NoOp i 1)
        (writtenByte ++ [write REG_CMD 0x00]) := by
  -- one evaluation of the run for everything that is read off its last state
  have lost : ((i2c 1).after writtenByte).Rejects (write REG_CMD 0x00) ∧
      ((i2c 1).after writtenByte).doneSticky = true ∧
      ((i2c 1).after writtenByte).ackValidSticky = true ∧
      ((i2c 1).step ((i2c 1).after writtenByte) (write REG_CMD 0x00)).doneSticky = false ∧
      ((i2c 1).step ((i2c 1).after writtenByte) (write REG_CMD 0x00)).ackValidSticky = false ∧
      ¬ ((i2c 1).after writtenByte).NoOp (write REG_CMD 0x00) 1 := by
    decide +kernel
  obtain ⟨rej, done, ack, done', ack', noNoOp⟩ := lost
  exact ⟨rej, done, ack, done', ack', fun al => noNoOp ((((i2c 1).along_snoc _ _ _).mp al).2 rej)⟩

end ModularControl.I2c
