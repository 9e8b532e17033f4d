import ModularControl.I2c.Bench

/-!
# The register block on the wires

`i2c_regs` with its core behind the open-drain pins of `self_balancing_io.sv`, on two wired-AND
lines with a slave at the other end that drives them as it likes. A START condition is one on the
lines: the levels of the core alone do not make it.
-/

namespace ModularControl.I2c
open Sync Axi

/-- What the slave drives in a cycle; a line that is not pulled low is released. -/
structure Drive where
  scl : Bool := true
  sda : Bool := true
deriving DecidableEq, Repr

namespace I2cRegs

variable (s : I2cRegs) (d : Drive)

def busScl : Bool := s.core.sclOutReg && d.scl

/-- While it receives, the master releases SDA. -/
def busSda : Bool := s.core.sdaDriven && d.sda

def pins : Pins := ⟨s.busSda d, s.busScl d⟩

end I2cRegs

/-- From one cycle to the next SDA falls on the bus while SCL is high. -/
def BusStart (s : I2cRegs) (d : Drive) (s' : I2cRegs) (d' : Drive) : Prop :=
  s.busScl d = true ∧ s.busSda d = true ∧ s'.busScl d' = true ∧ s'.busSda d' = false

/-- `i2c_regs` on the wires, behind its MMIO channels. -/
def wired (minDivisor : BitVec 16) : Responder I2cRegs Drive MmioReq MmioRsp where
  init := .reset minDivisor
  ready s _ r := s.reqReady r
  valid s := s.rspValid
  rsp s := s.rsp
  answer s _ q := s.answer q
  next s d v q r := s.step minDivisor (s.pins d) v q r

/-- `mmio_read32` and `mmio_write32` on it. -/
def wiredMmio (minDivisor : BitVec 16) (W : World Drive) :
    Mmio (Bench I2cRegs Drive MmioReq) where
  read32 offset := do
    return (← Bench.access (wired minDivisor) W (readReq offset)).rdata
  write32 offset value := do
    let _ ← Bench.access (wired minDivisor) W (writeReq offset value)

lemma wired_lawful (minDivisor : BitVec 16) : (wired minDivisor).Lawful fun _ => True := by
  have law := i2cRegs_lawful minDivisor
  exact {
    init := trivial
    next := fun _ _ _ _ _ => trivial
    idle := rfl
    ready := fun {s} q r _ empty => law.ready (s := s) q r trivial empty
    valid := fun {s} d v q r _ => law.valid (s := s) (s.pins d) v q r trivial
    rsp := fun {s} d q r _ empty => law.rsp (s := s) (s.pins d) q r trivial empty }

lemma wired_steady (minDivisor : BitVec 16) : (wired minDivisor).Steady := fun _ _ _ _ => rfl

/-! ## Where the core rests -/

namespace Core

variable {p : Params} {s : Core} {i : CoreIn}

/-- In the hold state nothing but software aborts. -/
lemma hold_noAbort (h : s.stateReg = .hold) (noAbort : i.abortI = false) :
    s.abortFire p i = false := by
  simp [abortFire, protocolFaultEvent, sclHighTimeoutEvent, waitingForHighPhase, State.waitsHigh, h,
    noAbort]

lemma hold_stays (h : s.stateReg = .hold) (noCmd : i.cmdValidI = false) (noAbort : i.abortI = false) :
    (s.step p i).stateReg = .hold := by
  simp [step, stateNext, hold_noAbort h noAbort, h, holdRestartFire, holdStopFire, holdWrFire,
    holdRdFire, noCmd]

/-- A START that the core accepts takes SDA down under a released SCL, two cycles later and whatever
    comes in between. -/
lemma start_of_accept {j : CoreIn} (accept : s.idleStartFire i = true) :
    ((s.step p i).sclOutReg = true ∧ (s.step p i).sdaDriven = true) ∧
      ((s.step p i).step p j).sclOutReg = true ∧ ((s.step p i).step p j).sdaDriven = false := by
  have idle : s.stateReg = .idle := by
    rw [idleStartFire, decide_eq_true_eq] at accept
    exact accept.1
  have next : (s.step p i).stateReg = .start1 := by
    simp [step, stateNext, abortFire, idle, accept]
  have quiet : ((s.step p i).step p j).stateReg.dataPhase = false := by
    cases fire : (s.step p i).abortFire p j with
    | true =>
      rw [show ((s.step p i).step p j).stateReg = .abort1 by rw [step, stateNext, fire]; rfl]
      rfl
    | false =>
      cases ended : (s.step p i).phaseEnd with
      | true => rw [phase_follows next rfl fire ended]; rfl
      | false => rw [phase_stays next rfl fire ended]; rfl
  have high : (s.step p i).sclOutReg = true ∧ (s.step p i).sdaOutReg = true := by
    simp [step, sclOutNext, sdaOutNext, idle]
  have low : ((s.step p i).step p j).sclOutReg = true ∧
      ((s.step p i).step p j).sdaOutReg = false := by
    refine ⟨?_, ?_⟩
    · rw [step, sclOutNext, next]
    · rw [step, sdaOutNext, next]
  refine ⟨⟨high.1, ?_⟩, low.1, ?_⟩
  · rw [sdaDriven, high.2, Bool.or_true]
  · rw [sdaDriven, masterReceiving, quiet, low.2]
    rfl

end Core

namespace I2cRegs

variable {minDivisor : BitVec 16} {s : I2cRegs} {v : Bool} {q : MmioReq} {r : Bool}

/-- The states in which a command ends. -/
def Ends (goal : State) : Prop := goal = .idle ∨ goal = .hold

lemma ends_stays {e : Pins} {goal : State} (ends : Ends goal) (there : s.core.stateReg = goal)
    (quiet : v = false ∨ NoCommand q) : (s.step minDivisor e v q r).core.stateReg = goal := by
  obtain rfl | rfl := ends
  · exact idle_quiet there quiet
  · exact Core.hold_stays there (coreIn_quiet quiet).1 (coreIn_quiet quiet).2

lemma ends_ready {goal : State} (ends : Ends goal) (there : s.core.stateReg = goal) :
    s.core.cmdReady = true := by
  obtain rfl | rfl := ends <;> simp [Core.cmdReady, there]

end I2cRegs

section Driver

variable {minDivisor : BitVec 16} {W : World Drive} {goal : State}

/-- No response waits at the block, whose core rests in the state `goal`. -/
def Rests (minDivisor : BitVec 16) (goal : State) (t : Bench I2cRegs Drive MmioReq) : Prop :=
  t.Free (wired minDivisor) (fun _ => True) ∧ t.regs.core.stateReg = goal

/-- An access that is no command leaves the core where it rests. -/
lemma access_rests {q : MmioReq} (ends : I2cRegs.Ends goal) (quiet : NoCommand q) :
    Keeps (Rests minDivisor goal) (Bench.access (wired minDivisor) W q) :=
  Bench.access_keeps (wired_lawful minDivisor) (wired_steady minDivisor)
    fun _ _ _ there => I2cRegs.ends_stays ends there (.inr quiet)

/-- The status tells which of the two states it is. -/
lemma status_rests (ends : I2cRegs.Ends goal) : Triple (Rests minDivisor goal)
    (i2cGetStatus (wiredMmio minDivisor W)) fun x t =>
      (x.getLsbD I2C_STATUS_CMD_READY_BIT = true ∧
        x.getLsbD I2C_STATUS_BUS_IDLE_BIT = decide (goal = .idle)) ∧ Rests minDivisor goal t := by
  have told : Triple (Rests minDivisor goal) (i2cGetStatus (wiredMmio minDivisor W)) fun x t =>
      t.Free (wired minDivisor) (fun _ => True) ∧ (x.getLsbD I2C_STATUS_CMD_READY_BIT = true ∧
        x.getLsbD I2C_STATUS_BUS_IDLE_BIT = decide (goal = .idle)) ∧
        t.regs.core.stateReg = goal := by
    let K := fun t : Bench I2cRegs Drive MmioReq => t.regs.core.stateReg = goal
    refine Bench.access_reads (wired_lawful minDivisor) (wired_steady minDivisor) (K := K) (L := K)
      (fun t => Bench.waits_keeps (fun t there => I2cRegs.ends_stays ends there (.inl rfl)) _)
      (fun t _ there => ⟨⟨?_, ?_⟩, I2cRegs.ends_stays ends there (.inr rfl)⟩)
      fun x t r h => ⟨h.1, I2cRegs.ends_stays ends h.2 (.inl rfl)⟩
    · exact I2cRegs.ready_bit.trans (I2cRegs.ends_ready ends there)
    · exact I2cRegs.idle_bit.trans (by rw [Core.busIdle, there])
  exact told.post fun x t h => ⟨h.2.1, h.1, h.2.2⟩

lemma clear_rests (ends : I2cRegs.Ends goal) :
    Keeps (Rests minDivisor goal) (i2cPrivClearStatusSticky (wiredMmio minDivisor W)) := by
  have quiet : ∀ value, NoCommand (writeReq I2C_REG_STATUS_OFFSET value) := fun _ => rfl
  exact (access_rests ends (quiet _)).returns

lemma cmdReady_rests (ends : I2cRegs.Ends goal) : Triple (Rests minDivisor goal)
    (i2cStatusCmdReady (wiredMmio minDivisor W)) fun ready t =>
      ready = true ∧ Rests minDivisor goal t :=
  cmdReady_triple ((status_rests ends).post fun _ _ h => ⟨h.1.1, h.2⟩)

lemma waitCmdReady_rests (ends : I2cRegs.Ends goal) : Triple (Rests minDivisor goal)
    (i2cPrivWaitCmdReady (wiredMmio minDivisor W)) fun ready t =>
      ready = true ∧ Rests minDivisor goal t := by
  refine pollUntil_answers (.bind_known (cmdReady_rests ends) ?_) 199999
  exact .pure fun _ there => ⟨true, rfl, rfl, there⟩

end Driver

end ModularControl.I2c
