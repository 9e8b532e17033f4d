import ModularControl.Spi.Regs

/-!
# STARTs and launches

`spi_regs` keeps an accepted START pending until the vendor core is ready, but BUSY does not read 1
meanwhile: software may start again, rewrite the byte, change the final flag or clear ENABLE before
the launch. A run is observed through the STARTs it accepts and the bytes it launches, each with
its final flag.
-/

namespace ModularControl.Spi
open Sync Axi

/-- The signals `spi_regs` sees in a cycle: the vendor core's and those of its MMIO channels. -/
structure SpiIn where
  core : CoreIn := {}
  reqValid : Bool := false
  req : MmioReq := ⟨false, 0, 0, 0⟩
  rspReady : Bool := true
deriving DecidableEq, Repr

/-- A cycle without a request in which the vendor core is ready. -/
def SpiIn.Offers (i : SpiIn) : Prop := i.reqValid = false ∧ i.core.wready = true

/-- A byte with its final flag. -/
abbrev Word := BitVec 8 × Bool

/-- What a cycle shows: the START accepted, with the byte and the final flag in force, a write that
    clears ENABLE, and the byte launched. -/
structure SpiObs where
  start : Option Word
  disable : Bool
  launch : Option Word
deriving DecidableEq, Repr

namespace SpiRegs

variable (s : SpiRegs) (i : SpiIn)

/-- A write of the storage bits of CTRL. -/
def wrCtrl : Bool := s.wrCtrlFire i.reqValid i.req && i.req.wstrb.getLsbD 0

/-- A START that the block takes: START is written while ENABLE is set and BUSY reads 0. -/
def startAccepted : Bool := s.startCmdFire i.reqValid i.req && s.ctrlEnable && !s.busy

/-- A write of ENABLE=0 that takes effect. -/
def disables : Bool := s.wrCtrl i && !s.xferOpen && !i.req.wdata.getLsbD CTRL_ENABLE_BIT

/-- The final flag after the writes of a cycle. -/
def xferEndNow : Bool := s.startXferEnd i.reqValid i.req

def observe : SpiObs where
  start := if s.startAccepted i then some (s.txdataReg, s.xferEndNow i) else none
  disable := s.disables i
  launch :=
    if s.coreWvalid i.core then some (s.coreWdata, s.coreTransferEnd i.core i.reqValid i.req)
    else none

end SpiRegs

/-- `spi_regs` with everything it is connected to as its environment. -/
def spiMachine : Machine SpiRegs SpiIn SpiObs where
  init := .reset
  step s i := s.step i.core i.reqValid i.req i.rspReady
  out s i := s.observe i

/-- The STARTs accepted so far. -/
def starts (os : List SpiObs) : List Word := os.filterMap SpiObs.start

/-- The bytes launched so far. -/
def launches (os : List SpiObs) : List Word := os.filterMap SpiObs.launch

@[simp] lemma starts_snoc (os : List SpiObs) (o : SpiObs) :
    starts (os ++ [o]) = starts os ++ o.start.toList :=
  filterMap_snoc _ _ _

@[simp] lemma launches_snoc (os : List SpiObs) (o : SpiObs) :
    launches (os ++ [o]) = launches os ++ o.launch.toList :=
  filterMap_snoc _ _ _

/-- One START, one launch: what has been launched so far are the first STARTs accepted, and if the
    core is ready in the next cycle, they are all of them. -/
structure Faithful (s : SpiRegs) (os : List SpiObs) : Prop where
  order : launches os <+: starts os
  all : ∀ i : SpiIn, i.Offers → launches (os ++ [s.observe i]) = starts os

/-- While a START is pending no other is accepted and its byte, its final flag and ENABLE stay as
    they are; and the write of a START leaves ENABLE set. -/
structure Undisturbed (s : SpiRegs) (i : SpiIn) : Prop where
  once : s.startPending = true → s.startAccepted i = false
  flag : s.startPending = true → s.wrCtrl i = true →
    i.req.wdata.getLsbD CTRL_XFER_END_BIT = s.ctrlXferEnd
  byte : s.startPending = true → s.coreWvalid i.core = false →
    s.wrTxdataFire i.reqValid i.req = true → i.req.wstrb.getLsbD 0 = true →
      i.req.wdata.setWidth 8 = s.txdataReg
  enabled : s.startPending = true ∧ s.coreWvalid i.core = false ∨ s.startAccepted i = true →
    s.disables i = false

/-- What undisturbed runs establish: a START accepted and not yet launched is pending, with the byte
    and the final flag it was accepted with. -/
structure Pending (s : SpiRegs) (os : List SpiObs) : Prop where
  account : starts os =
    launches os ++ if s.startPending then [(s.txdataReg, s.ctrlXferEnd)] else []
  live : s.startPending = true → s.ctrlEnable = true ∧ s.busy = false

namespace SpiRegs

variable {s : SpiRegs} {i : SpiIn}

/-- A pending START is launched, or stays pending, or is joined by the one accepted. -/
lemma startPending_step : (spiMachine.step s i).startPending =
    (!s.coreWvalid i.core && (s.startAccepted i || s.startPending)) := by
  show (if s.txFire i.core then false
    else if s.startAccepted i then true else s.startPending) = _
  rw [coreWvalid]
  cases s.txFire i.core <;> cases s.startAccepted i <;> rfl

lemma ctrlXferEnd_step : (spiMachine.step s i).ctrlXferEnd = s.xferEndNow i := rfl

/-- ENABLE stays set unless it is cleared. -/
lemma ctrlEnable_step (on : s.ctrlEnable = true) :
    (spiMachine.step s i).ctrlEnable = !s.disables i := by
  show (if s.wrCtrl i && !s.xferOpen then i.req.wdata.getLsbD CTRL_ENABLE_BIT else s.ctrlEnable) = _
  rw [disables, on]
  cases s.wrCtrl i && !s.xferOpen <;> simp

/-- BUSY rises only with a launch. -/
lemma busy_step (idle : s.busy = false) (still : s.coreWvalid i.core = false) :
    (spiMachine.step s i).busy = false := by
  show (if rxFire i.core then false else if s.txFire i.core then true else s.busy) = false
  rw [idle, show s.txFire i.core = false from still]
  cases rxFire i.core <;> rfl

lemma txdataReg_step : (spiMachine.step s i).txdataReg = s.txdataReg ↔
    (s.wrTxdataFire i.reqValid i.req = true → i.req.wstrb.getLsbD 0 = true →
      i.req.wdata.setWidth 8 = s.txdataReg) := by
  show (if s.wrTxdataFire i.reqValid i.req && i.req.wstrb.getLsbD 0 then i.req.wdata.setWidth 8
    else s.txdataReg) = s.txdataReg ↔ _
  cases s.wrTxdataFire i.reqValid i.req <;> cases i.req.wstrb.getLsbD 0 <;> simp

lemma xferEndNow_eq : s.xferEndNow i = s.ctrlXferEnd ↔
    (s.wrCtrl i = true → i.req.wdata.getLsbD CTRL_XFER_END_BIT = s.ctrlXferEnd) := by
  show (if s.wrCtrl i then i.req.wdata.getLsbD CTRL_XFER_END_BIT else s.ctrlXferEnd) =
    s.ctrlXferEnd ↔ _
  cases s.wrCtrl i <;> simp

/-- Only a pending START is launched. -/
lemma pending_of_launch (launched : s.coreWvalid i.core = true) :
    s.startPending = true ∧ s.ctrlEnable = true ∧ s.busy = false ∧ i.core.wready = true := by
  simpa [coreWvalid, txFire, startFire, and_assoc] using launched

lemma startAccepted_iff : s.startAccepted i = true ↔
    s.startCmdFire i.reqValid i.req = true ∧ s.ctrlEnable = true ∧ s.busy = false := by
  simp [startAccepted, and_assoc]

/-- The write of a START leaves the byte alone. -/
lemma txdataReg_of_start (accepted : s.startAccepted i = true) :
    (spiMachine.step s i).txdataReg = s.txdataReg := by
  rw [txdataReg_step]
  intro tx
  have start := (startAccepted_iff.mp accepted).1
  simp only [startCmdFire, wrCtrlFire, Bool.and_eq_true, beq_iff_eq] at start
  simp only [wrTxdataFire, start.1.1.2, Bool.and_eq_true, beq_iff_eq] at tx
  exact absurd tx.2 (by decide)

/-- A launched byte goes out with the final flag after the writes of its cycle. -/
lemma observe_launch : (s.observe i).launch =
    if s.coreWvalid i.core then some (s.txdataReg, s.xferEndNow i) else none := by
  rw [observe, coreTransferEnd, coreWdata, ← coreWvalid]
  cases s.coreWvalid i.core <;> rfl

/-- What is launched when the core is ready and nothing is requested. -/
lemma launch_of_offers (offers : i.Offers) : (s.observe i).launch =
    if s.startPending && s.ctrlEnable && !s.busy then some (s.txdataReg, s.ctrlXferEnd) else none := by
  obtain ⟨noReq, ready⟩ := offers
  have kept : s.xferEndNow i = s.ctrlXferEnd := by
    rw [xferEndNow_eq, wrCtrl, wrCtrlFire, wrFire, reqFire, noReq]
    simp
  rw [observe_launch, kept, coreWvalid, txFire, startFire, ready, Bool.and_true]

end SpiRegs

/-- A core that is ready with nothing requested. -/
def offering : SpiIn := { core := { wready := true } }

/-- A run is faithful when the STARTs not launched are the one that the core would take next. -/
lemma faithful_iff {s : SpiRegs} {os : List SpiObs} : Faithful s os ↔ starts os = launches os ++
    if s.startPending && s.ctrlEnable && !s.busy then [(s.txdataReg, s.ctrlXferEnd)] else [] := by
  have next (i : SpiIn) (offers : i.Offers) : launches (os ++ [s.observe i]) = launches os ++
      if s.startPending && s.ctrlEnable && !s.busy then [(s.txdataReg, s.ctrlXferEnd)] else [] := by
    rw [launches_snoc, SpiRegs.launch_of_offers offers]
    cases s.startPending && s.ctrlEnable && !s.busy <;> rfl
  constructor
  · intro fa
    rw [← next offering ⟨rfl, rfl⟩]
    exact (fa.all offering ⟨rfl, rfl⟩).symm
  · intro account
    refine ⟨⟨_, account.symm⟩, fun i offers => ?_⟩
    rw [next i offers, account]

lemma Pending.faithful {s : SpiRegs} {os : List SpiObs} (pe : Pending s os) : Faithful s os := by
  rw [faithful_iff, pe.account]
  cases h : s.startPending with
  | false => rfl
  | true =>
    obtain ⟨on, idle⟩ := pe.live h
    rw [on, idle]
    rfl

/-- A START that waits is undisturbed when it is alone and waits on with its word and ENABLE. -/
lemma undisturbed_waiting {s : SpiRegs} {i : SpiIn} (pending : s.startPending = true)
    (waits : s.coreWvalid i.core = false) :
    Undisturbed s i ↔ s.startAccepted i = false ∧ s.disables i = false ∧
      (spiMachine.step s i).txdataReg = s.txdataReg ∧ s.xferEndNow i = s.ctrlXferEnd := by
  rw [SpiRegs.txdataReg_step, SpiRegs.xferEndNow_eq]
  constructor
  · intro un
    exact ⟨un.once pending, un.enabled (.inl ⟨pending, waits⟩), un.byte pending waits,
      un.flag pending⟩
  · rintro ⟨once, enabled, byte, flag⟩
    exact ⟨fun _ => once, fun _ => flag, fun _ _ => byte, fun _ => enabled⟩

/-- A START that is launched is undisturbed when it is alone and keeps its final flag. -/
lemma undisturbed_launched {s : SpiRegs} {i : SpiIn} (launched : s.coreWvalid i.core = true) :
    Undisturbed s i ↔ s.startAccepted i = false ∧ s.xferEndNow i = s.ctrlXferEnd := by
  have pending := (SpiRegs.pending_of_launch launched).1
  rw [SpiRegs.xferEndNow_eq]
  constructor
  · intro un
    exact ⟨un.once pending, un.flag pending⟩
  · rintro ⟨once, flag⟩
    refine ⟨fun _ => once, fun _ => flag, fun _ waits => ?_, ?_⟩
    · rw [launched] at waits
      cases waits
    · rintro (⟨-, waits⟩ | accepted)
      · rw [launched] at waits
        cases waits
      · rw [once] at accepted
        cases accepted

/-- Without a pending START all that matters is that the write of one does not clear ENABLE. -/
lemma undisturbed_none {s : SpiRegs} {i : SpiIn} (none : s.startPending = false) :
    Undisturbed s i ↔ (s.startAccepted i = true → s.disables i = false) := by
  constructor
  · exact fun un accepted => un.enabled (.inr accepted)
  · intro enabled
    refine ⟨?_, ?_, ?_, ?_⟩
    · simp [none]
    · simp [none]
    · simp [none]
    · rintro (⟨pending, -⟩ | accepted)
      · rw [none] at pending
        cases pending
      · exact enabled accepted

/-- A step after an account of the pending START is faithful if it is undisturbed, and only then. -/
lemma Pending.faithful_step {s : SpiRegs} {os : List SpiObs} (pe : Pending s os) (i : SpiIn) :
    Undisturbed s i ↔ Faithful (spiMachine.step s i) (os ++ [spiMachine.out s i]) := by
  have out : spiMachine.out s i = s.observe i := rfl
  have start : (s.observe i).start =
    if s.startAccepted i then some (s.txdataReg, s.xferEndNow i) else none := rfl
  rw [faithful_iff, out, starts_snoc, launches_snoc, pe.account, SpiRegs.observe_launch, start,
    SpiRegs.startPending_step, SpiRegs.ctrlXferEnd_step, List.append_assoc, List.append_assoc,
    List.append_cancel_left_eq]
  cases pending : s.startPending with
  | false =>
    have still : s.coreWvalid i.core = false := by
      simp [SpiRegs.coreWvalid, SpiRegs.txFire, SpiRegs.startFire, pending]
    rw [undisturbed_none pending, still]
    cases accepted : s.startAccepted i with
    | false => simp
    | true =>
      obtain ⟨-, on, idle⟩ := SpiRegs.startAccepted_iff.mp accepted
      rw [SpiRegs.ctrlEnable_step on, SpiRegs.busy_step idle still,
        SpiRegs.txdataReg_of_start accepted]
      cases s.disables i <;> simp
  | true =>
    obtain ⟨on, idle⟩ := pe.live pending
    cases launched : s.coreWvalid i.core with
    | true =>
      rw [undisturbed_launched launched]
      cases s.startAccepted i <;> simp [eq_comm]
    | false =>
      rw [undisturbed_waiting pending launched, SpiRegs.ctrlEnable_step on,
        SpiRegs.busy_step idle launched]
      have turn : (spiMachine.step s i).txdataReg = s.txdataReg ∧ s.xferEndNow i = s.ctrlXferEnd ↔
          s.txdataReg = (spiMachine.step s i).txdataReg ∧ s.ctrlXferEnd = s.xferEndNow i :=
        and_congr eq_comm eq_comm
      cases s.startAccepted i <;> cases s.disables i <;> simp [turn]

/-- The account of the pending START survives an undisturbed step. -/
lemma Pending.step {s : SpiRegs} {os : List SpiObs} (pe : Pending s os) {i : SpiIn}
    (un : Undisturbed s i) : Pending (spiMachine.step s i) (os ++ [spiMachine.out s i]) := by
  have live : (spiMachine.step s i).startPending = true →
      (spiMachine.step s i).ctrlEnable = true ∧ (spiMachine.step s i).busy = false := by
    intro pending
    rw [SpiRegs.startPending_step, Bool.and_eq_true, Bool.not_eq_true', Bool.or_eq_true] at pending
    obtain ⟨still, accepted | pending⟩ := pending
    · obtain ⟨-, on, idle⟩ := SpiRegs.startAccepted_iff.mp accepted
      rw [SpiRegs.ctrlEnable_step on, un.enabled (.inr accepted)]
      exact ⟨rfl, SpiRegs.busy_step idle still⟩
    · obtain ⟨on, idle⟩ := pe.live pending
      rw [SpiRegs.ctrlEnable_step on, un.enabled (.inl ⟨pending, still⟩)]
      exact ⟨rfl, SpiRegs.busy_step idle still⟩
  refine ⟨?_, live⟩
  rw [faithful_iff.mp ((pe.faithful_step i).mp un)]
  cases pending : (spiMachine.step s i).startPending with
  | false => rfl
  | true =>
    obtain ⟨on, idle⟩ := live pending
    rw [on, idle]
    rfl

/-- Every START of a run launches its own byte, once, as soon as the core is ready, exactly if no
    pending START of the run is disturbed. -/
theorem spiMachine_start_once (is : List SpiIn) :
    spiMachine.Along Undisturbed is ↔
      ∀ js, js <+: is → Faithful (spiMachine.after js) (spiMachine.trace js) := by
  have none : Pending spiMachine.init [] := ⟨rfl, nofun⟩
  exact spiMachine.along_iff_prefixes none none.faithful (fun _ _ _ pe un => pe.step un)
    (fun _ _ i pe => pe.faithful_step i) is

/-- A write of a register, its response taken at once. -/
def writing (addr : BitVec 12) (data : BitVec 32) : SpiIn :=
  { reqValid := true, req := ⟨true, addr, data, 0b1111⟩ }

/-- ENABLE is set, and START is written twice before the core is ready. -/
def startTwice : List SpiIn :=
  [writing REG_CTRL 0b101, {}, writing REG_CTRL 0b111, {}, writing REG_CTRL 0b111]

/-- The second START is merged into the first. -/
theorem spiMachine_merged_start :
    ¬ ∀ is, ∀ js, js <+: is → Faithful (spiMachine.after js) (spiMachine.trace js) := by
  intro h
  exact absurd ((h startTwice startTwice (List.prefix_refl _)).all offering ⟨rfl, rfl⟩)
    (by decide +kernel)

end ModularControl.Spi
