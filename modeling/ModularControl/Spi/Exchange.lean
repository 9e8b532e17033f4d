import ModularControl.Spi.Vendor

/-!
# One word

A word on its way through `spi_regs` and its vendor core: it waits for the core, is in flight, and
has been returned. What the core takes and returns is observed as a list of events. While nothing
but reads are requested the word goes on by itself, and each of its events happens once.
-/

namespace ModularControl.Spi
open Sync Axi

/-- A word taken by the vendor core, with its final flag, or returned by it. -/
inductive Event where
  | launch (byte : BitVec 8) (finalByte : Bool)
  | word (byte : BitVec 8)
deriving DecidableEq

namespace SpiSystem

variable (s : SpiSystem) (i : SpiIn)

/-- What the vendor core takes and returns in a cycle. -/
def events : List Event :=
  (if s.regs.coreWvalid i.core then
    [.launch s.regs.coreWdata (s.regs.coreTransferEnd i.core i.reqValid i.req)] else []) ++
  if (s.seen i).core.rvalid then [.word i.core.rdata] else []

/-- No word is pending or in flight. -/
structure Rests : Prop where
  sound : Sound s
  none : s.regs.startPending = false
  idle : s.regs.busy = false

/-- A word waits for the vendor core. -/
structure Waits (byte : BitVec 8) (finalByte : Bool) : Prop where
  sound : Sound s
  pending : s.regs.startPending = true
  enabled : s.regs.ctrlEnable = true
  idle : s.regs.busy = false
  fresh : s.regs.rxValid = false
  byte : s.regs.txdataReg = byte
  flag : s.regs.ctrlXferEnd = finalByte

/-- A word is in flight. -/
structure Flies (finalByte : Bool) : Prop where
  sound : Sound s
  none : s.regs.startPending = false
  enabled : s.regs.ctrlEnable = true
  busy : s.regs.busy = true
  fresh : s.regs.rxValid = false
  flag : s.regs.launchedXferEnd = finalByte

/-- A word has been returned. -/
structure Returned (finalByte : Bool) (word : BitVec 8) : Prop where
  rests : s.Rests
  enabled : s.regs.ctrlEnable = true
  valid : s.regs.rxValid = true
  word : s.regs.rxdataReg = word
  opened : s.regs.xferOpen = !finalByte

variable {s i} {b w : BitVec 8} {f : Bool}

/-- A word goes out with the final flag after the writes of its cycle. -/
lemma events_eq : s.events i =
    (if s.regs.coreWvalid i.core then [.launch s.regs.txdataReg (s.regs.xferEndNow i)] else []) ++
      if (s.seen i).core.rvalid then [.word i.core.rdata] else [] := by
  rw [events, SpiRegs.coreTransferEnd, SpiRegs.coreWdata, ← SpiRegs.coreWvalid]
  cases s.regs.coreWvalid i.core <;> rfl

/-- Without a pending START the core takes nothing. -/
lemma still_of_none (none : s.regs.startPending = false) : s.regs.coreWvalid i.core = false := by
  simp [SpiRegs.coreWvalid, SpiRegs.txFire, SpiRegs.startFire, none]

/-- Without a START the registers rest, and nothing happens. -/
lemma Rests.step (re : s.Rests) (noStart : s.regs.startCmdFire i.reqValid i.req = false) :
    (s.step i).Rests ∧ s.events i = [] := by
  have still : s.regs.coreWvalid i.core = false := still_of_none re.none
  have quiet := re.sound.quiet (i := i) re.idle
  refine ⟨⟨re.sound.step, ?_, ?_⟩, ?_⟩
  · rw [SpiSystem.step, SpiRegs.startPending_step, re.none]
    simp [SpiRegs.startAccepted, seen, noStart]
  · rw [busy_step, quiet, still, re.idle]
    rfl
  · rw [events, still, quiet]
    rfl

lemma launchedXferEnd_step : (s.step i).regs.launchedXferEnd =
    if s.regs.coreWvalid i.core then s.regs.xferEndNow i else s.regs.launchedXferEnd := rfl

lemma rxdataReg_step : (s.step i).regs.rxdataReg =
    if (s.seen i).core.rvalid then i.core.rdata else s.regs.rxdataReg := rfl

/-- RX_VALID is set with the word returned, unless it is being cleared. -/
lemma rxValid_step : (s.step i).regs.rxValid =
    (!s.regs.clrRxValidCmdFire i.reqValid i.req && ((s.seen i).core.rvalid || s.regs.rxValid)) := by
  show (if s.regs.clrRxValidCmdFire i.reqValid i.req then false
    else if (s.seen i).core.rvalid then true else s.regs.rxValid) = _
  cases s.regs.clrRxValidCmdFire i.reqValid i.req <;> cases (s.seen i).core.rvalid <;> rfl

/-- ENABLE stays set if it is not cleared. -/
lemma enabled_step (on : s.regs.ctrlEnable = true) (kept : s.regs.disables i = false) :
    (s.step i).regs.ctrlEnable = true := by
  have kept : s.regs.disables (s.seen i) = false := kept
  rw [SpiSystem.step, SpiRegs.ctrlEnable_step on, kept]
  rfl

/-- Nothing is written. -/
def Reads (s : SpiSystem) (i : SpiIn) : Prop := s.regs.wrFire i.reqValid i.req = false

lemma Reads.disables (reads : s.Reads i) : s.regs.disables i = false := by
  rw [Reads] at reads
  simp [SpiRegs.disables, SpiRegs.wrCtrl, SpiRegs.wrCtrlFire, reads]

lemma Reads.startCmdFire (reads : s.Reads i) :
    s.regs.startCmdFire i.reqValid i.req = false := by
  rw [Reads] at reads
  simp [SpiRegs.startCmdFire, SpiRegs.wrCtrlFire, reads]

/-- The word and its final flag stay. -/
lemma Reads.kept (reads : s.Reads i) : (s.step i).regs.txdataReg = s.regs.txdataReg ∧
    (s.step i).regs.ctrlXferEnd = s.regs.ctrlXferEnd ∧
    s.regs.xferEndNow i = s.regs.ctrlXferEnd := by
  rw [Reads] at reads
  refine ⟨?_, ?_, ?_⟩
  · simp [SpiSystem.step, spiMachine, SpiRegs.step, seen, SpiRegs.wrTxdataFire, reads]
  · simp [SpiSystem.step, spiMachine, SpiRegs.step, seen, SpiRegs.wrCtrlFire, reads]
  · simp [SpiRegs.xferEndNow, SpiRegs.startXferEnd, SpiRegs.wrCtrlFire, reads]

lemma Reads.rxValid (reads : s.Reads i) :
    (s.step i).regs.rxValid = ((s.seen i).core.rvalid || s.regs.rxValid) := by
  rw [Reads] at reads
  rw [rxValid_step, SpiRegs.clrRxValidCmdFire, SpiRegs.wrCtrlFire, reads]
  simp

/-- A START finds no word pending or in flight, and sends the staged one on its way. -/
lemma Rests.start (re : s.Rests) (enabled : s.regs.ctrlEnable = true)
    (fresh : s.regs.rxValid = false) (cmd : s.regs.startCmdFire i.reqValid i.req = true)
    (kept : s.regs.disables i = false) :
    (s.step i).Waits s.regs.txdataReg (s.regs.xferEndNow i) ∧ s.events i = [] := by
  have quiet := re.sound.quiet (i := i) re.idle
  have still : s.regs.coreWvalid i.core = false := still_of_none re.none
  have accepted : s.regs.startAccepted (s.seen i) = true :=
    SpiRegs.startAccepted_iff.mpr ⟨cmd, enabled, re.idle⟩
  refine ⟨⟨re.sound.step, ?_, enabled_step enabled kept, ?_, ?_, ?_, rfl⟩, ?_⟩
  · rw [SpiSystem.step, SpiRegs.startPending_step, accepted]
    exact congrArg (fun still => !still && true) still
  · rw [busy_step, quiet, still, re.idle]
    rfl
  · rw [rxValid_step, quiet, fresh]
    exact Bool.and_false _
  · exact SpiRegs.txdataReg_of_start accepted
  · rw [events, still, quiet]
    rfl

/-- A waiting word is taken when the core is ready. -/
lemma Waits.step (wa : s.Waits b f) (reads : s.Reads i) :
    if i.core.wready then (s.step i).Flies f ∧ s.events i = [.launch b f]
    else (s.step i).Waits b f ∧ s.events i = [] := by
  obtain ⟨byte, flag, now⟩ := reads.kept
  have valid := reads.rxValid
  have quiet := wa.sound.quiet (i := i) wa.idle
  -- nothing but the core's ready is missing for the launch
  have fire : s.regs.coreWvalid i.core = i.core.wready := by
    simp [SpiRegs.coreWvalid, SpiRegs.txFire, SpiRegs.startFire, wa.pending, wa.enabled, wa.idle]
  have enabled := enabled_step wa.enabled reads.disables
  have pending : (s.step i).regs.startPending = !i.core.wready := by
    rw [SpiSystem.step, SpiRegs.startPending_step, wa.pending, Bool.or_true, Bool.and_true, ← fire]
    rfl
  have busy : (s.step i).regs.busy = i.core.wready := by
    rw [busy_step, quiet, fire, wa.idle]
    cases i.core.wready <;> rfl
  have fresh : (s.step i).regs.rxValid = false := by rw [valid, quiet, wa.fresh]; rfl
  rw [events_eq, quiet, fire, now, wa.flag, wa.byte]
  cases ready : i.core.wready with
  | true =>
    rw [ready] at pending busy fire
    refine ⟨⟨wa.sound.step, pending, enabled, busy, fresh, ?_⟩, rfl⟩
    rw [launchedXferEnd_step, fire, now, wa.flag]
    rfl
  | false =>
    rw [ready] at pending busy
    exact ⟨⟨wa.sound.step, pending, enabled, busy, fresh, byte.trans wa.byte, flag.trans wa.flag⟩,
      rfl⟩

/-- A word in flight is returned when the core returns it. -/
lemma Flies.step (fl : s.Flies f) (reads : s.Reads i) :
    if i.core.rvalid then (s.step i).Returned f i.core.rdata ∧ s.events i = [.word i.core.rdata]
    else (s.step i).Flies f ∧ s.events i = [] := by
  have valid := reads.rxValid
  have still : s.regs.coreWvalid i.core = false := still_of_none fl.none
  -- the core has a word, so that its return is seen
  have back : (s.seen i).core.rvalid = i.core.rvalid := by
    simp [seen, fl.sound.flight, fl.busy]
  have enabled := enabled_step fl.enabled reads.disables
  have none : (s.step i).regs.startPending = false := by
    rw [SpiSystem.step, SpiRegs.startPending_step, fl.none]
    simp [SpiRegs.startAccepted, seen, reads.startCmdFire]
  have busy : (s.step i).regs.busy = !i.core.rvalid := by
    rw [busy_step, back, still, fl.busy]
    cases i.core.rvalid <;> rfl
  rw [events_eq, still, back]
  rw [back, fl.fresh, Bool.or_false] at valid
  cases returned : i.core.rvalid with
  | true =>
    rw [returned] at valid busy back
    refine ⟨⟨⟨fl.sound.step, none, busy⟩, enabled, valid, ?_, ?_⟩, rfl⟩
    · rw [rxdataReg_step, back]
      rfl
    · rw [xferOpen_step, back, fl.flag]
      rfl
  | false =>
    rw [returned] at valid busy back
    refine ⟨⟨fl.sound.step, none, enabled, busy, valid, ?_⟩, rfl⟩
    rw [launchedXferEnd_step, still]
    exact fl.flag

/-- A word that has been returned stays. -/
lemma Returned.step (rt : s.Returned f w) (reads : s.Reads i) :
    (s.step i).Returned f w ∧ s.events i = [] := by
  have valid := reads.rxValid
  have quiet := rt.rests.sound.quiet (i := i) rt.rests.idle
  obtain ⟨rests, nothing⟩ := rt.rests.step reads.startCmdFire
  rw [quiet, rt.valid] at valid
  refine ⟨⟨rests, enabled_step rt.enabled reads.disables, valid, ?_, ?_⟩, nothing⟩
  · rw [rxdataReg_step, quiet]
    exact rt.word
  · rw [xferOpen_step, quiet, still_of_none rt.rests.none]
    exact rt.opened

end SpiSystem

end ModularControl.Spi
