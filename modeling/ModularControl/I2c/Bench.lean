import ModularControl.I2c.AxiLite
import ModularControl.I2c.Delivery
import ModularControl.I2c.Returns
import ModularControl.Sync.Host

/-!
# The I2C driver on its register block

The driver's accesses carried out by `i2c_regs` with its core, cycle by cycle, whatever the bus does
and however long an access takes. The recovery of the core ends within the driver's patience, so that
every transfer that starts on the idle bus leaves it idle.
-/

namespace ModularControl.I2c
open Sync Axi

def readReq (offset : BitVec 32) : MmioReq := ⟨false, offset.setWidth 12, 0, 0⟩

/-- A whole word is written. -/
def writeReq (offset value : BitVec 32) : MmioReq := ⟨true, offset.setWidth 12, value, 0b1111⟩

/-- `mmio_read32` and `mmio_write32` on the register block. -/
def i2cMmio (minDivisor : BitVec 16) (W : World Pins) : Mmio (Bench I2cRegs Pins MmioReq) where
  read32 offset := do
    return (← Bench.access (i2cRegs minDivisor) W (readReq offset)).rdata
  write32 offset value := do
    let _ ← Bench.access (i2cRegs minDivisor) W (writeReq offset value)

lemma i2cRegs_steady (minDivisor : BitVec 16) : (i2cRegs minDivisor).Steady := fun _ _ _ _ => rfl

/-- A request that is not a command. -/
def NoCommand (q : MmioReq) : Prop := (q.write && q.addr == REG_CMD) = false

namespace Core

variable (s : Core)

/-- How many ticks the phase has left. -/
def left : Nat := ((if s.stateReg.half then s.halfCnt else s.quarterCnt) - s.tickCntReg).toNat

/-- The core is idle, or will be within `n` cycles. -/
def Back (n : Nat) : Prop :=
  match s.stateReg with
  | .idle => True
  | .abort1 => s.left + 2 ^ 16 < n
  | .abort2 => s.left < n
  | _ => False

variable {p : Params} {s} {i : CoreIn} {n : Nat}

lemma left_lt : s.left < 2 ^ 16 := BitVec.isLt _

/-- A phase that does not wait for SCL comes to its end or has a tick less to go. -/
lemma phase_turn {st : State} (h : s.stateReg = st) (timed : (st.half || st.quarter) = true)
    (noAbort : s.abortFire p i = false) (ready : s.highPhaseReady = true) :
    s.phaseEnd = true ∧ (s.step p i).stateReg = st.follow (s.bitIdxReg = 8) ∨
      s.phaseEnd = false ∧ (s.step p i).stateReg = st ∧ (s.step p i).left < s.left := by
  cases ended : s.phaseEnd with
  | true => exact .inl ⟨rfl, phase_follows h timed noAbort ended⟩
  | false =>
    have next := phase_stays h timed noAbort ended
    subst h
    have tick := tick_step timed noAbort
    have divisor := divisor_kept (p := p) (i := i) timed
    rw [ended, if_neg Bool.false_ne_true] at tick
    have noEnd := ended
    rw [phaseEnd, ready, Bool.and_true] at noEnd
    refine .inr ⟨rfl, next, ?_⟩
    rw [left, left, next, tick, halfCnt, quarterCnt, divisor]
    cases half : s.stateReg.half with
    | true =>
      rw [half, if_pos rfl, beq_eq_false_iff_ne] at noEnd
      exact ticks_left noEnd
    | false =>
      rw [half, if_neg Bool.false_ne_true, beq_eq_false_iff_ne] at noEnd
      exact ticks_left noEnd

lemma Back.mono {k : Nat} (back : s.Back n) (le : n ≤ k) : s.Back k := by
  unfold Back at back ⊢
  split at back
  · trivial
  · exact Nat.lt_of_lt_of_le back le
  · exact Nat.lt_of_lt_of_le back le
  · exact back

lemma Back.idle (back : s.Back 0) : s.stateReg = .idle := by
  unfold Back at back
  split at back
  case h_1 h => exact h
  all_goals simp at back

/-- Without a START the idle core stays idle. -/
lemma idle_stays (idle : s.stateReg = .idle) (noStart : s.idleStartFire i = false) :
    (s.step p i).stateReg = .idle := by
  simp [step, stateNext, abortFire, idle, noStart]

/-- An abort that finds the core busy starts the recovery. -/
lemma back_of_abort (noStart : i.cmdValidI = false) (abort : i.abortI = true) :
    (s.step p i).Back (2 ^ 17) := by
  by_cases idle : s.stateReg = .idle
  · rw [Back, idle_stays idle (by simp [idleStartFire, noStart])]
    trivial
  · have fire : s.abortFire p i = true := by simp [abortFire, abort, idle]
    have next : (s.step p i).stateReg = .abort1 := by simp [step, stateNext, fire]
    have short := left_lt (s := s.step p i)
    rw [Back, next]
    show (s.step p i).left + 2 ^ 16 < 2 ^ 17
    omega

/-- A cycle of the recovery. Nothing but software fires an abort in it. -/
lemma Back.step (back : s.Back (n + 1)) (noCmd : i.cmdValidI = false) (noAbort : i.abortI = false) :
    (s.step p i).Back n := by
  have short := left_lt (s := s.step p i)
  have noFire (h : s.stateReg = .abort1 ∨ s.stateReg = .abort2) : s.abortFire p i = false := by
    obtain h | h := h <;>
      simp [abortFire, protocolFaultEvent, sclHighTimeoutEvent, waitingForHighPhase,
        State.waitsHigh, h, noAbort]
  cases h : s.stateReg with
  | idle =>
    rw [Back, idle_stays h (by simp [idleStartFire, noCmd])]
    trivial
  | abort1 =>
    rw [Back] at back
    simp only [h] at back
    obtain ⟨-, next⟩ | ⟨-, next, tick⟩ := phase_turn h rfl (noFire (.inl h))
      (highPhaseReady_of_not_waits (by rw [h]; rfl)) <;> rw [Back, next]
    · show (s.step p i).left < n
      omega
    · show (s.step p i).left + 2 ^ 16 < n
      omega
  | abort2 =>
    rw [Back] at back
    simp only [h] at back
    obtain ⟨-, next⟩ | ⟨-, next, tick⟩ := phase_turn h rfl (noFire (.inr h))
      (highPhaseReady_of_not_waits (by rw [h]; rfl)) <;> rw [Back, next]
    · trivial
    · show (s.step p i).left < n
      omega
  | _ => simp [Back, h] at back

end Core

namespace I2cRegs

variable {minDivisor : BitVec 16} {s : I2cRegs} {e : Pins} {v : Bool} {q : MmioReq} {r : Bool}
  {n : Nat}

/-- Without a command the core gets none, and no abort. -/
lemma coreIn_quiet (quiet : v = false ∨ NoCommand q) :
    (s.coreIn e v q r).cmdValidI = false ∧ (s.coreIn e v q r).abortI = false := by
  have noCmd : s.wrCmdFire v q r = false := by
    obtain rfl | quiet := quiet
    · rfl
    · rw [NoCommand] at quiet
      rw [wrCmdFire, wrFire, Bool.and_assoc, quiet, Bool.and_false]
  simp [coreIn, launchCmdFire, abortFire, noCmd]

lemma idle_quiet (idle : s.core.stateReg = .idle) (quiet : v = false ∨ NoCommand q) :
    (s.step minDivisor e v q r).core.stateReg = .idle :=
  Core.idle_stays idle (by simp [Core.idleStartFire, (coreIn_quiet quiet).1])

lemma back_quiet (back : s.core.Back (n + 1)) (quiet : v = false ∨ NoCommand q) :
    (s.step minDivisor e v q r).core.Back n :=
  back.step (coreIn_quiet quiet).1 (coreIn_quiet quiet).2

lemma merged_writeReq (offset value : BitVec 32) : merged (writeReq offset value) = value :=
  mergeWstrb_full 0 value

/-- A command word reaches the core of a free block: a command if the core is ready, an abort in any
    case. -/
lemma coreIn_cmd (free : s.rspValid = false) (value : BitVec 32) :
    (s.coreIn e true (writeReq I2C_REG_CMD_OFFSET value) r).cmdValidI =
        (!value.getLsbD I2C_CMD_ABORT_BIT && s.core.cmdReady) ∧
      (s.coreIn e true (writeReq I2C_REG_CMD_OFFSET value) r).abortI =
        value.getLsbD I2C_CMD_ABORT_BIT := by
  have taken : s.wrCmdFire true (writeReq I2C_REG_CMD_OFFSET value) r = true := by
    simp [wrCmdFire, wrFire, reqFire, reqReady, free, writeReq, I2C_REG_CMD_OFFSET, REG_CMD]
  have lane : (writeReq I2C_REG_CMD_OFFSET value).wstrb.getLsbD 0 = true := by
    show (0b1111#4).getLsbD 0 = true
    decide
  refine ⟨?_, ?_⟩
  · show I2cRegs.launchCmdFire _ _ _ _ = _
    rw [launchCmdFire, taken, lane, merged_writeReq]
    rfl
  · show I2cRegs.abortFire _ _ _ _ = _
    rw [abortFire, taken, lane, merged_writeReq]
    rfl

lemma getLsbD_statusRdata {k : Nat} (lt : k < 32) : s.statusRdata.getLsbD k =
    (s.core.cmdReady && 0 == k || s.core.busIdle && 1 == k || s.core.masterReceiving && 7 == k ||
      s.doneSticky && 2 == k || s.ackValidSticky && 3 == k || s.ackSticky && 4 == k ||
      s.rdDataValidSticky && 5 == k || s.cmdIllegalSticky && 6 == k) := by
  simp only [statusRdata, BitVec.getLsbD_or, getLsbD_bitAt _ _ lt]
  rfl

lemma ready_bit : s.statusRdata.getLsbD I2C_STATUS_CMD_READY_BIT = s.core.cmdReady := by
  rw [getLsbD_statusRdata (by decide)]
  simp [I2C_STATUS_CMD_READY_BIT]

lemma idle_bit : s.statusRdata.getLsbD I2C_STATUS_BUS_IDLE_BIT = s.core.busIdle := by
  rw [getLsbD_statusRdata (by decide)]
  simp [I2C_STATUS_BUS_IDLE_BIT]

end I2cRegs

section Driver

variable {minDivisor : BitVec 16} {W : World Pins}

/-- No response waits at the block. -/
def Vacant (minDivisor : BitVec 16) (t : Bench I2cRegs Pins MmioReq) : Prop :=
  t.Free (i2cRegs minDivisor) fun _ => True

/-- And its core is idle. -/
def Idle (minDivisor : BitVec 16) (t : Bench I2cRegs Pins MmioReq) : Prop :=
  Vacant minDivisor t ∧ t.regs.core.stateReg = .idle

/-- And its core is idle, or will be within `n` cycles. -/
def Backs (minDivisor : BitVec 16) (n : Nat) (t : Bench I2cRegs Pins MmioReq) : Prop :=
  Vacant minDivisor t ∧ t.regs.core.Back n

lemma access_vacant (q : MmioReq) :
    Keeps (Vacant minDivisor) (Bench.access (i2cRegs minDivisor) W q) := by
  have keeps := Bench.access_keeps (i2cRegs_lawful minDivisor) (i2cRegs_steady minDivisor)
    (W := W) (q := q) (K := fun _ => True) fun _ _ _ _ => trivial
  exact keeps.conseq (fun _ vacant => ⟨vacant, trivial⟩) fun _ _ h => h.1

/-- An access that is no command leaves the core idle. -/
lemma access_idle {q : MmioReq} (quiet : NoCommand q) :
    Keeps (Idle minDivisor) (Bench.access (i2cRegs minDivisor) W q) :=
  Bench.access_keeps (i2cRegs_lawful minDivisor) (i2cRegs_steady minDivisor)
    fun _ _ _ idle => I2cRegs.idle_quiet idle (.inr quiet)

/-- A read of the status gives what the registers hold in the cycle in which it is taken. -/
lemma status_triple {K L : Bench I2cRegs Pins MmioReq → Prop}
    {K' : BitVec 32 → Bench I2cRegs Pins MmioReq → Prop}
    (reach : ∀ t, K t → L (t.waits (i2cRegs minDivisor) W (readReq I2C_REG_STATUS_OFFSET)
      (W.gap t.now)))
    (take : ∀ t, Vacant minDivisor t → L t → K' t.regs.statusRdata
      (t.cycle (i2cRegs minDivisor) W true (readReq I2C_REG_STATUS_OFFSET) false))
    (hold : ∀ x t r, K' x t →
      K' x (t.cycle (i2cRegs minDivisor) W false (readReq I2C_REG_STATUS_OFFSET) r)) :
    Triple (fun t => Vacant minDivisor t ∧ K t) (i2cGetStatus (i2cMmio minDivisor W))
      fun x t => Vacant minDivisor t ∧ K' x t :=
  Bench.access_reads (i2cRegs_lawful minDivisor) (i2cRegs_steady minDivisor) reach take hold

/-- The same for what holds as long as the driver waits. -/
lemma status_keeping {K : Bench I2cRegs Pins MmioReq → Prop}
    {K' : BitVec 32 → Bench I2cRegs Pins MmioReq → Prop}
    (wait : ∀ t, K t → K (t.cycle (i2cRegs minDivisor) W false (readReq I2C_REG_STATUS_OFFSET) false))
    (take : ∀ t, Vacant minDivisor t → K t → K' t.regs.statusRdata
      (t.cycle (i2cRegs minDivisor) W true (readReq I2C_REG_STATUS_OFFSET) false))
    (hold : ∀ x t r, K' x t →
      K' x (t.cycle (i2cRegs minDivisor) W false (readReq I2C_REG_STATUS_OFFSET) r)) :
    Triple (fun t => Vacant minDivisor t ∧ K t) (i2cGetStatus (i2cMmio minDivisor W))
      fun x t => Vacant minDivisor t ∧ K' x t :=
  status_triple (fun _ => Bench.waits_keeps wait _) take hold

lemma status_idle : Triple (Idle minDivisor) (i2cGetStatus (i2cMmio minDivisor W)) fun x t =>
    (x.getLsbD I2C_STATUS_CMD_READY_BIT = true ∧ x.getLsbD I2C_STATUS_BUS_IDLE_BIT = true) ∧
      Idle minDivisor t := by
  have told : Triple (Idle minDivisor) (i2cGetStatus (i2cMmio minDivisor W)) fun x t =>
      Vacant minDivisor t ∧ ((x.getLsbD I2C_STATUS_CMD_READY_BIT = true ∧
        x.getLsbD I2C_STATUS_BUS_IDLE_BIT = true) ∧ t.regs.core.stateReg = .idle) := by
    refine status_keeping (fun t idle => I2cRegs.idle_quiet idle (.inl rfl)) (fun t _ idle => ⟨?_, ?_⟩)
      fun x t r h => ⟨h.1, I2cRegs.idle_quiet h.2 (.inl rfl)⟩
    · rw [I2cRegs.ready_bit, I2cRegs.idle_bit]
      simp [Core.cmdReady, Core.busIdle, idle]
    · exact I2cRegs.idle_quiet idle (.inr rfl)
  exact told.post fun x t h => ⟨h.2.1, h.1, h.2.2⟩

/-- While the core comes back a read of the status takes a cycle of its time, and calls it idle if it
    is. -/
lemma status_backs (n : Nat) :
    Triple (Backs minDivisor (n + 1)) (i2cGetStatus (i2cMmio minDivisor W)) fun x t =>
      Vacant minDivisor t ∧ t.regs.core.Back n ∧
        (x.getLsbD I2C_STATUS_BUS_IDLE_BIT = true → t.regs.core.stateReg = .idle) := by
  refine status_keeping (K := fun t => t.regs.core.Back (n + 1)) (fun t back => ?_)
    (fun t _ back => ?_) fun x t r h => ?_
  · exact (I2cRegs.back_quiet back (.inl rfl)).mono (Nat.le_succ n)
  · refine ⟨I2cRegs.back_quiet back (.inr rfl), fun told => ?_⟩
    rw [I2cRegs.idle_bit, Core.busIdle, decide_eq_true_eq] at told
    exact I2cRegs.idle_quiet told (.inr rfl)
  · refine ⟨?_, fun told => I2cRegs.idle_quiet (h.2 told) (.inl rfl)⟩
    exact I2cRegs.back_quiet (h.1.mono (Nat.le_succ n)) (.inl rfl)

lemma status_told :
    Triple (Vacant minDivisor) (i2cGetStatus (i2cMmio minDivisor W)) fun x t =>
      Vacant minDivisor t ∧ (x.getLsbD I2C_STATUS_BUS_IDLE_BIT = true → Idle minDivisor t) := by
  have told : Triple (Vacant minDivisor) (i2cGetStatus (i2cMmio minDivisor W)) fun x t =>
      Vacant minDivisor t ∧
        (x.getLsbD I2C_STATUS_BUS_IDLE_BIT = true → t.regs.core.stateReg = .idle) := by
    refine .pre (status_keeping (K := fun _ => True) (fun _ _ => trivial) (fun t _ _ told => ?_)
      fun x t r h told => I2cRegs.idle_quiet (h told) (.inl rfl)) fun _ vacant => ⟨vacant, trivial⟩
    rw [I2cRegs.idle_bit, Core.busIdle, decide_eq_true_eq] at told
    exact I2cRegs.idle_quiet told (.inr rfl)
  exact told.post fun x t h => ⟨h.1, fun bit => ⟨h.1, h.2 bit⟩⟩

/-- An abort sends the core back to idle. -/
lemma abort_backs : Triple (Vacant minDivisor) (i2cCmdAbort (i2cMmio minDivisor W)) fun _ =>
    Backs minDivisor (2 ^ 17) := by
  have write : Triple (fun t => Vacant minDivisor t ∧ True) ((i2cMmio minDivisor W).write32
      I2C_REG_CMD_OFFSET (i2cPackCmd I2C_CMD_START true false)) fun _ => Backs minDivisor (2 ^ 17) := by
    refine Bench.access_writes (i2cRegs_lawful minDivisor) (i2cRegs_steady minDivisor)
      (L := fun _ => True) (fun _ _ => trivial) (fun t free _ => ?_) fun t r back => ?_
    · obtain ⟨noCmd, abort⟩ := I2cRegs.coreIn_cmd (e := W.env t.now) (r := false) free.empty
        (i2cPackCmd I2C_CMD_START true false)
      exact Core.back_of_abort noCmd abort
    · exact I2cRegs.back_quiet (back.mono (Nat.le_succ _)) (.inl rfl)
  exact .bind (write.pre fun t vacant => ⟨vacant, trivial⟩) fun _ => .pure fun t h => h

/-- The driver waits long enough for the core to come back. -/
lemma abort_settles : Triple (Vacant minDivisor) (i2cPrivAbortToIdle (i2cMmio minDivisor W)) fun _ =>
    Idle minDivisor := by
  have ready : Triple (Idle minDivisor) (i2cStatusCmdReady (i2cMmio minDivisor W)) fun ready t =>
      ready = true ∧ Idle minDivisor t :=
    cmdReady_triple (status_idle.post fun _ _ h => ⟨h.1.1, h.2⟩)
  have wait : Triple (Backs minDivisor I2C_TIMEOUT_LOOPS) (pollUntil (do
      if ← i2cBusIdle (i2cMmio minDivisor W) then
        if ← i2cStatusCmdReady (i2cMmio minDivisor W) then return some true else return none
      else return none) I2C_TIMEOUT_LOOPS) fun _ => Idle minDivisor := by
    refine pollUntil_counted (P := Backs minDivisor) (fun n => ?_) (fun t h => ⟨h.1, h.2.idle⟩) _
    refine .bind (busIdle_triple (Q := fun idle t => Vacant minDivisor t ∧ t.regs.core.Back n ∧
      (idle = true → t.regs.core.stateReg = .idle)) (status_backs n)) fun idle => ?_
    cases idle with
    | false => exact .pure fun _ h => ⟨h.1, h.2.1⟩
    | true =>
      refine .pre (.bind_known ready ?_) fun _ h => ⟨h.1, h.2.2 rfl⟩
      exact .pure fun _ idle => idle
  have patience : 2 ^ 17 ≤ I2C_TIMEOUT_LOOPS := by decide
  exact .bind abort_backs fun _ => .returns (wait.pre fun t h => ⟨h.1, h.2.mono patience⟩)

/-- The register block lets the driver come back to the idle bus. -/
lemma i2cMmio_settles (minDivisor : BitVec 16) (W : World Pins) :
    Settles (i2cMmio minDivisor W) (Vacant minDivisor) (Idle minDivisor) where
  vacant _ idle := idle.1
  read _ := (access_vacant _).returns
  write _ _ := (access_vacant _).returns
  status := status_idle
  clear := by
    have quiet : ∀ value, NoCommand (writeReq I2C_REG_STATUS_OFFSET value) := fun _ => rfl
    exact (access_idle (quiet _)).returns
  told := status_told
  abort := abort_settles

end Driver

/-- For every bus and every time the accesses take, and from every state of the register block in
    which its core is idle and no response waits: every transfer leaves the core idle, whatever it
    returns. `i2c_tx_pkg` returns if its string ends within the reach of its index. -/
theorem driver_returns_idle (minDivisor : BitVec 16) (W : World Pins) (s : I2cRegs)
    (free : s.rspValid = false) (idle : s.core.stateReg = .idle) :
    (∀ call : Call,
      ((call.run (i2cMmio minDivisor W)).run ⟨s, []⟩).2.regs.core.stateReg = .idle) ∧
    ∀ slaveAddress msg fuel,
      let returned := (i2cTxPkg (i2cMmio minDivisor W) fuel slaveAddress msg).run ⟨s, []⟩
      (returned.1 ≠ none → returned.2.regs.core.stateReg = .idle) ∧
        ((∀ string, msg = some string → ∃ k < fuel, string (BitVec.ofNat 8 k) = 0) →
          returned.1 ≠ none) := by
  have st := i2cMmio_settles minDivisor W
  have start : Idle minDivisor ⟨s, []⟩ := ⟨⟨trivial, free⟩, idle⟩
  refine ⟨fun call => (st.run call _ start).2, fun slaveAddress msg fuel => ⟨fun returned => ?_, ?_⟩⟩
  · exact (st.txPkg fuel slaveAddress msg _ start returned).2
  · intro ends
    cases msg with
    | none => exact Option.some_ne_none _
    | some string =>
      obtain ⟨k, lt, null⟩ := ends string rfl
      exact txPkg_returns lt null slaveAddress _ trivial

/-- SDA is held low from the first cycle on, and the core has just been reset. -/
theorem driver_returns_idle_reset :
    let W : World Pins := { env := fun _ => ⟨false, true⟩, gap := fun _ => 3, lag := fun _ => 1 }
    (((Call.txBuf 0x50 (some fun i => i) 4).run (i2cMmio 1 W)).run
      ⟨.reset 1, []⟩).2.regs.core.stateReg = .idle :=
  (driver_returns_idle 1 { env := fun _ => ⟨false, true⟩, gap := fun _ => 3, lag := fun _ => 1 }
    (.reset 1) rfl rfl).1 (.txBuf 0x50 (some fun i => i) 4)

end ModularControl.I2c
