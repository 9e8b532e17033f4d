import ModularControl.I2c.Bus
import ModularControl.I2c.Commands
import ModularControl.I2c.Wires

/-!
# A bus on which SDA is held low

Whoever holds SDA low acknowledges every byte and disturbs none, so that a driver with the patience
to wait is told that all is well, whatever the bus was left over from. SCL follows the core, and
rises well before the watchdog loses its patience.
-/

namespace ModularControl.I2c
open Sync Axi

/-- What the slave drives there. -/
def low : Drive := { sda := false }

namespace Core

/-- After `n` cycles of it as many registers of the synchroniser and filter of SDA show it. -/
structure CalmTo (n : Nat) (s : Core) : Prop where
  sync0 : 0 < n → s.sdaMetaReg = false
  sync1 : 1 < n → s.sdaSyncReg = false
  hist0 : 2 < n → s.sdaHist0 = false
  hist1 : 3 < n → s.sdaHist1 = false
  hist2 : 4 < n → s.sdaHist2 = false
  prev : 5 < n → s.sdaFiltPrevReg = false

/-- All of them do. -/
abbrev Calm (s : Core) : Prop := s.CalmTo 6

/-- For how many cycles SCL, once the core releases it, is not qualified. -/
def climb (s : Core) : Nat := if s.sclOutReg then s.sclLag else 6

/-- The watchdog will not have counted past 8 before SCL is qualified. -/
def Easy (s : Core) : Prop := s.highWaitCntReg.toNat + s.climb ≤ 8

variable {p : Params} {s : Core} {i : CoreIn} {n : Nat}

lemma CalmTo.step (calm : s.CalmTo n) (low : i.sdaIn = false) : (s.step p i).CalmTo (n + 1) where
  sync0 _ := low
  sync1 lt := calm.sync0 (by omega)
  hist0 lt := calm.sync1 (by omega)
  hist1 lt := calm.hist0 (by omega)
  hist2 lt := calm.hist1 (by omega)
  prev lt := by
    show s.sdaFilt = false
    rw [sdaFilt, calm.hist0 (by omega), calm.hist1 (by omega), calm.hist2 (by omega)]
    rfl

lemma CalmTo.mono {m : Nat} (calm : s.CalmTo n) (le : m ≤ n) : s.CalmTo m where
  sync0 lt := calm.sync0 (by omega)
  sync1 lt := calm.sync1 (by omega)
  hist0 lt := calm.hist0 (by omega)
  hist1 lt := calm.hist1 (by omega)
  hist2 lt := calm.hist2 (by omega)
  prev lt := calm.prev (by omega)

lemma Calm.filt (calm : s.Calm) : s.sdaFilt = false := by
  rw [sdaFilt, calm.hist0 (by omega), calm.hist1 (by omega), calm.hist2 (by omega)]
  rfl

/-! ### SCL rises in time -/

lemma climb_le : s.climb ≤ 6 := by
  have five := s.sclLag_le
  rw [climb]
  split_ifs <;> omega

/-- A core that waits for SCL releases it. -/
lemma climb_step (waits : s.stateReg.waitsHigh = true) (follows : i.sclIn = s.sclOutReg) :
    (s.step p i).climb = s.climb - 1 := by
  have out : (s.step p i).sclOutReg = true := Bus.sclOutNext_of_waits waits
  rw [climb, climb, out, if_pos rfl]
  cases scl : s.sclOutReg with
  | true =>
    rw [if_pos rfl]
    exact sclLag_step (follows.trans scl)
  | false =>
    rw [if_neg Bool.false_ne_true]
    exact sclLag_low (follows.trans scl)

lemma ready_of_climb (high : s.climb = 0) : s.highPhaseReady = true := by
  have qual : s.sclHighQual = true := by
    rw [climb] at high
    split_ifs at high
    exact sclHighQual_of_lag high
  rw [highPhaseReady, qual, ite_self]

/-- The watchdog counts one by one. -/
lemma highWait_step : (s.step p i).highWaitCntReg.toNat ≤ s.highWaitCntReg.toNat + 1 := by
  show (s.highWaitCntNext p i).toNat ≤ _
  have plus : (s.highWaitCntReg + 1).toNat ≤ s.highWaitCntReg.toNat + 1 := by
    rw [BitVec.toNat_add]
    exact Nat.mod_le _ _
  rw [highWaitCntNext]
  split_ifs
  · exact Nat.zero_le _
  · exact plus
  · exact Nat.le_succ _
  · exact Nat.zero_le _

/-- It stands at 0 once the core does not wait. -/
lemma easy_of_still (still : s.waitingForHighPhase = false) : (s.step p i).Easy := by
  have six := climb_le (s := s.step p i)
  rw [Easy, highWait_cleared (.inl still)]
  show 0 + _ ≤ 8
  omega

lemma Easy.step (easy : s.Easy) (follows : i.sclIn = s.sclOutReg) : (s.step p i).Easy := by
  cases waiting : s.waitingForHighPhase with
  | false => exact easy_of_still waiting
  | true =>
    have lag := Bus.lag_of_waiting waiting
    have count := highWait_step (p := p) (s := s) (i := i)
    rw [waitingForHighPhase, Bool.and_eq_true] at waiting
    have rising : 0 < s.climb := by
      rw [climb]
      split_ifs <;> omega
    rw [Easy] at easy
    rw [Easy, climb_step waiting.1 follows]
    omega

/-- The watchdog's limit is not reached. -/
lemma inTime_of_lt (lt : s.highWaitCntReg.toNat < p.highWaitTimeoutClks.toNat) :
    s.sclHighTimeoutEvent p = false := by
  have ne : s.highWaitCntReg ≠ p.highWaitTimeoutClks := fun e => by
    rw [e] at lt
    exact Nat.lt_irrefl _ lt
  rw [sclHighTimeoutEvent, beq_eq_false_iff_ne.mpr ne, Bool.and_false]

lemma Easy.inTime (easy : s.Easy) (limit : 8 < p.highWaitTimeoutClks.toNat) :
    s.sclHighTimeoutEvent p = false := by
  rw [Easy] at easy
  exact inTime_of_lt (by omega)

/-- SDA is watched in the third quarter of a bit only. -/
lemma stable_of_not_data3 (other : s.stateReg ≠ .data3) : s.protocolFaultEvent = false := by
  simp [protocolFaultEvent, other]

lemma Calm.stable (calm : s.Calm) : s.protocolFaultEvent = false := by
  simp [protocolFaultEvent, calm.filt, calm.prev (by omega)]

lemma noAbort_of (noAbort : i.abortI = false) (stable : s.protocolFaultEvent = false)
    (inTime : s.sclHighTimeoutEvent p = false) : s.abortFire p i = false := by
  rw [abortFire, noAbort, stable, inTime]
  rfl

/-! ### How long a command takes -/

/-- How many phases the command has left after this one. -/
def phasesLeft (s : Core) : Nat :=
  match s.stateReg with
  | .data1 | .data2 | .data3 | .data4 => 36 - s.quartersOver
  | .restart => 2
  | .start1 | .stop1 => 1
  | _ => 0

/-- How long its phase lasts at most. The ticks go round once while SCL rises. -/
def pending (s : Core) : Nat :=
  if s.stateReg.waitsHigh && decide (0 < s.climb) then 2 ^ 16 + s.climb else s.left

/-- How many cycles the command has left at most. -/
def cyclesLeft (s : Core) : Nat := s.phasesLeft * 2 ^ 17 + s.pending

lemma pending_lt : s.pending < 2 ^ 17 := by
  have short := left_lt (s := s)
  have six := climb_le (s := s)
  rw [pending]
  split_ifs <;> omega

lemma cyclesLeft_lt : s.cyclesLeft < 37 * 2 ^ 17 := by
  have short := pending_lt (s := s)
  have few : s.phasesLeft ≤ 36 := by
    rw [phasesLeft]
    split <;> omega
  rw [cyclesLeft]
  omega

lemma cyclesLeft_phase {s' : Core} (fewer : s'.phasesLeft < s.phasesLeft) :
    s'.cyclesLeft < s.cyclesLeft := by
  have short := pending_lt (s := s')
  rw [cyclesLeft, cyclesLeft]
  omega

lemma cyclesLeft_stay {s' : Core} (same : s'.phasesLeft = s.phasesLeft)
    (closer : s'.pending < s.pending) : s'.cyclesLeft < s.cyclesLeft := by
  rw [cyclesLeft, cyclesLeft, same]
  omega

/-- A phase comes to its end, or closer to it if SCL follows the core. -/
lemma phase_pending {st : State} (h : s.stateReg = st) (timed : (st.half || st.quarter) = true)
    (noAbort : s.abortFire p i = false) :
    s.phaseEnd = true ∧ (s.step p i).stateReg = st.follow (s.bitIdxReg = 8) ∨
      s.phaseEnd = false ∧ (s.step p i).stateReg = st ∧
        (i.sclIn = s.sclOutReg → (s.step p i).pending < s.pending) := by
  cases ended : s.phaseEnd with
  | true => exact .inl ⟨rfl, phase_follows h timed noAbort ended⟩
  | false =>
    have next := phase_stays h timed noAbort ended
    refine .inr ⟨rfl, next, fun follows => ?_⟩
    have short := left_lt (s := s.step p i)
    have turn (ready : s.highPhaseReady = true) : (s.step p i).left < s.left := by
      obtain ⟨over_, -⟩ | ⟨-, -, tick⟩ := phase_turn h timed noAbort ready
      · rw [ended] at over_
        cases over_
      · exact tick
    rw [pending, pending, next, h]
    cases waits : st.waitsHigh with
    | false =>
      simp only [Bool.false_and, Bool.false_eq_true, if_false]
      exact turn (highPhaseReady_of_not_waits (by rw [h]; exact waits))
    | true =>
      rw [climb_step (by rw [h]; exact waits) follows, Bool.true_and, Bool.true_and]
      by_cases high : s.climb = 0
      · rw [high, if_neg (by simp), if_neg (by simp)]
        exact turn (ready_of_climb high)
      · rw [if_pos (decide_eq_true (Nat.pos_of_ne_zero high))]
        split_ifs <;> omega

/-- A byte is under way, and all that has been sampled is low. -/
structure LowByte (c : BitVec 3) (s : Core) : Prop where
  calm : s.Calm
  easy : s.Easy
  cmd : s.cmdReg = c
  rx : s.rxReg = 0
  bit : s.bitIdxReg.toNat ≤ 8
  phase : s.stateReg.dataPhase = true ∨ s.stateReg = .dataEnd

lemma rx_low (calm : s.Calm) (rx : s.rxReg = 0) : (s.step p i).rxReg = 0 := by
  have shifted : (0 : BitVec 9).shiftConcat false = 0 := by decide
  simp only [step, rxNext, rx, calm.filt, shifted, ite_self]

variable {c : BitVec 3}

/-- A cycle that keeps the command's registers keeps the byte under way. -/
lemma LowByte.keep (b : s.LowByte c) (low : i.sdaIn = false) (follows : i.sclIn = s.sclOutReg)
    (bit : (s.step p i).bitIdxReg.toNat ≤ 8) (cmd : (s.step p i).cmdReg = s.cmdReg)
    (phase : (s.step p i).stateReg.dataPhase = true ∨ (s.step p i).stateReg = .dataEnd) :
    (s.step p i).LowByte c :=
  ⟨(b.calm.step low).mono (by omega), b.easy.step follows, cmd.trans b.cmd, rx_low b.calm b.rx, bit,
    phase⟩

/-- A cycle within a phase brings its end closer. -/
lemma LowByte.tick (b : s.LowByte c) (low : i.sdaIn = false) (follows : i.sclIn = s.sclOutReg)
    (next : (s.step p i).stateReg = s.stateReg) (bit : (s.step p i).bitIdxReg = s.bitIdxReg)
    (cmd : (s.step p i).cmdReg = s.cmdReg) (closer : (s.step p i).pending < s.pending) :
    (s.step p i).LowByte c ∧ (s.step p i).cyclesLeft < s.cyclesLeft := by
  refine ⟨b.keep low follows (by rw [bit]; exact b.bit) cmd (by rw [next]; exact b.phase), ?_⟩
  apply cyclesLeft_stay _ closer
  simp only [phasesLeft, quartersOver, next, bit]

/-- Every cycle of a byte brings its end closer. -/
lemma LowByte.step (b : s.LowByte c) (limit : 8 < p.highWaitTimeoutClks.toNat)
    (low : i.sdaIn = false) (follows : i.sclIn = s.sclOutReg) (noAbort : i.abortI = false) :
    s.doneTick = true ∧ (s.step p i).stateReg = .hold ∨
      (s.step p i).LowByte c ∧ (s.step p i).cyclesLeft < s.cyclesLeft := by
  have fire : s.abortFire p i = false := noAbort_of noAbort b.calm.stable (b.easy.inTime limit)
  have eight := b.bit
  have phase := b.phase
  have kept (data : s.stateReg.dataPhase = true) (stay : s.nextBit = false) :=
    bit_kept (p := p) (i := i) data stay
  cases h : s.stateReg with
  | data1 | data2 | data3 =>
    obtain ⟨-, bit, cmd⟩ := kept (by rw [h]; rfl) (by simp [nextBit, h])
    obtain ⟨-, next⟩ | ⟨-, next, closer⟩ := phase_pending h rfl fire
    · refine .inr ⟨b.keep low follows (by rw [bit]; exact eight) cmd (.inl (by rw [next]; rfl)), ?_⟩
      apply cyclesLeft_phase
      simp only [phasesLeft, quartersOver, h, next, State.follow, bit]
      omega
    · exact .inr (b.tick low follows (next.trans h.symm) bit cmd (closer follows))
  | data4 =>
    obtain ⟨ended, next⟩ | ⟨going, next, closer⟩ := phase_pending h rfl fire
    -- the end of a bit: the next one, or the end of the byte after the ninth
    · have last := nextBit_data4 h ended
      by_cases lt : s.bitIdxReg < 8
      · rw [decide_eq_true lt] at last
        obtain ⟨-, -, -, bit, cmd⟩ := bit_next (p := p) (i := i) last
        have count : (s.step p i).bitIdxReg.toNat = s.bitIdxReg.toNat + 1 := by
          rw [bit, bitIdx_succ lt]
        have ne : ¬ s.bitIdxReg = 8 := fun e => by rw [e] at lt; exact absurd lt (by decide)
        have below : s.bitIdxReg.toNat < 8 := lt
        rw [decide_eq_false ne] at next
        refine .inr ⟨b.keep low follows (by omega) cmd (.inl (by rw [next]; rfl)), ?_⟩
        apply cyclesLeft_phase
        simp only [phasesLeft, quartersOver, h, next, State.follow, count, if_neg Bool.false_ne_true]
        omega
      · have last8 : s.bitIdxReg = 8 := by
          rw [BitVec.lt_def, Nat.not_lt] at lt
          exact BitVec.eq_of_toNat_eq (Nat.le_antisymm eight lt)
        rw [decide_eq_false lt] at last
        obtain ⟨-, bit, cmd⟩ := kept (by rw [h]; rfl) last
        rw [decide_eq_true last8] at next
        refine .inr ⟨b.keep low follows (by rw [bit]; exact eight) cmd (.inr next), ?_⟩
        apply cyclesLeft_phase
        simp only [phasesLeft, quartersOver, h, next, State.follow, if_pos, last8]
        decide
    · obtain ⟨-, bit, cmd⟩ := kept (by rw [h]; rfl) (nextBit_of_goes_on going)
      exact .inr (b.tick low follows (next.trans h.symm) bit cmd (closer follows))
  | dataEnd =>
    obtain ⟨ended, next⟩ | ⟨-, next, closer⟩ := phase_pending h rfl fire
    -- `doneTick` comes with the last tick of the byte
    · have whole : s.stateReg.half = false := by rw [h]; rfl
      have ready := highPhaseReady_of_not_waits (s := s) (by rw [h]; rfl)
      rw [phaseEnd, whole, if_neg Bool.false_ne_true, ready, Bool.and_true, beq_iff_eq] at ended
      refine .inl ⟨?_, next⟩
      simp [doneTick, h, ended]
    · have same : (s.step p i).bitIdxReg = s.bitIdxReg ∧ (s.step p i).cmdReg = s.cmdReg := by
        simp [Core.step, bitIdxNext, nextBit, cmdFire, idleStartFire, holdCmdFire, holdWrFire,
          holdRdFire, holdStopFire, holdRestartFire, h]
      exact .inr (b.tick low follows (next.trans h.symm) same.1 same.2 (closer follows))
  | _ => simp [h, State.dataPhase] at phase

/-- Where the phases of a START, a RESTART and a STOP lead. -/
def leads : State → Option State
  | .restart | .start1 | .start2 => some .hold
  | .stop1 | .stop2 => some .idle
  | _ => none

/-- Every cycle of such a command brings its end closer if SCL follows the core. -/
lemma leads_step {goal : State} (on : leads s.stateReg = some goal)
    (inTime : s.sclHighTimeoutEvent p = false) (noAbort : i.abortI = false) :
    (s.step p i).stateReg = goal ∨ leads (s.step p i).stateReg = some goal ∧
      (i.sclIn = s.sclOutReg → (s.step p i).cyclesLeft < s.cyclesLeft) := by
  have fire : s.abortFire p i = false := by
    refine noAbort_of noAbort (stable_of_not_data3 fun h => ?_) inTime
    rw [h] at on
    cases on
  cases h : s.stateReg with
  | restart | start1 | stop1 =>
    rw [h] at on
    obtain ⟨-, next⟩ | ⟨-, next, closer⟩ := phase_pending h rfl fire
    · refine .inr ⟨by rw [next]; exact on, fun _ => cyclesLeft_phase ?_⟩
      simp only [phasesLeft, h, next, State.follow]
      decide
    · refine .inr ⟨by rw [next]; exact on, fun follows => cyclesLeft_stay ?_ (closer follows)⟩
      simp only [phasesLeft, h, next]
  | start2 | stop2 =>
    rw [h] at on
    obtain ⟨-, next⟩ | ⟨-, next, closer⟩ := phase_pending h rfl fire
    · exact .inl (next.trans (Option.some.inj on))
    · refine .inr ⟨by rw [next]; exact on, fun follows => cyclesLeft_stay ?_ (closer follows)⟩
      simp only [phasesLeft, h, next]
  | _ => simp [h, leads] at on

/-- What the held core makes of a command. -/
lemma hold_takes (h : s.stateReg = .hold) (noAbort : i.abortI = false) (cmd : i.cmdValidI = true) :
    (s.step p i).stateReg =
      if i.cmd = RESTART_CMD then .restart
      else if i.cmd = STOP_CMD then .stop1
      else if i.cmd = WR_CMD ∨ i.cmd = RD_CMD then .data1
      else .hold := by
  simp [step, stateNext, hold_noAbort h noAbort, h, holdRestartFire, holdStopFire, holdWrFire,
    holdRdFire, cmd]

/-- A byte command on the held bus. -/
lemma hold_byte (h : s.stateReg = .hold) (calm : s.Calm) (low : i.sdaIn = false)
    (noAbort : i.abortI = false) (cmd : i.cmdValidI = true)
    (byte : i.cmd = WR_CMD ∨ i.cmd = RD_CMD) : (s.step p i).LowByte i.cmd := by
  have next := hold_takes (p := p) h noAbort cmd
  have fire : (s.holdWrFire i || s.holdRdFire i) = true := by
    simp [holdWrFire, holdRdFire, h, cmd, byte]
  have other : i.cmd ≠ RESTART_CMD ∧ i.cmd ≠ STOP_CMD := by
    obtain e | e := byte <;> rw [e] <;> decide
  rw [if_neg other.1, if_neg other.2, if_pos byte] at next
  have still : s.waitingForHighPhase = false := by
    simp [waitingForHighPhase, State.waitsHigh, h]
  refine ⟨(calm.step low).mono (by omega), easy_of_still still, ?_, ?_, ?_,
    .inl (by rw [next]; rfl)⟩
  · have taken : s.cmdFire i = true := by
      rw [cmdFire, holdCmdFire, fire]
      simp
    simp [step, taken]
  · have notSampled : s.sampleSdaNow = false := by simp [sampleSdaNow, h]
    simp [step, rxNext, notSampled, fire]
  · have stay : s.nextBit = false := by simp [nextBit, h]
    simp [step, bitIdxNext, stay, fire]

end Core

namespace I2cRegs

variable {minDivisor : BitVec 16} {s : I2cRegs} {v : Bool} {q : MmioReq} {r : Bool} {c : BitVec 3}

/-- A cycle in which SDA is held low. -/
def lowStep (minDivisor : BitVec 16) (s : I2cRegs) (v : Bool) (q : MmioReq) (r : Bool) : I2cRegs :=
  s.step minDivisor (s.pins low) v q r

/-- What the core sees of the lines in it. -/
lemma coreIn_low : (s.coreIn (s.pins low) v q r).sdaIn = false ∧
    (s.coreIn (s.pins low) v q r).sclIn = s.core.sclOutReg :=
  ⟨Bool.and_false _, Bool.and_true _⟩

/-- The block leaves the watchdog of its core at its default. -/
lemma watchdog_limit : 8 < (Params.highWaitTimeoutClks { minDivisor }).toNat := by
  show 8 < (4095#16).toNat
  decide

/-- A byte is under way for the driver. -/
structure Sending (c : BitVec 3) (s : I2cRegs) : Prop where
  byte : s.core.LowByte c
  legal : s.cmdIllegalSticky = false

/-- A byte is over, and its result can be read: a low SDA is an ACK. -/
structure Answers (c : BitVec 3) (s : I2cRegs) : Prop where
  held : s.core.stateReg = .hold
  done : s.doneSticky = true
  legal : s.cmdIllegalSticky = false
  wr : c = WR_CMD → s.ackValidSticky = true ∧ s.ackSticky = false
  rd : c = RD_CMD → s.rdDataValidSticky = true

/-- Without a write the sticky bits are set by the core only. -/
lemma noWrite (reading : v = false ∨ q.write = false) :
    (v = false ∨ NoCommand q) ∧ s.wrStatusFire v q r = false ∧ s.launchCmdFire v q r = false := by
  obtain rfl | write := reading
  · exact ⟨.inl rfl, rfl, rfl⟩
  · have none_ : s.wrFire v q r = false := by rw [wrFire, write, Bool.and_false]
    refine ⟨.inr (by rw [NoCommand, write, Bool.false_and]), ?_, ?_⟩
    · rw [wrStatusFire, none_, Bool.false_and]
    · rw [launchCmdFire, wrCmdFire, none_, Bool.false_and, Bool.false_and, Bool.false_and,
        Bool.false_and]

lemma noIllegal {e : Pins} (reading : v = false ∨ q.write = false)
    (legal : s.cmdIllegalSticky = false) :
    (s.step minDivisor e v q r).cmdIllegalSticky = false := by
  obtain ⟨quiet, noClear, noLaunch⟩ := noWrite (s := s) (r := r) reading
  have none_ : s.core.cmdIllegal (s.coreIn e v q r) = false := by
    simp [Core.cmdIllegal, (coreIn_quiet quiet).1]
  simp [step, none_, noClear, noLaunch, legal]

/-- Every cycle brings the end of a byte closer, until its result is there. -/
lemma Sending.step (sending : s.Sending c) (reading : v = false ∨ q.write = false) :
    (s.lowStep minDivisor v q r).Answers c ∨ (s.lowStep minDivisor v q r).Sending c ∧
      (s.lowStep minDivisor v q r).core.cyclesLeft < s.core.cyclesLeft := by
  obtain ⟨quiet, -, -⟩ := noWrite (s := s) (r := r) reading
  have legal : (s.lowStep minDivisor v q r).cmdIllegalSticky = false :=
    noIllegal reading sending.legal
  obtain ⟨done, held⟩ | ⟨byte, closer⟩ := sending.byte.step (p := { minDivisor })
    (i := s.coreIn (s.pins low) v q r) watchdog_limit coreIn_low.1 coreIn_low.2
    (coreIn_quiet quiet).2
  · refine .inl ⟨held, by simp [lowStep, I2cRegs.step, done], legal, fun wr => ?_, fun rd => ?_⟩
    · have valid : s.core.ackValid = true := by
        rw [Core.ackValid, done, sending.byte.cmd, wr]
        rfl
      have ack : s.core.ack = false := by
        rw [Core.ack, sending.byte.rx]
        rfl
      simp [lowStep, I2cRegs.step, valid, ack]
    · have valid : s.core.rdDataValid = true := by
        rw [Core.rdDataValid, done, sending.byte.cmd, rd]
        rfl
      simp [lowStep, I2cRegs.step, valid]
  · exact .inr ⟨⟨byte, legal⟩, closer⟩

/-- The result stays. -/
lemma Answers.step (an : s.Answers c) (reading : v = false ∨ q.write = false) :
    (s.lowStep minDivisor v q r).Answers c := by
  obtain ⟨quiet, noClear, noLaunch⟩ := noWrite (s := s) (r := r) reading
  have noDone : s.core.doneTick = false := by simp [Core.doneTick, an.held]
  refine ⟨Core.hold_stays an.held (coreIn_quiet quiet).1 (coreIn_quiet quiet).2, ?_,
    noIllegal reading an.legal, fun wr => ?_, fun rd => ?_⟩
  · simp [lowStep, I2cRegs.step, noDone, noLaunch, noClear, an.done]
  · obtain ⟨valid, ack⟩ := an.wr wr
    simp [lowStep, I2cRegs.step, Core.ackValid, noDone, noLaunch, noClear, valid, ack]
  · simp [lowStep, I2cRegs.step, Core.rdDataValid, noDone, noLaunch, noClear, an.rd rd]

/-- Until its result is there the byte stays under way. -/
lemma sends_stays (k : s.Sending c ∨ s.Answers c) (reading : v = false ∨ q.write = false) :
    (s.lowStep minDivisor v q r).Sending c ∨ (s.lowStep minDivisor v q r).Answers c := by
  obtain sending | answers := k
  · obtain answers | ⟨sending, -⟩ := sending.step reading
    · exact .inr answers
    · exact .inl sending
  · exact .inr (answers.step reading)

/-- The driver reads the result off the status. -/
lemma answers_bits (an : s.Answers c) : s.statusRdata.getLsbD I2C_STATUS_DONE_BIT = true ∧
    s.statusRdata.getLsbD I2C_STATUS_CMD_ILLEGAL_BIT = false ∧
    (c = WR_CMD → s.statusRdata.getLsbD I2C_STATUS_ACK_VALID_BIT = true ∧
      s.statusRdata.getLsbD I2C_STATUS_ACK_BIT = false) ∧
    (c = RD_CMD → s.statusRdata.getLsbD I2C_STATUS_RD_DATA_VALID_BIT = true) := by
  refine ⟨?_, ?_, fun wr => ⟨?_, ?_⟩, fun rd => ?_⟩ <;> rw [getLsbD_statusRdata (by decide)]
  · simp [I2C_STATUS_DONE_BIT, an.done]
  · simp [I2C_STATUS_CMD_ILLEGAL_BIT, an.legal]
  · simp [I2C_STATUS_ACK_VALID_BIT, (an.wr wr).1]
  · simp [I2C_STATUS_ACK_BIT, (an.wr wr).2]
  · simp [I2C_STATUS_RD_DATA_VALID_BIT, an.rd rd]

/-- A command is on its way to `goal`. -/
def Bound (goal : State) (s : I2cRegs) : Prop :=
  s.core.Easy ∧ Core.leads s.core.stateReg = some goal

lemma Bound.step {goal : State} (bound : s.Bound goal) (quiet : v = false ∨ NoCommand q) :
    (s.lowStep minDivisor v q r).core.stateReg = goal ∨ (s.lowStep minDivisor v q r).Bound goal ∧
      (s.lowStep minDivisor v q r).core.cyclesLeft < s.core.cyclesLeft := by
  obtain there | ⟨on, closer⟩ := Core.leads_step (p := { minDivisor })
    (i := s.coreIn (s.pins low) v q r) bound.2 (bound.1.inTime watchdog_limit)
    (coreIn_quiet quiet).2
  · exact .inl there
  · exact .inr ⟨⟨bound.1.step coreIn_low.2, on⟩, closer coreIn_low.2⟩

lemma bound_stays {goal : State} (ends : Ends goal) (k : s.Bound goal ∨ s.core.stateReg = goal)
    (quiet : v = false ∨ NoCommand q) : (s.lowStep minDivisor v q r).Bound goal ∨
      (s.lowStep minDivisor v q r).core.stateReg = goal := by
  obtain bound | there := k
  · obtain there | ⟨bound, -⟩ := bound.step quiet
    · exact .inr there
    · exact .inl bound
  · exact .inr (ends_stays ends there quiet)

end I2cRegs

section Driver

variable {minDivisor : BitVec 16} {W : World Drive} {a : Nat} {c : BitVec 3} {q : MmioReq}

/-- From cycle `a` on SDA is held low, and the driver takes longer before an access than any command
    takes. -/
structure Dull (W : World Drive) (a : Nat) : Prop where
  env : ∀ t, a ≤ t → W.env t = low
  gap : ∀ t, a ≤ t → 37 * 2 ^ 17 ≤ W.gap t

/-- Cycle `a` has come, no response waits, and the registers satisfy `K`. -/
def Late (minDivisor : BitVec 16) (a : Nat) (K : I2cRegs → Prop)
    (t : Bench I2cRegs Drive MmioReq) : Prop :=
  t.Free (wired minDivisor) (fun _ => True) ∧ a ≤ t.now ∧ K t.regs

/-- The bus is held. -/
abbrev Held (minDivisor : BitVec 16) (a : Nat) : Bench I2cRegs Drive MmioReq → Prop :=
  Late minDivisor a fun s => s.core.stateReg = .hold

/-- An access that is no command leaves the bus held. -/
lemma access_held (quiet : NoCommand q) :
    Keeps (Held minDivisor a) (Bench.access (wired minDivisor) W q) := by
  refine Bench.access_keeps (wired_lawful minDivisor) (wired_steady minDivisor)
    (K := fun t => a ≤ t.now ∧ t.regs.core.stateReg = .hold) fun t v r h => ⟨?_, ?_⟩
  · rw [Bench.now_cycle]
    exact Nat.le_succ_of_le h.1
  · exact I2cRegs.ends_stays (.inr rfl) h.2 (.inr quiet)

section Dull

variable (dull : Dull W a)
include dull

lemma cycle_low {t : Bench I2cRegs Drive MmioReq} (late : a ≤ t.now) (v : Bool) (q : MmioReq)
    (r : Bool) :
    (t.cycle (wired minDivisor) W v q r).regs = t.regs.lowStep minDivisor v q r := by
  show t.regs.step minDivisor (t.regs.pins (W.env t.now)) v q r = _
  rw [dull.env _ late]
  rfl

/-- While the driver waits SDA shows through its filter. -/
lemma waits_calm {t : Bench I2cRegs Drive MmioReq} {k n : Nat} (late : a ≤ t.now)
    (calm : t.regs.core.CalmTo k) :
    (t.waits (wired minDivisor) W q n).regs.core.CalmTo (k + n) := by
  induction n generalizing t k with
  | zero => exact calm
  | succ n ih =>
    have next : (t.cycle (wired minDivisor) W false q false).regs.core.CalmTo (k + 1) := by
      rw [cycle_low dull late]
      exact calm.step I2cRegs.coreIn_low.1
    have rest := ih (by rw [Bench.now_cycle]; omega) next
    rw [Nat.add_right_comm] at rest
    exact rest

/-- What the driver's waiting brings about. -/
lemma waits_bring {A B : I2cRegs → Prop}
    (step : ∀ s, A s → B (s.lowStep minDivisor false q false) ∨
      A (s.lowStep minDivisor false q false) ∧
        (s.lowStep minDivisor false q false).core.cyclesLeft < s.core.cyclesLeft)
    (stay : ∀ s, B s → B (s.lowStep minDivisor false q false))
    {t : Bench I2cRegs Drive MmioReq} (late : a ≤ t.now) (start : A t.regs ∨ B t.regs) :
    B (t.waits (wired minDivisor) W q (W.gap t.now)).regs := by
  have later {t : Bench I2cRegs Drive MmioReq} (late : a ≤ t.now) :
      a ≤ (t.cycle (wired minDivisor) W false q false).now := by
    rw [Bench.now_cycle]
    exact Nat.le_succ_of_le late
  have stay' : ∀ t : Bench I2cRegs Drive MmioReq, a ≤ t.now ∧ B t.regs →
      a ≤ (t.cycle (wired minDivisor) W false q false).now ∧
        B (t.cycle (wired minDivisor) W false q false).regs := by
    intro t h
    rw [cycle_low dull h.1]
    exact ⟨later h.1, stay _ h.2⟩
  obtain start | start := start
  · refine (Bench.waits_reaches (R := wired minDivisor) (W := W) (q := q)
      (A := fun t => a ≤ t.now ∧ A t.regs) (B := fun t => a ≤ t.now ∧ B t.regs)
      (fun t => t.regs.core.cyclesLeft) (fun t h => ?_) stay' ⟨late, start⟩
      (Nat.lt_of_lt_of_le Core.cyclesLeft_lt (dull.gap _ late))).2
    rw [cycle_low dull h.1]
    obtain there | ⟨on, closer⟩ := step _ h.2
    · exact .inl ⟨later h.1, there⟩
    · exact .inr ⟨⟨later h.1, on⟩, closer⟩
  · exact (Bench.waits_keeps (K := fun t => a ≤ t.now ∧ B t.regs) stay' _ ⟨late, start⟩).2

/-- An access on that bus, of whose response `f` is used. -/
lemma access_late {γ : Type} {f : MmioRsp → γ} {K L : I2cRegs → Prop} {T : γ → I2cRegs → Prop}
    (reach : ∀ t : Bench I2cRegs Drive MmioReq, a ≤ t.now → K t.regs →
      L (t.waits (wired minDivisor) W q (W.gap t.now)).regs)
    (take : ∀ s : I2cRegs, s.rspValid = false → L s →
      T (f (s.answer q)) (s.lowStep minDivisor true q false))
    (hold : ∀ x s r, T x s → T x (s.lowStep minDivisor false q r)) :
    Triple (Late minDivisor a K) (Bench.access (wired minDivisor) W q >>= fun b => pure (f b))
      fun x => Late minDivisor a (T x) := by
  refine Bench.access_reads (wired_lawful minDivisor) (wired_steady minDivisor)
    (K := fun t => a ≤ t.now ∧ K t.regs) (L := fun t => a ≤ t.now ∧ L t.regs)
    (T := fun x t => a ≤ t.now ∧ T x t.regs) (fun t h => ⟨?_, reach t h.1 h.2⟩)
    (fun t free h => ⟨?_, ?_⟩) fun x t r h => ⟨?_, ?_⟩
  · rw [Bench.now_waits]
    exact Nat.le_add_right_of_le h.1
  · rw [Bench.now_cycle]
    exact Nat.le_succ_of_le h.1
  · rw [cycle_low dull h.1]
    exact take _ free.empty h.2
  · rw [Bench.now_cycle]
    exact Nat.le_succ_of_le h.1
  · rw [cycle_low dull h.1]
    exact hold x _ r h.2

/-- A command on the held bus. -/
lemma write_held {value : BitVec 32} {K : I2cRegs → Prop}
    (take : ∀ s : I2cRegs, s.rspValid = false → s.core.stateReg = .hold → s.core.Calm →
      K (s.lowStep minDivisor true (writeReq I2C_REG_CMD_OFFSET value) false))
    (stay : ∀ s r, K s → K (s.lowStep minDivisor false (writeReq I2C_REG_CMD_OFFSET value) r)) :
    Triple (Held minDivisor a) ((wiredMmio minDivisor W).write32 I2C_REG_CMD_OFFSET value)
      fun _ => Late minDivisor a K := by
  refine access_late dull (L := fun s => s.core.stateReg = .hold ∧ s.core.Calm)
    (T := fun _ => K) (fun t late held => ⟨?_, ?_⟩) (fun s empty h => take s empty h.1 h.2)
    fun _ => stay
  · have stay : ∀ t : Bench I2cRegs Drive MmioReq, t.regs.core.stateReg = .hold →
        (t.cycle (wired minDivisor) W false (writeReq I2C_REG_CMD_OFFSET value)
          false).regs.core.stateReg = .hold :=
      fun t there => I2cRegs.ends_stays (.inr rfl) there (.inl rfl)
    exact Bench.waits_keeps stay _ held
  · have start : t.regs.core.CalmTo 0 := by constructor <;> intro lt <;> cases lt
    have long := dull.gap _ late
    exact (waits_calm dull late start).mono (by omega)

omit dull in
/-- A command word reaches the core of a held bus. -/
lemma held_cmd {s : I2cRegs} {e : Pins} (value : BitVec 32)
    (noAbort : value.getLsbD I2C_CMD_ABORT_BIT = false) (free : s.rspValid = false)
    (held : s.core.stateReg = .hold) :
    let i := s.coreIn e true (writeReq I2C_REG_CMD_OFFSET value) false
    i.cmdValidI = true ∧ i.abortI = false ∧ i.cmd = value.setWidth 3 := by
  obtain ⟨cmd, abort⟩ := I2cRegs.coreIn_cmd (e := e) (r := false) free value
  rw [noAbort, I2cRegs.ends_ready (.inr rfl) held] at cmd
  rw [noAbort] at abort
  refine ⟨cmd, abort, ?_⟩
  show (I2cRegs.merged _).setWidth 3 = _
  rw [I2cRegs.merged_writeReq]

variable (minDivisor) in
/-- A byte command is taken for a byte. -/
lemma write_byte (value : BitVec 32) (noAbort : value.getLsbD I2C_CMD_ABORT_BIT = false)
    (code : value.setWidth 3 = c) (byte : c = WR_CMD ∨ c = RD_CMD) :
    Triple (Held minDivisor a) ((wiredMmio minDivisor W).write32 I2C_REG_CMD_OFFSET value)
      fun _ => Late minDivisor a fun s => s.Sending c ∨ s.Answers c := by
  refine write_held dull (fun s free held calm => .inl ?_)
    fun s r k => I2cRegs.sends_stays k (.inl rfl)
  obtain ⟨cmd, abort, is_⟩ := held_cmd (e := s.pins low) value noAbort free held
  rw [code] at is_
  refine ⟨?_, ?_⟩
  · have sent := Core.hold_byte (p := { minDivisor }) held calm I2cRegs.coreIn_low.1 abort cmd
      (is_ ▸ byte)
    rw [is_] at sent
    exact sent
  · have legal : s.core.cmdIllegal (s.coreIn (s.pins low) true
        (writeReq I2C_REG_CMD_OFFSET value) false) = false := by
      rw [Core.cmdIllegal, is_]
      obtain rfl | rfl := byte <;> simp [held]
    have launch : s.launchCmdFire true (writeReq I2C_REG_CMD_OFFSET value) false = true := cmd
    simp [I2cRegs.lowStep, I2cRegs.step, legal, launch]

variable (minDivisor) in
/-- A command that ends in `goal`. -/
lemma write_bound (value : BitVec 32) (goal : State)
    (noAbort : value.getLsbD I2C_CMD_ABORT_BIT = false) (ends : I2cRegs.Ends goal)
    (first : ∀ s : Core, ∀ i : CoreIn, s.stateReg = .hold → i.abortI = false → i.cmdValidI = true →
      i.cmd = value.setWidth 3 → Core.leads (s.step { minDivisor } i).stateReg = some goal) :
    Triple (Held minDivisor a) ((wiredMmio minDivisor W).write32 I2C_REG_CMD_OFFSET value)
      fun _ => Late minDivisor a fun s => s.Bound goal ∨ s.core.stateReg = goal := by
  refine write_held dull (fun s free held calm => .inl ⟨?_, ?_⟩)
    fun s r k => I2cRegs.bound_stays ends k (.inl rfl)
  · exact Core.easy_of_still (by simp [Core.waitingForHighPhase, State.waitsHigh, held])
  · obtain ⟨cmd, abort, is_⟩ := held_cmd (e := s.pins low) value noAbort free held
    exact first _ _ held abort cmd is_

/-- By the time the driver looks the byte is over. -/
lemma status_answers : Triple (Late minDivisor a fun s => s.Sending c ∨ s.Answers c)
    (i2cGetStatus (wiredMmio minDivisor W)) fun x =>
      Late minDivisor a fun s => (x.getLsbD I2C_STATUS_DONE_BIT = true ∧
        x.getLsbD I2C_STATUS_CMD_ILLEGAL_BIT = false ∧
        (c = WR_CMD → x.getLsbD I2C_STATUS_ACK_VALID_BIT = true ∧
          x.getLsbD I2C_STATUS_ACK_BIT = false) ∧
        (c = RD_CMD → x.getLsbD I2C_STATUS_RD_DATA_VALID_BIT = true)) ∧ s.Answers c := by
  refine access_late dull (L := fun s => s.Answers c) (fun t late start => ?_)
    (fun s _ an => ⟨I2cRegs.answers_bits an, an.step (.inr rfl)⟩)
    fun x s r h => ⟨h.1, h.2.step (.inl rfl)⟩
  exact waits_bring dull (fun s k => k.step (.inl rfl)) (fun s k => k.step (.inl rfl)) late start

/-- By the time the driver looks the command has come to its end. -/
lemma status_bound {goal : State} (ends : I2cRegs.Ends goal) :
    Triple (Late minDivisor a fun s => s.Bound goal ∨ s.core.stateReg = goal)
      (i2cGetStatus (wiredMmio minDivisor W)) fun x =>
        Late minDivisor a fun s => (x.getLsbD I2C_STATUS_CMD_READY_BIT = true ∧
          x.getLsbD I2C_STATUS_BUS_IDLE_BIT = decide (goal = .idle)) ∧
          s.core.stateReg = goal := by
  refine access_late dull (L := fun s => s.core.stateReg = goal) (fun t late start => ?_)
    (fun s _ there => ⟨⟨?_, ?_⟩, I2cRegs.ends_stays ends there (.inr rfl)⟩)
    fun x s r h => ⟨h.1, I2cRegs.ends_stays ends h.2 (.inl rfl)⟩
  · exact waits_bring dull (A := fun s => s.Bound goal) (B := fun s => s.core.stateReg = goal)
      (fun s bound => bound.step (.inl rfl))
      (fun s there => I2cRegs.ends_stays ends there (.inl rfl)) late start
  · exact I2cRegs.ready_bit.trans (I2cRegs.ends_ready ends there)
  · exact I2cRegs.idle_bit.trans (by rw [Core.busIdle, there])

/-- The driver waits for a command to end on the held bus. -/
lemma cmdReady_bound {goal : State} (ends : I2cRegs.Ends goal) :
    Triple (Late minDivisor a fun s => s.Bound goal ∨ s.core.stateReg = goal)
      (i2cStatusCmdReady (wiredMmio minDivisor W)) fun ready t =>
        ready = true ∧ Late minDivisor a (fun s => s.core.stateReg = goal) t :=
  cmdReady_triple ((status_bound dull ends).post fun _ _ h => ⟨h.2.2.1.1, h.1, h.2.1, h.2.2.2⟩)

lemma busIdle_bound {goal : State} (ends : I2cRegs.Ends goal) :
    Triple (Late minDivisor a fun s => s.core.stateReg = goal)
      (i2cBusIdle (wiredMmio minDivisor W)) fun idle t =>
        idle = decide (goal = .idle) ∧ Late minDivisor a (fun s => s.core.stateReg = goal) t :=
  busIdle_triple (((status_bound dull ends).pre fun _ h => ⟨h.1, h.2.1, .inr h.2.2⟩).post
    fun _ _ h => ⟨h.2.2.1.2, h.1, h.2.1, h.2.2.2⟩)

lemma waitCmdReady_bound : Triple
    (Late minDivisor a fun s => s.Bound .hold ∨ s.core.stateReg = .hold)
    (i2cPrivWaitCmdReady (wiredMmio minDivisor W)) fun ready t =>
      ready = true ∧ Held minDivisor a t := by
  refine pollUntil_answers (.bind_known (cmdReady_bound dull (.inr rfl)) ?_) 199999
  exact .pure fun _ held => ⟨true, rfl, rfl, held⟩

lemma cmdReady_held : Triple (Held minDivisor a) (i2cStatusCmdReady (wiredMmio minDivisor W))
    fun ready t => ready = true ∧ Held minDivisor a t :=
  (cmdReady_bound dull (.inr rfl)).pre fun _ held => ⟨held.1, held.2.1, .inr held.2.2⟩

lemma waitCmdReady_held : Triple (Held minDivisor a)
    (i2cPrivWaitCmdReady (wiredMmio minDivisor W)) fun ready t =>
      ready = true ∧ Held minDivisor a t :=
  (waitCmdReady_bound dull).pre fun _ held => ⟨held.1, held.2.1, .inr held.2.2⟩

lemma waitIdleReady_bound : Triple
    (Late minDivisor a fun s => s.Bound .idle ∨ s.core.stateReg = .idle)
    (i2cPrivWaitIdleReady (wiredMmio minDivisor W)) fun back _ => back = true := by
  refine (pollUntil_answers (Q := fun back _ => back = true)
    (.bind_known (cmdReady_bound dull (.inl rfl)) (.bind_known (busIdle_bound dull (.inl rfl)) ?_))
    199999)
  exact .pure fun _ _ => ⟨true, rfl, rfl⟩

/-- A command on the held bus, as the driver gives it. -/
lemma cmd_held {value : BitVec 32} {K : Bench I2cRegs Drive MmioReq → Prop}
    (write : Triple (Held minDivisor a)
      ((wiredMmio minDivisor W).write32 I2C_REG_CMD_OFFSET value) fun _ => K) :
    Triple (Held minDivisor a) (do
      if !(← i2cStatusCmdReady (wiredMmio minDivisor W)) then
        return true
      (wiredMmio minDivisor W).write32 I2C_REG_CMD_OFFSET value
      return false) fun refused t => refused = false ∧ K t := by
  refine .bind_known (cmdReady_held dull) ?_
  exact .bind write fun _ => .pure fun _ h => ⟨rfl, h⟩

lemma waitCmdCycle_held : Triple (Late minDivisor a fun s => s.Sending c ∨ s.Answers c)
    (i2cPrivWaitCmdCycle (wiredMmio minDivisor W)) fun done t =>
      done = true ∧ Late minDivisor a (fun s => s.Answers c) t := by
  refine pollUntil_answers (.bind (status_answers dull) fun x => ?_) 199999
  refine .assume (fun _ h => h.2.2.1) fun bits => ?_
  rw [and_mask x (by decide), and_mask x (by decide), bits.1, bits.2.1]
  exact .pure fun _ h => ⟨true, rfl, rfl, h.1, h.2.1, h.2.2.2⟩

omit dull in
lemma clear_held : Keeps (Held minDivisor a)
    (i2cPrivClearStatusSticky (wiredMmio minDivisor W)) := by
  have quiet : ∀ value, NoCommand (writeReq I2C_REG_STATUS_OFFSET value) := fun _ => rfl
  exact (access_held (quiet _)).returns

lemma writePhaseByte_held (data nackCode : BitVec 8) : Triple (Held minDivisor a)
    (i2cPrivWritePhaseByte (wiredMmio minDivisor W) data nackCode) fun status t =>
      status = I2C_TX_OK ∧ Held minDivisor a t := by
  have txdata : Keeps (Held minDivisor a) (i2cWriteTxdata (wiredMmio minDivisor W) data) := by
    have quiet : ∀ value, NoCommand (writeReq I2C_REG_TXDATA_OFFSET value) := fun _ => rfl
    exact (access_held (quiet _)).returns
  have write := write_byte minDivisor (c := WR_CMD) dull (i2cPackCmd I2C_CMD_WR false false) rfl
    rfl (.inl rfl)
  refine .bind_true (waitCmdReady_held dull) ?_
  refine .bind clear_held fun _ => .bind txdata fun _ => ?_
  refine .bind_false (cmd_held dull write) ?_
  refine .bind_true (waitCmdCycle_held dull) ?_
  rw [i2cAck, bind_assoc]
  refine .bind ((status_answers dull).pre fun _ h => ⟨h.1, h.2.1, .inr h.2.2⟩) fun x => ?_
  refine .assume (fun _ h => h.2.2.1.2.2.1 rfl) fun bits => ?_
  obtain ⟨valid, level⟩ := Device.ack_packs x
  rw [bits.1] at valid
  rw [bits.2] at level
  rw [pure_bind]
  refine .ite (fun no => absurd (valid.symm.trans no) Bool.noConfusion) fun _ =>
    .ite (fun no => absurd (level.symm.trans no) Bool.noConfusion) fun _ => ?_
  exact .pure fun t h => ⟨rfl, h.1, h.2.1, h.2.2.2.held⟩

lemma readPhaseByte_held (rdLast : Bool) (index : BitVec 8) (buffer : Memory) :
    Triple (Held minDivisor a)
      (i2cPrivReadPhaseByte (wiredMmio minDivisor W) rdLast (some index) buffer)
      fun result t => ∃ byte, result = (true, Function.update buffer index byte) ∧
        Held minDivisor a t := by
  have write := write_byte minDivisor (c := RD_CMD) dull (i2cPackCmd I2C_CMD_RD false rdLast)
    (by cases rdLast <;> rfl) (by cases rdLast <;> rfl) (.inr rfl)
  have valid : Triple (Late minDivisor a fun s => s.Answers RD_CMD)
      (i2cRdDataValid (wiredMmio minDivisor W)) fun valid t =>
        valid = true ∧ Held minDivisor a t := by
    refine .bind ((status_answers dull).pre fun _ h => ⟨h.1, h.2.1, .inr h.2.2⟩) fun x =>
      .pure fun t h => ?_
    rw [and_mask x (by decide), h.2.2.1.2.2.2 rfl]
    exact ⟨rfl, h.1, h.2.1, h.2.2.2.held⟩
  have rxdata : Keeps (Held minDivisor a) (i2cReadRxdata (wiredMmio minDivisor W)) := by
    have quiet : NoCommand (readReq I2C_REG_RXDATA_OFFSET) := rfl
    exact (access_held quiet).returns.returns
  refine .bind_true (waitCmdReady_held dull) ?_
  refine .bind clear_held fun _ => ?_
  refine .bind_false (cmd_held dull write) ?_
  refine .bind_true (waitCmdCycle_held dull) ?_
  refine .bind_true valid ?_
  refine .bind rxdata fun byte => ?_
  exact .pure fun t held => ⟨byte, rfl, held⟩

lemma turn_held : Triple (Held minDivisor a) (i2cTurn (wiredMmio minDivisor W))
    fun held t => held = true ∧ Held minDivisor a t := by
  have write := write_bound minDivisor dull (i2cPackCmd I2C_CMD_RESTART false false) .hold rfl
    (.inr rfl) fun s i held abort cmd code => by
      rw [Core.hold_takes held abort cmd, code]
      rfl
  refine .bind_true (waitCmdReady_held dull) ?_
  refine .bind clear_held fun _ => ?_
  refine .bind_false (cmd_held dull write) ?_
  refine .bind_true (waitCmdReady_bound dull) ?_
  refine .bind_false (busIdle_bound dull (.inr rfl)) ?_
  exact .pure fun _ held => ⟨rfl, held⟩

lemma stop_held : Triple (Held minDivisor a) (i2cTxBufStop (wiredMmio minDivisor W))
    fun code _ => code = I2C_TX_OK := by
  have write := write_bound minDivisor dull (i2cPackCmd I2C_CMD_STOP false false) .idle rfl
    (.inl rfl) fun s i held abort cmd code => by
      rw [Core.hold_takes held abort cmd, code]
      rfl
  refine .bind_true (waitCmdReady_held dull) ?_
  refine .bind clear_held fun _ => ?_
  refine .bind_false (cmd_held dull write) ?_
  refine .bind (waitIdleReady_bound dull) fun back => .assume (fun _ h => h) fun known => ?_
  rw [known]
  exact .ite (fun no => absurd no (by simp)) fun _ => .pure fun _ _ => rfl

/-- Everything the driver sends into the held bus succeeds. -/
lemma obliging_held : Obliging (wiredMmio minDivisor W) (fun _ => Held minDivisor a)
    fun _ _ => True where
  wr _ data nackCode := writePhaseByte_held dull data nackCode
  rd _ := readPhaseByte_held dull
  restart _ := turn_held dull
  stop _ := (stop_held dull).post fun _ _ ok => ⟨ok, trivial⟩

end Dull

end Driver

end ModularControl.I2c
