import ModularControl.Sync.Counter
import ModularControl.Sync.Machine

/-!
# The I2C master core

`i2c_master_core.sv`: a machine that takes one byte command at a time and walks the bus through the
four quarters of each bit, behind a synchroniser and a filter on both lines. The widths are the
defaults (`DIVISOR_W = 16`, `BYTE_W = 8`, `CMD_W = 3`, `HIGH_WAIT_TIMEOUT_W = 16`); the two value
parameters stay parameters.
-/

namespace ModularControl.I2c
open Sync

/-- The value parameters of the core. -/
structure Params where
  minDivisor : BitVec 16 := 1
  highWaitTimeoutClks : BitVec 16 := 4095
deriving DecidableEq, Repr

/-- `state_t`. -/
inductive State where
  | idle
  | start1
  | start2
  | hold
  | restart
  | stop1
  | stop2
  | data1
  | data2
  | data3
  | data4
  | dataEnd
  | abort1
  | abort2
deriving DecidableEq, Repr

def START_CMD : BitVec 3 := 0
def WR_CMD : BitVec 3 := 1
def RD_CMD : BitVec 3 := 2
def STOP_CMD : BitVec 3 := 3
def RESTART_CMD : BitVec 3 := 4

/-- The released-high phases, in which `high_phase_ready` asks for a qualified SCL. -/
def State.waitsHigh : State → Bool
  | start1 | restart | stop1 | stop2 | data2 | data3 => true
  | _ => false

/-- The phases timed by `half_cnt_wide`. -/
def State.half : State → Bool
  | start1 | restart | stop1 | stop2 | abort1 | abort2 => true
  | _ => false

/-- The phases timed by `quarter_cnt`. -/
def State.quarter : State → Bool
  | start2 | data1 | data2 | data3 | data4 | dataEnd => true
  | _ => false

/-- `data_phase`. -/
def State.dataPhase : State → Bool
  | data1 | data2 | data3 | data4 => true
  | _ => false

/-- The phase after a timed one, `last` being whether the byte is over. -/
def State.follow (last : Bool) : State → State
  | start1 => start2
  | start2 | dataEnd => hold
  | restart => start1
  | stop1 => stop2
  | stop2 | abort2 => idle
  | data1 => data2
  | data2 => data3
  | data3 => data4
  | data4 => if last then dataEnd else data1
  | abort1 => abort2
  | idle => idle
  | hold => hold

/-- The inputs of the core in a cycle. -/
structure CoreIn where
  divisor : BitVec 16 := 0
  txDataI : BitVec 8 := 0
  rdLastI : Bool := false
  sdaIn : Bool := true
  sclIn : Bool := true
  cmd : BitVec 3 := 0
  cmdValidI : Bool := false
  abortI : Bool := false
deriving DecidableEq, Repr

/-- The registers of the core. -/
structure Core where
  stateReg : State
  tickCntReg : BitVec 16
  divisorReg : BitVec 16
  txReg : BitVec 9
  rxReg : BitVec 9
  cmdReg : BitVec 3
  bitIdxReg : BitVec 4
  sdaOutReg : Bool
  sclOutReg : Bool
  sclMetaReg : Bool
  sclSyncReg : Bool
  sclHist0 : Bool
  sclHist1 : Bool
  sclHist2 : Bool
  sdaMetaReg : Bool
  sdaSyncReg : Bool
  sdaHist0 : Bool
  sdaHist1 : Bool
  sdaHist2 : Bool
  sdaFiltPrevReg : Bool
  highWaitCntReg : BitVec 16
  faultAbortSeenReg : Bool
  faultSdaUnstableReg : Bool
  faultSclHighTimeoutReg : Bool
deriving DecidableEq

def majority3 (a b c : Bool) : Bool := a && b || a && c || b && c

namespace Core

variable (p : Params)

/-- The core when reset is released. -/
def reset : Core where
  stateReg := .idle
  tickCntReg := 0
  divisorReg := p.minDivisor
  txReg := 0
  rxReg := 0
  cmdReg := START_CMD
  bitIdxReg := 0
  sdaOutReg := true
  sclOutReg := true
  sclMetaReg := true
  sclSyncReg := true
  sclHist0 := true
  sclHist1 := true
  sclHist2 := true
  sdaMetaReg := true
  sdaSyncReg := true
  sdaHist0 := true
  sdaHist1 := true
  sdaHist2 := true
  sdaFiltPrevReg := true
  highWaitCntReg := 0
  faultAbortSeenReg := false
  faultSdaUnstableReg := false
  faultSclHighTimeoutReg := false

variable (s : Core) (i : CoreIn)

def idleStartFire : Bool := s.stateReg = .idle ∧ i.cmdValidI ∧ i.cmd = START_CMD
def holdWrFire : Bool := s.stateReg = .hold ∧ i.cmdValidI ∧ i.cmd = WR_CMD
def holdRdFire : Bool := s.stateReg = .hold ∧ i.cmdValidI ∧ i.cmd = RD_CMD
def holdStopFire : Bool := s.stateReg = .hold ∧ i.cmdValidI ∧ i.cmd = STOP_CMD
def holdRestartFire : Bool := s.stateReg = .hold ∧ i.cmdValidI ∧ i.cmd = RESTART_CMD
def holdCmdFire : Bool :=
  s.holdWrFire i || s.holdRdFire i || s.holdStopFire i || s.holdRestartFire i
def cmdFire : Bool := s.idleStartFire i || s.holdCmdFire i

/-- `cmd_illegal_o`. -/
def cmdIllegal : Bool :=
  (s.stateReg = .idle ∧ i.cmdValidI ∧ i.cmd ≠ START_CMD) ∨
    (s.stateReg = .hold ∧ i.cmdValidI ∧ i.cmd ≠ WR_CMD ∧ i.cmd ≠ RD_CMD ∧ i.cmd ≠ STOP_CMD ∧
      i.cmd ≠ RESTART_CMD)

def divisorClamped : BitVec 16 := if i.divisor < p.minDivisor then p.minDivisor else i.divisor

def quarterCnt : BitVec 16 := s.divisorReg

/-- `half_cnt_wide[DIVISOR_W-1:0]`: the comparisons drop the top bit of the doubled divisor. -/
def halfCnt : BitVec 16 := (s.divisorReg.setWidth 17 <<< 1).setWidth 16

def sclHighQual : Bool := s.sclHist2 && s.sclHist1 && s.sclHist0
def sdaFilt : Bool := majority3 s.sdaHist2 s.sdaHist1 s.sdaHist0

def highPhaseReady : Bool := if s.stateReg.waitsHigh then s.sclHighQual else true
def waitingForHighPhase : Bool := s.stateReg.waitsHigh && !s.highPhaseReady

def sclHighTimeoutEvent : Bool :=
  s.waitingForHighPhase && s.highWaitCntReg == p.highWaitTimeoutClks

def protocolFaultEvent : Bool :=
  s.stateReg = .data3 ∧ s.sclHighQual ∧ s.sdaFilt ≠ s.sdaFiltPrevReg

def abortFire : Bool :=
  (i.abortI || s.protocolFaultEvent || s.sclHighTimeoutEvent p) && s.stateReg != .idle

/-- The current phase has reached its time, and SCL is qualified high where the phase asks for it:
    the condition under which a timed phase is left and its tick counter starts again. -/
def phaseEnd : Bool :=
  (if s.stateReg.half then s.tickCntReg == s.halfCnt else s.tickCntReg == s.quarterCnt) &&
    s.highPhaseReady

/-- The next-state logic. -/
def stateNext : State :=
  if s.abortFire p i then .abort1
  else
    match s.stateReg with
    | .idle => if s.idleStartFire i then .start1 else .idle
    | .start1 => if s.phaseEnd then .start2 else .start1
    | .start2 => if s.phaseEnd then .hold else .start2
    | .hold =>
      if s.holdRestartFire i then .restart
      else if s.holdStopFire i then .stop1
      else if s.holdWrFire i || s.holdRdFire i then .data1
      else .hold
    | .restart => if s.phaseEnd then .start1 else .restart
    | .stop1 => if s.phaseEnd then .stop2 else .stop1
    | .stop2 => if s.phaseEnd then .idle else .stop2
    | .data1 => if s.phaseEnd then .data2 else .data1
    | .data2 => if s.phaseEnd then .data3 else .data2
    | .data3 => if s.phaseEnd then .data4 else .data3
    | .data4 => if s.phaseEnd then (if s.bitIdxReg = 8 then .dataEnd else .data1) else .data4
    | .dataEnd => if s.phaseEnd then .hold else .dataEnd
    | .abort1 => if s.phaseEnd then .abort2 else .abort1
    | .abort2 => if s.phaseEnd then .idle else .abort2

def tickCntNext : BitVec 16 :=
  if (s.stateReg.half || s.stateReg.quarter) && s.phaseEnd then 0
  else if s.cmdFire i || s.abortFire p i then 0
  else s.tickCntReg + 1

/-- The end of a bit cell that is not the last of its byte. -/
def nextBit : Bool := s.stateReg = .data4 ∧ s.tickCntReg = s.quarterCnt ∧ s.bitIdxReg < 8

def bitIdxNext : BitVec 4 :=
  if s.nextBit then s.bitIdxReg + 1
  else if s.holdWrFire i || s.holdRdFire i then 0 else s.bitIdxReg

def txNext : BitVec 9 :=
  if s.nextBit then s.txReg.shiftConcat false
  else if s.holdRdFire i then (0 : BitVec 8).concat i.rdLastI
  else if s.holdWrFire i then i.txDataI.concat true else s.txReg

def sampleSdaNow : Bool :=
  s.stateReg = .data3 ∧ s.tickCntReg = s.quarterCnt ∧ s.highPhaseReady

def rxNext : BitVec 9 :=
  if s.sampleSdaNow then s.rxReg.shiftConcat s.sdaFilt
  else if s.holdWrFire i || s.holdRdFire i then 0 else s.rxReg

def sdaOutNext : Bool :=
  match s.stateReg with
  | .start1 | .start2 | .hold | .dataEnd | .stop1 | .abort1 => false
  | .data1 | .data2 | .data3 | .data4 => s.txReg.getLsbD 8
  | _ => true

def sclOutNext : Bool :=
  match s.stateReg with
  | .start2 | .hold | .data1 | .data4 | .dataEnd | .abort1 => false
  | _ => true

def highWaitCntNext : BitVec 16 :=
  if s.abortFire p i then 0
  else if s.waitingForHighPhase then
    if s.highWaitCntReg ≠ p.highWaitTimeoutClks then s.highWaitCntReg + 1 else s.highWaitCntReg
  else 0

/-- The sequential block. The fault registers are set and never cleared. -/
def step : Core where
  stateReg := s.stateNext p i
  tickCntReg := s.tickCntNext p i
  divisorReg := if s.idleStartFire i then divisorClamped p i else s.divisorReg
  txReg := s.txNext i
  rxReg := s.rxNext i
  cmdReg := if s.cmdFire i then i.cmd else s.cmdReg
  bitIdxReg := s.bitIdxNext i
  sdaOutReg := s.sdaOutNext
  sclOutReg := s.sclOutNext
  sclMetaReg := i.sclIn
  sclSyncReg := s.sclMetaReg
  sclHist0 := s.sclSyncReg
  sclHist1 := s.sclHist0
  sclHist2 := s.sclHist1
  sdaMetaReg := i.sdaIn
  sdaSyncReg := s.sdaMetaReg
  sdaHist0 := s.sdaSyncReg
  sdaHist1 := s.sdaHist0
  sdaHist2 := s.sdaHist1
  sdaFiltPrevReg := s.sdaFilt
  highWaitCntReg := s.highWaitCntNext p i
  faultAbortSeenReg := s.abortFire p i || s.faultAbortSeenReg
  faultSdaUnstableReg := s.protocolFaultEvent || s.faultSdaUnstableReg
  faultSclHighTimeoutReg := s.sclHighTimeoutEvent p || s.faultSclHighTimeoutReg

def cmdReady : Bool := s.stateReg = .idle ∨ s.stateReg = .hold
def busIdle : Bool := s.stateReg = .idle
def doneTick : Bool := s.stateReg = .dataEnd ∧ s.tickCntReg = s.quarterCnt
def ackValid : Bool := s.doneTick && s.cmdReg == WR_CMD
def rdDataValid : Bool := s.doneTick && s.cmdReg == RD_CMD
def rxData : BitVec 8 := s.rxReg.extractLsb' 1 8
def ack : Bool := s.rxReg.getLsbD 0

/-- `receiving_f`, driven out as `master_receiving_o`. -/
def masterReceiving : Bool :=
  s.stateReg.dataPhase &&
    ((s.cmdReg == RD_CMD && s.bitIdxReg < 8) || (s.cmdReg == WR_CMD && s.bitIdxReg == 8))

/-- The level the master drives on SDA, released while it receives. -/
def sdaDriven : Bool := s.masterReceiving || s.sdaOutReg

variable {p : Params} {s : Core} {i : CoreIn}

/-- Outside the released-high phases the core never waits for SCL. -/
lemma highPhaseReady_of_not_waits (h : s.stateReg.waitsHigh = false) : s.highPhaseReady = true := by
  rw [highPhaseReady, h, if_neg Bool.false_ne_true]

lemma highPhaseReady_of_waits (h : s.stateReg.waitsHigh = true) :
    s.highPhaseReady = s.sclHighQual := by
  rw [highPhaseReady, h, if_pos rfl]

/-- Without an abort a timed phase goes on until its end. -/
lemma phase_stays {st : State} (h : s.stateReg = st) (timed : (st.half || st.quarter) = true)
    (noAbort : s.abortFire p i = false) (noEnd : s.phaseEnd = false) :
    (s.step p i).stateReg = st := by
  cases st <;> simp [State.half, State.quarter] at timed <;>
    simp [step, stateNext, noAbort, h, noEnd]

/-- At its end comes the phase that follows. -/
lemma phase_follows {st : State} (h : s.stateReg = st) (timed : (st.half || st.quarter) = true)
    (noAbort : s.abortFire p i = false) (ended : s.phaseEnd = true) :
    (s.step p i).stateReg = st.follow (s.bitIdxReg = 8) := by
  cases st <;> simp [State.half, State.quarter] at timed <;>
    simp [step, stateNext, State.follow, noAbort, h, ended]

/-- The second and third quarter are not the last of their bit cell. -/
lemma cell_goes_on (h : s.stateReg = .data2 ∨ s.stateReg = .data3)
    (noAbort : s.abortFire p i = false) : (s.step p i).stateReg.dataPhase = true := by
  cases hp : s.phaseEnd with
  | false => obtain h | h := h <;> rw [phase_stays h rfl noAbort hp] <;> rfl
  | true => obtain h | h := h <;> rw [phase_follows h rfl noAbort hp] <;> rfl

/-- Commands are taken outside the timed phases only. -/
lemma noCmd_of_timed (timed : (s.stateReg.half || s.stateReg.quarter) = true) :
    s.cmdFire i = false := by
  cases h : s.stateReg <;> simp [State.half, State.quarter, h] at timed <;>
    simp [cmdFire, idleStartFire, holdCmdFire, holdWrFire, holdRdFire, holdStopFire,
      holdRestartFire, h]

/-- Without an abort the tick counter of a timed phase starts again at its end and counts on
    otherwise. -/
lemma tick_step (timed : (s.stateReg.half || s.stateReg.quarter) = true)
    (noAbort : s.abortFire p i = false) :
    (s.step p i).tickCntReg = if s.phaseEnd then 0 else s.tickCntReg + 1 := by
  simp only [step, tickCntNext, timed, noAbort, noCmd_of_timed timed, Bool.true_and,
    Bool.or_self, Bool.false_eq_true, if_false]

/-- The divisor is latched by a START only. -/
lemma divisor_kept (timed : (s.stateReg.half || s.stateReg.quarter) = true) :
    (s.step p i).divisorReg = s.divisorReg := by
  have noCmd := noCmd_of_timed (i := i) timed
  rw [cmdFire, Bool.or_eq_false_iff] at noCmd
  simp [step, noCmd.1]

/-- In a bit cell no command is taken, so that a byte stays as it is until the cell ends. -/
lemma bit_kept (data : s.stateReg.dataPhase = true) (stay : s.nextBit = false) :
    (s.step p i).txReg = s.txReg ∧ (s.step p i).bitIdxReg = s.bitIdxReg ∧
      (s.step p i).cmdReg = s.cmdReg := by
  cases h : s.stateReg <;> simp [h, State.dataPhase] at data <;>
    simp [step, txNext, bitIdxNext, stay, holdWrFire, holdRdFire, cmdFire, idleStartFire,
      holdCmdFire, holdStopFire, holdRestartFire, h]

/-- At the end of a cell the byte moves on by one bit. -/
lemma bit_next (next : s.nextBit = true) :
    s.stateReg = .data4 ∧ s.bitIdxReg < 8 ∧ (s.step p i).txReg = s.txReg.shiftConcat false ∧
      (s.step p i).bitIdxReg = s.bitIdxReg + 1 ∧ (s.step p i).cmdReg = s.cmdReg := by
  have n := next
  simp only [nextBit, decide_eq_true_eq] at n
  obtain ⟨h, -, lt⟩ := n
  refine ⟨h, lt, ?_⟩
  simp [step, txNext, bitIdxNext, next, cmdFire, idleStartFire, holdCmdFire, holdWrFire, holdRdFire,
    holdStopFire, holdRestartFire, h]

/-- A cell leaves its last quarter when the quarter's time is up. -/
lemma phaseEnd_data4 (h : s.stateReg = .data4) : s.phaseEnd = (s.tickCntReg == s.divisorReg) := by
  simp [phaseEnd, highPhaseReady, quarterCnt, State.half, State.waitsHigh, h]

/-- The last quarter ends the byte with its ninth bit, and begins another cell before. -/
lemma data4_follows (h : s.stateReg = .data4) (noAbort : s.abortFire p i = false)
    (hp : s.phaseEnd = true) :
    s.bitIdxReg = 8 ∧ (s.step p i).stateReg = .dataEnd ∨
      s.bitIdxReg ≠ 8 ∧ (s.step p i).stateReg = .data1 := by
  have next := phase_follows h rfl noAbort hp
  by_cases last : s.bitIdxReg = 8
  · rw [last] at next
    exact .inl ⟨last, next⟩
  · rw [decide_eq_false last] at next
    exact .inr ⟨last, next⟩

/-- A quarter that goes on does not end the cell. -/
lemma nextBit_of_goes_on (noEnd : s.phaseEnd = false) : s.nextBit = false := by
  cases hn : s.nextBit with
  | false => rfl
  | true =>
    simp only [nextBit, decide_eq_true_eq] at hn
    rw [phaseEnd_data4 hn.1, beq_eq_false_iff_ne] at noEnd
    exact absurd hn.2.1 noEnd

lemma nextBit_data4 (h : s.stateReg = .data4) (hp : s.phaseEnd = true) :
    s.nextBit = decide (s.bitIdxReg < 8) := by
  rw [phaseEnd_data4 h, beq_iff_eq] at hp
  simp [nextBit, quarterCnt, h, hp]

/-- Inside a bit cell the output shows the bit at the top. -/
lemma sda_shown (data : s.stateReg.dataPhase = true) (stay : s.nextBit = false) :
    (s.step p i).sdaOutReg = (s.step p i).txReg.getLsbD 8 := by
  rw [(bit_kept data stay).1]
  cases h : s.stateReg <;> simp [h, State.dataPhase] at data <;> simp [step, sdaOutNext, h]

/-- The driven level stays inside a bit cell. -/
lemma driven_kept (data : s.stateReg.dataPhase = true) (stay : s.nextBit = false)
    (sda : s.sdaOutReg = s.txReg.getLsbD 8) (data' : (s.step p i).stateReg.dataPhase = true) :
    (s.step p i).sdaDriven = s.sdaDriven := by
  obtain ⟨tx, bit, cmd⟩ := bit_kept (p := p) (i := i) data stay
  have out : (s.step p i).sdaOutReg = s.sdaOutReg := by rw [sda_shown data stay, tx, sda]
  rw [sdaDriven, sdaDriven, masterReceiving, masterReceiving, bit, cmd, out, data, data']

lemma bitIdx_succ {b : BitVec 4} (lt : b < 8) : (b + 1).toNat = b.toNat + 1 := by
  rw [BitVec.lt_def] at lt
  exact Sync.toNat_succ (Nat.lt_of_lt_of_le (Nat.succ_lt_succ lt) (by decide))

/-- A wait that is not aborted is counted on, below its limit. -/
lemma highWait_counted (waiting : s.waitingForHighPhase = true) (noAbort : s.abortFire p i = false)
    (lt : s.highWaitCntReg.toNat < p.highWaitTimeoutClks.toNat) :
    (s.step p i).highWaitCntReg.toNat = s.highWaitCntReg.toNat + 1 := by
  have ne : s.highWaitCntReg ≠ p.highWaitTimeoutClks := by
    intro full
    rw [full] at lt
    exact Nat.lt_irrefl _ lt
  have next : (s.step p i).highWaitCntReg = s.highWaitCntReg + 1 := by
    show s.highWaitCntNext p i = _
    rw [highWaitCntNext, noAbort, waiting, if_neg Bool.false_ne_true, if_pos rfl, if_pos ne]
  rw [next]
  exact Sync.toNat_succ (Nat.lt_of_le_of_lt lt p.highWaitTimeoutClks.isLt)

/-- Everything else clears the counter. -/
lemma highWait_cleared (over_ : s.waitingForHighPhase = false ∨ s.abortFire p i = true) :
    (s.step p i).highWaitCntReg = 0 := by
  show s.highWaitCntNext p i = 0
  rw [highWaitCntNext]
  obtain none_ | fire := over_
  · rw [none_, if_neg Bool.false_ne_true, ite_self]
  · rw [fire, if_pos rfl]

end Core

/-- The core on its own, its bus inputs and commands being arbitrary. -/
def core (p : Params) : Machine Core CoreIn Core where
  init := .reset p
  step s i := s.step p i
  out s _ := s

/-- A cycle without a command. -/
def pause : CoreIn := {}

/-- A cycle with a command, and the byte to send if it is a WR. -/
def command (c : BitVec 3) (data : BitVec 8) : CoreIn :=
  { divisor := 1, txDataI := data, cmd := c, cmdValidI := true }

/-- The inputs `is` with the two lines where the master itself drives them: a bus without delay and
    without a slave. -/
def idealBus (p : Params) : Core → List CoreIn → List CoreIn
  | _, [] => []
  | s, i :: is =>
    let j := { i with sclIn := s.sclOutReg, sdaIn := s.sdaDriven }
    j :: idealBus p (s.step p j) is

end ModularControl.I2c
