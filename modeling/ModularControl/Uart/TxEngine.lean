import ModularControl.Sync.Stream
import ModularControl.Uart.Frame

/-!
# The UART transmitter

`uart_tx_engine.sv`. A frame takes 160 ticks, 16 for each bit; `InFrame` says where in its frame the
engine is, and one lemma for a clock with a tick and one without carry it on.
-/

namespace ModularControl.Uart
open Sync

/-- `state_t` of the transmitter. -/
inductive TxState where
  | idle
  | start
  | data
  | stop
deriving DecidableEq, Repr

/-- The inputs of the transmitter in a cycle. -/
structure TxIn where
  baudX16Tick : Bool
  txInValid : Bool
  txInData : BitVec 8
deriving DecidableEq, Repr

/-- The registers of the transmitter. -/
structure TxEngine where
  currentState : TxState
  tickCounter : BitVec 4
  bitIdx : BitVec 3
  shiftReg : BitVec 8
deriving DecidableEq, Repr

namespace TxEngine

def reset : TxEngine where
  currentState := .idle
  tickCounter := 0
  bitIdx := 0
  shiftReg := 0

variable (s : TxEngine) (i : TxIn)

def txInReady : Bool := s.currentState = .idle
def txFire : Bool := i.txInValid && s.txInReady
def bitFire : Bool := i.baudX16Tick && s.tickCounter == 15

/-- The line, a function of the state. -/
def uartTx : Bool :=
  match s.currentState with
  | .idle => true
  | .start => false
  | .data => s.shiftReg.getLsbD 0
  | .stop => true

/-- The next-state logic. -/
def stateNext : TxState :=
  match s.currentState with
  | .idle => if s.txFire i then .start else .idle
  | .start => if s.bitFire i then .data else .start
  | .data => if s.bitFire i ∧ s.bitIdx = 7 then .stop else .data
  | .stop => if s.bitFire i then .idle else .stop

def tickCounterNext : BitVec 4 :=
  if s.currentState = .idle then 0
  else if i.baudX16Tick then (if s.tickCounter = 15 then 0 else s.tickCounter + 1)
  else s.tickCounter

def bitIdxNext : BitVec 3 :=
  if s.currentState = .idle ∨ s.currentState = .start ∨ s.currentState = .stop then 0
  else if s.currentState = .data ∧ s.bitFire i ∧ s.bitIdx ≠ 7 then s.bitIdx + 1
  else s.bitIdx

def shiftRegNext : BitVec 8 :=
  if s.currentState = .idle ∧ s.txFire i then i.txInData
  else if s.currentState = .data ∧ s.bitFire i then s.shiftReg >>> 1
  else s.shiftReg

def step : TxEngine where
  currentState := s.stateNext i
  tickCounter := s.tickCounterNext i
  bitIdx := s.bitIdxNext i
  shiftReg := s.shiftRegNext i

/-- The engine is `c` ticks into the frame of a byte. -/
structure InFrame (b : BitVec 8) (c : Nat) (s : TxEngine) : Prop where
  state : s.currentState = if c < 16 then .start else if c < 144 then .data else .stop
  tick : s.tickCounter.toNat = c % 16
  bit : 16 ≤ c → c < 144 → s.bitIdx.toNat = c / 16 - 1
  shift : c < 144 → s.shiftReg = b >>> (c / 16 - 1)

variable {s : TxEngine} {i : TxIn} {b : BitVec 8} {c : Nat}

/-- The line shows the bit of the frame. -/
lemma InFrame.line (fr : s.InFrame b c) (lt : c < 160) : s.uartTx = frameLevel b (c / 16) := by
  rw [uartTx, fr.state]
  by_cases start : c < 16
  · rw [if_pos start, Nat.div_eq_of_lt start, frameLevel_start]
  · rw [if_neg start]
    by_cases data : c < 144
    · have k : c / 16 = c / 16 - 1 + 1 := by omega
      rw [if_pos data, k, frameLevel_data b (by omega), fr.shift data]
      simp
    · rw [if_neg data, frameLevel_stop b (by omega)]

lemma InFrame.busy (fr : s.InFrame b c) : s.currentState ≠ .idle := by
  rw [fr.state]
  split_ifs <;> simp

/-- Nothing is accepted in a frame. -/
lemma InFrame.noFire (fr : s.InFrame b c) (i : TxIn) : s.txFire i = false := by
  simp [txFire, txInReady, fr.busy]

lemma InFrame.bitFire_eq (fr : s.InFrame b c) (i : TxIn) :
    s.bitFire i = (i.baudX16Tick && decide (c % 16 = 15)) :=
  tickCounter_at i.baudX16Tick 15 fr.tick

/-- The tick counter in a frame counts the ticks modulo 16. -/
lemma InFrame.counter (fr : s.InFrame b c) :
    (s.step i).tickCounter.toNat = (c + i.baudX16Tick.toNat) % 16 := by
  simp only [step, tickCounterNext, fr.busy, if_false]
  exact tickCounter_next i.baudX16Tick fr.tick

/-- A clock without a tick. -/
lemma InFrame.wait (fr : s.InFrame b c) (noTick : i.baudX16Tick = false) :
    (s.step i).InFrame b c := by
  have noBit : s.bitFire i = false := by rw [bitFire, noTick, Bool.false_and]
  have counter := fr.counter (i := i)
  rw [noTick] at counter
  refine ⟨?_, counter, fun ge lt => ?_, fun lt => ?_⟩
  · rw [← fr.state]
    cases h : s.currentState <;> simp [step, stateNext, noBit, h]
    exact absurd h fr.busy
  · have data : s.currentState = .data := by rw [fr.state, if_neg (by omega), if_pos lt]
    simpa [step, bitIdxNext, noBit, data] using fr.bit ge lt
  · simpa [step, shiftRegNext, noBit, fr.busy] using fr.shift lt

/-- A clock with a tick that is not the last of the frame. -/
lemma InFrame.advance (fr : s.InFrame b c) (tick : i.baudX16Tick = true) (lt : c + 1 < 160) :
    (s.step i).InFrame b (c + 1) := by
  have bitFire := fr.bitFire_eq i
  have counter := fr.counter (i := i)
  have state := fr.state
  rw [tick] at counter
  rw [tick, Bool.true_and] at bitFire
  by_cases start : c < 16
  · rw [if_pos start] at state
    have shift := fr.shift (by omega)
    refine ⟨?_, counter, fun ge lt => ?_, fun lt => ?_⟩
    · by_cases last : c = 15
      · simp [step, stateNext, state, bitFire, last]
      · have inside : ¬ c % 16 = 15 := by omega
        simp [step, stateNext, state, bitFire, inside, show c + 1 < 16 by omega]
    · rw [show c + 1 = 16 by omega]
      simp [step, bitIdxNext, state]
    · rw [show (c + 1) / 16 - 1 = c / 16 - 1 by omega, ← shift]
      simp [step, shiftRegNext, state]
  · rw [if_neg start] at state
    by_cases data : c < 144
    · rw [if_pos data] at state
      have bit := fr.bit (by omega) data
      have shift := fr.shift data
      have top := bitIdx_last bit
      refine ⟨?_, counter, fun ge lt => ?_, fun lt => ?_⟩
      · simp only [step, stateNext, state, bitFire, top, decide_eq_true_eq]
        split_ifs <;> first | rfl | omega
      · by_cases last : c % 16 = 15
        · have room : ¬ s.bitIdx = 7 := fun full => by
            have := top.mp full
            omega
          have next : (s.step i).bitIdx = s.bitIdx + 1 := by
            simp [step, bitIdxNext, state, bitFire, last]
            exact room
          rw [next]
          exact bitIdx_next bit (by omega) last lt
        · have next : (s.step i).bitIdx = s.bitIdx := by
            simp [step, bitIdxNext, state, bitFire, last]
          rw [next, bit]
          omega
      · by_cases last : c % 16 = 15
        · rw [show (c + 1) / 16 - 1 = c / 16 - 1 + 1 by omega]
          simp [step, shiftRegNext, state, bitFire, last, shift, BitVec.shiftRight_add]
        · rw [show (c + 1) / 16 - 1 = c / 16 - 1 by omega]
          simp [step, shiftRegNext, state, bitFire, last, shift]
    · rw [if_neg data] at state
      have inside : ¬ c % 16 = 15 := by omega
      refine ⟨?_, counter, fun ge lt => by omega, fun lt => by omega⟩
      simp [step, stateNext, state, bitFire, inside, show ¬ c + 1 < 16 by omega,
        show ¬ c + 1 < 144 by omega]

/-- The last tick of a frame. -/
lemma InFrame.last (fr : s.InFrame b 159) (tick : i.baudX16Tick = true) :
    (s.step i).currentState = .idle := by
  have bitFire := fr.bitFire_eq i
  have stop : s.currentState = .stop := fr.state
  simp [step, stateNext, bitFire, tick, stop]

/-- An accepted byte begins its frame. -/
lemma inFrame_of_fire (fire : s.txFire i = true) : (s.step i).InFrame i.txInData 0 := by
  have idle : s.currentState = .idle := by
    simp only [txFire, txInReady, Bool.and_eq_true, decide_eq_true_eq] at fire
    exact fire.2
  refine ⟨?_, ?_, fun ge => ?_, fun _ => ?_⟩
  · simp [step, stateNext, idle, fire]
  · simp [step, tickCounterNext, idle]
  · omega
  · simp [step, shiftRegNext, idle, fire]

lemma idle_of_noFire (idle : s.currentState = .idle) (noFire : s.txFire i = false) :
    (s.step i).currentState = .idle := by
  simp [step, stateNext, idle, noFire]

end TxEngine

/-- The transmitter as a machine that shows the bytes it accepts. -/
def uartTxEngine : Machine TxEngine TxIn (Option (BitVec 8)) where
  init := .reset
  step s i := s.step i
  out s i := if s.txFire i then some i.txInData else none

section Run

variable {f : Nat → TxIn} {tick : Nat → Bool} {a t : Nat} {b : BitVec 8}

lemma tx_accepts_of_fire (fire : (uartTxEngine.atCycle f t).txFire (f t) = true) :
    uartTxEngine.outAt f t = some (f t).txInData :=
  if_pos fire

/-- A frame that begins in cycle `a` goes on for 160 ticks. -/
lemma tx_frame (ticks : ∀ t, (f t).baudX16Tick = tick t)
    (begins : (uartTxEngine.atCycle f a).InFrame b 0) (ge : a ≤ t)
    (lt : count tick t < count tick a + 160) :
    (uartTxEngine.atCycle f t).InFrame b (count tick t - count tick a) := by
  induction ge with
  | refl => simpa using begins
  | @step t ge ih =>
    rw [count_succ] at lt
    have before := ih (by omega)
    have mono := count_mono tick ge
    rw [Machine.atCycle_succ, count_succ]
    cases h : tick t with
    | false => exact before.wait ((ticks t).trans h)
    | true =>
      rw [h, Bool.toNat_true] at lt
      rw [Bool.toNat_true, Nat.sub_add_comm mono]
      exact before.advance ((ticks t).trans h) (by omega)

/-- With its last tick the engine is idle again. -/
lemma tx_frame_end (ticks : ∀ t, (f t).baudX16Tick = tick t)
    (begins : (uartTxEngine.atCycle f a).InFrame b 0) (ge : a ≤ t) (high : tick t = true)
    (last : count tick t = count tick a + 159) :
    (uartTxEngine.atCycle f (t + 1)).currentState = .idle := by
  have before := tx_frame ticks begins ge (by omega)
  rw [last, Nat.add_sub_cancel_left] at before
  rw [Machine.atCycle_succ]
  exact before.last ((ticks t).trans high)

/-- An idle engine stays idle until it accepts a byte. -/
lemma tx_idle (idle : (uartTxEngine.atCycle f a).currentState = .idle) (ge : a ≤ t)
    (none : ∀ u, a ≤ u → u < t → uartTxEngine.outAt f u = none) :
    (uartTxEngine.atCycle f t).currentState = .idle := by
  induction ge with
  | refl => exact idle
  | @step t ge ih =>
    have before := ih fun u ge lt => none u ge (Nat.lt_succ_of_lt lt)
    have now := none t ge (Nat.lt_succ_self t)
    rw [Machine.atCycle_succ]
    apply TxEngine.idle_of_noFire before
    by_contra fire
    rw [Bool.not_eq_false] at fire
    rw [tx_accepts_of_fire fire] at now
    cases now

end Run

end ModularControl.Uart
