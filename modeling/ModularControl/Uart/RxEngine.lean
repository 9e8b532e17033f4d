import ModularControl.Sync.Counter
import ModularControl.Sync.Stream
import ModularControl.Uart.Frame

/-!
# The UART receiver

`uart_rx_engine.sv`. The receiver leaves `S_IDLE` in the clock in which it sees the line low behind
its synchroniser, takes one sample in the middle of each 16 ticks, and is idle again two clocks
after the tick that ends the stop bit.
-/

namespace ModularControl.Uart
open Sync

/-- `state_t` of the receiver. -/
inductive RxState where
  | idle
  | start
  | data
  | stop
  | hold
deriving DecidableEq, Repr

/-- The inputs of the receiver in a cycle. -/
structure RxEngineIn where
  baudX16Tick : Bool
  uartRx : Bool
  rxOutReady : Bool
deriving DecidableEq, Repr

/-- The registers of the receiver. -/
structure RxEngine where
  uartRxFf1 : Bool
  uartRxFf2 : Bool
  currentState : RxState
  tickCounter : BitVec 4
  bitIndex : BitVec 3
  shiftReg : BitVec 8
  outputBuffer : BitVec 8
  outputValid : Bool
  startValid : Bool
deriving DecidableEq, Repr

/-- `v[k] = x`. -/
def setBit (v : BitVec 8) (k : BitVec 3) (x : Bool) : BitVec 8 :=
  if x then v ||| BitVec.twoPow 8 k.toNat else v &&& ~~~BitVec.twoPow 8 k.toNat

lemma getLsbD_setBit (v : BitVec 8) (k : BitVec 3) (x : Bool) {j : Nat} (lt : j < 8) :
    (setBit v k x).getLsbD j = if k.toNat = j then x else v.getLsbD j := by
  by_cases e : k.toNat = j
  · cases x <;> simp [setBit, e, lt]
  · have ne : j ≠ k.toNat := Ne.symm e
    cases x <;> simp [setBit, e, ne, lt]

namespace RxEngine

def reset : RxEngine where
  uartRxFf1 := true
  uartRxFf2 := true
  currentState := .idle
  tickCounter := 0
  bitIndex := 0
  shiftReg := 0
  outputBuffer := 0
  outputValid := false
  startValid := false

variable (s : RxEngine) (i : RxEngineIn)

/-- `uart_rx_sync`. -/
def uartRxSync : Bool := s.uartRxFf2

def sampleFire : Bool := i.baudX16Tick && s.tickCounter == 7
def bitEndFire : Bool := i.baudX16Tick && s.tickCounter == 15
def rxFire : Bool := s.outputValid && i.rxOutReady

/-- The next-state logic. -/
def stateNext : RxState :=
  match s.currentState with
  | .idle => if s.outputValid then .hold else if s.uartRxSync = false then .start else .idle
  | .start => if s.bitEndFire i then (if s.startValid then .data else .idle) else .start
  | .data => if s.bitIndex = 7 ∧ s.bitEndFire i then .stop else .data
  | .stop => if s.bitEndFire i then .hold else .stop
  | .hold => if s.rxFire i then .idle else .hold

def tickCounterNext : BitVec 4 :=
  if s.currentState = .idle then 0
  else if i.baudX16Tick then (if s.tickCounter = 15 then 0 else s.tickCounter + 1)
  else s.tickCounter

def bitIndexNext : BitVec 3 :=
  if s.currentState ≠ .data then 0
  else if s.bitEndFire i ∧ s.bitIndex ≠ 7 then s.bitIndex + 1
  else s.bitIndex

def shiftRegNext : BitVec 8 :=
  if s.currentState = .idle then 0
  else if s.currentState = .data ∧ s.sampleFire i then setBit s.shiftReg s.bitIndex s.uartRxSync
  else s.shiftReg

def outputBufferNext : BitVec 8 :=
  if s.currentState = .stop ∧ s.bitEndFire i then s.shiftReg else s.outputBuffer

def outputValidNext : Bool :=
  if s.rxFire i then false
  else if s.currentState = .stop ∧ s.bitEndFire i then true
  else s.outputValid

def startValidNext : Bool :=
  if s.currentState ≠ .start then false
  else if s.sampleFire i then !s.uartRxSync
  else s.startValid

def step : RxEngine where
  uartRxFf1 := i.uartRx
  uartRxFf2 := s.uartRxFf1
  currentState := s.stateNext i
  tickCounter := s.tickCounterNext i
  bitIndex := s.bitIndexNext i
  shiftReg := s.shiftRegNext i
  outputBuffer := s.outputBufferNext i
  outputValid := s.outputValidNext i
  startValid := s.startValidNext i

/-- The receiver waits for a start bit. -/
def Waits (s : RxEngine) : Prop := s.currentState = .idle ∧ s.outputValid = false

/-- The receiver is `c` ticks into a frame whose samples are those of `lv`. -/
structure InFrame (lv : Nat → Bool) (c : Nat) (s : RxEngine) : Prop where
  state : s.currentState = if c < 16 then .start else if c < 144 then .data else .stop
  tick : s.tickCounter.toNat = c % 16
  bit : 16 ≤ c → c < 144 → s.bitIndex.toNat = c / 16 - 1
  start : 8 ≤ c → c < 16 → s.startValid = !lv 0
  shift : ∀ k < 8, s.shiftReg.getLsbD k = if 16 * (k + 1) + 8 ≤ c then lv (k + 1) else false
  valid : s.outputValid = false

variable {s : RxEngine} {i : RxEngineIn} {lv : Nat → Bool} {c : Nat}

/-- Nothing comes out before the end of the stop bit. -/
lemma outputValid_step (valid : s.outputValid = false) :
    (s.step i).outputValid = (decide (s.currentState = .stop) && s.bitEndFire i) := by
  have noFire : s.rxFire i = false := by rw [rxFire, valid, Bool.false_and]
  simp [step, outputValidNext, noFire, valid]

lemma InFrame.busy (fr : s.InFrame lv c) : s.currentState ≠ .idle ∧ s.currentState ≠ .hold := by
  rw [fr.state]
  split_ifs <;> simp

lemma InFrame.bitEndFire_eq (fr : s.InFrame lv c) (i : RxEngineIn) :
    s.bitEndFire i = (i.baudX16Tick && decide (c % 16 = 15)) :=
  tickCounter_at i.baudX16Tick 15 fr.tick

lemma InFrame.sampleFire_eq (fr : s.InFrame lv c) (i : RxEngineIn) :
    s.sampleFire i = (i.baudX16Tick && decide (c % 16 = 7)) :=
  tickCounter_at i.baudX16Tick 7 fr.tick

/-- The tick counter in a frame counts the ticks modulo 16. -/
lemma InFrame.counter (fr : s.InFrame lv c) :
    (s.step i).tickCounter.toNat = (c + i.baudX16Tick.toNat) % 16 := by
  simp only [step, tickCounterNext, fr.busy.1, if_false]
  exact tickCounter_next i.baudX16Tick fr.tick

/-- A clock without a tick. -/
lemma InFrame.wait (fr : s.InFrame lv c) (lt : c < 160) (noTick : i.baudX16Tick = false) :
    (s.step i).InFrame lv c := by
  have noEnd : s.bitEndFire i = false := by rw [bitEndFire, noTick, Bool.false_and]
  have noSample : s.sampleFire i = false := by rw [sampleFire, noTick, Bool.false_and]
  have counter := fr.counter (i := i)
  have busy := fr.busy
  rw [noTick] at counter
  refine ⟨?_, counter, fun ge lt => ?_, fun ge lt => ?_, fun k lt => ?_, ?_⟩
  · rw [← fr.state]
    cases h : s.currentState <;> simp [step, stateNext, noEnd, h]
    · exact absurd h busy.1
    · exact absurd h busy.2
  · have data : s.currentState = .data := by rw [fr.state, if_neg (by omega), if_pos lt]
    simpa [step, bitIndexNext, noEnd, data] using fr.bit ge lt
  · have start : s.currentState = .start := by rw [fr.state, if_pos lt]
    simpa [step, startValidNext, noSample, start] using fr.start ge lt
  · simpa [step, shiftRegNext, noSample, busy.1] using fr.shift k lt
  · rw [outputValid_step fr.valid, noEnd, Bool.and_false]

/-- The start bit goes on, past its end if it was low. -/
lemma InFrame.advance_start (fr : s.InFrame lv c) (lt : c < 16) (tick : i.baudX16Tick = true)
    (sample : c % 16 = 7 → s.uartRxSync = lv (c / 16)) (low : c = 15 → lv 0 = false) :
    (s.step i).InFrame lv (c + 1) := by
  have bitEnd := fr.bitEndFire_eq i
  have sampleFire := fr.sampleFire_eq i
  have counter := fr.counter (i := i)
  have state := fr.state
  have startValid := fr.start
  rw [tick] at counter
  rw [tick, Bool.true_and] at bitEnd sampleFire
  rw [if_pos lt] at state
  refine ⟨?_, counter, fun ge lt => ?_, fun ge lt => ?_, fun k lt' => ?_, ?_⟩
  · by_cases last : c = 15
    · have ok : s.startValid = true := by rw [startValid (by omega) lt, low last]; rfl
      simp [step, stateNext, state, bitEnd, last, ok]
    · have inside : ¬ c % 16 = 15 := by omega
      simp [step, stateNext, state, bitEnd, inside, show c + 1 < 16 by omega]
  · simp [step, bitIndexNext, state]
    omega
  · by_cases mid : c % 16 = 7
    · have now := sample mid
      rw [show c / 16 = 0 by omega] at now
      simp [step, startValidNext, state, sampleFire, mid, now]
    · have kept := startValid (by omega) (by omega)
      simp [step, startValidNext, state, sampleFire, mid, kept]
  · have shift := fr.shift k lt'
    rw [if_neg (by omega)] at shift ⊢
    simpa [step, shiftRegNext, state] using shift
  · rw [outputValid_step fr.valid, state]
    rfl

/-- The data bits go on, up to the stop bit. -/
lemma InFrame.advance_data (fr : s.InFrame lv c) (ge : 16 ≤ c) (lt : c < 144)
    (tick : i.baudX16Tick = true) (sample : c % 16 = 7 → s.uartRxSync = lv (c / 16)) :
    (s.step i).InFrame lv (c + 1) := by
  have bitEnd := fr.bitEndFire_eq i
  have sampleFire := fr.sampleFire_eq i
  have counter := fr.counter (i := i)
  have state := fr.state
  have bit := fr.bit ge lt
  rw [tick] at counter
  rw [tick, Bool.true_and] at bitEnd sampleFire
  rw [if_neg (by omega), if_pos lt] at state
  have top := bitIdx_last bit
  refine ⟨?_, counter, fun _ lt => ?_, fun _ lt => ?_, fun k lt' => ?_, ?_⟩
  · simp only [step, stateNext, state, bitEnd, top, decide_eq_true_eq]
    split_ifs <;> first | rfl | omega
  · by_cases last : c % 16 = 15
    · have room : ¬ s.bitIndex = 7 := fun full => by
        have := top.mp full
        omega
      have next : (s.step i).bitIndex = s.bitIndex + 1 := by
        simp [step, bitIndexNext, state, bitEnd, last]
        exact room
      rw [next]
      exact bitIdx_next bit ge last lt
    · have next : (s.step i).bitIndex = s.bitIndex := by
        simp [step, bitIndexNext, state, bitEnd, last]
      rw [next, bit]
      omega
  · omega
  · have shift := fr.shift k lt'
    by_cases mid : c % 16 = 7
    · have next : (s.step i).shiftReg = setBit s.shiftReg s.bitIndex (lv (c / 16)) := by
        simp [step, shiftRegNext, state, sampleFire, mid, sample mid]
      rw [next, getLsbD_setBit _ _ _ lt', bit, shift]
      split_ifs with this now now before
      · rw [show c / 16 = k + 1 by omega]
      · omega
      · rfl
      · omega
      · omega
      · rfl
    · have next : (s.step i).shiftReg = s.shiftReg := by
        simp [step, shiftRegNext, state, sampleFire, mid]
      rw [next, shift]
      have same : 16 * (k + 1) + 8 ≤ c ↔ 16 * (k + 1) + 8 ≤ c + 1 := by omega
      simp only [same]
  · rw [outputValid_step fr.valid, state]
    rfl

/-- The stop bit goes on. -/
lemma InFrame.advance_stop (fr : s.InFrame lv c) (ge : 144 ≤ c) (lt : c + 1 < 160)
    (tick : i.baudX16Tick = true) : (s.step i).InFrame lv (c + 1) := by
  have bitEnd := fr.bitEndFire_eq i
  have counter := fr.counter (i := i)
  have state := fr.state
  have inside : ¬ c % 16 = 15 := by omega
  rw [tick] at counter
  rw [tick, Bool.true_and, decide_eq_false inside] at bitEnd
  rw [if_neg (by omega), if_neg (by omega)] at state
  refine ⟨?_, counter, fun ge lt => by omega, fun ge lt => by omega, fun k lt' => ?_, ?_⟩
  · simp [step, stateNext, state, bitEnd, show ¬ c + 1 < 16 by omega, show ¬ c + 1 < 144 by omega]
  · have shift := fr.shift k lt'
    rw [if_pos (by omega)] at shift ⊢
    simpa [step, shiftRegNext, state] using shift
  · rw [outputValid_step fr.valid, bitEnd, Bool.and_false]

/-- A clock with a tick that is not the last of the frame. -/
lemma InFrame.advance (fr : s.InFrame lv c) (lt : c + 1 < 160) (tick : i.baudX16Tick = true)
    (sample : c % 16 = 7 → c < 144 → s.uartRxSync = lv (c / 16)) (low : c = 15 → lv 0 = false) :
    (s.step i).InFrame lv (c + 1) := by
  by_cases start : c < 16
  · exact fr.advance_start start tick (fun mid => sample mid (by omega)) low
  · by_cases data : c < 144
    · exact fr.advance_data (by omega) data tick fun mid => sample mid data
    · exact fr.advance_stop (by omega) lt tick

/-- The last tick of a start bit that was high makes the receiver wait again. -/
lemma InFrame.reject (fr : s.InFrame lv 15) (tick : i.baudX16Tick = true) (high : lv 0 = true) :
    (s.step i).Waits := by
  have bitEnd := fr.bitEndFire_eq i
  have state : s.currentState = .start := fr.state
  have invalid : s.startValid = false := by rw [fr.start (by decide) (by decide), high]; rfl
  rw [tick] at bitEnd
  have bitEnd : s.bitEndFire i = true := bitEnd
  constructor
  · simp [step, stateNext, state, bitEnd, invalid]
  · rw [outputValid_step fr.valid, state]
    rfl

/-- The last tick of a frame brings its byte out. -/
lemma InFrame.last (fr : s.InFrame lv 159) (tick : i.baudX16Tick = true) :
    (s.step i).currentState = .hold ∧ (s.step i).outputValid = true ∧
      ∀ k < 8, (s.step i).outputBuffer.getLsbD k = lv (k + 1) := by
  have bitEnd := fr.bitEndFire_eq i
  have stop : s.currentState = .stop := fr.state
  rw [tick] at bitEnd
  have bitEnd : s.bitEndFire i = true := bitEnd
  refine ⟨?_, ?_, fun k lt => ?_⟩
  · simp [step, stateNext, stop, bitEnd]
  · rw [outputValid_step fr.valid, stop, bitEnd]
    rfl
  · have shift := fr.shift k lt
    rw [if_pos (by omega)] at shift
    simp [step, outputBufferNext, stop, bitEnd, shift]

/-- A byte that is taken at once leaves the receiver waiting. -/
lemma waits_of_taken (hold : s.currentState = .hold) (valid : s.outputValid = true)
    (ready : i.rxOutReady = true) : (s.step i).Waits := by
  have fire : s.rxFire i = true := by rw [rxFire, valid, ready]; rfl
  constructor
  · simp [step, stateNext, hold, fire]
  · simp [step, outputValidNext, fire]

/-- The receiver waits while it sees the line high. -/
lemma Waits.high (wt : s.Waits) (high : s.uartRxSync = true) : (s.step i).Waits := by
  obtain ⟨idle, valid⟩ := wt
  constructor
  · simp [step, stateNext, idle, valid, high]
  · rw [outputValid_step valid, idle]
    rfl

/-- When it sees the line low it begins a frame. -/
lemma Waits.low (wt : s.Waits) (low : s.uartRxSync = false) (lv : Nat → Bool) :
    (s.step i).InFrame lv 0 := by
  obtain ⟨idle, valid⟩ := wt
  refine ⟨?_, ?_, fun ge => by omega, fun ge => by omega, fun k lt => ?_, ?_⟩
  · simp [step, stateNext, idle, valid, low]
  · simp [step, tickCounterNext, idle]
  · simp [step, shiftRegNext, idle]
  · rw [outputValid_step valid, idle]
    rfl

/-- How many ticks into a frame the receiver is. -/
def pos (s : RxEngine) : Nat :=
  match s.currentState with
  | .idle => 0
  | .start => s.tickCounter.toNat
  | .data => 16 * (s.bitIndex.toNat + 1) + s.tickCounter.toNat
  | .stop => 144 + s.tickCounter.toNat
  | .hold => 160

/-- A frame is under way. -/
def Busy (s : RxEngine) : Prop :=
  (s.currentState = .start ∨ s.currentState = .data ∨ s.currentState = .stop) ∧
    s.outputValid = false

lemma InFrame.begun (fr : s.InFrame lv 0) : s.Busy ∧ s.pos = 0 := by
  have st : s.currentState = .start := fr.state
  refine ⟨⟨.inl st, fr.valid⟩, ?_⟩
  rw [pos, st]
  exact fr.tick

lemma counter_le (busy : s.currentState ≠ .idle) :
    (s.step i).tickCounter.toNat ≤ s.tickCounter.toNat + i.baudX16Tick.toNat ∧
      (s.bitEndFire i = true → (s.step i).tickCounter.toNat = 0 ∧ s.tickCounter.toNat = 15 ∧
        i.baudX16Tick = true) := by
  simp only [step, tickCounterNext, busy, if_false, bitEndFire, Bool.and_eq_true, beq_iff_eq]
  constructor
  · cases i.baudX16Tick with
    | false => simp
    | true =>
      simp only [if_true]
      split_ifs
      · simp
      · exact toNat_succ_le _
  · rintro ⟨tick, top⟩
    simp [tick, top]

/-- What a cycle makes of a frame under way: the frame is dropped, it goes on by a tick at most, or
    its byte comes out after 160 ticks. -/
inductive Proceeds (s : RxEngine) (i : RxEngineIn) : Prop
  | waits (wt : (s.step i).Waits)
  | busy (bs : (s.step i).Busy) (le : (s.step i).pos ≤ s.pos + i.baudX16Tick.toNat)
  | hold (hd : (s.step i).currentState = .hold) (valid : (s.step i).outputValid = true)
    (pulse : i.baudX16Tick = true) (full : 160 ≤ s.pos + 1)

lemma proceeds_start (h : s.currentState = .start) (valid : s.outputValid = false)
    (i : RxEngineIn) : s.Proceeds i := by
  obtain ⟨le, wrap⟩ := counter_le (i := i) (by simp [h] : s.currentState ≠ .idle)
  have valid' : (s.step i).outputValid = false := by
    rw [outputValid_step valid, h]
    rfl
  cases hb : s.bitEndFire i with
  | false =>
    have st : (s.step i).currentState = .start := by simp [step, stateNext, h, hb]
    refine .busy ⟨.inl st, valid'⟩ ?_
    simpa only [pos, st, h] using le
  | true =>
    obtain ⟨zero, top, tick⟩ := wrap hb
    cases hv : s.startValid with
    | false => exact .waits ⟨by simp [step, stateNext, h, hb, hv], valid'⟩
    | true =>
      have st : (s.step i).currentState = .data := by simp [step, stateNext, h, hb, hv]
      have bit : (s.step i).bitIndex = 0 := by simp [step, bitIndexNext, h]
      refine .busy ⟨.inr (.inl st), valid'⟩ ?_
      simp only [pos, st, h, bit, zero, top, tick]
      decide

lemma proceeds_data (h : s.currentState = .data) (valid : s.outputValid = false)
    (i : RxEngineIn) : s.Proceeds i := by
  obtain ⟨le, wrap⟩ := counter_le (i := i) (by simp [h] : s.currentState ≠ .idle)
  have valid' : (s.step i).outputValid = false := by
    rw [outputValid_step valid, h]
    rfl
  cases hb : s.bitEndFire i with
  | false =>
    have st : (s.step i).currentState = .data := by simp [step, stateNext, h, hb]
    have bit : (s.step i).bitIndex = s.bitIndex := by simp [step, bitIndexNext, h, hb]
    refine .busy ⟨.inr (.inl st), valid'⟩ ?_
    simp only [pos, st, h, bit]
    omega
  | true =>
    obtain ⟨zero, top, tick⟩ := wrap hb
    by_cases full : s.bitIndex = 7
    · have st : (s.step i).currentState = .stop := by simp [step, stateNext, h, hb, full]
      refine .busy ⟨.inr (.inr st), valid'⟩ ?_
      simp only [pos, st, h, full, zero, top, tick]
      decide
    · have st : (s.step i).currentState = .data := by
        simp only [step, stateNext, h, hb, full, false_and, if_false]
      have bit : (s.step i).bitIndex.toNat ≤ s.bitIndex.toNat + 1 := by
        have next : (s.step i).bitIndex = s.bitIndex + 1 := by
          simp only [step, bitIndexNext, h, hb, ne_eq, full, not_true, not_false_eq_true,
            and_self, if_false, if_true]
        rw [next]
        exact toNat_succ_le _
      refine .busy ⟨.inr (.inl st), valid'⟩ ?_
      simp only [pos, st, h, zero, top, tick, Bool.toNat_true]
      omega

lemma proceeds_stop (h : s.currentState = .stop) (valid : s.outputValid = false)
    (i : RxEngineIn) : s.Proceeds i := by
  obtain ⟨le, wrap⟩ := counter_le (i := i) (by simp [h] : s.currentState ≠ .idle)
  cases hb : s.bitEndFire i with
  | false =>
    have st : (s.step i).currentState = .stop := by simp [step, stateNext, h, hb]
    have valid' : (s.step i).outputValid = false := by
      rw [outputValid_step valid, hb, Bool.and_false]
    refine .busy ⟨.inr (.inr st), valid'⟩ ?_
    simp only [pos, st, h]
    omega
  | true =>
    obtain ⟨-, top, tick⟩ := wrap hb
    refine .hold ?_ ?_ tick ?_
    · simp [step, stateNext, h, hb]
    · rw [outputValid_step valid, h, hb]
      rfl
    · simp only [pos, h, top]
      decide

/-- A frame takes at least 160 ticks. -/
lemma Busy.proceeds (bs : s.Busy) (i : RxEngineIn) : s.Proceeds i := by
  obtain ⟨start | data | stop, valid⟩ := bs
  · exact proceeds_start start valid i
  · exact proceeds_data data valid i
  · exact proceeds_stop stop valid i

end RxEngine

/-- The receiver as a machine that shows the bytes taken from it. -/
def uartRxEngine : Machine RxEngine RxEngineIn (Option (BitVec 8)) where
  init := .reset
  step s i := s.step i
  out s i := if s.rxFire i then some s.outputBuffer else none

/-- A receiver whose output is always taken, with its ticks and its line. -/
def listening (tick line : Nat → Bool) (t : Nat) : RxEngineIn := ⟨tick t, line t, true⟩

/-- The byte that the receiver hands over in a cycle. -/
def received (tick line : Nat → Bool) (t : Nat) : Option (BitVec 8) :=
  uartRxEngine.outAt (listening tick line) t

/-- The line behind the two registers of the synchroniser. -/
def seen (line : Nat → Bool) : Nat → Bool
  | 0 => true
  | 1 => true
  | t + 2 => line t

section Run

variable {tick line : Nat → Bool} {a t x z : Nat} {lv : Nat → Bool} {b : BitVec 8}

lemma rx_sync (tick line : Nat → Bool) (t : Nat) :
    (uartRxEngine.atCycle (listening tick line) t).uartRxSync = seen line t := by
  match t with
  | 0 => rfl
  | 1 => rfl
  | t + 2 => simp only [Machine.atCycle_succ]; rfl

/-- Nothing is handed over while no byte is out. -/
lemma received_none (valid : (uartRxEngine.atCycle (listening tick line) t).outputValid = false) :
    received tick line t = none := by
  refine if_neg ?_
  rw [RxEngine.rxFire, valid]
  exact Bool.false_ne_true

lemma received_some (valid : (uartRxEngine.atCycle (listening tick line) t).outputValid = true) :
    received tick line t = some (uartRxEngine.atCycle (listening tick line) t).outputBuffer := by
  refine if_pos ?_
  rw [RxEngine.rxFire, valid]
  rfl

/-- The receiver waits while it sees the line high. -/
lemma rx_waits (wt : (uartRxEngine.atCycle (listening tick line) a).Waits) (ge : a ≤ t)
    (high : ∀ u, a ≤ u → u < t → seen line u = true) :
    (uartRxEngine.atCycle (listening tick line) t).Waits := by
  induction ge with
  | refl => exact wt
  | @step t ge ih =>
    have before := ih fun u ge lt => high u ge (Nat.lt_succ_of_lt lt)
    rw [Machine.atCycle_succ]
    exact before.high ((rx_sync tick line t).trans (high t ge (Nat.lt_succ_self t)))

/-- The synchroniser hides the line for two clocks after reset. -/
lemma rx_reset (tick line : Nat → Bool) :
    (uartRxEngine.atCycle (listening tick line) 2).Waits ∧ log (received tick line) 2 = [] := by
  have waits : ∀ t ≤ 2, (uartRxEngine.atCycle (listening tick line) t).Waits := by
    intro t le
    refine rx_waits (a := 0) ⟨rfl, rfl⟩ (Nat.zero_le t) fun u _ lt => ?_
    obtain rfl | rfl : u = 0 ∨ u = 1 := by omega
    · rfl
    · rfl
  exact ⟨waits 2 (Nat.le_refl 2),
    log_still (Nat.zero_le 2) fun u _ lt => received_none (waits u (by omega)).2⟩

/-- The samples that the receiver takes of a frame that begins in cycle `a` are the levels `lv`: they
    are taken at the ticks in the middle of its bits. -/
def SamplesTo (tick line : Nat → Bool) (a : Nat) (lv : Nat → Bool) (t : Nat) : Prop :=
  ∀ u, a ≤ u → u < t → tick u = true → ∀ j < 9, count tick u = count tick a + (16 * j + 7) →
    seen line u = lv j

/-- The receiver goes on with a frame as long as the start bit, when it is over, was low. -/
lemma rx_frame (sm : SamplesTo tick line a lv t)
    (begins : (uartRxEngine.atCycle (listening tick line) a).InFrame lv 0) (ge : a ≤ t)
    (lt : count tick t < count tick a + 160)
    (start : count tick a + 16 ≤ count tick t → lv 0 = false) :
    (uartRxEngine.atCycle (listening tick line) t).InFrame lv (count tick t - count tick a) := by
  induction ge with
  | refl => simpa using begins
  | @step t ge ih =>
    rw [count_succ] at lt start
    have before := ih (fun u ge lt => sm u ge (Nat.lt_succ_of_lt lt)) (by omega)
      fun le => start (by omega)
    have mono := count_mono tick ge
    rw [Machine.atCycle_succ, count_succ]
    cases h : tick t with
    | false => exact before.wait (by omega) h
    | true =>
      rw [h, Bool.toNat_true] at lt start
      rw [Bool.toNat_true, Nat.sub_add_comm mono]
      refine before.advance (by omega) h (fun mid data => ?_) fun ended => start (by omega)
      rw [rx_sync]
      exact sm t ge (Nat.lt_succ_self t) h _ (by omega) (by omega)

/-- The samples of a frame whose start bit is low. -/
structure Samples (tick line : Nat → Bool) (a : Nat) (lv : Nat → Bool) : Prop where
  start : lv 0 = false
  sample : ∀ u, a ≤ u → tick u = true → ∀ j < 9, count tick u = count tick a + (16 * j + 7) →
    seen line u = lv j

lemma Samples.to (sm : Samples tick line a lv) (t : Nat) : SamplesTo tick line a lv t :=
  fun u ge _ => sm.sample u ge

/-- A waiting receiver that sees the line low begins a frame. -/
lemma rx_begins (wt : (uartRxEngine.atCycle (listening tick line) a).Waits) (ge : a ≤ x)
    (high : ∀ u, a ≤ u → u < x → seen line u = true) (low : seen line x = false)
    (lv : Nat → Bool) :
    (uartRxEngine.atCycle (listening tick line) (x + 1)).InFrame lv 0 := by
  rw [Machine.atCycle_succ]
  exact (rx_waits wt ge high).low ((rx_sync tick line x).trans low) _

/-- Nothing is handed over while the receiver waits and then goes on with a frame. -/
lemma rx_quiet (wt : (uartRxEngine.atCycle (listening tick line) a).Waits) (ge : a ≤ x)
    (high : ∀ u, a ≤ u → u < x → seen line u = true) (low : seen line x = false)
    (sm : SamplesTo tick line (x + 1) lv z) (within : count tick z < count tick (x + 1) + 160)
    (start : count tick (x + 1) + 16 ≤ count tick z → lv 0 = false) (from_ : a ≤ t)
    (until_ : t ≤ z + 1) :
    log (received tick line) t = log (received tick line) a := by
  refine log_still from_ fun v ge' lt => received_none ?_
  by_cases before : v ≤ x
  · exact (rx_waits wt ge' fun u ge lt => high u ge (by omega)).2
  · have mono := count_mono tick (by omega : v ≤ z)
    exact (rx_frame (fun u ge lt => sm u ge (by omega)) (rx_begins wt ge high low lv) (by omega)
      (by omega) fun le => start (by omega)).valid

/-- A waiting receiver that sees the start bit of a frame hands over its byte in the clock after the
    last tick, and waits again in the next one. -/
lemma rx_delivers (wt : (uartRxEngine.atCycle (listening tick line) a).Waits) (ge : a ≤ x)
    (high : ∀ u, a ≤ u → u < x → seen line u = true) (low : seen line x = false)
    (sm : Samples tick line (x + 1) (frameLevel b)) (pulse : tick z = true)
    (last : count tick z = count tick (x + 1) + 159) :
    (uartRxEngine.atCycle (listening tick line) (z + 2)).Waits ∧
      (∀ t, a ≤ t → t ≤ z + 1 → log (received tick line) t = log (received tick line) a) ∧
      log (received tick line) (z + 2) = log (received tick line) a ++ [b] := by
  have after : x < z := by
    by_contra le
    have mono := count_mono tick (by omega : z ≤ x + 1)
    omega
  have begins := rx_begins wt ge high low (frameLevel b)
  have ending := rx_frame (sm.to z) begins (by omega : x + 1 ≤ z) (by omega) fun _ => sm.start
  rw [last, Nat.add_sub_cancel_left] at ending
  have next : uartRxEngine.atCycle (listening tick line) (z + 1) =
      (uartRxEngine.atCycle (listening tick line) z).step (listening tick line z) :=
    Machine.atCycle_succ _ _ _
  obtain ⟨hold, valid, byte⟩ := ending.last (i := listening tick line z) pulse
  rw [← next] at hold valid byte
  have still : ∀ t, a ≤ t → t ≤ z + 1 →
      log (received tick line) t = log (received tick line) a := by
    intro t from_ until_
    exact rx_quiet wt ge high low (sm.to z) (by omega) (fun _ => sm.start) from_ until_
  refine ⟨?_, still, ?_⟩
  · rw [Machine.atCycle_succ]
    exact RxEngine.waits_of_taken hold valid rfl
  · have out : received tick line (z + 1) = some b :=
      (received_some valid).trans (congrArg some (eq_of_frameLevel byte))
    rw [log_succ, still (z + 1) (by omega) (Nat.le_refl _), out]
    rfl

/-- A waiting receiver that sees the line low, but high at the eighth tick, waits again after the
    sixteenth, having handed over nothing. -/
lemma rx_rejects (wt : (uartRxEngine.atCycle (listening tick line) a).Waits) (ge : a ≤ x)
    (high : ∀ u, a ≤ u → u < x → seen line u = true) (low : seen line x = false)
    (back : ∀ u, x < u → tick u = true → count tick u = count tick (x + 1) + 7 →
      seen line u = true)
    (pulse : tick z = true) (last : count tick z = count tick (x + 1) + 15) :
    (uartRxEngine.atCycle (listening tick line) (z + 1)).Waits ∧
      log (received tick line) (z + 1) = log (received tick line) a := by
  have after : x < z := by
    by_contra le
    have mono := count_mono tick (by omega : z ≤ x + 1)
    omega
  have sm : SamplesTo tick line (x + 1) (fun _ => true) z := by
    intro u ge lt pulse j _ at_j
    have mono := count_mono tick (Nat.le_of_lt lt)
    obtain rfl : j = 0 := by omega
    exact back u ge pulse at_j
  have short : ¬ count tick (x + 1) + 16 ≤ count tick z := by omega
  have ending := rx_frame sm (rx_begins wt ge high low _) (by omega : x + 1 ≤ z) (by omega)
    fun le => absurd le short
  rw [last, Nat.add_sub_cancel_left] at ending
  refine ⟨?_, rx_quiet wt ge high low sm (by omega) (fun le => absurd le short) (by omega)
    (Nat.le_refl _)⟩
  rw [Machine.atCycle_succ]
  exact ending.reject pulse rfl

/-! ## The pace of the receiver -/

/-- The ticks from one frame to the next: 160 for its bits, and those that pass in the two clocks
    in which the byte is held and the line looked at again. -/
def rxPace (d : Nat) : Nat := 160 + 2 / d

/-- A frame begins after cycle `x`, with the line low, when `n` frames have had their time. -/
def BeginsAt (d : Nat) (line : Nat → Bool) (n x : Nat) : Prop :=
  seen line x = false ∧ rxPace d * n ≤ x / d

/-- The receiver has handed over `n` bytes before cycle `t`, in no less than their time. -/
inductive Paced (d : Nat) (tick line : Nat → Bool) (n t : Nat) (s : RxEngine) : Prop
  | waits (wt : s.Waits) (time : rxPace d * n ≤ t / d)
  | busy (bs : s.Busy) {x : Nat} (lt : x < t) (begins : BeginsAt d line n x)
    (time : x / d + s.pos ≤ count tick t)
  | hold (hd : s.currentState = .hold) (valid : s.outputValid = true) {x z : Nat}
    (begins : BeginsAt d line n x) (pulse : tick z = true) (next : t = z + 1)
    (time : x / d + 160 ≤ count tick t)

variable {d : Nat}

/-- One cycle of a paced receiver, which hands over a byte only from `S_HOLD`. -/
lemma Paced.step (ev : Every d tick) (pos : 0 < d) {n : Nat}
    (pc : Paced d tick line n t (uartRxEngine.atCycle (listening tick line) t)) :
    (received tick line t = none ∧
        Paced d tick line n (t + 1) (uartRxEngine.atCycle (listening tick line) (t + 1))) ∨
      ((∃ x, BeginsAt d line n x) ∧ (received tick line t).isSome = true ∧
        Paced d tick line (n + 1) (t + 1) (uartRxEngine.atCycle (listening tick line) (t + 1))) := by
  have next : uartRxEngine.atCycle (listening tick line) (t + 1) =
      (uartRxEngine.atCycle (listening tick line) t).step (listening tick line t) :=
    Machine.atCycle_succ _ _ _
  have later : t / d ≤ (t + 1) / d := Nat.div_le_div_right (Nat.le_succ t)
  rw [next]
  obtain ⟨wt, time⟩ | ⟨bs, lt, begins, time⟩ | ⟨hd, valid, begins, pulse, now, time⟩ := pc
  · left
    refine ⟨received_none wt.2, ?_⟩
    have sync := rx_sync tick line t
    cases h : seen line t with
    | true => exact .waits (wt.high (sync.trans h)) (Nat.le_trans time later)
    | false =>
      obtain ⟨bs, zero⟩ := (wt.low (i := listening tick line t) (sync.trans h) fun _ => false).begun
      refine .busy bs (Nat.lt_succ_self t) ⟨h, time⟩ ?_
      rw [zero, ev.count_eq, Nat.add_sub_cancel]
      exact Nat.le_refl _
  · left
    refine ⟨received_none bs.2, ?_⟩
    obtain wt | ⟨bs', le⟩ | ⟨hd, valid, pulse, full⟩ := bs.proceeds (listening tick line t)
    · exact .waits wt (Nat.le_trans begins.2 (Nat.div_le_div_right (by omega)))
    · have le : _ ≤ _ + (tick t).toNat := le
      refine .busy bs' (Nat.lt_succ_of_lt lt) begins ?_
      rw [count_succ]
      omega
    · have pulse : tick t = true := pulse
      refine .hold hd valid begins pulse rfl ?_
      rw [count_succ, pulse, Bool.toNat_true]
      omega
  · right
    refine ⟨⟨_, begins⟩, ?_, .waits (RxEngine.waits_of_taken hd valid rfl) ?_⟩
    · rw [received_some valid]
      rfl
    · have ticks := ev.count_after pos pulse 2
      have paced := begins.2
      rw [now, count_succ, pulse, Bool.toNat_true] at time
      rw [ev.count_eq, Nat.add_succ_sub_one] at ticks
      rw [now, Nat.mul_succ, rxPace, ticks]
      rw [rxPace] at paced
      omega

/-- The frame of each byte handed over began with the line low, after those before it had had their
    time. -/
lemma rx_began (ev : Every d tick) (pos : 0 < d) {n u : Nat}
    (lt : n < (log (received tick line) u).length) : ∃ x, BeginsAt d line n x := by
  have paced : ∀ u, Paced d tick line (log (received tick line) u).length u
        (uartRxEngine.atCycle (listening tick line) u) ∧
      ∀ n < (log (received tick line) u).length, ∃ x, BeginsAt d line n x := by
    intro u
    induction u with
    | zero =>
      refine ⟨.waits ⟨rfl, rfl⟩ ?_, fun n lt => ?_⟩
      · rw [log_zero, List.length_nil, Nat.mul_zero]
        exact Nat.zero_le _
      · rw [log_zero, List.length_nil] at lt
        cases lt
    | succ u ih =>
      rw [log_succ]
      obtain ⟨out, next⟩ | ⟨begun, out, next⟩ := ih.1.step ev pos
      · rw [out, Option.toList_none, List.append_nil]
        exact ⟨next, ih.2⟩
      · obtain ⟨b, out⟩ := Option.isSome_iff_exists.mp out
        rw [out, Option.toList_some, List.length_append, List.length_singleton]
        refine ⟨next, fun n lt => ?_⟩
        obtain lt | rfl := Nat.lt_succ_iff_lt_or_eq.mp lt
        · exact ih.2 n lt
        · exact begun
  exact (paced u).2 n lt

end Run

end ModularControl.Uart
