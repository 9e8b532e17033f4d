import Mathlib.Data.Nat.Log
import ModularControl.Sync.Counter
import ModularControl.Sync.Stream

/-!
# The LCD controller

`hd44780_parallel_lcd.sv`, with its clock, its delays and its initialisation ROM as parameters. One
timer serves every timed state: it is loaded when the state is entered, and the state is left when it
has counted down. A transaction takes the same course whatever the host does, and `During` says how
far it is.
-/

namespace ModularControl.Lcd
open Sync

/-- `txn_t`. -/
structure Txn where
  data : BitVec 8
  rs : Bool
  isLong : Bool
deriving DecidableEq, Repr

/-- An initialisation ROM, with at least one entry. -/
structure InitRom where
  entries : List Txn
  pos : 0 < entries.length

def InitRom.length (rom : InitRom) : Nat := rom.entries.length

/-- `INIT_ROM`. -/
def initRom : InitRom where
  entries :=
    [⟨0x38, false, false⟩, ⟨0x08, false, false⟩, ⟨0x01, false, true⟩, ⟨0x06, false, false⟩,
      ⟨0x0F, false, false⟩, ⟨0x45, true, false⟩, ⟨0x64, true, false⟩, ⟨0x65, true, false⟩,
      ⟨0x72, true, false⟩, ⟨0x20, true, false⟩, ⟨0x26, true, false⟩, ⟨0x20, true, false⟩,
      ⟨0x4A, true, false⟩, ⟨0x75, true, false⟩, ⟨0x64, true, false⟩, ⟨0x79, true, false⟩,
      ⟨0x20, true, false⟩, ⟨0x3C, true, false⟩, ⟨0x33, true, false⟩, ⟨0x20, true, false⟩,
      ⟨0x80, false, false⟩]
  pos := by decide

/-- The parameters of the controller, and its ROM. -/
structure LcdParams where
  clockHz : BitVec 32 := 50000000
  powerupMs : BitVec 32 := 50
  addressSetupNs : BitVec 32 := 60
  addressHoldNs : BitVec 32 := 20
  ePulseNs : BitVec 32 := 500
  shortDelayUs : BitVec 32 := 50
  longDelayMs : BitVec 32 := 2
  rom : InitRom := initRom

namespace LcdParams

variable (p : LcdParams)

/-- What `cycles_from_ns`, `cycles_from_us` and `cycles_from_ms` share: the clocks of `x` units of
    time, `unit` of which are a second, rounded up, and at least 1. -/
def cyclesFrom (unit : BitVec 64) (x : BitVec 32) : BitVec 32 :=
  let numerator := x.setWidth 64 * p.clockHz.setWidth 64 + (unit - 1)
  let cycles := (numerator / unit).setWidth 32
  if cycles = 0 then 1 else cycles

def cyclesFromNs : BitVec 32 → BitVec 32 := p.cyclesFrom 1000000000
def cyclesFromUs : BitVec 32 → BitVec 32 := p.cyclesFrom 1000000
def cyclesFromMs : BitVec 32 → BitVec 32 := p.cyclesFrom 1000

def powerupCyc : BitVec 32 := p.cyclesFromMs p.powerupMs
def addressSetupCyc : BitVec 32 := p.cyclesFromNs p.addressSetupNs
def addressHoldCyc : BitVec 32 := p.cyclesFromNs p.addressHoldNs
def ePulseCyc : BitVec 32 := p.cyclesFromNs p.ePulseNs
def shortDelayCyc : BitVec 32 := p.cyclesFromUs p.shortDelayUs
def longDelayCyc : BitVec 32 := p.cyclesFromMs p.longDelayMs

/-- `$bits(timer)`. The sum under `$clog2` has 32 bits; where it wraps the range is `[-1:0]`, of two
    bits. -/
def timerBits : Nat :=
  if Nat.clog 2 (p.longDelayCyc + 2).toNat = 0 then 2 else Nat.clog 2 (p.longDelayCyc + 2).toNat

/-- `$bits(init_index)`. -/
def indexBits : Nat := Nat.clog 2 (p.rom.length + 1)

end LcdParams

/-- `state_t`. -/
inductive LcdState where
  | powerupWait
  | initLatch
  | idle
  | txnLatch
  | busSetup
  | eHigh
  | eLow
  | waitShort
  | waitLong
deriving DecidableEq, Repr

/-- The inputs of the controller in a cycle. -/
structure LcdIn where
  hostValid : Bool := false
  hostRs : Bool := false
  hostData : BitVec 8 := 0
deriving DecidableEq, Repr

/-- The outputs of the controller in a cycle. -/
structure LcdOut where
  lcdRs : Bool
  lcdRw : Bool
  lcdE : Bool
  lcdDataO : BitVec 8
  lcdDataOe : Bool
  hostReady : Bool
  initDone : Bool
deriving DecidableEq, Repr

/-- The registers of the controller. -/
structure Controller (w v : Nat) where
  currentState : LcdState
  timer : BitVec w
  txnR : Txn
  initIndex : BitVec v
  initDone : Bool
deriving DecidableEq, Repr

/-- `is_long_cmd`: the commands that clear the display or return its cursor. -/
def isLongCmd (rs : Bool) (d : BitVec 8) : Bool := rs = false ∧ (d = 0x01 ∨ d = 0x02)

/-- `load_timer`. -/
def loadTimer (w : Nat) (cycles : BitVec 32) : BitVec w :=
  if cycles = 0 then 0 else cycles.setWidth w - 1

/-- The delay that the timer is loaded with when a state is entered. -/
def LcdParams.entryDelay (p : LcdParams) : LcdState → Option (BitVec 32)
  | .powerupWait => some p.powerupCyc
  | .busSetup => some p.addressSetupCyc
  | .eHigh => some p.ePulseCyc
  | .eLow => some p.addressHoldCyc
  | .waitShort => some p.shortDelayCyc
  | .waitLong => some p.longDelayCyc
  | _ => none

namespace Controller

variable (p : LcdParams) {w v : Nat}

/-- The controller when reset is released. -/
def reset : Controller w v where
  currentState := .powerupWait
  timer := 0
  txnR := ⟨0, false, false⟩
  initIndex := 0
  initDone := false

variable (s : Controller w v) (i : LcdIn)

def timerDone : Bool := s.timer == 0

/-- The next-state logic. -/
def stateNext : LcdState :=
  match s.currentState with
  | .powerupWait => if s.timerDone then .initLatch else .powerupWait
  | .initLatch => .busSetup
  | .idle => if i.hostValid then .txnLatch else .idle
  | .txnLatch => .busSetup
  | .busSetup => if s.timerDone then .eHigh else .busSetup
  | .eHigh => if s.timerDone then .eLow else .eHigh
  | .eLow => if s.timerDone then (if s.txnR.isLong then .waitLong else .waitShort) else .eLow
  | .waitShort => if s.timerDone then (if s.initDone then .idle else .initLatch) else .waitShort
  | .waitLong => if s.timerDone then (if s.initDone then .idle else .initLatch) else .waitLong

/-- The timer counts down in a state and is loaded on entering one. -/
def timerNext : BitVec w :=
  if s.currentState = s.stateNext i then
    if s.timerDone then s.timer else s.timer - 1
  else
    match p.entryDelay (s.stateNext i) with
    | some cycles => loadTimer w cycles
    | none => s.timer

/-- A delay is over and the next entry of the ROM is due. -/
def nextEntry : Bool :=
  (s.currentState = .waitShort ∨ s.currentState = .waitLong) ∧ s.stateNext i = .initLatch

/-- `init_index` is at the last entry. -/
def lastEntry : Bool := s.initIndex.toNat == p.rom.length - 1

/-- The transaction register is loaded on entering one of the two latch states. The ROM is read by
    the index that `init_index` still holds. -/
def txnNext : Txn :=
  match s.stateNext i with
  | .initLatch => p.rom.entries.getD s.initIndex.toNat ⟨0, false, false⟩
  | .txnLatch => ⟨i.hostData, i.hostRs, isLongCmd i.hostRs i.hostData⟩
  | _ => s.txnR

/-- The sequential blocks. -/
def step : Controller w v where
  currentState := s.stateNext i
  timer := s.timerNext p i
  txnR := s.txnNext p i
  initIndex := if s.nextEntry i && !s.lastEntry p then s.initIndex + 1 else s.initIndex
  initDone := if s.nextEntry i && s.lastEntry p then true else s.initDone

/-- The states in which `lcd_rs` shows the transaction. -/
def onBus : Bool :=
  s.currentState = .busSetup ∨ s.currentState = .eHigh ∨ s.currentState = .eLow

def out : LcdOut where
  lcdRs := s.onBus && s.txnR.rs
  lcdRw := false
  lcdE := s.currentState = .eHigh
  lcdDataO := s.txnR.data
  lcdDataOe := true
  hostReady := s.currentState = .idle ∧ s.initDone
  initDone := s.initDone

end Controller

/-- The controller as a machine, with the widths of its registers. -/
def hd44780ParallelLcd (p : LcdParams) :
    Machine (Controller p.timerBits p.indexBits) LcdIn LcdOut where
  init := .reset
  step s i := s.step p i
  out s _ := s.out

/-! ## The course of a transaction -/

namespace LcdParams

variable (p : LcdParams)

/-- The clocks for which a loaded timer keeps its state. -/
def waits (cycles : BitVec 32) : Nat := (loadTimer p.timerBits cycles).toNat + 1

/-- The delay after a transaction. -/
def delayCyc (isLong : Bool) : BitVec 32 := if isLong then p.longDelayCyc else p.shortDelayCyc

/-- The clock of a transaction in which `lcd_e` rises, counted from its first clock on the bus. -/
def riseAt : Nat := p.waits p.addressSetupCyc

/-- The clock in which it falls. -/
def fallAt : Nat := p.riseAt + p.waits p.ePulseCyc

/-- The clock in which the bus is left. -/
def holdAt : Nat := p.fallAt + p.waits p.addressHoldCyc

/-- The clocks of a transaction, its delay included. -/
def total (isLong : Bool) : Nat := p.holdAt + p.waits (p.delayCyc isLong)

lemma cyclesFrom_pos (unit : BitVec 64) (x : BitVec 32) : 0 < (p.cyclesFrom unit x).toNat := by
  rw [cyclesFrom]
  split_ifs with none_
  · decide
  · exact Nat.pos_of_ne_zero fun zero => none_ (BitVec.eq_of_toNat_eq zero)

/-- A delay beyond the range of the timer is cut down to it. -/
lemma waits_eq {cycles : BitVec 32} (pos : 0 < cycles.toNat) :
    p.waits cycles = (cycles.toNat - 1) % 2 ^ p.timerBits + 1 := by
  have ne : cycles ≠ 0 := by
    rintro rfl
    exact absurd pos (by decide)
  rw [waits, loadTimer, if_neg ne, toNat_load pos]

lemma waits_pos (cycles : BitVec 32) : 0 < p.waits cycles := Nat.succ_pos _

lemma riseAt_eq : p.riseAt = (p.addressSetupCyc.toNat - 1) % 2 ^ p.timerBits + 1 :=
  p.waits_eq (p.cyclesFrom_pos _ _)

lemma riseAt_pos : 0 < p.riseAt := p.waits_pos _

lemma riseAt_lt_fallAt : p.riseAt < p.fallAt := Nat.lt_add_of_pos_right (p.waits_pos _)

lemma fallAt_lt_holdAt : p.fallAt < p.holdAt := Nat.lt_add_of_pos_right (p.waits_pos _)

lemma holdAt_lt_total (isLong : Bool) : p.holdAt < p.total isLong :=
  Nat.lt_add_of_pos_right (p.waits_pos _)

end LcdParams

/-- The state that waits out the delay of a transaction. -/
def waitState (isLong : Bool) : LcdState := if isLong then .waitLong else .waitShort

namespace Controller

/-- The transaction in the register has been on its way for `n` clocks. -/
inductive During (p : LcdParams) (s : Controller p.timerBits p.indexBits) (n : Nat) : Prop
  | setup (state : s.currentState = .busSetup) (left : n + s.timer.toNat + 1 = p.riseAt)
  | high (state : s.currentState = .eHigh) (ge : p.riseAt ≤ n)
    (left : n + s.timer.toNat + 1 = p.fallAt)
  | low (state : s.currentState = .eLow) (ge : p.fallAt ≤ n)
    (left : n + s.timer.toNat + 1 = p.holdAt)
  | wait (state : s.currentState = waitState s.txnR.isLong) (ge : p.holdAt ≤ n)
    (left : n + s.timer.toNat + 1 = p.total s.txnR.isLong)

/-- The controller has entered a state and loaded its delay. -/
def enter (s : Controller w v) (st : LcdState) (cycles : BitVec 32) : Controller w v :=
  { s with currentState := st, timer := loadTimer w cycles }

section Step

variable {p : LcdParams} {s : Controller w v} {i : LcdIn}

/-- A running timer of a timed state counts down, and nothing else changes. -/
lemma step_counts (timed : (p.entryDelay s.currentState).isSome = true)
    (running : s.timerDone = false) : s.step p i = { s with timer := s.timer - 1 } := by
  obtain ⟨st, timer, txn, index, done⟩ := s
  cases st <;> simp [LcdParams.entryDelay] at timed <;>
    simp [step, stateNext, timerNext, txnNext, nextEntry, running]

/-- A latched transaction goes on the bus. -/
lemma step_latched (latched : s.currentState = .initLatch ∨ s.currentState = .txnLatch) :
    s.step p i = s.enter .busSetup p.addressSetupCyc := by
  obtain h | h := latched <;>
    simp [step, enter, stateNext, timerNext, txnNext, nextEntry, LcdParams.entryDelay, h]

lemma step_setup (h : s.currentState = .busSetup) (over_ : s.timerDone = true) :
    s.step p i = s.enter .eHigh p.ePulseCyc := by
  simp [step, enter, stateNext, timerNext, txnNext, nextEntry, LcdParams.entryDelay, h, over_]

lemma step_high (h : s.currentState = .eHigh) (over_ : s.timerDone = true) :
    s.step p i = s.enter .eLow p.addressHoldCyc := by
  simp [step, enter, stateNext, timerNext, txnNext, nextEntry, LcdParams.entryDelay, h, over_]

lemma step_low (h : s.currentState = .eLow) (over_ : s.timerDone = true) :
    s.step p i = s.enter (waitState s.txnR.isLong) (p.delayCyc s.txnR.isLong) := by
  cases long : s.txnR.isLong <;>
    simp [step, enter, stateNext, timerNext, txnNext, nextEntry, LcdParams.entryDelay,
      LcdParams.delayCyc, waitState, h, over_, long]

/-- After its delay a transaction is followed by the next entry of the ROM, until the last one has
    been latched. -/
lemma step_waited (h : s.currentState = waitState s.txnR.isLong) (over_ : s.timerDone = true) :
    s.step p i =
      if s.initDone then { s with currentState := .idle }
      else
        { currentState := .initLatch
          timer := s.timer
          txnR := p.rom.entries.getD s.initIndex.toNat ⟨0, false, false⟩
          initIndex := if s.lastEntry p then s.initIndex else s.initIndex + 1
          initDone := s.lastEntry p } := by
  cases long : s.txnR.isLong <;> cases done : s.initDone <;> cases last : s.lastEntry p <;>
    simp [step, stateNext, timerNext, txnNext, nextEntry, LcdParams.entryDelay, waitState, h, over_,
      long, done, last]

/-- Without a transaction of the host the idle controller stays idle. -/
lemma step_idle (h : s.currentState = .idle) (quiet : i.hostValid = false) :
    (s.step p i).currentState = .idle ∧ (s.step p i).initDone = s.initDone := by
  simp [step, stateNext, nextEntry, h, quiet]

/-- The idle controller latches the transaction of the host. -/
lemma step_host (h : s.currentState = .idle) (valid : i.hostValid = true) :
    (s.step p i).currentState = .txnLatch ∧ (s.step p i).initDone = s.initDone ∧
      (s.step p i).txnR = ⟨i.hostData, i.hostRs, isLongCmd i.hostRs i.hostData⟩ := by
  simp [step, stateNext, txnNext, nextEntry, h, valid]

end Step

section During

variable {p : LcdParams} {s : Controller p.timerBits p.indexBits} {i : LcdIn} {n : Nat}

lemma waits_enter (st : LcdState) (cycles : BitVec 32) :
    (s.enter st cycles).timer.toNat + 1 = p.waits cycles := rfl

lemma timerDone_iff : s.timerDone = true ↔ s.timer.toNat = 0 := by
  rw [timerDone, beq_iff_eq, ← BitVec.toNat_inj]
  simp

/-- A timer that counts down has one clock less to go. -/
lemma toNat_counted (running : s.timerDone = false) : (s.timer - 1).toNat + 1 = s.timer.toNat := by
  have pos : 0 < s.timer.toNat := by
    rw [← Bool.not_eq_true, timerDone_iff] at running
    exact Nat.pos_of_ne_zero running
  rw [toNat_pred pos]
  exact Nat.sub_add_cancel pos

/-- A latched transaction begins. -/
lemma during_latched (latched : s.currentState = .initLatch ∨ s.currentState = .txnLatch) :
    (s.step p i).During p 0 := by
  rw [step_latched latched]
  exact .setup rfl (by rw [Nat.zero_add]; rfl)

/-- A clock of a transaction that is not its last. -/
lemma During.step (du : s.During p n) (more : n + 1 < p.total s.txnR.isLong) :
    (s.step p i).During p (n + 1) ∧ (s.step p i).txnR = s.txnR ∧
      (s.step p i).initIndex = s.initIndex ∧ (s.step p i).initDone = s.initDone := by
  cases done : s.timerDone with
  | false =>
    have timed : (p.entryDelay s.currentState).isSome = true := by
      cases du with
      | setup state _ => rw [state]; rfl
      | high state _ _ => rw [state]; rfl
      | low state _ _ => rw [state]; rfl
      | wait state _ _ => rw [state]; cases s.txnR.isLong <;> rfl
    have counted := toNat_counted done
    rw [step_counts timed done]
    refine ⟨?_, rfl, rfl, rfl⟩
    -- the clock gone by is one less on the timer
    have moves {m : Nat} (left : n + s.timer.toNat + 1 = m) :
        n + 1 + (s.timer - 1).toNat + 1 = m := by omega
    cases du with
    | setup state left => exact .setup state (moves left)
    | high state ge left => exact .high state (Nat.le_succ_of_le ge) (moves left)
    | low state ge left => exact .low state (Nat.le_succ_of_le ge) (moves left)
    | wait state ge left => exact .wait state (Nat.le_succ_of_le ge) (moves left)
  | true =>
    have zero := timerDone_iff.mp done
    cases du with
    | setup state left =>
      rw [zero, Nat.add_zero] at left
      rw [step_setup state done]
      exact ⟨.high rfl (Nat.le_of_eq left.symm) (by rw [left, Nat.add_assoc, waits_enter]; rfl),
        rfl, rfl, rfl⟩
    | high state ge left =>
      rw [zero, Nat.add_zero] at left
      rw [step_high state done]
      exact ⟨.low rfl (Nat.le_of_eq left.symm) (by rw [left, Nat.add_assoc, waits_enter]; rfl),
        rfl, rfl, rfl⟩
    | low state ge left =>
      rw [zero, Nat.add_zero] at left
      rw [step_low state done]
      exact ⟨.wait rfl (Nat.le_of_eq left.symm) (by rw [left, Nat.add_assoc, waits_enter]; rfl),
        rfl, rfl, rfl⟩
    | wait state ge left => omega

lemma During.lt (du : s.During p n) : n < p.total s.txnR.isLong := by
  have fall := p.riseAt_lt_fallAt
  have hold := p.fallAt_lt_holdAt
  have total := p.holdAt_lt_total s.txnR.isLong
  cases du with
  | setup _ left => omega
  | high _ _ left => omega
  | low _ _ left => omega
  | wait _ _ left => omega

/-- In its last clock a transaction has waited out its delay. -/
lemma During.ended (du : s.During p n) (last : n + 1 = p.total s.txnR.isLong) :
    s.currentState = waitState s.txnR.isLong ∧ s.timerDone = true := by
  have fall := p.riseAt_lt_fallAt
  have hold := p.fallAt_lt_holdAt
  have total := p.holdAt_lt_total s.txnR.isLong
  cases du with
  | setup _ left => omega
  | high _ _ left => omega
  | low _ _ left => omega
  | wait state _ left => exact ⟨state, timerDone_iff.mpr (by omega)⟩

/-- `lcd_e` is high from the clock in which it rises to the one in which it falls. -/
lemma During.lcdE (du : s.During p n) :
    s.out.lcdE = decide (p.riseAt ≤ n ∧ n < p.fallAt) := by
  have fall := p.riseAt_lt_fallAt
  have hold := p.fallAt_lt_holdAt
  have out : s.out.lcdE = decide (s.currentState = .eHigh) := rfl
  rw [out, decide_eq_decide]
  cases du with
  | setup state left =>
    rw [state]
    exact iff_of_false (by simp) (by omega)
  | high state ge left => exact iff_of_true state ⟨ge, by omega⟩
  | low state ge left =>
    rw [state]
    exact iff_of_false (by simp) (by omega)
  | wait state ge left =>
    rw [state]
    cases s.txnR.isLong <;> exact iff_of_false LcdState.noConfusion (by omega)

/-- Until the bus is left `lcd_rs` shows the transaction. -/
lemma During.lcdRs (du : s.During p n) (lt : n < p.holdAt) : s.out.lcdRs = s.txnR.rs := by
  have out : s.out.lcdRs = (s.onBus && s.txnR.rs) := rfl
  have bus : s.onBus = true := by
    cases du with
    | setup state _ => simp [onBus, state]
    | high state _ _ => simp [onBus, state]
    | low state _ _ => simp [onBus, state]
    | wait _ ge _ => omega
  rw [out, bus, Bool.true_and]

/-- The host waits for the end of a transaction. -/
lemma During.notReady (du : s.During p n) : s.out.hostReady = false := by
  have busy : s.currentState ≠ .idle := by
    cases du with
    | setup state _ => rw [state]; exact LcdState.noConfusion
    | high state _ _ => rw [state]; exact LcdState.noConfusion
    | low state _ _ => rw [state]; exact LcdState.noConfusion
    | wait state _ _ => rw [state]; cases s.txnR.isLong <;> exact LcdState.noConfusion
  exact decide_eq_false fun h => busy h.1

end During

end Controller

end ModularControl.Lcd
