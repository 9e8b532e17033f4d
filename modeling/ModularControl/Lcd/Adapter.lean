import ModularControl.Common.SyncFifo
import ModularControl.Lcd.Pulses

/-!
# From the FIFO to the display

`fifo_to_lcd_adapter.sv` between `sync_fifo` and the controller. The adapter pops an entry when the
controller is ready, and offers it in the next cycle, when the FIFO presents it.
-/

namespace ModularControl.Lcd
open Sync Common

/-- `state_t` of the adapter. -/
inductive AdapterState where
  | wait
  | pop
  | pulse
deriving DecidableEq, Repr

namespace AdapterState

variable (s : AdapterState)

def next (initDone hostReady fifoEmpty : Bool) : AdapterState :=
  match s with
  | wait => if initDone && hostReady && !fifoEmpty then pop else wait
  | pop => pulse
  | pulse => wait

def fifoRdEn : Bool := s = pop

/-- What the adapter offers to the controller. -/
def host (fifoDout : BitVec 9) : LcdIn where
  hostValid := s = pulse
  hostRs := fifoDout.getLsbD 8
  hostData := fifoDout.extractLsb' 0 8

end AdapterState

/-- An entry of the FIFO as the display takes it. -/
def entry (word : BitVec 9) : Bool × BitVec 8 := (word.getLsbD 8, word.extractLsb' 0 8)

/-- What is written into the FIFO in a cycle. -/
structure Write where
  wrEn : Bool := false
  din : BitVec 9 := 0
deriving DecidableEq, Repr

/-- The FIFO, the adapter and the controller. -/
structure Display (k w v : Nat) where
  fifo : SyncFifo k 9
  adapter : AdapterState
  lcd : Controller w v

namespace Display

variable (p : LcdParams) {k w v : Nat} (s : Display k w v) (i : Write)

/-- What the controller is offered. -/
def host : LcdIn := s.adapter.host s.fifo.dout

/-- The entry that is popped in a cycle. -/
def popped : Option (BitVec 9) :=
  if s.fifo.doRead s.adapter.fifoRdEn then some (s.fifo.step i.wrEn i.din s.adapter.fifoRdEn).dout
  else none

def step : Display k w v where
  fifo := s.fifo.step i.wrEn i.din s.adapter.fifoRdEn
  adapter := s.adapter.next s.lcd.out.initDone s.lcd.out.hostReady s.fifo.empty
  lcd := s.lcd.step p s.host

end Display

/-- The three of them as a machine that shows what is popped, with the memory of the FIFO at
    power-up. -/
def display (p : LcdParams) (k : Nat) (mem : BitVec k → BitVec 9) :
    Machine (Display k p.timerBits p.indexBits) Write (Option (BitVec 9)) where
  init := ⟨.reset mem, .wait, .reset⟩
  step s i := s.step p i
  out s i := s.popped i

section Streams

variable (p : LcdParams) (k : Nat) (mem : BitVec k → BitVec 9) (f : Nat → Write)

/-- What the controller is offered in a cycle. -/
def offered (t : Nat) : LcdIn := ((display p k mem).atCycle f t).host

/-- What is popped in a cycle, as the display takes it. -/
def popped (t : Nat) : Option (Bool × BitVec 8) := ((display p k mem).outAt f t).map entry

/-- The controller runs on what the adapter offers. -/
lemma lcd_display (t : Nat) :
    ((display p k mem).atCycle f t).lcd = regs p (offered p k mem f) t :=
  (display p k mem).atCycle_project (hd44780ParallelLcd p) Display.lcd (fun s _ => s.host) rfl
    (fun _ _ => rfl) f t

end Streams

end ModularControl.Lcd
