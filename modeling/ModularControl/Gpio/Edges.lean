import ModularControl.Gpio.Regs

/-!
# Edges of the GPIO inputs

An edge is a change of a pin's synchronised input from one cycle to the next, in the polarity in
force. `gpio_prev` is the last input in that polarity, so the block sees exactly the edges; but a
write that is accepted in the same cycle works on the pending bits after the edge has been recorded,
and a polarity write keeps all edges of its cycle from being recorded, on every pin.
-/

namespace ModularControl.Gpio
open Sync Axi

inductive Edge where
  | rise
  | fall
deriving DecidableEq, Repr

/-- The pending register of an edge. -/
def Edge.reg : Edge → BitVec 12
  | rise => REG_RISE_IP
  | fall => REG_FALL_IP

/-- The level that an edge leads to. -/
def Edge.level : Edge → Bool
  | rise => true
  | fall => false

/-- A cycle of the block: its pins and its MMIO channel. -/
structure GpioIn (w : Nat) where
  pins : BitVec w := 0
  valid : Bool := false
  req : MmioReq := ⟨false, 0, 0, 0⟩
  rspReady : Bool := true
deriving DecidableEq

namespace GpioRegs

variable {w : Nat} (s : GpioRegs w)

def pending : Edge → BitVec 32
  | .rise => s.riseIrqPendingReg
  | .fall => s.fallIrqPendingReg

def evt : Edge → BitVec w
  | .rise => s.riseEvt
  | .fall => s.fallEvt

/-- A write of one to the pending bit of pin `j`. -/
def clears (k : Edge) (i : GpioIn w) (j : Nat) : Bool :=
  s.wrHit i.valid i.req i.rspReady k.reg && (reqWmask i.req).getLsbD j

/-- A write of the polarities. -/
def polarityWrite (i : GpioIn w) : Bool := s.wrHit i.valid i.req i.rspReady REG_INPUT_POL

end GpioRegs

/-- The block with the synchronised inputs of the cycle before. -/
structure Watched (w : Nat) where
  regs : GpioRegs w
  last : BitVec w
deriving DecidableEq

namespace Watched

variable {w : Nat} (s : Watched w) (i : GpioIn w)

def step : Watched w where
  regs := s.regs.step i.pins i.valid i.req i.rspReady
  last := s.regs.gpioSync2Reg

/-- The level of pin `j` in the polarity in force. -/
def level (raw : BitVec w) (j : Nat) : Bool := (raw ^^^ s.regs.inputPolReg.setWidth w).getLsbD j

/-- Pin `j` shows an edge: its level was the other one in the cycle before. -/
def Shows (k : Edge) (j : Nat) : Prop :=
  s.level s.last j = !k.level ∧ s.level s.regs.gpioSync2Reg j = k.level

instance (k : Edge) (j : Nat) : Decidable (s.Shows k j) := inferInstanceAs (Decidable (_ ∧ _))

/-- Every edge of the cycle is pending in the next one. -/
def EdgesKept : Prop :=
  ∀ (k : Edge) (j : Fin 32), s.Shows k j → ((s.step i).regs.pending k).getLsbD j = true

/-- No edge meets a clear of its own pending bit, nor, unless it is pending already, a polarity
    write. -/
def Undisturbed : Prop :=
  ∀ (k : Edge) (j : Fin 32), s.Shows k j → s.regs.clears k i j = false ∧
    (s.regs.polarityWrite i = true → (s.regs.pending k).getLsbD j = true)

end Watched

/-- `gpio_regs`, with `w` pins. -/
def gpio (w : Nat) : Machine (Watched w) (GpioIn w) Unit where
  init := ⟨.reset, 0⟩
  step s i := s.step i
  out _ _ := ()

namespace Watched

variable {w : Nat} {s : Watched w} {i : GpioIn w} {k : Edge} {j : Nat}

/-- The stored previous level is the last input in the polarity in force. -/
def Tracks (s : Watched w) : Prop :=
  s.regs.gpioPrevReg = s.last ^^^ s.regs.inputPolReg.setWidth w

lemma tracks_reset : ((gpio w).init).Tracks := by
  simp [Tracks, gpio, GpioRegs.reset]

lemma tracks_step (s : Watched w) (i : GpioIn w) : (s.step i).Tracks := by
  cases h : s.regs.wrHit i.valid i.req i.rspReady REG_INPUT_POL <;>
    simp [Tracks, step, GpioRegs.step, GpioRegs.gpioInNorm, h]

/-- The events of the block are the edges. -/
lemma Tracks.evt_iff (tr : s.Tracks) : (s.regs.evt k).getLsbD j = true ↔ s.Shows k j := by
  have prev : s.regs.gpioPrevReg.getLsbD j = s.level s.last j := by rw [tr, level]
  have now : s.regs.gpioInNorm.getLsbD j = s.level s.regs.gpioSync2Reg j := rfl
  have small : s.level s.last j = true → j < w := fun h => BitVec.lt_of_getLsbD h
  have small' : s.level s.regs.gpioSync2Reg j = true → j < w := fun h => BitVec.lt_of_getLsbD h
  cases k with
  | rise =>
    rw [GpioRegs.evt, GpioRegs.riseEvt, BitVec.getLsbD_and, BitVec.getLsbD_not, prev, now]
    simp only [Shows, Edge.level, Bool.and_eq_true, decide_eq_true_eq, Bool.not_eq_true']
    constructor
    · rintro ⟨high, -, low⟩
      exact ⟨low, high⟩
    · rintro ⟨low, high⟩
      exact ⟨high, small' high, low⟩
  | fall =>
    rw [GpioRegs.evt, GpioRegs.fallEvt, BitVec.getLsbD_and, BitVec.getLsbD_not, prev, now]
    simp only [Shows, Edge.level, Bool.and_eq_true, decide_eq_true_eq, Bool.not_eq_true']
    constructor
    · rintro ⟨⟨-, low⟩, high⟩
      exact ⟨high, low⟩
    · rintro ⟨high, low⟩
      exact ⟨⟨small high, low⟩, high⟩

/-- A pending bit after a clock edge: recorded unless a polarity write keeps it out, then cleared. -/
lemma pending_step (lt : j < 32) : ((s.step i).regs.pending k).getLsbD j =
    (((s.regs.pending k).getLsbD j || (!s.regs.polarityWrite i && (s.regs.evt k).getLsbD j)) &&
      !s.regs.clears k i j) := by
  have recorded : (s.regs.pendingNext i.valid i.req i.rspReady (s.regs.pending k)
      (s.regs.evt k)).getLsbD j = ((s.regs.pending k).getLsbD j ||
        (!s.regs.polarityWrite i && (s.regs.evt k).getLsbD j)) := by
    rw [GpioRegs.pendingNext, GpioRegs.polarityWrite]
    cases s.regs.wrHit i.valid i.req i.rspReady REG_INPUT_POL with
    | true => simp
    | false => simp [GpioRegs.packGpio, lt]
  rw [← recorded, GpioRegs.clears]
  cases k with
  | rise =>
    cases h : s.regs.wrHit i.valid i.req i.rspReady REG_RISE_IP <;>
      simp [step, GpioRegs.step, GpioRegs.pending, GpioRegs.evt, Edge.reg, h, lt]
  | fall =>
    cases h : s.regs.wrHit i.valid i.req i.rspReady REG_FALL_IP <;>
      simp [step, GpioRegs.step, GpioRegs.pending, GpioRegs.evt, Edge.reg, h, lt]

lemma Tracks.edgesKept_iff (tr : s.Tracks) (i : GpioIn w) : s.EdgesKept i ↔ s.Undisturbed i := by
  refine forall_congr' fun k => forall_congr' fun j => imp_congr_right fun shows => ?_
  have evt := tr.evt_iff.mpr shows
  rw [pending_step j.isLt, evt]
  cases s.regs.clears k i j <;> cases s.regs.polarityWrite i <;> simp

/-- The synchronised input of pin `j` has changed, in the direction that is an edge in the polarity in
    force. -/
def Turns (s : Watched w) (k : Edge) (j : Nat) : Prop :=
  j < w ∧ s.last.getLsbD j = (!k.level ^^ s.regs.inputPolReg.getLsbD j) ∧
    s.regs.gpioSync2Reg.getLsbD j = (k.level ^^ s.regs.inputPolReg.getLsbD j)

lemma level_eq (s : Watched w) (raw : BitVec w) (lt : j < w) :
    s.level raw j = (raw.getLsbD j ^^ s.regs.inputPolReg.getLsbD j) := by
  rw [level, BitVec.getLsbD_xor, BitVec.getLsbD_setWidth, decide_eq_true lt, Bool.true_and]

/-- An edge is a change of the input. -/
lemma Shows.turns (shows : s.Shows k j) : s.Turns k j := by
  obtain ⟨before, now⟩ := shows
  have lt : j < w := by
    cases k with
    | rise => exact BitVec.lt_of_getLsbD now
    | fall => exact BitVec.lt_of_getLsbD before
  rw [s.level_eq _ lt] at before now
  refine ⟨lt, ?_, ?_⟩
  · rw [← before, Bool.xor_assoc, Bool.xor_self, Bool.xor_false]
  · rw [← now, Bool.xor_assoc, Bool.xor_self, Bool.xor_false]

/-- A pending bit that is set in a cycle is set by an edge. -/
lemma Tracks.shows_of_set (tr : s.Tracks) (lt : j < 32)
    (clear : (s.regs.pending k).getLsbD j = false)
    (set : ((s.step i).regs.pending k).getLsbD j = true) : s.Shows k j := by
  rw [pending_step lt, clear, Bool.false_or, Bool.and_eq_true, Bool.and_eq_true] at set
  exact tr.evt_iff.mp set.1.2

end Watched

/-- For every number of pins, in every run: `gpio_prev` is the last input in the polarity in force,
    and whatever is requested, a pending bit is set only if the input of its pin has changed, in the
    direction that the polarity makes an edge of its kind. -/
theorem gpio_no_false_edges (w : Nat) (is : List (GpioIn w)) :
    ((gpio w).after is).Tracks ∧
      ∀ (i : GpioIn w) (k : Edge) (j : Fin 32),
        (((gpio w).after is).regs.pending k).getLsbD j = false →
          (((gpio w).after (is ++ [i])).regs.pending k).getLsbD j = true →
            ((gpio w).after is).Turns k j := by
  have tr : ((gpio w).after is).Tracks :=
    (gpio w).invariant_rule Watched.tracks_reset (fun s i _ _ => s.tracks_step i)
      ((gpio w).along_true is)
  refine ⟨tr, fun i k j clear set => ?_⟩
  rw [Machine.after_snoc] at set
  exact (tr.shows_of_set j.isLt clear set).turns

/-- For every number of pins and every run: no edge is lost exactly if each comes undisturbed. -/
theorem gpio_edges_kept_iff (w : Nat) (is : List (GpioIn w)) :
    (gpio w).Along Watched.EdgesKept is ↔ (gpio w).Along Watched.Undisturbed is :=
  (gpio w).along_congr (P := Watched.Tracks) (C := fun _ _ => True) Watched.tracks_reset
    (fun s i _ _ _ => s.tracks_step i) (fun _ i tr _ => tr.edgesKept_iff i)
    ((gpio w).along_true is)

/-- Pin 0 rises; two cycles later the synchronised input shows it. -/
def pinRises : List (GpioIn 1) := [{ pins := 1 }, { pins := 1 }]

/-- A write of all lanes, with pin 0 high. -/
def writeHigh (addr : BitVec 12) (data : BitVec 32) : GpioIn 1 :=
  { pins := 1, valid := true, req := ⟨true, addr, data, 0b1111⟩ }

/-- An edge seen in the cycle of a clear of its bit is lost, and so is one seen in the cycle of a
    polarity write that leaves its pin's polarity as it is. -/
theorem gpio_edge_lost :
    ((gpio 1).after pinRises).Shows .rise 0 ∧
      (((gpio 1).after (pinRises ++ [writeHigh REG_RISE_IP 1])).regs.pending .rise).getLsbD 0 =
        false ∧
      (((gpio 1).after (pinRises ++ [writeHigh REG_INPUT_POL 2])).regs.pending .rise).getLsbD 0 =
        false ∧
      ¬ (gpio 1).Along Watched.EdgesKept (pinRises ++ [writeHigh REG_RISE_IP 1]) := by
  refine ⟨by decide +kernel, by decide +kernel, by decide +kernel, fun kept => ?_⟩
  rw [Machine.along_snoc] at kept
  exact absurd (kept.2 .rise 0 (by decide +kernel)) (by decide +kernel)

end ModularControl.Gpio
