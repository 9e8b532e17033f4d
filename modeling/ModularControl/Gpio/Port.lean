import ModularControl.Axi.Facade
import ModularControl.Gpio.Acknowledge

/-!
# The port driver

The calls of `gpio_regs.c` in front of `gpio_regs.sv`, in any order, with any time between their
accesses and whatever the pins do. They work on a PIC-style port: directions, output levels, and the
edges of the inputs since a pin's flag was cleared last.
-/

namespace ModularControl.Gpio
open Sync Axi

def GPIO_BASE : BitVec 32 := 0x00050000

def GPIO_REG_DATA_IN_OFFSET : BitVec 32 := 0x00
def GPIO_REG_DATA_OUT_OFFSET : BitVec 32 := 0x04
def GPIO_REG_DATA_OE_OFFSET : BitVec 32 := 0x08

section Driver

variable {σ : Type} (m : Words σ) (gpioBase : BitVec 32)

def setTris (trisMask : BitVec 32) : StateM σ Unit :=
  m.store (gpioBase + GPIO_REG_DATA_OE_OFFSET) (~~~trisMask)

def readPort : StateM σ (BitVec 32) := m.load (gpioBase + GPIO_REG_DATA_IN_OFFSET)

def writePort (value : BitVec 32) : StateM σ Unit :=
  m.store (gpioBase + GPIO_REG_DATA_OUT_OFFSET) value

/-- The C shift is defined for a `bit_index` below 32. -/
def readPin (bitIndex : Fin 32) : StateM σ (BitVec 32) := do
  return (← readPort m gpioBase) >>> bitIndex.val &&& 1

def writePin (bitIndex : Fin 32) (value : BitVec 32) : StateM σ Unit := do
  let portValue ← m.load (gpioBase + GPIO_REG_DATA_OUT_OFFSET)
  let bitMask := 1#32 <<< bitIndex.val
  let portValue := if value ≠ 0 then portValue ||| bitMask else portValue &&& ~~~bitMask
  m.store (gpioBase + GPIO_REG_DATA_OUT_OFFSET) portValue

end Driver

inductive PortCall where
  | setTris (trisMask : BitVec 32)
  | readPort
  | writePort (value : BitVec 32)
  | readEdge
  | clearEdge (edgeMask : BitVec 32)
  | readPin (bitIndex : Fin 32)
  | writePin (bitIndex : Fin 32) (value : BitVec 32)
deriving DecidableEq

section Calls

variable {w : Nat} (W : World (BitVec w))

/-- A call, and what it returns, 0 if that is nothing. -/
def PortCall.run : PortCall → StateM (GpioBench w) (BitVec 32)
  | setTris trisMask => do
    Gpio.setTris (deviceWords (gpioRegs w) W) GPIO_BASE trisMask
    return 0
  | readPort => Gpio.readPort (deviceWords (gpioRegs w) W) GPIO_BASE
  | writePort value => do
    Gpio.writePort (deviceWords (gpioRegs w) W) GPIO_BASE value
    return 0
  | readEdge => Gpio.readEdge W
  | clearEdge edgeMask => do
    Gpio.clearEdge W edgeMask
    return 0
  | readPin bitIndex => Gpio.readPin (deviceWords (gpioRegs w) W) GPIO_BASE bitIndex
  | writePin bitIndex value => do
    Gpio.writePin (deviceWords (gpioRegs w) W) GPIO_BASE bitIndex value
    return 0

/-- The inputs as the block sees them in a cycle, two cycles late. -/
def inputAt (u : Nat) : BitVec w := if u < 2 then 0 else W.env (u - 2)

/-- The input of pin `j` changes. -/
def EdgeAt (k : Edge) (j u : Nat) : Prop :=
  (inputAt W (u - 1)).getLsbD j = !k.level ∧ (inputAt W u).getLsbD j = k.level

instance (k : Edge) (j u : Nat) : Decidable (EdgeAt W k j u) := inferInstanceAs (Decidable (_ ∧ _))

end Calls

/-- The port: the directions, the levels to be driven, and from which cycle on edges count. -/
structure Pads where
  tris : BitVec 32
  latch : BitVec 32
  since : Edge → Nat → Nat

namespace Pads

/-- After reset every pin is an input. -/
def reset : Pads := ⟨.allOnes 32, 0, fun _ _ => 0⟩

/-- There has been an edge of pin `j` since its flag was cleared. -/
def Pending {w : Nat} (W : World (BitVec w)) (p : Pads) (k : Edge) (j u : Nat) : Prop :=
  ∃ e, p.since k j ≤ e ∧ e < u ∧ EdgeAt W k j e

/-- A store in cycle `u`. -/
def store (p : Pads) (u : Nat) (offset : BitVec 12) (value : BitVec 32) : Pads where
  tris := if offset = REG_DATA_OE then ~~~value else p.tris
  latch := if offset = REG_DATA_OUT then value else p.latch
  since k j := if offset = k.reg ∧ value.getLsbD j then u + 1 else p.since k j

/-- The flags of the mask are cleared, in the cycles `u` and `v`. -/
def clear (p : Pads) (edgeMask : BitVec 32) (u v : Nat) : Pads :=
  { p with since := fun k j => if edgeMask.getLsbD j then each (u + 1) (v + 1) k else p.since k j }

variable {p : Pads} {u v : Nat} {value : BitVec 32}

lemma store_oe : p.store u REG_DATA_OE (~~~value) = { p with tris := value } := by
  have other (k : Edge) : REG_DATA_OE ≠ k.reg := by cases k <;> decide
  simp [store, other, show REG_DATA_OE ≠ REG_DATA_OUT by decide]

lemma store_out : p.store u REG_DATA_OUT value = { p with latch := value } := by
  have other (k : Edge) : REG_DATA_OUT ≠ k.reg := by cases k <;> decide
  simp [store, other, show REG_DATA_OUT ≠ REG_DATA_OE by decide]

lemma store_reg (k : Edge) : p.store u k.reg value =
    { p with since := fun k' j => if k = k' ∧ value.getLsbD j then u + 1 else p.since k' j } := by
  have out : k.reg ≠ REG_DATA_OUT := by cases k <;> decide
  have oe : k.reg ≠ REG_DATA_OE := by cases k <;> decide
  have same (k' : Edge) : k.reg = k'.reg ↔ k = k' := by cases k <;> cases k' <;> decide
  simp [store, out, oe, same]

lemma store_both :
    (p.store u Edge.rise.reg value).store v Edge.fall.reg value = p.clear value u v := by
  rw [store_reg, store_reg, clear]
  congr 1
  funext k j
  cases k <;> simp [each]

end Pads

/-- `gpio_out_o` and `gpio_oe_o` are those of the port. -/
def GpioRegs.Drives {w : Nat} (s : GpioRegs w) (p : Pads) : Prop :=
  s.dataOutReg.setWidth w = p.latch.setWidth w ∧ s.dataOeReg.setWidth w = (~~~p.tris).setWidth w

/-- What a call between the cycles `a` and `b` does to the port, and what it returns. -/
def PortCall.Does {w : Nat} (W : World (BitVec w)) (call : PortCall) (a b : Nat) (p : Pads)
    (res : BitVec 32) (p' : Pads) : Prop :=
  match call with
  | setTris trisMask => p' = { p with tris := trisMask }
  | readPort => p' = p ∧ ∃ u, a ≤ u ∧ u < b ∧ res = GpioRegs.packGpio (inputAt W u)
  | writePort value => p' = { p with latch := value }
  | readEdge => p' = p ∧ ∃ u v, a ≤ u ∧ u < v ∧ v < b ∧ ∀ j : Fin 32,
      res.getLsbD j = true ↔ p.Pending W .rise j u ∨ p.Pending W .fall j v
  | clearEdge edgeMask => ∃ u v, a ≤ u ∧ u < v ∧ v < b ∧ p' = p.clear edgeMask u v
  | readPin bitIndex => p' = p ∧ ∃ u, a ≤ u ∧ u < b ∧
      res = if (inputAt W u).getLsbD bitIndex then 1 else 0
  | writePin bitIndex value => ∃ latch, p' = { p with latch := latch } ∧ ∀ j : Fin 32,
      latch.getLsbD j = if j = bitIndex then decide (value ≠ 0) else p.latch.getLsbD j

/-- The registers are those of the port. -/
structure Holds {w : Nat} (W : World (BitVec w)) (p : Pads) (t : GpioBench w) : Prop where
  run : t.RunFrom (gpioRegs w) .reset
  latch : t.regs.dataOutReg = p.latch
  tris : t.regs.dataOeReg = ~~~p.tris
  polarity : t.regs.inputPolReg = 0
  inputs : t.regs.gpioSync2Reg = inputAt W t.now
  coming : t.regs.gpioSync1Reg = inputAt W (t.now + 1)
  last : t.regs.gpioPrevReg = inputAt W (t.now - 1)
  since : ∀ k j, p.since k j ≤ t.now
  pending : ∀ (k : Edge) (j : Fin 32),
    (t.regs.pending k).getLsbD j = true ↔ p.Pending W k j t.now

section Cycle

variable {w : Nat} {W : World (BitVec w)} {p p' : Pads} {t : GpioBench w} {v r : Bool} {q : MmioReq}
  {k : Edge} {j : Nat}

lemma holds_reset : Holds W .reset ⟨.reset, []⟩ := by
  refine ⟨rfl, rfl, rfl, rfl, rfl, rfl, rfl, fun _ _ => Nat.zero_le _, fun k j => ?_⟩
  have none : ((gpioRegs w).init.pending k).getLsbD j = false := by
    cases k <;> exact BitVec.getLsbD_zero
  show ((gpioRegs w).init.pending k).getLsbD j = true ↔ _
  rw [none]
  constructor
  · intro set
    cases set
  · rintro ⟨e, -, lt, -⟩
    cases lt

/-- The events of the block are the changes of its inputs. -/
lemma Holds.evt_iff (ho : Holds W p t) : (t.regs.evt k).getLsbD j = true ↔ EdgeAt W k j t.now := by
  have tracks : Watched.Tracks ⟨t.regs, inputAt W (t.now - 1)⟩ := by
    simp [Watched.Tracks, ho.last, ho.polarity]
  refine tracks.evt_iff.trans ?_
  simp [Watched.Shows, Watched.level, ho.polarity, ho.inputs, EdgeAt]

/-- What a cycle does to the registers. -/
lemma Holds.cycle (ho : Holds W p t)
    (polarity : t.regs.wrHit v q r REG_INPUT_POL = false)
    (latch : (t.cycle (gpioRegs w) W v q r).regs.dataOutReg = p'.latch)
    (tris : (t.cycle (gpioRegs w) W v q r).regs.dataOeReg = ~~~p'.tris)
    (since : ∀ k j, p'.since k j =
      if t.regs.clears k ⟨W.env t.now, v, q, r⟩ j then t.now + 1 else p.since k j) :
    Holds W p' (t.cycle (gpioRegs w) W v q r) := by
  refine ⟨ho.run.cycle v q r, latch, tris, ?_, ?_, ?_, ?_, fun k j => ?_, fun k j => ?_⟩
  · simp [Bench.cycle, gpioRegs, GpioRegs.step, polarity, ho.polarity]
  · rw [Bench.now_cycle, ← ho.coming]
    rfl
  · rw [Bench.now_cycle, inputAt, if_neg (by omega)]
    rfl
  · rw [Bench.now_cycle, Nat.add_sub_cancel, ← ho.inputs]
    simp [Bench.cycle, gpioRegs, GpioRegs.step, GpioRegs.gpioInNorm, polarity, ho.polarity]
  · have le := ho.since k j
    rw [since, Bench.now_cycle]
    split_ifs <;> omega
  · have turn := Watched.pending_step (s := ⟨t.regs, 0⟩) (i := ⟨W.env t.now, v, q, r⟩) (k := k)
      j.isLt
    have old := ho.pending k j
    have edge := ho.evt_iff (k := k) (j := j)
    have le := ho.since k j
    rw [Bench.now_cycle]
    have now : ((t.cycle (gpioRegs w) W v q r).regs.pending k).getLsbD j = _ := turn
    rw [now, GpioRegs.polarityWrite, polarity, Bool.not_false, Bool.true_and]
    simp only [Pads.Pending, since]
    cases t.regs.clears k ⟨W.env t.now, v, q, r⟩ j with
    | true =>
      simp only [Bool.not_true, Bool.and_false, Bool.false_eq_true, if_true, false_iff]
      rintro ⟨e, ge, lt, -⟩
      omega
    | false =>
      simp only [Bool.not_false, Bool.and_true, Bool.false_eq_true, if_false, Bool.or_eq_true]
      rw [old, edge]
      constructor
      · rintro (⟨e, ge, lt, seen⟩ | seen)
        · exact ⟨e, ge, Nat.lt_succ_of_lt lt, seen⟩
        · exact ⟨t.now, le, Nat.lt_succ_self _, seen⟩
      · rintro ⟨e, ge, lt, seen⟩
        obtain rfl | before := Nat.eq_or_lt_of_le (Nat.le_of_lt_succ lt)
        · exact .inr seen
        · exact .inl ⟨e, ge, before, seen⟩

/-- While nothing is requested the port stays as it is. -/
lemma Holds.idle (ho : Holds W p t) : Holds W p (t.cycle (gpioRegs w) W false q r) := by
  have hit (reg : BitVec 12) : t.regs.wrHit false q r reg = false := rfl
  refine ho.cycle (hit _) ?_ ?_ fun k j => ?_
  · rw [← ho.latch]
    rfl
  · rw [← ho.tris]
    rfl
  · rfl

/-- A load takes nothing from the port. -/
lemma Holds.loads (ho : Holds W p t) (read : q.write = false) :
    Holds W p (t.cycle (gpioRegs w) W true q r) := by
  have hit (reg : BitVec 12) : t.regs.wrHit true q r reg = false := by
    simp [GpioRegs.wrHit, read]
  refine ho.cycle (hit _) ?_ ?_ fun k j => ?_
  · simp [Bench.cycle, gpioRegs, GpioRegs.step, hit, ho.latch]
  · simp [Bench.cycle, gpioRegs, GpioRegs.step, hit, ho.tris]
  · simp [GpioRegs.clears, hit]

/-- A store, of another register than the polarities. -/
lemma Holds.stores (ho : Holds W p t) (free : t.Free (gpioRegs w) fun _ => True)
    {offset : BitVec 12} (other : offset ≠ REG_INPUT_POL) (value : BitVec 32) :
    Holds W (p.store t.now offset value)
      (t.cycle (gpioRegs w) W true (storeReq offset value) false) := by
  have empty : t.regs.rspValid = false := free.empty
  have hit (reg : BitVec 12) :
      t.regs.wrHit true (storeReq offset value) false reg = (offset == reg) := by
    simp [GpioRegs.wrHit, GpioRegs.reqFire, GpioRegs.reqReady, empty, storeReq, writeReq]
  have merge (old : BitVec 32) :
      mergeWstrb old (storeReq offset value).wdata (storeReq offset value).wstrb = value :=
    mergeWstrb_full old value
  refine ho.cycle ?_ ?_ ?_ fun k j => ?_
  · rw [hit]
    exact beq_eq_false_iff_ne.mpr other
  · simp [Bench.cycle, gpioRegs, GpioRegs.step, hit, merge, ho.latch, Pads.store]
  · simp only [Bench.cycle, gpioRegs, GpioRegs.step, hit, merge, ho.tris, Pads.store, beq_iff_eq]
    split_ifs
    · exact BitVec.not_not.symm
    · rfl
  · simp [GpioRegs.clears, hit, reqWmask_storeReq, Pads.store]

end Cycle

/-- The port in front of the registers. -/
def portFacade {w : Nat} (W : World (BitVec w)) : Facade (GpioRegs w) (BitVec w) Pads where
  holds := Holds W
  shows p _ s := s.Drives p

section Rules

variable {w : Nat} {W : World (BitVec w)} {value : BitVec 32}

lemma portFacade_lawful (W : World (BitVec w)) :
    (portFacade W).Lawful (gpioRegs w) W fun _ => True where
  law := gpioRegs_lawful w
  steady := gpioRegs_steady w
  run ho := ho.run
  shown ho := ⟨congrArg _ ho.latch, congrArg _ ho.tris⟩
  idle _ _ ho := ho.idle
  loads _ ho := ho.loads rfl

lemma gpioReadReg_eq (offset : BitVec 12) :
    gpioReadReg W offset = (deviceWords (gpioRegs w) W).load (offset.setWidth 32) := by
  simp only [gpioReadReg, deviceWords, loadReq,
    BitVec.setWidth_setWidth_of_le _ (show 12 ≤ 32 by decide), BitVec.setWidth_eq]

lemma gpioWriteReg_eq (offset : BitVec 12) :
    gpioWriteReg W offset value = (deviceWords (gpioRegs w) W).store (offset.setWidth 32) value := by
  simp only [gpioWriteReg, deviceWords, Axi.storeReq,
    BitVec.setWidth_setWidth_of_le _ (show 12 ≤ 32 by decide), BitVec.setWidth_eq]
  rfl

end Rules

section Calls

variable {w : Nat} {W : World (BitVec w)} {p : Pads} {a b : Nat}

/-- A read of the port finds the inputs of a cycle. -/
lemma readPort_reads : Triple
    (Facade.Ready (portFacade W) (gpioRegs w) (fun _ => True) a p b)
    (readPort (deviceWords (gpioRegs w) W) GPIO_BASE)
    fun x t => t.Free (gpioRegs w) (fun _ => True) ∧
      Facade.Reading (portFacade W) (gpioRegs w) a p t ∧
        ∃ u, b ≤ u ∧ u < t.now ∧ x = GpioRegs.packGpio (inputAt W u) := by
  refine Facade.load_reads (portFacade_lawful W)
    (S := fun u x => x = GpioRegs.packGpio (inputAt W u)) fun t ho => ?_
  have data : ((gpioRegs w).answer t.regs (W.env t.now)
      (loadReq (GPIO_BASE + GPIO_REG_DATA_IN_OFFSET))).rdata =
      GpioRegs.packGpio t.regs.gpioInNorm := rfl
  rw [data, GpioRegs.gpioInNorm, ho.polarity, ho.inputs]
  simp

/-- A read of a pending register finds the edges since its flags were cleared. -/
lemma pending_reads (k : Edge) : Triple
    (Facade.Ready (portFacade W) (gpioRegs w) (fun _ => True) a p b)
    (gpioReadReg W k.reg)
    fun x t => t.Free (gpioRegs w) (fun _ => True) ∧
      Facade.Reading (portFacade W) (gpioRegs w) a p t ∧
        ∃ u, b ≤ u ∧ u < t.now ∧ ∀ j : Fin 32, x.getLsbD j = true ↔ p.Pending W k j u := by
  rw [gpioReadReg_eq]
  refine Facade.load_reads (portFacade_lawful W)
    (S := fun u x => ∀ j : Fin 32, x.getLsbD j = true ↔ p.Pending W k j u) fun t ho j => ?_
  have data : ((gpioRegs w).answer t.regs (W.env t.now) (loadReq (k.reg.setWidth 32))).rdata =
      t.regs.pending k := by
    cases k <;> rfl
  rw [data]
  exact ho.pending k j

/-- A store to the outputs or the directions. -/
lemma store_drives {addr value : BitVec 32} (other : addr.setWidth 12 ≠ REG_INPUT_POL) : Triple
    (Facade.Ready (portFacade W) (gpioRegs w) (fun _ => True) a p b)
    ((deviceWords (gpioRegs w) W).store addr value)
    fun _ t => t.Free (gpioRegs w) (fun _ => True) ∧ ∃ u, b ≤ u ∧ u < t.now ∧
      Facade.Changed (portFacade W) (gpioRegs w) a p (p.store u (addr.setWidth 12) value) t :=
  Facade.store_changes (portFacade_lawful W) fun _ free ho => ho.stores free other value

/-- A store to a pending register leaves the outputs as they are. -/
lemma store_clears {value : BitVec 32} (k : Edge) : Triple
    (Facade.Ready (portFacade W) (gpioRegs w) (fun _ => True) a p b)
    (gpioWriteReg W k.reg value)
    fun _ t => t.Free (gpioRegs w) (fun _ => True) ∧ ∃ u, b ≤ u ∧ u < t.now ∧
      Facade.Reading (portFacade W) (gpioRegs w) a (p.store u k.reg value) t := by
  rw [gpioWriteReg_eq]
  refine Facade.store_hides (portFacade_lawful W) (P := fun u => p.store u k.reg value)
    (fun t free ho => ?_) fun x u s h => ?_
  · have other : k.reg ≠ REG_INPUT_POL := by cases k <;> decide
    have stored := ho.stores free other value
    cases k <;> exact stored
  · cases k <;> exact h

/-- The bits of a word of which one is written. -/
lemma getLsbD_writePin (old value : BitVec 32) (bitIndex j : Fin 32) :
    (if value ≠ 0 then old ||| 1#32 <<< bitIndex.val
      else old &&& ~~~(1#32 <<< bitIndex.val)).getLsbD j =
      if j = bitIndex then decide (value ≠ 0) else old.getLsbD j := by
  have bit : (1#32 <<< bitIndex.val).getLsbD j = decide (bitIndex.val = j.val) := by
    rw [← BitVec.twoPow_eq, BitVec.getLsbD_twoPow, decide_eq_true bitIndex.isLt, Bool.true_and]
  have clear : (~~~(1#32 <<< bitIndex.val)).getLsbD j = !decide (bitIndex.val = j.val) := by
    rw [BitVec.getLsbD_not, bit, decide_eq_true j.isLt, Bool.true_and]
  have same : j = bitIndex ↔ bitIndex.val = j.val := Fin.ext_iff.trans eq_comm
  split_ifs with set own own
  · rw [BitVec.getLsbD_or, bit, decide_eq_true (same.mp own), Bool.or_true, decide_eq_true set]
  · rw [BitVec.getLsbD_or, bit, decide_eq_false (mt same.mpr own), Bool.or_false]
  · rw [BitVec.getLsbD_and, clear, decide_eq_true (same.mp own), Bool.not_true, Bool.and_false,
      decide_eq_false set]
  · rw [BitVec.getLsbD_and, clear, decide_eq_false (mt same.mpr own), Bool.not_false, Bool.and_true]

lemma setTris_obeys (trisMask : BitVec 32) : Facade.Obeys (portFacade W) (gpioRegs w) (fun _ => True)
    (PortCall.run W) (PortCall.Does W) (.setTris trisMask) := fun _ _ =>
  (store_drives (by decide)).bind fun _ => .pure fun _ ⟨free, _, _, _, ch⟩ =>
    ⟨free, _, ch, Pads.store_oe⟩

lemma writePort_obeys (value : BitVec 32) : Facade.Obeys (portFacade W) (gpioRegs w) (fun _ => True)
    (PortCall.run W) (PortCall.Does W) (.writePort value) := fun _ _ =>
  (store_drives (by decide)).bind fun _ => .pure fun _ ⟨free, _, _, _, ch⟩ =>
    ⟨free, _, ch, Pads.store_out⟩

lemma readPort_obeys : Facade.Obeys (portFacade W) (gpioRegs w) (fun _ => True)
    (PortCall.run W) (PortCall.Does W) .readPort := fun p _ =>
  readPort_reads.post fun _ _ ⟨free, re, read⟩ => ⟨free, p, re.changed, rfl, read⟩

lemma readPin_obeys (bitIndex : Fin 32) : Facade.Obeys (portFacade W) (gpioRegs w) (fun _ => True)
    (PortCall.run W) (PortCall.Does W) (.readPin bitIndex) := by
  refine fun p a => readPort_reads.bind fun x => .pure fun t ⟨free, re, u, ge, lt, read⟩ => ?_
  refine ⟨free, p, re.changed, rfl, u, ge, lt, ?_⟩
  have small := bitIndex.isLt
  rw [read]
  apply BitVec.eq_of_getLsbD_eq
  intro j lt
  by_cases first : j = 0
  · cases level : (inputAt W u).getLsbD bitIndex <;>
      simp [GpioRegs.packGpio, first, level]
  · cases level : (inputAt W u).getLsbD bitIndex <;>
      simp [first]

/-- The outputs are read, one bit of them changed, and written back. -/
lemma writePin_changes (bitIndex : Fin 32) (value : BitVec 32) : Triple
    (Facade.Ready (portFacade W) (gpioRegs w) (fun _ => True) a p a)
    (writePin (deviceWords (gpioRegs w) W) GPIO_BASE bitIndex value)
    fun _ t => t.Free (gpioRegs w) (fun _ => True) ∧ ∃ u, a ≤ u ∧ u < t.now ∧
      Facade.Changed (portFacade W) (gpioRegs w) a p (p.store u REG_DATA_OUT
        (if value ≠ 0 then p.latch ||| 1#32 <<< bitIndex.val
          else p.latch &&& ~~~(1#32 <<< bitIndex.val))) t := by
  have reads (t : GpioBench w) (ho : Holds W p t) : ((gpioRegs w).answer t.regs (W.env t.now)
      (loadReq (GPIO_BASE + GPIO_REG_DATA_OUT_OFFSET))).rdata = p.latch := ho.latch
  refine (Facade.load_known (portFacade_lawful W) p.latch reads).bind fun x =>
    Triple.assume (fun t known => known.1) fun known => ?_
  rw [known]
  exact (store_drives (by decide)).pre fun t known => known.2

lemma writePin_obeys (bitIndex : Fin 32) (value : BitVec 32) :
    Facade.Obeys (portFacade W) (gpioRegs w) (fun _ => True) (PortCall.run W) (PortCall.Does W)
      (.writePin bitIndex value) := fun _ _ =>
  (writePin_changes bitIndex value).bind fun _ => .pure fun _ ⟨free, _, _, _, ch⟩ =>
    ⟨free, _, ch, _, Pads.store_out, getLsbD_writePin _ _ _⟩

lemma readEdge_obeys : Facade.Obeys (portFacade W) (gpioRegs w) (fun _ => True)
    (PortCall.run W) (PortCall.Does W) .readEdge := by
  intro p a
  refine (pending_reads .rise).bind fun riseBits t ⟨free, re, u, ge, lt, rise⟩ => ?_
  obtain ⟨free, re, v, ge', lt', fall⟩ := pending_reads .fall (W := W) t ⟨free, re, lt⟩
  refine ⟨free, p, re.changed, rfl, u, v, ge, ge', lt', fun j => ?_⟩
  rw [← rise j, ← fall j, ← Bool.or_eq_true]
  exact Bool.eq_iff_iff.mp BitVec.getLsbD_or

lemma clearEdge_clears (edgeMask : BitVec 32) : Triple
    (Facade.Ready (portFacade W) (gpioRegs w) (fun _ => True) a p a)
    (clearEdge W edgeMask)
    fun _ t => t.Free (gpioRegs w) (fun _ => True) ∧ ∃ u v, a ≤ u ∧ u < v ∧ v < t.now ∧
      Facade.Reading (portFacade W) (gpioRegs w) a (p.clear edgeMask u v) t := by
  refine (store_clears .rise).bind fun _ t ⟨free, u, ge, lt, re⟩ => ?_
  obtain ⟨free, v, ge', lt', re⟩ := store_clears .fall (W := W) t ⟨free, re, lt⟩
  rw [Pads.store_both] at re
  exact ⟨free, u, v, ge, ge', lt', re⟩

lemma clearEdge_obeys (edgeMask : BitVec 32) :
    Facade.Obeys (portFacade W) (gpioRegs w) (fun _ => True) (PortCall.run W) (PortCall.Does W)
      (.clearEdge edgeMask) := fun _ _ =>
  (clearEdge_clears edgeMask).bind fun _ => .pure fun _ ⟨free, u, v, ge, lt, lt', re⟩ =>
    ⟨free, _, re.changed_same, u, v, ge, lt, lt', rfl⟩

end Calls

/-- For every number of pins, in every list of calls, whatever the pins do and however long the
    accesses take: each call does to the port what it means, with the inputs and the edges of cycles
    within the call, and changes the outputs once at most, from what they were to what it means. -/
theorem gpio_port_calls {w : Nat} (W : World (BitVec w)) (calls : List PortCall) :
    ∃ p : Nat → Pads, p 0 = .reset ∧ ∀ i (lt : i < calls.length),
      Facade.Called (portFacade W) (gpioRegs w) (PortCall.Does W) calls[i]
        (Facade.calledAt (PortCall.run W) calls (gpioStart w) i).now (p i)
        ((calls[i].run W).run (Facade.calledAt (PortCall.run W) calls (gpioStart w) i)).1 (p (i + 1))
        (Facade.calledAt (PortCall.run W) calls (gpioStart w) (i + 1)) := by
  refine Facade.calls_course (portFacade_lawful W) (fun call => ?_) ⟨trivial, rfl⟩ holds_reset
  cases call with
  | setTris trisMask => exact setTris_obeys trisMask
  | readPort => exact readPort_obeys
  | writePort value => exact writePort_obeys value
  | readEdge => exact readEdge_obeys
  | clearEdge edgeMask => exact clearEdge_obeys edgeMask
  | readPin bitIndex => exact readPin_obeys bitIndex
  | writePin bitIndex value => exact writePin_obeys bitIndex value

end ModularControl.Gpio
