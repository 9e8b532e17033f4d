import ModularControl.I2c.Regs

/-!
# Clearing a recorded fault

The core latches each kind of fault and never lets go of it; the register block copies the latch
into a sticky bit in every cycle. A write of REG_FAULT clears the copy only, so it lasts exactly if
the core has never seen a fault of that kind.
-/

namespace ModularControl.I2c
open Sync Axi

/-- The stored fault kinds. -/
inductive FaultKind where
  | abortSeen
  | sdaUnstable
  | sclHighTimeout
deriving DecidableEq, Repr

/-- The bit of REG_FAULT that a kind has. -/
def FaultKind.bit : FaultKind → Nat
  | abortSeen => FAULT_ABORT_SEEN
  | sdaUnstable => FAULT_SDA_UNSTABLE
  | sclHighTimeout => FAULT_SCL_HIGH_TIMEOUT

/-- A cycle of the block: its pins and its MMIO channel. -/
structure RegsIn where
  pins : Pins := {}
  valid : Bool := false
  req : MmioReq := ⟨false, 0, 0, 0⟩
  rspReady : Bool := true
deriving DecidableEq, Repr

namespace I2cRegs

variable (k : FaultKind) (s : I2cRegs) (i : RegsIn)

/-- A fault of kind `k` happens in the core. -/
def event (minDivisor : BitVec 16) : Bool :=
  match k with
  | .abortSeen =>
    s.core.abortFire { minDivisor } (s.coreIn i.pins i.valid i.req i.rspReady)
  | .sdaUnstable => s.core.protocolFaultEvent
  | .sclHighTimeout => s.core.sclHighTimeoutEvent { minDivisor }

/-- The core's fault register of kind `k`. -/
def latch : Bool :=
  match k with
  | .abortSeen => s.core.faultAbortSeenReg
  | .sdaUnstable => s.core.faultSdaUnstableReg
  | .sclHighTimeout => s.core.faultSclHighTimeoutReg

/-- The register block's fault register of kind `k`. -/
def sticky : Bool :=
  match k with
  | .abortSeen => s.faultAbortSeenSticky
  | .sdaUnstable => s.faultSdaUnstableSticky
  | .sclHighTimeout => s.faultSclHighTimeoutSticky

/-- A write of REG_FAULT with the bit of kind `k` set and byte lane 0 enabled. -/
def clears : Bool :=
  s.wrFaultFire i.valid i.req i.rspReady && i.req.wstrb.getLsbD 0 && i.req.wdata.getLsbD k.bit

/-- What software reads in REG_FAULT. -/
def readFault : BitVec 32 := (s.answer ⟨false, REG_FAULT, 0, 0⟩).rdata

end I2cRegs

/-- `i2c_regs` connected to its core, one MMIO cycle at a time. -/
def i2c (minDivisor : BitVec 16) : Machine I2cRegs RegsIn Unit where
  init := .reset minDivisor
  step s i := s.step minDivisor i.pins i.valid i.req i.rspReady
  out _ _ := ()

/-- No fault of kind `k` happens in a cycle. -/
def NoEvent (minDivisor : BitVec 16) (k : FaultKind) (s : I2cRegs) (i : RegsIn) : Prop :=
  s.event k i minDivisor = false

instance (minDivisor : BitVec 16) (k : FaultKind) : DecidableRel (NoEvent minDivisor k) :=
  fun _ _ => inferInstanceAs (Decidable (_ = _))

/-- The clear of kind `k` lasts: unless a fault happens in its own cycle, the bit reads 0 from the
    next cycle on for as long as no fault of the kind happens. -/
def ClearLasts (minDivisor : BitVec 16) (k : FaultKind) (s : I2cRegs) (i : RegsIn) : Prop :=
  NoEvent minDivisor k s i →
    ∀ js, (i2c minDivisor).AlongFrom (NoEvent minDivisor k) ((i2c minDivisor).step s i) js →
      ((i2c minDivisor).runFrom ((i2c minDivisor).step s i) js).readFault.getLsbD k.bit = false

variable {minDivisor : BitVec 16} {k : FaultKind} {s : I2cRegs} {i : RegsIn}

/-- A bit of REG_FAULT is the register block's copy. -/
lemma readFault_bit (k : FaultKind) (s : I2cRegs) : s.readFault.getLsbD k.bit = s.sticky k := by
  cases k <;> cases h1 : s.faultAbortSeenSticky <;> cases h2 : s.faultSdaUnstableSticky <;>
    cases h3 : s.faultSclHighTimeoutSticky <;>
    simp [I2cRegs.readFault, I2cRegs.answer, I2cRegs.faultRdata, I2cRegs.faultAnySticky,
      I2cRegs.sticky, FaultKind.bit, bitAt, REG_FAULT, REG_STATUS, REG_DIVISOR, REG_TXDATA,
      REG_RXDATA, REG_CMD, REG_DEBUG, FAULT_ANY, FAULT_ABORT_SEEN, FAULT_SDA_UNSTABLE,
      FAULT_SCL_HIGH_TIMEOUT, h1, h2, h3]

/-- The core's latch is set by an event and never cleared. -/
lemma latch_step :
    ((i2c minDivisor).step s i).latch k = (s.event k i minDivisor || s.latch k) := by
  cases k <;> rfl

/-- A write-one-to-clear bit of byte lane 0. -/
lemma merged_lane0 (q : MmioReq) {j : Nat} (lt : j < 8) :
    (I2cRegs.merged q).getLsbD j = (q.wstrb.getLsbD 0 && q.wdata.getLsbD j) := by
  rw [I2cRegs.merged, getLsbD_mergeWstrb _ _ _ (by omega), Nat.div_eq_of_lt lt]
  cases q.wstrb.getLsbD 0 <;> simp

lemma clears_eq (k : FaultKind) (s : I2cRegs) (i : RegsIn) :
    s.clears k i =
      (s.wrFaultFire i.valid i.req i.rspReady && (I2cRegs.merged i.req).getLsbD k.bit) := by
  have lt : k.bit < 8 := by cases k <;> decide
  rw [merged_lane0 _ lt, I2cRegs.clears, Bool.and_assoc]

/-- A bit that is set before it is cleared before it is kept. -/
lemma set_clear_keep (set clear keep : Bool) :
    (if set then true else if clear then false else keep) = (set || (keep && !clear)) := by
  cases set <;> cases clear <;> cases keep <;> rfl

/-- The copy takes the latch over a clear. -/
lemma sticky_step :
    ((i2c minDivisor).step s i).sticky k = (s.latch k || (s.sticky k && !s.clears k i)) := by
  rw [clears_eq]
  cases k <;> exact set_clear_keep _ _ _

/-- The latch has recorded exactly whether there was a fault of its kind. -/
lemma latch_along (is : List RegsIn) :
    ((i2c minDivisor).after is).latch k = false ↔
      (i2c minDivisor).Along (NoEvent minDivisor k) is := by
  induction is using List.reverseRecOn with
  | nil => cases k <;> simp [i2c, I2cRegs.reset, I2cRegs.latch, Core.reset]
  | append_singleton is i ih =>
    rw [Machine.after_snoc, latch_step, Machine.along_snoc, ← ih, Bool.or_eq_false_iff, and_comm]
    rfl

/-- Latch and copy stay clear while nothing happens. -/
lemma clear_stays {js : List RegsIn} (latch : s.latch k = false) (sticky : s.sticky k = false)
    (al : (i2c minDivisor).AlongFrom (NoEvent minDivisor k) s js) :
    ((i2c minDivisor).runFrom s js).sticky k = false := by
  have kept := (i2c minDivisor).invariant_runFrom
    (P := fun s => s.latch k = false ∧ s.sticky k = false) ?_ ⟨latch, sticky⟩ al
  · exact kept.2
  · rintro s i ⟨latch, sticky⟩ quiet
    have quiet : s.event k i minDivisor = false := quiet
    exact ⟨by rw [latch_step, quiet, latch]; rfl, by rw [sticky_step, latch, sticky]; rfl⟩

/-- For every reachable state, every kind and every clearing write: the clear lasts exactly if a
    fault of that kind happens in its own cycle, or none has happened since reset. -/
theorem i2c_clear_lasts_iff (minDivisor : BitVec 16) (k : FaultKind) (is : List RegsIn)
    (i : RegsIn) (clear : ((i2c minDivisor).after is).clears k i = true) :
    ClearLasts minDivisor k ((i2c minDivisor).after is) i ↔
      ¬ NoEvent minDivisor k ((i2c minDivisor).after is) i ∨
        (i2c minDivisor).Along (NoEvent minDivisor k) is := by
  rw [← latch_along is]
  constructor
  · intro lasts
    by_cases quiet : NoEvent minDivisor k ((i2c minDivisor).after is) i
    · -- the very next cycle shows whether the latch was set
      right
      have zero := lasts quiet [] trivial
      rw [Machine.runFrom_nil, readFault_bit, sticky_step, Bool.or_eq_false_iff] at zero
      exact zero.1
    · exact .inl quiet
  · rintro (happens | latch) quiet js al
    · exact absurd quiet happens
    · rw [readFault_bit]
      refine clear_stays ?_ ?_ al
      · have quiet : ((i2c minDivisor).after is).event k i minDivisor = false := quiet
        rw [latch_step, quiet, latch]
        rfl
      · rw [sticky_step, latch, clear, Bool.not_true, Bool.and_false]
        rfl

/-- A write of byte lane 0. -/
def write (addr : BitVec 12) (data : BitVec 32) : RegsIn :=
  { valid := true, req := ⟨true, addr, data, 0b0001⟩ }

/-- A START, an abort in its first phase, and a pause. -/
def abortedStart : List RegsIn := [write REG_CMD 0x00, write REG_CMD 0x80, {}, {}]

/-- Without a fault on record the clear lasts. -/
theorem i2c_clear_lasts_unrecorded :
    ClearLasts 1 .abortSeen ((i2c 1).after []) (write REG_FAULT 0b0010) :=
  (i2c_clear_lasts_iff 1 .abortSeen [] (write REG_FAULT 0b0010) (by decide +kernel)).mpr
    (.inr trivial)

/-- After an abort the bit is back in the cycle after its clear, with no new abort. -/
theorem i2c_clear_undone :
    ((i2c 1).after abortedStart).clears .abortSeen (write REG_FAULT 0b0010) = true ∧
      ¬ ClearLasts 1 .abortSeen ((i2c 1).after abortedStart) (write REG_FAULT 0b0010) := by
  refine ⟨by decide +kernel, fun lasts => ?_⟩
  exact absurd (lasts (by decide +kernel) [] trivial) (by decide +kernel)

end ModularControl.I2c
