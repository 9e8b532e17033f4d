import ModularControl.I2c.Bench
import ModularControl.I2c.Divisor
import ModularControl.I2c.Timing
import ModularControl.Sync.Stream

/-!
# The bits of a programmed divisor

A bit cell is four quarters, each of them one clock longer at least than the divisor latched at the
START of its transaction. From the divisor register to the START nothing but another write of it
comes between, so that a transaction started after `i2c_set_divisor` is never faster than asked for.
-/

namespace ModularControl.I2c
open Sync Axi

section Cells

variable (p : Params) (c : Nat → Core) (i : Nat → CoreIn)

/-- The core is in the phase `st` from cycle `a`, in which it enters it, to cycle `b`, in which it
    has left it, and is not aborted. -/
structure Occupies (st : State) (a b : Nat) : Prop where
  enters : ∃ t, a = t + 1 ∧ (c t).stateReg ≠ st
  lt : a < b
  within : ∀ t, a ≤ t → t < b → (c t).stateReg = st ∧ (c t).abortFire p (i t) = false
  leaves : (c b).stateReg ≠ st

/-- A bit cell, of a data or an ACK bit: the four quarters, one after the other. -/
def Cell (a b : Nat) : Prop :=
  ∃ u v w, Occupies p c i .data1 a u ∧ Occupies p c i .data2 u v ∧ Occupies p c i .data3 v w ∧
    Occupies p c i .data4 w b

variable {p c i} {st : State} {a b t : Nat}

lemma Occupies.timed (oc : Occupies p c i st a b) (quarter : st.quarter = true) (ge : a ≤ t)
    (lt : t < b) : (c t).timed = true := by
  rw [Core.timed, (oc.within t ge lt).1, quarter, Bool.or_true]

/-- The tick counter never shows more than the clocks gone by. -/
lemma Occupies.counts (run : ∀ t, c (t + 1) = (c t).step p (i t)) (quarter : st.quarter = true)
    (oc : Occupies p c i st a b) (ge : a ≤ t) (lt : t < b) :
    a + (c t).tickCntReg.toNat ≤ t ∧ (c t).divisorReg = (c a).divisorReg := by
  induction t, ge using Nat.le_induction with
  | base =>
    obtain ⟨u, rfl, other⟩ := oc.enters
    have new : (c (u + 1)).tickCntReg = 0 := by
      rw [run]
      refine Core.tick_new (.inl ?_)
      rw [← run, (oc.within _ (Nat.le_refl _) lt).1]
      exact other.symm
    rw [new]
    exact ⟨Nat.le_refl _, rfl⟩
  | succ t ge ih =>
    have lt' : t < b := Nat.lt_of_succ_lt lt
    have timed := oc.timed quarter ge lt'
    obtain ⟨tick, divisor⟩ := ih lt'
    obtain ⟨state, noAbort⟩ := oc.within t ge lt'
    have goesOn : (c t).phaseEnd = false := by
      rw [← Bool.not_eq_true]
      intro ended
      refine (Core.leaves_iff timed noAbort).mpr ended ?_
      rw [← run, (oc.within _ (Nat.le_succ_of_le ge) lt).1, state]
    have next := Core.tick_step timed noAbort
    rw [goesOn, if_neg Bool.false_ne_true, ← run] at next
    have kept := Core.divisor_kept (p := p) (i := i t) timed
    have small := toNat_succ_le (c t).tickCntReg
    rw [← run] at kept
    refine ⟨?_, kept.trans divisor⟩
    rw [next]
    omega

/-- A quarter lasts a clock more than the divisor, at least. -/
lemma Occupies.lasts (run : ∀ t, c (t + 1) = (c t).step p (i t)) (quarter : st.quarter = true)
    (oc : Occupies p c i st a b) :
    a + (c a).divisorReg.toNat + 1 ≤ b ∧ (c b).divisorReg = (c a).divisorReg := by
  obtain ⟨t, rfl⟩ : ∃ t, b = t + 1 := ⟨b - 1, by have := oc.lt; omega⟩
  have ge : a ≤ t := Nat.le_of_lt_succ oc.lt
  have timed := oc.timed quarter ge (Nat.lt_succ_self t)
  obtain ⟨tick, divisor⟩ := oc.counts run quarter ge (Nat.lt_succ_self t)
  obtain ⟨state, noAbort⟩ := oc.within t ge (Nat.lt_succ_self t)
  have ended : (c t).phaseEnd = true := by
    refine (Core.leaves_iff timed noAbort).mp ?_
    rw [← run, state]
    exact oc.leaves
  have reached : (c t).tickCntReg = (c t).phaseCnt := (Core.phaseEnd_iff.mp ended).1
  have kept := Core.divisor_kept (p := p) (i := i t) timed
  have value : (c t).phaseCnt = (c a).divisorReg := by
    have full : st.half = false := by cases st <;> first | rfl | cases quarter
    rw [Core.phaseCnt, state, full, if_neg Bool.false_ne_true, Core.quarterCnt, divisor]
  rw [reached, value] at tick
  rw [← run] at kept
  exact ⟨by omega, kept.trans divisor⟩

lemma Cell.lasts (run : ∀ t, c (t + 1) = (c t).step p (i t)) (ce : Cell p c i a b) :
    a + 4 * ((c a).divisorReg.toNat + 1) ≤ b := by
  obtain ⟨u, v, w, first, second, third, fourth⟩ := ce
  obtain ⟨le1, kept1⟩ := first.lasts run rfl
  obtain ⟨le2, kept2⟩ := second.lasts run rfl
  obtain ⟨le3, kept3⟩ := third.lasts run rfl
  obtain ⟨le4, -⟩ := fourth.lasts run rfl
  rw [kept1] at le2 kept2
  rw [kept2] at le3 kept3
  rw [kept3] at le4
  omega

/-- Until the next START the divisor is the one that the last latched. -/
lemma divisor_latched (run : ∀ t, c (t + 1) = (c t).step p (i t))
    (start : (c t).idleStartFire (i t) = true) (lt : t < a)
    (last : ∀ u, t < u → u < a → (c u).idleStartFire (i u) = false) :
    (c a).divisorReg = Core.divisorClamped p (i t) := by
  induction a, lt using Nat.le_induction with
  | base =>
    rw [run]
    exact if_pos start
  | succ a le ih =>
    have none_ := last a le (Nat.lt_succ_self a)
    rw [run, ← ih fun u gt lt => last u gt (Nat.lt_succ_of_lt lt)]
    exact if_neg (by rw [none_]; exact Bool.false_ne_true)

end Cells

section Block

variable (minDivisor : BitVec 16) (s : I2cRegs) (f : Nat → Port Pins MmioReq)

/-- The register block in the cycles of the stream `f`, from the state `s` on. -/
def blockAt (t : Nat) : I2cRegs :=
  Machine.atCycle { (i2cRegs minDivisor).machine with init := s } f t

/-- What its core is given. -/
def givenAt (t : Nat) : CoreIn :=
  (blockAt minDivisor s f t).coreIn (f t).env (f t).valid (f t).req (f t).rspReady

/-- The bit cells of its core. -/
def BitCell (a b : Nat) : Prop :=
  Cell { minDivisor } (fun t => (blockAt minDivisor s f t).core) (givenAt minDivisor s f) a b

/-- The divisor register is not written before cycle `t`. -/
def Unwritten (t : Nat) : Prop :=
  ∀ u < t, (blockAt minDivisor s f u).wrDivisorFire (f u).valid (f u).req (f u).rspReady = false

/-- The core accepts a START in cycle `t`, before the divisor register is written again, and it is
    the last one before cycle `a`. -/
structure StartedAt (t a : Nat) : Prop where
  start : (blockAt minDivisor s f t).core.idleStartFire (givenAt minDivisor s f t) = true
  unwritten : Unwritten minDivisor s f t
  before : t < a
  last : ∀ u, t < u → u < a →
    (blockAt minDivisor s f u).core.idleStartFire (givenAt minDivisor s f u) = false

/-- A bit from cycle `a` to cycle `b` lasts four times one clock more than the divisor, and longer
    than a period of the frequency asked for. -/
def SlowEnough (freqKHz : BitVec 16) (coreMHz : BitVec 8) (a b : Nat) : Prop :=
  4 * ((divisorFor freqKHz coreMHz).toNat + 1) ≤ b - a ∧
    1000 * coreMHz.toNat < (b - a) * freqKHz.toNat

/-- Every bit that the core runs until the divisor register is written again is slow enough. -/
def EveryBitSlow (minDivisor : BitVec 16) (s : I2cRegs) (freqKHz : BitVec 16)
    (coreMHz : BitVec 8) : Prop :=
  ∀ f a b, Unwritten minDivisor s f a → BitCell minDivisor s f a b →
    SlowEnough freqKHz coreMHz a b

variable {minDivisor s f} {t u a b : Nat}

lemma block_succ (t : Nat) : blockAt minDivisor s f (t + 1) =
    (blockAt minDivisor s f t).step minDivisor (f t).env (f t).valid (f t).req (f t).rspReady :=
  Machine.atCycle_succ _ f t

lemma block_core (t : Nat) : (blockAt minDivisor s f (t + 1)).core =
    (blockAt minDivisor s f t).core.step { minDivisor } (givenAt minDivisor s f t) := by
  rw [block_succ]
  rfl

/-- The divisor register keeps its value until it is written. -/
lemma block_divisor (unwritten : Unwritten minDivisor s f t) :
    (blockAt minDivisor s f t).divisorReg = s.divisorReg := by
  induction t with
  | zero => rfl
  | succ t ih =>
    have none_ := unwritten t (Nat.lt_succ_self t)
    rw [block_succ, ← ih fun u lt => unwritten u (Nat.lt_succ_of_lt lt)]
    exact if_neg (by rw [none_]; exact Bool.false_ne_true)

/-- The bits of a transaction have the divisor of its START. -/
lemma BitCell.lasts (ce : BitCell minDivisor s f a b) (st : StartedAt minDivisor s f t a) :
    4 * (s.divisorReg.toNat + 1) ≤ b - a := by
  have lasts := Cell.lasts block_core ce
  have latched := divisor_latched (p := { minDivisor }) block_core st.start st.before st.last
  have given : (givenAt minDivisor s f t).divisor = s.divisorReg := block_divisor st.unwritten
  have clamped : s.divisorReg.toNat ≤
      (Core.divisorClamped { minDivisor } (givenAt minDivisor s f t)).toNat := by
    rw [Core.divisorClamped, given]
    split_ifs with below
    · exact Nat.le_of_lt below
    · exact Nat.le_refl _
  rw [latched] at lasts
  omega

/-- Four quarters that are each a clock longer than asked for are longer than the period. -/
lemma slowEnough {freqKHz : BitVec 16} {coreMHz : BitVec 8} (freq : 0 < freqKHz.toNat)
    (clock : 0 < coreMHz.toNat)
    (long : 4 * ((divisorFor freqKHz coreMHz).toNat + 1) ≤ b - a) :
    SlowEnough freqKHz coreMHz a b := by
  refine ⟨long, ?_⟩
  have enough : 1000 * coreMHz.toNat ≤ 4 * (divisorFor freqKHz coreMHz).toNat * freqKHz.toNat :=
    (divisorFor_least freq clock).1.2
  calc 1000 * coreMHz.toNat
      ≤ 4 * (divisorFor freqKHz coreMHz).toNat * freqKHz.toNat := enough
    _ < 4 * ((divisorFor freqKHz coreMHz).toNat + 1) * freqKHz.toNat :=
      Nat.mul_lt_mul_of_pos_right (by omega) freq
    _ ≤ (b - a) * freqKHz.toNat := Nat.mul_le_mul_right _ long

/-- The write of the divisor register arrives. -/
lemma writeDivisor_triple {W : World Pins} (divisor : BitVec 16) :
    Triple (Vacant minDivisor) (i2cWriteDivisorRaw (i2cMmio minDivisor W) divisor) fun _ t =>
      t.regs.divisorReg = divisor := by
  have write : Triple (fun t => Vacant minDivisor t ∧ True)
      (i2cWriteDivisorRaw (i2cMmio minDivisor W) divisor) fun _ t =>
        Vacant minDivisor t ∧ t.regs.divisorReg = divisor := by
    refine Bench.access_writes (i2cRegs_lawful minDivisor) (i2cRegs_steady minDivisor)
      (L := fun _ => True) (fun _ _ => trivial) (fun t free _ => ?_) fun t r held => ?_
    · have taken : t.regs.wrDivisorFire true
          (writeReq I2C_REG_DIVISOR_OFFSET (divisor.setWidth 32)) false = true := by
        have empty : t.regs.rspValid = false := free.empty
        simp [I2cRegs.wrDivisorFire, I2cRegs.wrFire, I2cRegs.reqFire, I2cRegs.reqReady, empty,
          writeReq, I2C_REG_DIVISOR_OFFSET, REG_DIVISOR]
      refine (if_pos taken).trans ?_
      show (mergeWstrb _ (divisor.setWidth 32) 0b1111).setWidth 16 = divisor
      rw [mergeWstrb_full]
      simp
    · exact held
  exact (write.pre fun t vacant => ⟨vacant, trivial⟩).post fun _ _ h => h.2

end Block

/-- For every frequency and clock other than 0, every bus and every time the accesses take, and from
    every state of the register block in which no response waits: nothing wraps, the divisor
    programmed is the least that does not exceed the frequency, and every bit of a transaction that
    is started with it, whatever SCL does, is slow enough. -/
theorem setDivisor_slow_enough (minDivisor : BitVec 16) (W : World Pins)
    (t : Bench I2cRegs Pins MmioReq) (vacant : Vacant minDivisor t) (freqKHz : BitVec 16)
    (coreMHz : BitVec 8) (freq : freqKHz ≠ 0) (clock : coreMHz ≠ 0) :
    let s := ((i2cSetDivisor (i2cMmio minDivisor W) freqKHz coreMHz).run t).2.regs
    Unwrapped freqKHz coreMHz ∧ s.divisorReg = divisorFor freqKHz coreMHz ∧
      IsLeast {d : Nat | 1 ≤ d ∧ 1000 * coreMHz.toNat ≤ 4 * d * freqKHz.toNat}
        (divisorFor freqKHz coreMHz).toNat ∧
      ∀ f u a b, StartedAt minDivisor s f u a → BitCell minDivisor s f a b →
        SlowEnough freqKHz coreMHz a b := by
  intro s
  have freq_pos : 0 < freqKHz.toNat :=
    Nat.pos_of_ne_zero fun zero => freq (BitVec.eq_of_toNat_eq zero)
  have clock_pos : 0 < coreMHz.toNat :=
    Nat.pos_of_ne_zero fun zero => clock (BitVec.eq_of_toNat_eq zero)
  have programmed : s.divisorReg = divisorFor freqKHz coreMHz := by
    have write := writeDivisor_triple (W := W) (divisorFor freqKHz coreMHz) t vacant
    have run : i2cSetDivisor (i2cMmio minDivisor W) freqKHz coreMHz =
        i2cWriteDivisorRaw (i2cMmio minDivisor W) (divisorFor freqKHz coreMHz) :=
      if_neg fun zero => zero.elim freq clock
    rw [← run] at write
    exact write
  refine ⟨unwrapped freq_pos clock_pos, programmed, divisorFor_least freq_pos clock_pos,
    fun f u a b st ce => ?_⟩
  have long := ce.lasts st
  rw [programmed] at long
  exact slowEnough freq_pos clock_pos long

/-- Command words, each in a cycle of its own, with both lines released throughout. -/
def commandsAt (cmds : List (Nat × BitVec 32)) (t : Nat) : Port Pins MmioReq where
  env := ⟨true, true⟩
  valid := (cmds.lookup t).isSome
  req := writeReq I2C_REG_CMD_OFFSET ((cmds.lookup t).getD 0)
  rspReady := true

/-- 5 MHz from a core clock of 16 MHz: the divisor is 1, and the first bit after the START lasts 8
    clocks. -/
theorem setDivisor_slow_enough_first :
    let W : World Pins := { env := fun _ => ⟨true, true⟩, gap := fun _ => 0, lag := fun _ => 0 }
    let s := ((i2cSetDivisor (i2cMmio 1 W) 5000 16).run ⟨.reset 1, []⟩).2.regs
    let f := commandsAt [(0, 0), (6, 1)]
    StartedAt 1 s f 0 7 ∧ BitCell 1 s f 7 15 ∧
      SlowEnough 5000 16 7 15 := by
  intro W s f
  have alone : ∀ u, 1 ≤ u → u < 7 → (blockAt 1 s f u).core.idleStartFire
      (givenAt 1 s f u) = false := by
    decide +kernel
  have started : StartedAt 1 s f 0 7 :=
    ⟨by decide +kernel, fun u lt => absurd lt (Nat.not_lt_zero u), by decide, alone⟩
  have cell : BitCell 1 s f 7 15 :=
    ⟨9, 11, 13, ⟨⟨6, rfl, by decide +kernel⟩, by decide, by decide +kernel, by decide +kernel⟩,
      ⟨⟨8, rfl, by decide +kernel⟩, by decide, by decide +kernel, by decide +kernel⟩,
      ⟨⟨10, rfl, by decide +kernel⟩, by decide, by decide +kernel, by decide +kernel⟩,
      ⟨⟨12, rfl, by decide +kernel⟩, by decide, by decide +kernel, by decide +kernel⟩⟩
  have slow := (setDivisor_slow_enough 1 W ⟨.reset 1, []⟩ ⟨trivial, rfl⟩ 5000 16 (by decide)
    (by decide)).2.2.2
  exact ⟨started, cell, slow _ _ _ _ started cell⟩

/-- 100 kHz is programmed while a transaction is under way whose START has latched the divisor 1: its
    next bit lasts 8 clocks. -/
theorem setDivisor_under_way :
    let W : World Pins := { env := fun _ => ⟨true, true⟩, gap := fun _ => 10, lag := fun _ => 0 }
    let t := ((i2cCmdStart (i2cMmio 1 W)).run ⟨.reset 1, []⟩).2
    let s := ((i2cSetDivisor (i2cMmio 1 W) 100 50).run t).2.regs
    Vacant 1 t ∧ ¬ EveryBitSlow 1 s 100 50 := by
  intro W t s
  refine ⟨⟨trivial, by decide +kernel⟩, fun all => ?_⟩
  have cell : BitCell 1 s (commandsAt [(0, 1)]) 1 9 :=
    ⟨3, 5, 7, ⟨⟨0, rfl, by decide +kernel⟩, by decide, by decide +kernel, by decide +kernel⟩,
      ⟨⟨2, rfl, by decide +kernel⟩, by decide, by decide +kernel, by decide +kernel⟩,
      ⟨⟨4, rfl, by decide +kernel⟩, by decide, by decide +kernel, by decide +kernel⟩,
      ⟨⟨6, rfl, by decide +kernel⟩, by decide, by decide +kernel, by decide +kernel⟩⟩
  have unwritten : ∀ u < 1, (blockAt 1 s (commandsAt [(0, 1)]) u).wrDivisorFire
      (commandsAt [(0, 1)] u).valid (commandsAt [(0, 1)] u).req
      (commandsAt [(0, 1)] u).rspReady = false := by
    decide +kernel
  have slow := (all _ 1 9 unwritten cell).1
  revert slow
  decide +kernel

end ModularControl.I2c
