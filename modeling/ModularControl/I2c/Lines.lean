import ModularControl.I2c.Core

/-!
# The line discipline of the I2C master

Both outputs are registered, so in every cycle they are those of the state before. `Lines` says what
that leaves of them in each state of a run without an abort; the law of a cycle is read off it. It
fails in two places: entering RESTART releases SDA and SCL in one cycle, and with a divisor of 0 the
last data bit of a byte ends in the cycle in which SCL falls.
-/

namespace ModularControl.I2c
open Sync

namespace Core

/-- The driven SDA changes under SCL driven low, or falls under a released SCL in the first phase of
    a START, or rises under a released SCL in the second phase of a STOP. -/
def LineLaw (s s' : Core) : Prop :=
  s'.sdaDriven = s.sdaDriven ∨
    (s.sclOutReg = false ∧ s'.sclOutReg = false) ∨
    (s.sclOutReg = true ∧ s'.sclOutReg = true ∧
      ((s.stateReg = .start1 ∧ s.sdaDriven = true ∧ s'.sdaDriven = false) ∨
        (s.stateReg = .stop2 ∧ s.sdaDriven = false ∧ s'.sdaDriven = true)))

/-- SDA is about to change together with SCL: at the start of a RESTART, or at the end of the last
    data bit of a byte, driven low, if the divisor is 0. -/
def Race (s : Core) : Prop :=
  (s.stateReg = .restart ∧ s.sclOutReg = false) ∨
    (s.stateReg = .data4 ∧ s.divisorReg = 0 ∧ s.sclOutReg = true ∧ s.bitIdxReg = 7 ∧
      s.txReg.getLsbD 8 = false)

/-- A byte command in progress: the bits left to send end in the released acknowledge slot of a
    write. -/
def Byte (s : Core) : Prop :=
  s.bitIdxReg ≤ 8 ∧
    ((s.cmdReg = WR_CMD ∧ s.txReg.getLsbD s.bitIdxReg.toNat = true) ∨ s.cmdReg = RD_CMD)

/-- The outputs in each state of a run without an abort. -/
def Lines (s : Core) : Prop :=
  match s.stateReg with
  | .idle => s.sclOutReg = true ∧ s.sdaOutReg = true
  | .start1 => s.sclOutReg = true
  | .start2 => s.sdaOutReg = false
  | .hold => s.sclOutReg = false ∧ s.sdaOutReg = false
  | .restart => s.sdaOutReg = s.sclOutReg
  | .stop1 => s.sdaOutReg = false
  | .stop2 => s.sclOutReg = true
  | .data1 => s.sclOutReg = false ∧ s.Byte
  | .data2 | .data3 => s.sdaOutReg = s.txReg.getLsbD 8 ∧ s.Byte
  | .data4 => s.sdaOutReg = s.txReg.getLsbD 8 ∧ (s.sclOutReg = true → s.tickCntReg = 0) ∧ s.Byte
  | .dataEnd => s.sclOutReg = false
  | .abort1 | .abort2 => False

variable {p : Params} {s : Core} {i : CoreIn}

lemma Byte.step (by_ : s.Byte) (data : s.stateReg.dataPhase = true) : (s.step p i).Byte := by
  obtain ⟨le, cmd⟩ := by_
  cases hn : s.nextBit with
  | false =>
    obtain ⟨tx, bit, cmd_eq⟩ := bit_kept (p := p) (i := i) data hn
    rw [Byte, tx, bit, cmd_eq]
    exact ⟨le, cmd⟩
  | true =>
    obtain ⟨-, lt, tx, bit, cmd_eq⟩ := bit_next (p := p) (i := i) hn
    have succ := bitIdx_succ lt
    rw [Byte, tx, bit, cmd_eq, succ]
    rw [BitVec.lt_def] at lt
    refine ⟨?_, cmd.imp_left fun w => ⟨w.1, ?_⟩⟩
    · rw [BitVec.le_def, succ]
      exact lt
    · rw [BitVec.getLsbD_shiftConcat]
      simp at lt
      simp [w.2]
      omega

/-- A new byte command starts a byte. -/
lemma byte_new (fire : s.holdWrFire i = true ∨ s.holdRdFire i = true) : (s.step p i).Byte := by
  obtain f | f := fire
  · have hold := f
    simp only [holdWrFire, decide_eq_true_eq] at hold
    obtain ⟨h, -, c⟩ := hold
    have hn : s.nextBit = false := by simp [nextBit, h]
    have hr : s.holdRdFire i = false := by simp [holdRdFire, c, WR_CMD, RD_CMD]
    simp [Byte, step, bitIdxNext, txNext, cmdFire, holdCmdFire, hn, hr, f, c, WR_CMD, RD_CMD]
  · have hold := f
    simp only [holdRdFire, decide_eq_true_eq] at hold
    obtain ⟨h, -, c⟩ := hold
    have hn : s.nextBit = false := by simp [nextBit, h]
    simp [Byte, step, bitIdxNext, cmdFire, holdCmdFire, hn, f, c]

/-- In a bit cell the outputs follow its quarters. -/
lemma lines_data (data : s.stateReg.dataPhase = true) (noAbort : s.abortFire p i = false)
    (ln : s.Lines) : (s.step p i).Lines := by
  cases h : s.stateReg with
  | data1 =>
    simp only [Lines, h] at ln
    have byte := ln.2.step (p := p) (i := i) data
    cases hp : s.phaseEnd with
    | true =>
      have next : (s.step p i).stateReg = .data2 := phase_follows h rfl noAbort hp
      simp only [Lines, next]
      exact ⟨sda_shown data (by simp [nextBit, h]), byte⟩
    | false =>
      have next : (s.step p i).stateReg = .data1 := phase_stays h rfl noAbort hp
      simp only [Lines, next]
      exact ⟨by simp [step, sclOutNext, h], byte⟩
  | data2 =>
    simp only [Lines, h] at ln
    have byte := ln.2.step (p := p) (i := i) data
    have sda := sda_shown (p := p) (i := i) data (by simp [nextBit, h])
    cases hp : s.phaseEnd with
    | true =>
      have next : (s.step p i).stateReg = .data3 := phase_follows h rfl noAbort hp
      simp only [Lines, next]
      exact ⟨sda, byte⟩
    | false =>
      have next : (s.step p i).stateReg = .data2 := phase_stays h rfl noAbort hp
      simp only [Lines, next]
      exact ⟨sda, byte⟩
  | data3 =>
    simp only [Lines, h] at ln
    have byte := ln.2.step (p := p) (i := i) data
    have sda := sda_shown (p := p) (i := i) data (by simp [nextBit, h])
    cases hp : s.phaseEnd with
    | true =>
      have next : (s.step p i).stateReg = .data4 := phase_follows h rfl noAbort hp
      simp only [Lines, next]
      have tick := tick_step (p := p) (i := i) (by rw [h]; rfl) noAbort
      rw [if_pos hp] at tick
      exact ⟨sda, fun _ => tick, byte⟩
    | false =>
      have next : (s.step p i).stateReg = .data3 := phase_stays h rfl noAbort hp
      simp only [Lines, next]
      exact ⟨sda, byte⟩
  | data4 =>
    simp only [Lines, h] at ln
    have byte := ln.2.2.step (p := p) (i := i) data
    have scl : (s.step p i).sclOutReg = false := by simp [step, sclOutNext, h]
    cases hp : s.phaseEnd with
    | true =>
      obtain ⟨-, next⟩ | ⟨-, next⟩ := data4_follows h noAbort hp
      · simp only [Lines, next]
        exact scl
      · simp only [Lines, next]
        exact ⟨scl, byte⟩
    | false =>
      have next : (s.step p i).stateReg = .data4 := phase_stays h rfl noAbort hp
      simp only [Lines, next]
      refine ⟨sda_shown data (nextBit_of_goes_on hp), fun high => ?_, byte⟩
      rw [scl] at high
      cases high
  | _ => simp [h, State.dataPhase] at data

lemma lines_step (noAbort : s.abortFire p i = false) (ln : s.Lines) : (s.step p i).Lines := by
  cases h : s.stateReg with
  | idle =>
    cases hf : s.idleStartFire i <;>
      simp [Lines, step, stateNext, sclOutNext, sdaOutNext, noAbort, h, hf]
  | start1 | start2 | restart | stop1 | stop2 | dataEnd =>
    cases hp : s.phaseEnd <;>
      simp [Lines, step, stateNext, sclOutNext, sdaOutNext, noAbort, h, hp]
  | hold =>
    cases hr : s.holdRestartFire i with
    | true => simp [Lines, step, stateNext, sclOutNext, sdaOutNext, noAbort, h, hr]
    | false =>
      cases hs : s.holdStopFire i with
      | true => simp [Lines, step, stateNext, sclOutNext, sdaOutNext, noAbort, h, hr, hs]
      | false =>
        cases hf : s.holdWrFire i || s.holdRdFire i with
        | true =>
          have next : (s.step p i).stateReg = .data1 := by
            simp [step, stateNext, noAbort, h, hr, hs, hf]
          rw [Bool.or_eq_true] at hf
          have new := byte_new (p := p) hf
          simp only [Lines, next]
          exact ⟨by simp [step, sclOutNext, h], new⟩
        | false => simp [Lines, step, stateNext, sclOutNext, sdaOutNext, noAbort, h, hr, hs, hf]
  | data1 | data2 | data3 | data4 => exact lines_data (by rw [h]; rfl) noAbort ln
  | abort1 | abort2 => simp [Lines, h] at ln

/-- Before the last data bit, the next bit is a data bit as well. -/
lemma bit_before_slot : ∀ {b : BitVec 4}, b < 8 → b ≠ 7 →
    decide (b + 1 < 8) = decide (b < 8) ∧ (b + 1 == 8) = (b == 8) := by
  decide

/-- In the first cycle of the last quarter the driven SDA stays, unless the quarter ends there with
    the last data bit, driven low. -/
lemma driven_cell_end (h : s.stateReg = .data4) (noAbort : s.abortFire p i = false)
    (sda : s.sdaOutReg = s.txReg.getLsbD 8) (byte : s.Byte) (first : s.tickCntReg = 0)
    (clear : ¬ (s.stateReg = .data4 ∧ s.divisorReg = 0 ∧ s.sclOutReg = true ∧ s.bitIdxReg = 7 ∧
      s.txReg.getLsbD 8 = false)) (high : s.sclOutReg = true) :
    (s.step p i).sdaDriven = s.sdaDriven := by
  have data : s.stateReg.dataPhase = true := by rw [h]; rfl
  have out : (s.step p i).sdaOutReg = s.txReg.getLsbD 8 := by simp [step, sdaOutNext, h]
  cases hp : s.phaseEnd with
  | false =>
    have next : (s.step p i).stateReg = .data4 := phase_stays h rfl noAbort hp
    exact driven_kept data (nextBit_of_goes_on hp) sda (by rw [next]; rfl)
  | true =>
    have zero : s.divisorReg = 0 := by
      rw [phaseEnd_data4 h, beq_iff_eq, first] at hp
      exact hp.symm
    have hn := nextBit_data4 h hp
    obtain ⟨le, cmd⟩ := byte
    obtain ⟨last, next⟩ | ⟨more, next⟩ := data4_follows h noAbort hp
    · -- the acknowledge slot ends: a write releases SDA to the end, a read stays driving
      rw [sdaDriven, sdaDriven, masterReceiving, masterReceiving, next, h, out, sda, last]
      obtain ⟨wr, slot⟩ | rd := cmd
      · rw [last] at slot
        simp [State.dataPhase, show s.txReg.getLsbD 8 = true from slot]
      · simp [State.dataPhase, rd, RD_CMD, WR_CMD]
    · have lt : s.bitIdxReg < 8 := by
        rw [BitVec.lt_def]
        rw [BitVec.le_def] at le
        exact Nat.lt_of_le_of_ne le fun e => more (BitVec.eq_of_toNat_eq e)
      obtain ⟨-, -, -, bit, cmd_eq⟩ := bit_next (p := p) (i := i) (by rw [hn]; simpa using lt)
      rw [sdaDriven, sdaDriven, masterReceiving, masterReceiving, next, h, out, sda, bit, cmd_eq]
      by_cases seven : s.bitIdxReg = 7
      · have released : s.txReg.getLsbD 8 = true := by
          rw [← Bool.not_eq_false]
          exact fun low => clear ⟨h, zero, high, seven, low⟩
        rw [released, Bool.or_true, Bool.or_true]
      · obtain ⟨below, slot⟩ := bit_before_slot lt seven
        rw [below, slot]
        rfl

/-- Away from a race every cycle keeps the law. -/
lemma lineLaw_of_lines (noAbort : s.abortFire p i = false) (ln : s.Lines) (clear : ¬ s.Race) :
    LineLaw s (s.step p i) := by
  cases h : s.stateReg with
  | idle =>
    simp only [Lines, h] at ln
    left
    cases hf : s.idleStartFire i <;>
      simp [sdaDriven, masterReceiving, step, stateNext, sdaOutNext, State.dataPhase, noAbort, h, ln,
        hf]
  | start1 =>
    simp only [Lines, h] at ln
    have low : (s.step p i).sdaDriven = false := by
      cases hp : s.phaseEnd <;>
        simp [sdaDriven, masterReceiving, step, stateNext, sdaOutNext, State.dataPhase, noAbort, h,
          hp]
    cases hs : s.sdaDriven with
    | true => exact .inr (.inr ⟨ln, by simp [step, sclOutNext, h], .inl ⟨h, hs, low⟩⟩)
    | false => exact .inl (by rw [low, hs])
  | start2 | stop1 =>
    simp only [Lines, h] at ln
    left
    cases hp : s.phaseEnd <;>
      simp [sdaDriven, masterReceiving, step, stateNext, sdaOutNext, State.dataPhase, noAbort, h, ln,
        hp]
  | hold =>
    simp only [Lines, h] at ln
    exact .inr (.inl ⟨ln.1, by simp [step, sclOutNext, h]⟩)
  | restart =>
    simp only [Lines, h] at ln
    have high : s.sclOutReg = true := by
      rw [← Bool.not_eq_false]
      exact fun low => clear (.inl ⟨h, low⟩)
    left
    cases hp : s.phaseEnd <;>
      simp [sdaDriven, masterReceiving, step, stateNext, sdaOutNext, State.dataPhase, noAbort, h, ln,
        high, hp]
  | stop2 =>
    simp only [Lines, h] at ln
    have high : (s.step p i).sdaDriven = true := by
      simp [sdaDriven, step, sdaOutNext, h]
    cases hs : s.sdaDriven with
    | true => exact .inl (by rw [high, hs])
    | false => exact .inr (.inr ⟨ln, by simp [step, sclOutNext, h], .inr ⟨h, hs, high⟩⟩)
  | data1 =>
    simp only [Lines, h] at ln
    exact .inr (.inl ⟨ln.1, by simp [step, sclOutNext, h]⟩)
  | data2 | data3 =>
    simp only [Lines, h] at ln
    have data : s.stateReg.dataPhase = true := by rw [h]; rfl
    have data' : (s.step p i).stateReg.dataPhase = true := cell_goes_on (by simp [h]) noAbort
    exact .inl (driven_kept data (by simp [nextBit, h]) ln.1 data')
  | data4 =>
    simp only [Lines, h] at ln
    obtain ⟨sda, first, byte⟩ := ln
    cases hs : s.sclOutReg with
    | false => exact .inr (.inl ⟨hs, by simp [step, sclOutNext, h]⟩)
    | true => exact .inl (driven_cell_end h noAbort sda byte (first hs) (fun d => clear (.inr d)) hs)
  | dataEnd =>
    simp only [Lines, h] at ln
    exact .inr (.inl ⟨ln, by simp [step, sclOutNext, h]⟩)
  | abort1 | abort2 => simp [Lines, h] at ln

/-- In a race the law is broken. -/
lemma not_lineLaw_of_race (noAbort : s.abortFire p i = false) (ln : s.Lines) (race : s.Race) :
    ¬ LineLaw s (s.step p i) := by
  obtain ⟨h, low⟩ | ⟨h, zero, high, seven, low⟩ := race
  · -- both lines are released together
    simp only [Lines, h] at ln
    have before : s.sdaDriven = false := by
      rw [sdaDriven, masterReceiving, h, ln, low]
      rfl
    have after : (s.step p i).sdaDriven = true := by simp [sdaDriven, step, sdaOutNext, h]
    have scl : (s.step p i).sclOutReg = true := by simp [step, sclOutNext, h]
    simp [LineLaw, before, after, scl, low]
  · -- the acknowledge slot begins in the cycle in which SCL falls
    simp only [Lines, h] at ln
    obtain ⟨sda, first, -, cmd⟩ := ln
    have hp : s.phaseEnd = true := by
      rw [phaseEnd_data4 h, first high, zero]
      rfl
    have hn : s.nextBit = true := by
      rw [nextBit_data4 h hp, seven]
      rfl
    have next : (s.step p i).stateReg = .data1 := by
      rw [phase_follows h rfl noAbort hp, seven]
      rfl
    have out : (s.step p i).sdaOutReg = false := by
      rw [← low]
      simp [step, sdaOutNext, h]
    have scl : (s.step p i).sclOutReg = false := by simp [step, sclOutNext, h]
    obtain ⟨-, -, -, bit, cmd_eq⟩ := bit_next (p := p) (i := i) hn
    have changed : (s.step p i).sdaDriven ≠ s.sdaDriven := by
      rw [sdaDriven, sdaDriven, masterReceiving, masterReceiving, next, h, out, sda, low, bit, cmd_eq,
        seven]
      obtain ⟨wr, -⟩ | rd := cmd
      · rw [wr]
        decide
      · rw [rd]
        decide
    simp [LineLaw, changed, scl, high]

end Core

instance : DecidableRel Core.LineLaw := fun _ _ => inferInstanceAs (Decidable (_ ∨ _))

instance : DecidablePred Core.Race := fun _ => inferInstanceAs (Decidable (_ ∨ _))

/-- In every run without an abort, for both parameters, every divisor and every command sequence:
    the law of the lines holds in every cycle exactly if no cycle races. -/
theorem core_line_law_iff (p : Params) (is : List CoreIn)
    (al : (core p).Along (fun s i => s.abortFire p i = false) is) :
    (core p).Along (fun s i => Core.LineLaw s (s.step p i)) is ↔
      (core p).Along (fun s _ => ¬ s.Race) is := by
  refine (core p).along_congr (P := Core.Lines) ⟨rfl, rfl⟩
    (fun _ _ ln noAbort _ => Core.lines_step noAbort ln) ?_ al
  intro s i ln noAbort
  exact ⟨fun law race => Core.not_lineLaw_of_race noAbort ln race law,
    fun clear => Core.lineLaw_of_lines noAbort ln clear⟩

/-- A START, and a STOP as soon as the bus is held. -/
def startStop : List CoreIn :=
  idealBus {} (.reset {}) (command START_CMD 0 :: List.replicate 5 pause ++ command STOP_CMD 0 ::
    List.replicate 16 pause)

/-- A START, and a RESTART as soon as the bus is held. -/
def startRestart : List CoreIn :=
  idealBus {} (.reset {}) (command START_CMD 0 :: List.replicate 5 pause ++ [command RESTART_CMD 0, pause])

/-- A START and a STOP keep the law. -/
theorem core_line_law_start_stop :
    (core {}).Along (fun s i => Core.LineLaw s (s.step {} i)) startStop :=
  (core_line_law_iff {} startStop (by decide +kernel)).mpr (by decide +kernel)

/-- A RESTART releases SDA in the cycle in which it releases SCL. -/
theorem core_restart_races :
    (core {}).Along (fun s i => s.abortFire {} i = false) startRestart ∧
      ¬ (core {}).Along (fun s i => Core.LineLaw s (s.step {} i)) startRestart := by
  decide +kernel

end ModularControl.I2c
