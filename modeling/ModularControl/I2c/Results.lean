import ModularControl.I2c.Rejected
import ModularControl.I2c.Transport

/-!
# Whose results the registers show

The sticky result bits are set by the core and cleared by software and by every launch. `Recorded`
keeps the last launched command beside the block, with the samples of SDA taken since, so that the
results can be compared with it in every state.
-/

namespace ModularControl.I2c
open Sync Axi

/-- A launched command and what has happened since. -/
structure Launched where
  cmd : BitVec 3
  /-- SDA as sampled at the end of each third quarter, oldest first. -/
  samples : List Bool := []
  completed : Bool := false
deriving DecidableEq

/-- One more cycle of the core. -/
def Launched.see (l : Launched) (c : Core) : Launched where
  cmd := l.cmd
  samples := if c.sampleSdaNow then l.samples ++ [c.sdaFilt] else l.samples
  completed := l.completed || c.doneTick

/-- The registers with the last launched command. -/
structure Recorded where
  regs : I2cRegs
  last : Option Launched

namespace Recorded

variable (minDivisor : BitVec 16) (s : Recorded) (i : RegsIn)

def step : Recorded where
  regs := (i2c minDivisor).step s.regs i
  last :=
    if s.regs.launchCmdFire i.valid i.req i.rspReady then
      some { cmd := (I2cRegs.merged i.req).setWidth 3 }
    else s.last.map (·.see s.regs.core)

/-- RXDATA is the byte of an RD: its first eight samples, the highest bit first. -/
def OfRd (l : Launched) : Prop :=
  l.cmd = RD_CMD ∧ (List.range 8).map (fun k => s.regs.rxdataReg.getLsbD (7 - k)) = l.samples.take 8

/-- The ack bit is the acknowledge of a WR, its ninth sample. -/
def OfWr (l : Launched) : Prop :=
  l.cmd = WR_CMD ∧ l.samples[8]? = some s.regs.ackSticky

/-- The result bits are those of the last launched command. -/
def ResultsBelong : Prop :=
  (s.regs.rdDataValidSticky = true → ∃ l, s.last = some l ∧ s.OfRd l) ∧
    (s.regs.ackValidSticky = true → ∃ l, s.last = some l ∧ s.OfWr l) ∧
    (s.regs.ackSticky = true → s.regs.ackValidSticky = true) ∧
    (s.regs.doneSticky = true →
      ∃ l, s.last = some l ∧ l.completed = true ∧ l.samples.length = 9)

end Recorded

/-- `i2c_regs` with a record of the last launched command. -/
def recorded (minDivisor : BitVec 16) : Machine Recorded RegsIn Unit where
  init := ⟨.reset minDivisor, none⟩
  step s i := s.step minDivisor i
  out _ _ := ()

/-- Of nine bits shifted in, the first is the highest. -/
lemma shiftIn_nine {bs : List Bool} (count : bs.length = 9) {k : Nat} (lt : k < 9) :
    bs[k]? = some ((shiftIn bs).getLsbD (8 - k)) := by
  obtain ⟨b, at_k⟩ : ∃ b, bs[k]? = some b :=
    ⟨bs[k], List.getElem?_eq_getElem (by rw [count]; exact lt)⟩
  have bit := shiftIn_getLsbD (Nat.le_of_eq count) at_k
  rw [count] at bit
  rw [at_k, ← bit]

/-- The first eight are the byte. -/
lemma shiftIn_byte {bs : List Bool} (count : bs.length = 9) :
    (List.range 8).map (fun k => ((shiftIn bs).extractLsb' 1 8).getLsbD (7 - k)) = bs.take 8 := by
  apply List.ext_getElem?
  intro k
  by_cases lt : k < 8
  · rw [List.getElem?_take_of_lt lt, shiftIn_nine count (by omega), List.getElem?_map,
      List.getElem?_range lt, Option.map_some, BitVec.getLsbD_extractLsb',
      show 8 - k = 1 + (7 - k) by omega]
    simp
    omega
  · rw [List.getElem?_eq_none (by simpa using lt), List.getElem?_eq_none (by simp [count]; omega)]

namespace Core

/-- A byte command is under way. -/
def inByte (s : Core) : Bool := s.stateReg.dataPhase || s.stateReg = .dataEnd

/-- How many bits of the byte have been sampled. -/
def bitsTaken (s : Core) : Nat :=
  match s.stateReg with
  | .data4 => s.bitIdxReg.toNat + 1
  | .dataEnd => 9
  | _ => s.bitIdxReg.toNat

/-- The samples `bs` are those of the byte under way. -/
structure Takes (s : Core) (bs : List Bool) : Prop where
  bit : s.bitIdxReg.toNat ≤ 8
  count : bs.length = s.bitsTaken
  rx : s.rxReg = shiftIn bs

variable {p : Params} {s : Core} {i : CoreIn} {bs : List Bool}

/-- A byte is under way after it has been accepted only. -/
lemma inByte_of_step (byte : (s.step p i).inByte = true) :
    s.inByte = true ∨ (s.holdWrFire i || s.holdRdFire i) = true := by
  by_contra none
  rw [not_or, Bool.not_eq_true, Bool.not_eq_true] at none
  obtain ⟨noByte, noFire⟩ := none
  have next : (s.step p i).stateReg = s.stateNext p i := rfl
  rw [inByte, next, stateNext] at byte
  cases h : s.stateReg <;> simp [inByte, State.dataPhase, h] at noByte <;>
    simp only [h, noFire, Bool.false_eq_true, if_false] at byte <;>
    split_ifs at byte <;> simp [State.dataPhase] at byte

lemma timed_of_inByte (now : s.inByte = true) :
    (s.stateReg.half || s.stateReg.quarter) = true := by
  cases h : s.stateReg <;> simp [inByte, h, State.dataPhase] at now <;> rfl

/-- While a byte goes on, nothing completes, and the command is the one that was accepted. -/
lemma byte_goes_on (now : s.inByte = true) (next : (s.step p i).inByte = true) :
    s.abortFire p i = false ∧ s.doneTick = false ∧ (s.step p i).cmdReg = s.cmdReg := by
  have noAbort : s.abortFire p i = false := by
    rw [← Bool.not_eq_true]
    intro abort
    have st : (s.step p i).stateReg = .abort1 := by simp [step, stateNext, abort]
    simp [inByte, st, State.dataPhase] at next
  have timed := timed_of_inByte now
  refine ⟨noAbort, ?_, ?_⟩
  · rw [← Bool.not_eq_true]
    intro done
    simp only [doneTick, decide_eq_true_eq] at done
    have ended : s.phaseEnd = true := by
      simp [phaseEnd, highPhaseReady, done.1, done.2, State.half, State.waitsHigh]
    have st := phase_follows done.1 rfl noAbort ended
    simp [inByte, st, State.follow, State.dataPhase] at next
  · simp [step, noCmd_of_timed timed]

/-- The sample is taken at the end of the third quarter. -/
lemma sample_iff : s.sampleSdaNow = true ↔ s.stateReg = .data3 ∧ s.phaseEnd = true := by
  simp only [sampleSdaNow, decide_eq_true_eq]
  refine and_congr_right fun h => ?_
  simp [phaseEnd, State.half, h]

lemma noSample (h : s.stateReg ≠ .data3) : s.sampleSdaNow = false := by
  rw [← Bool.not_eq_true, sample_iff]
  exact fun sample => h sample.1

/-- At the beginning of a byte nothing is sampled. -/
lemma takes_nil (st : s.stateReg = .data1) (bit : s.bitIdxReg = 0) (rx : s.rxReg = 0) :
    s.Takes [] := by
  refine ⟨?_, ?_, rx⟩
  · simp [bit]
  · simp [bitsTaken, st, bit]

/-- A cycle of the byte that samples nothing and ends no bit. -/
lemma Takes.keep (tk : s.Takes bs) (notHold : s.stateReg ≠ .hold) (quiet : s.sampleSdaNow = false)
    (noNext : s.nextBit = false) (taken : (s.step p i).bitIdxReg = s.bitIdxReg →
      (s.step p i).bitsTaken = s.bitsTaken) :
    (s.step p i).Takes (if s.sampleSdaNow then bs ++ [s.sdaFilt] else bs) := by
  have bit : (s.step p i).bitIdxReg = s.bitIdxReg := by
    simp [step, bitIdxNext, noNext, holdWrFire, holdRdFire, notHold]
  rw [quiet, if_neg Bool.false_ne_true]
  exact ⟨bit ▸ tk.bit, (taken bit).symm ▸ tk.count, (rx_kept notHold quiet).trans tk.rx⟩

/-- A cycle in which the phase goes on. -/
lemma Takes.stay (tk : s.Takes bs) (now : s.inByte = true) (noAbort : s.abortFire p i = false)
    (hp : s.phaseEnd = false) :
    (s.step p i).Takes (if s.sampleSdaNow then bs ++ [s.sdaFilt] else bs) := by
  have timed : (s.stateReg.half || s.stateReg.quarter) = true := timed_of_inByte now
  have notHold : s.stateReg ≠ .hold := fun h => by simp [h, State.half, State.quarter] at timed
  have quiet : s.sampleSdaNow = false := by
    rw [← Bool.not_eq_true, sample_iff, hp]
    simp
  refine tk.keep notHold quiet (nextBit_of_goes_on hp) fun bit => ?_
  rw [bitsTaken, phase_stays rfl timed noAbort hp, bit, bitsTaken]

/-- The end of the third quarter takes the sample. -/
lemma Takes.sample (tk : s.Takes bs) (h : s.stateReg = .data3) (noAbort : s.abortFire p i = false)
    (hp : s.phaseEnd = true) :
    (s.step p i).Takes (if s.sampleSdaNow then bs ++ [s.sdaFilt] else bs) := by
  have sample : s.sampleSdaNow = true := sample_iff.mpr ⟨h, hp⟩
  have bit : (s.step p i).bitIdxReg = s.bitIdxReg := by
    simp [step, bitIdxNext, nextBit, holdWrFire, holdRdFire, h]
  have st := phase_follows h rfl noAbort hp
  have count := tk.count
  rw [sample, if_pos rfl]
  refine ⟨bit.symm ▸ tk.bit, ?_, ?_⟩
  · simp [bitsTaken, st, State.follow, bit, count, h]
  · rw [shiftIn_snoc, ← tk.rx]
    simp [step, rxNext, sample]

/-- The end of a bit cell. -/
lemma Takes.cell (tk : s.Takes bs) (h : s.stateReg = .data4) (noAbort : s.abortFire p i = false)
    (hp : s.phaseEnd = true) :
    (s.step p i).Takes (if s.sampleSdaNow then bs ++ [s.sdaFilt] else bs) := by
  have quiet : s.sampleSdaNow = false := noSample (by simp [h])
  have st := phase_follows h rfl noAbort hp
  have count := tk.count
  cases hn : s.nextBit with
  | true =>
    obtain ⟨-, lt, -, bit, -⟩ := bit_next (p := p) (i := i) hn
    have ne : s.bitIdxReg ≠ 8 := fun e => absurd lt (by rw [e]; decide)
    have succ := bitIdx_succ lt
    rw [quiet, if_neg Bool.false_ne_true]
    refine ⟨?_, ?_, ?_⟩
    · rw [bit, succ]
      exact lt
    · rw [decide_eq_false ne] at st
      simp only [bitsTaken, h] at count
      simp only [bitsTaken, st, State.follow, bit, succ, count, Bool.false_eq_true, if_false]
    · exact (rx_kept (by simp [h]) quiet).trans tk.rx
  | false =>
    have last : s.bitIdxReg = 8 := by
      rw [nextBit_data4 h hp, decide_eq_false_iff_not] at hn
      apply BitVec.eq_of_toNat_eq
      have ge : ¬ s.bitIdxReg.toNat < 8 := hn
      exact Nat.le_antisymm tk.bit (Nat.not_lt.mp ge)
    refine tk.keep (by simp [h]) quiet hn fun _ => ?_
    simp [bitsTaken, st, State.follow, last, h]

/-- A cycle of the byte. -/
lemma Takes.step (tk : s.Takes bs) (now : s.inByte = true) (next : (s.step p i).inByte = true) :
    (s.step p i).Takes (if s.sampleSdaNow then bs ++ [s.sdaFilt] else bs) := by
  obtain ⟨noAbort, -, -⟩ := byte_goes_on now next
  cases hp : s.phaseEnd with
  | false => exact tk.stay now noAbort hp
  | true =>
    cases h : s.stateReg <;> simp [inByte, State.dataPhase, h] at now
    case data1 | data2 =>
      refine tk.keep (by simp [h]) (noSample (by simp [h])) (by simp [nextBit, h]) fun bit => ?_
      simp [bitsTaken, phase_follows h rfl noAbort hp, State.follow, bit, h]
    case data3 => exact tk.sample h noAbort hp
    case data4 => exact tk.cell h noAbort hp
    case dataEnd =>
      have st := phase_follows h rfl noAbort hp
      simp [inByte, st, State.follow, State.dataPhase] at next

end Core

namespace Recorded

/-- While a byte is under way no result is shown, and its samples are those since the last launch,
    which was its own. -/
structure Belongs (s : Recorded) : Prop where
  results : s.ResultsBelong
  byte : s.regs.core.inByte = true → s.regs.NoResult ∧
    ∃ l, s.last = some l ∧ l.cmd = s.regs.core.cmdReg ∧ s.regs.core.Takes l.samples

variable {minDivisor : BitVec 16} {s : Recorded} {i : RegsIn}

lemma resultsBelong_of_none (none : s.regs.NoResult) : s.ResultsBelong := by
  obtain ⟨done, ackValid, ack, rd⟩ := none
  refine ⟨fun h => ?_, fun h => ?_, fun h => ?_, fun h => ?_⟩
  · rw [rd] at h
    cases h
  · rw [ackValid] at h
    cases h
  · rw [ack] at h
    cases h
  · rw [done] at h
    cases h

/-- A launch finds a core that takes commands and aborts nothing. -/
lemma launch_core (minDivisor : BitVec 16)
    (launch : s.regs.launchCmdFire i.valid i.req i.rspReady = true) :
    s.regs.core.inByte = false ∧ s.regs.core.doneTick = false ∧
      s.regs.core.abortFire { minDivisor }
        (s.regs.coreIn i.pins i.valid i.req i.rspReady) = false := by
  simp only [I2cRegs.launchCmdFire, Bool.and_eq_true, Bool.not_eq_true', Core.cmdReady,
    decide_eq_true_eq] at launch
  obtain ⟨⟨-, noAbort⟩, ready⟩ := launch
  have noReq : s.regs.abortFire i.valid i.req i.rspReady = false := by
    simp [I2cRegs.abortFire, noAbort]
  obtain h | h := ready <;>
    simp [Core.inByte, State.dataPhase, Core.doneTick, Core.abortFire, I2cRegs.coreIn, noReq,
      Core.protocolFaultEvent, Core.sclHighTimeoutEvent, Core.waitingForHighPhase,
      State.waitsHigh, h]

/-- The cycle of a launch. -/
lemma Belongs.launch (launch : s.regs.launchCmdFire i.valid i.req i.rspReady = true) :
    (s.step minDivisor i).Belongs := by
  obtain ⟨noByte, noDone, noAbort⟩ := launch_core minDivisor launch
  have none : (s.step minDivisor i).regs.NoResult := by
    simp [I2cRegs.NoResult, step, i2c, I2cRegs.step, launch, noDone, Core.ackValid,
      Core.rdDataValid]
  refine ⟨resultsBelong_of_none none, fun byte => ⟨none, ?_⟩⟩
  obtain was | fire := Core.inByte_of_step byte
  · rw [noByte] at was
    cases was
  · obtain ⟨-, st, bit, rx, cmd⟩ := Core.fire_step fire noAbort
    refine ⟨{ cmd := (I2cRegs.merged i.req).setWidth 3 }, ?_, cmd.symm, Core.takes_nil st bit rx⟩
    rw [step, if_pos launch]

/-- Without a launch nothing but the completion of a byte sets a result. -/
lemma noResult_step (minDivisor : BitVec 16) (none : s.regs.NoResult)
    (noLaunch : s.regs.launchCmdFire i.valid i.req i.rspReady = false)
    (noDone : s.regs.core.doneTick = false) : (s.step minDivisor i).regs.NoResult := by
  obtain ⟨done, ackValid, ack, rd⟩ := none
  simp [I2cRegs.NoResult, step, i2c, I2cRegs.step, noLaunch, noDone, Core.ackValid,
    Core.rdDataValid, done, ackValid, ack, rd]

/-- Outside a byte the record of the last launch stays as it is. -/
lemma see_idle (l : Launched) {c : Core} (noByte : c.inByte = false) : l.see c = l := by
  have noSample : c.sampleSdaNow = false := by
    refine Core.noSample fun h => ?_
    simp [Core.inByte, h, State.dataPhase] at noByte
  have noDone : c.doneTick = false := by
    rw [← Bool.not_eq_true]
    intro done
    simp only [Core.doneTick, decide_eq_true_eq] at done
    simp [Core.inByte, done.1] at noByte
  rw [Launched.see, noSample, noDone, Bool.or_false, if_neg Bool.false_ne_true]

/-- Without a launch or a completion software can only clear results, ack with ack_valid. -/
lemma results_cleared (minDivisor : BitVec 16)
    (noLaunch : s.regs.launchCmdFire i.valid i.req i.rspReady = false)
    (noDone : s.regs.core.doneTick = false) :
    (s.step minDivisor i).regs.rxdataReg = s.regs.rxdataReg ∧
      ((s.step minDivisor i).regs.doneSticky = true → s.regs.doneSticky = true) ∧
      ((s.step minDivisor i).regs.rdDataValidSticky = true → s.regs.rdDataValidSticky = true) ∧
      ((s.step minDivisor i).regs.ackValidSticky = s.regs.ackValidSticky ∧
          (s.step minDivisor i).regs.ackSticky = s.regs.ackSticky ∨
        (s.step minDivisor i).regs.ackValidSticky = false ∧
          (s.step minDivisor i).regs.ackSticky = false) := by
  have noAck : s.regs.core.ackValid = false := by rw [Core.ackValid, noDone, Bool.false_and]
  have noRd : s.regs.core.rdDataValid = false := by rw [Core.rdDataValid, noDone, Bool.false_and]
  simp only [step, i2c, I2cRegs.step, noLaunch, noDone, noAck, noRd, Bool.false_eq_true, if_false,
    true_and]
  refine ⟨fun h => ?_, fun h => ?_, ?_⟩
  · split_ifs at h
    exact h
  · split_ifs at h
    exact h
  · split_ifs
    · exact .inr ⟨rfl, rfl⟩
    · exact .inl ⟨rfl, rfl⟩

/-- A cycle without a launch in which no byte completes can only clear results. -/
lemma Belongs.quiet (bl : s.Belongs)
    (noLaunch : s.regs.launchCmdFire i.valid i.req i.rspReady = false)
    (noDone : s.regs.core.doneTick = false) : (s.step minDivisor i).Belongs := by
  have last : (s.step minDivisor i).last = s.last.map (·.see s.regs.core) := by
    rw [step, if_neg (by simp [noLaunch])]
  cases now : s.regs.core.inByte with
  | true =>
    obtain ⟨none, l, last_eq, cmd, takes⟩ := bl.byte now
    have none' := noResult_step minDivisor none noLaunch noDone
    refine ⟨resultsBelong_of_none none', fun next => ⟨none', l.see s.regs.core, ?_, ?_, ?_⟩⟩
    · rw [last, last_eq]
      rfl
    · exact cmd.trans (Core.byte_goes_on now next).2.2.symm
    · exact takes.step now next
  | false =>
    have same : (s.step minDivisor i).last = s.last := by
      rw [last]
      cases s.last with
      | none => rfl
      | some l => exact congrArg some (see_idle l now)
    obtain ⟨rd, ackValid, ack, done⟩ := bl.results
    obtain ⟨rx, done', rd', ack'⟩ := results_cleared minDivisor noLaunch noDone
    refine ⟨⟨fun h => ?_, fun h => ?_, fun h => ?_, fun h => ?_⟩, fun next => ?_⟩
    · obtain ⟨l, last_eq, cmd, bits⟩ := rd (rd' h)
      exact ⟨l, same.trans last_eq, cmd, by rw [rx]; exact bits⟩
    · obtain ⟨valid_eq, ack_eq⟩ | ⟨cleared, -⟩ := ack'
      · obtain ⟨l, last_eq, cmd, bit⟩ := ackValid (valid_eq ▸ h)
        exact ⟨l, same.trans last_eq, cmd, by rw [ack_eq]; exact bit⟩
      · rw [cleared] at h
        cases h
    · obtain ⟨valid_eq, ack_eq⟩ | ⟨-, cleared⟩ := ack'
      · rw [valid_eq]
        exact ack (ack_eq ▸ h)
      · rw [cleared] at h
        cases h
    · rw [same]
      exact done (done' h)
    · obtain was | fire := Core.inByte_of_step next
      · rw [now] at was
        cases was
      · simp [Core.holdWrFire, Core.holdRdFire, I2cRegs.coreIn, noLaunch] at fire

/-- The cycle in which a byte completes. -/
lemma Belongs.done (bl : s.Belongs)
    (noLaunch : s.regs.launchCmdFire i.valid i.req i.rspReady = false)
    (done : s.regs.core.doneTick = true) : (s.step minDivisor i).Belongs := by
  have h := done
  simp only [Core.doneTick, decide_eq_true_eq] at h
  have now : s.regs.core.inByte = true := by simp [Core.inByte, h.1]
  obtain ⟨⟨-, valid, ack, rd⟩, l, last_eq, cmd, takes⟩ := bl.byte now
  have last : (s.step minDivisor i).last = some (l.see s.regs.core) := by
    rw [step, if_neg (by simp [noLaunch]), last_eq]
    rfl
  have samples : (l.see s.regs.core).samples = l.samples := by
    rw [Launched.see, Core.noSample (by simp [h.1]), if_neg Bool.false_ne_true]
  have count : l.samples.length = 9 := by rw [takes.count, Core.bitsTaken, h.1]
  refine ⟨⟨fun set => ?_, fun set => ?_, fun set => ?_, fun _ => ?_⟩, fun next => ?_⟩
  · have isRd : s.regs.core.rdDataValid = true := by
      by_contra no
      simp [step, i2c, I2cRegs.step, no, rd] at set
    have rx : (s.step minDivisor i).regs.rxdataReg = (shiftIn l.samples).extractLsb' 1 8 := by
      rw [← takes.rx]
      simp [step, i2c, I2cRegs.step, isRd, Core.rxData]
    rw [Core.rdDataValid, done, Bool.true_and, beq_iff_eq] at isRd
    refine ⟨_, last, cmd.trans isRd, ?_⟩
    rw [rx, samples]
    exact shiftIn_byte count
  · have isWr : s.regs.core.ackValid = true := by
      by_contra no
      simp [step, i2c, I2cRegs.step, no, valid] at set
    have bit : (s.step minDivisor i).regs.ackSticky = (shiftIn l.samples).getLsbD 0 := by
      rw [← takes.rx]
      simp [step, i2c, I2cRegs.step, isWr, Core.ack]
    rw [Core.ackValid, done, Bool.true_and, beq_iff_eq] at isWr
    refine ⟨_, last, cmd.trans isWr, ?_⟩
    rw [bit, samples]
    exact shiftIn_nine count (by decide)
  · by_cases isWr : s.regs.core.ackValid = true
    · simp [step, i2c, I2cRegs.step, isWr]
    · simp [step, i2c, I2cRegs.step, isWr, ack] at set
  · exact ⟨_, last, by rw [Launched.see, done, Bool.or_true], samples.symm ▸ count⟩
  · rw [(Core.byte_goes_on now next).2.1] at done
    cases done

end Recorded

/-- For every minimal divisor and every run: the result bits are those of the last launched
    command. -/
theorem i2c_results_belong (minDivisor : BitVec 16) (is : List RegsIn) :
    ((recorded minDivisor).after is).ResultsBelong := by
  have belongs : ((recorded minDivisor).after is).Belongs := by
    refine (recorded minDivisor).invariant_rule (P := Recorded.Belongs) (C := fun _ _ => True) ?_ ?_
      ((recorded minDivisor).along_true is)
    · refine ⟨Recorded.resultsBelong_of_none ⟨rfl, rfl, rfl, rfl⟩, fun byte => ?_⟩
      cases byte
    · intro s i bl _
      change (s.step minDivisor i).Belongs
      cases launch : s.regs.launchCmdFire i.valid i.req i.rspReady with
      | true => exact Recorded.Belongs.launch launch
      | false =>
        cases done : s.regs.core.doneTick with
        | true => exact bl.done launch done
        | false => exact bl.quiet launch done
  exact belongs.results

end ModularControl.I2c
