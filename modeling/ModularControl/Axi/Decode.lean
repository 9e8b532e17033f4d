import ModularControl.Debug.Seg7Regs
import ModularControl.Gpio.Regs
import ModularControl.I2c.Regs
import ModularControl.Pwm.RegsCommon
import ModularControl.Spi.Regs

/-!
# Addresses of no register

Every register block answers a request to an address of no register with an error and goes on as if
the request had not come. All blocks compare the whole address but `seg7_debug_regs`, which compares
its low byte: there an address whose low byte is that of a register reaches the register.
-/

namespace ModularControl.Axi
open Sync

variable {σ ε τ : Type}

/-- A request taken in a cycle is rejected: its response, presented from the next cycle on, is an
    error, and the registers besides the response are those after a cycle without the request. -/
structure Rejected (R : Responder σ ε MmioReq MmioRsp) (body : σ → τ) (s : σ) (e : ε) (q : MmioReq)
    (r : Bool) : Prop where
  presented : R.valid (R.next s e true q r) = true
  error : (R.rsp (R.next s e true q r)).err = true
  noEffect : body (R.next s e true q r) = body (R.next s e false q r)

/-- Every request to an address besides `mapped` that the block takes is rejected. -/
def RejectsUnmapped (R : Responder σ ε MmioReq MmioRsp) (body : σ → τ) (mapped : BitVec 12 → Prop) :
    Prop :=
  ∀ s e q r, R.ready s q r = true → ¬ mapped q.addr → Rejected R body s e q r

end ModularControl.Axi

namespace ModularControl.I2c
open Sync Axi

/-- The registers besides the response. -/
def I2cRegs.body (s : I2cRegs) : I2cRegs := { s with rspValid := false, rsp := ⟨0, false⟩ }

/-- The register map of `i2c_regs`. -/
def i2cMapped (addr : BitVec 12) : Prop :=
  addr ∈ [REG_STATUS, REG_DIVISOR, REG_TXDATA, REG_RXDATA, REG_CMD, REG_DEBUG, REG_FAULT]

lemma i2cRegs_rejects (minDivisor : BitVec 16) :
    RejectsUnmapped (i2cRegs minDivisor) I2cRegs.body i2cMapped := by
  intro s e q r taken unmapped
  have fire : s.reqFire true r = true := taken
  simp only [i2cMapped, List.mem_cons, List.not_mem_nil, or_false, not_or] at unmapped
  obtain ⟨status, divisor, txdata, rxdata, cmd, debug, fault⟩ := unmapped
  refine ⟨?_, ?_, ?_⟩
  · simp [i2cRegs, I2cRegs.step, fire]
  · simp [i2cRegs, I2cRegs.step, fire, I2cRegs.answer, status, divisor, txdata, rxdata, cmd, debug,
      fault]
  · have noCmd : (q.addr == REG_CMD) = false := beq_eq_false_iff_ne.mpr cmd
    have coreIn : s.coreIn e true q r = s.coreIn e false q r := by
      simp [I2cRegs.coreIn, I2cRegs.launchCmdFire, I2cRegs.abortFire, I2cRegs.wrCmdFire, noCmd]
    simp [i2cRegs, I2cRegs.step, I2cRegs.body, coreIn, I2cRegs.wrTxdataFire, I2cRegs.wrDivisorFire,
      I2cRegs.wrStatusFire, I2cRegs.wrFaultFire, I2cRegs.launchCmdFire, I2cRegs.wrCmdFire, status,
      divisor, txdata, cmd, fault]

end ModularControl.I2c

namespace ModularControl.Spi
open Sync Axi

/-- The registers besides the response. -/
def SpiRegs.body (s : SpiRegs) : SpiRegs := { s with rspValid := false, rsp := ⟨0, false⟩ }

/-- The register map of `spi_regs`. -/
def spiMapped (addr : BitVec 12) : Prop :=
  addr ∈ [REG_CTRL, REG_STATUS, REG_TXDATA, REG_RXDATA, REG_IRQ_EN, REG_IRQ_STATUS]

lemma spiRegs_rejects : RejectsUnmapped spiRegs SpiRegs.body spiMapped := by
  intro s e q r taken unmapped
  have ready : s.reqReady = true := taken
  have free : s.rspValid = false := by simpa [SpiRegs.reqReady] using ready
  simp only [spiMapped, List.mem_cons, List.not_mem_nil, or_false, not_or] at unmapped
  obtain ⟨ctrl, status, txdata, rxdata, irqEn, irqStatus⟩ := unmapped
  refine ⟨?_, ?_, ?_⟩
  · simp [spiRegs, SpiRegs.step, SpiRegs.reqFire, ready, free]
  · simp [spiRegs, SpiRegs.step, SpiRegs.reqFire, ready, free, SpiRegs.answer, ctrl, status, txdata,
      rxdata, irqEn, irqStatus]
  · simp [spiRegs, SpiRegs.step, SpiRegs.body, SpiRegs.startXferEnd, SpiRegs.startCmdFire,
      SpiRegs.clrDoneCmdFire, SpiRegs.clrRxValidCmdFire, SpiRegs.wrCtrlFire, SpiRegs.wrTxdataFire,
      SpiRegs.wrIrqEnFire, SpiRegs.wrIrqStatusFire, ctrl, txdata, irqEn, irqStatus]

end ModularControl.Spi

namespace ModularControl.Pwm
open Sync Axi

variable {w n : Nat}

/-- The registers besides the response. -/
def RegsCommon.body (s : RegsCommon w n) : RegsCommon w n :=
  { s with rspValid := false, rspRdata := 0, rspErr := false }

/-- The register map of `pwm_regs_common`, with its bank of `n` duty registers. -/
def pwmMapped (n : Nat) (addr : BitVec 12) : Prop :=
  addr ∈ [REG_CTRL, REG_PERIOD, REG_APPLY, REG_CH_ENABLE, REG_STATUS, REG_CNT] ∨
    ∃ k < n, addr.toNat = REG_DUTY_BASE.toNat + 4 * k

/-- `pwm_regs_common` behind its MMIO channels; its environment is what the core shows it, the end of
    the period and the counter. -/
def pwmRegsCommon (w n : Nat) (applyOnPeriodEnd : Bool) :
    Responder (RegsCommon w n) (Bool × BitVec w) MmioReq MmioRsp where
  init := .reset w n
  ready s _ r := s.reqReady r
  valid s := s.rspValid
  rsp s := ⟨s.rspRdata, s.rspErr⟩
  answer s e q := s.answer e.1 e.2 q
  next s e v q r := s.step applyOnPeriodEnd e.1 e.2 v q r

/-- The duty decode takes the addresses of the bank only. -/
lemma dutyHit_unmapped {addr : BitVec 12}
    (unmapped : ¬ ∃ k < n, addr.toNat = REG_DUTY_BASE.toNat + 4 * k) : dutyHit n addr = none := by
  rw [dutyHit, dif_neg]
  rintro ⟨base, bound, aligned⟩
  have base_eq : REG_DUTY_BASE.toNat = 32 := rfl
  refine unmapped ⟨(addr.toNat - REG_DUTY_BASE.toNat) / 4, ?_, ?_⟩ <;> omega

lemma pwmRegsCommon_rejects (w n : Nat) (applyOnPeriodEnd : Bool) :
    RejectsUnmapped (pwmRegsCommon w n applyOnPeriodEnd) RegsCommon.body (pwmMapped n) := by
  intro s e q r taken unmapped
  have fire : s.reqFire true r = true := taken
  rw [pwmMapped, not_or] at unmapped
  obtain ⟨unmapped, bank⟩ := unmapped
  have miss := dutyHit_unmapped bank
  simp only [List.mem_cons, List.not_mem_nil, or_false, not_or] at unmapped
  obtain ⟨ctrl, period, apply, chEnable, status, cnt⟩ := unmapped
  refine ⟨?_, ?_, ?_⟩
  · simp [pwmRegsCommon, RegsCommon.step, fire]
  · simp [pwmRegsCommon, RegsCommon.step, fire, RegsCommon.answer, miss, ctrl, period, apply,
      chEnable, status, cnt]
  · have written : RegsCommon.written s.shadow q = s.shadow := by
      simp [RegsCommon.written, miss, ctrl, period, chEnable]
    simp [pwmRegsCommon, RegsCommon.step, RegsCommon.body, written, RegsCommon.applyCommitNow,
      RegsCommon.applyPulse, apply]

end ModularControl.Pwm

namespace ModularControl.Gpio
open Sync Axi

variable {w : Nat}

/-- The registers besides the response. -/
def GpioRegs.body (s : GpioRegs w) : GpioRegs w := { s with rspValid := false, rsp := ⟨0, false⟩ }

/-- The register map of `gpio_regs`. -/
def gpioMapped (addr : BitVec 12) : Prop :=
  addr ∈ [REG_DATA_IN, REG_DATA_OUT, REG_DATA_OE, REG_RISE_IP, REG_FALL_IP, REG_IRQ_MASK,
    REG_INPUT_POL, REG_DATA_RAW]

lemma gpioRegs_rejects (w : Nat) : RejectsUnmapped (gpioRegs w) GpioRegs.body gpioMapped := by
  intro s e q r taken unmapped
  have fire : s.reqFire true r = true := taken
  simp only [gpioMapped, List.mem_cons, List.not_mem_nil, or_false, not_or] at unmapped
  obtain ⟨dataIn, dataOut, dataOe, riseIp, fallIp, irqMask, inputPol, dataRaw⟩ := unmapped
  refine ⟨?_, ?_, ?_⟩
  · simp [gpioRegs, GpioRegs.step, fire]
  · simp [gpioRegs, GpioRegs.step, fire, GpioRegs.answer, GpioRegs.writeErr, GpioRegs.readMux,
      dataIn, dataOut, dataOe, riseIp, fallIp, irqMask, inputPol, dataRaw]
  · simp [gpioRegs, GpioRegs.step, GpioRegs.body, GpioRegs.pendingNext, GpioRegs.wrHit, dataOut,
      dataOe, riseIp, fallIp, irqMask, inputPol]

end ModularControl.Gpio

namespace ModularControl.Debug
open Sync Axi

/-- The registers besides the response. -/
def Seg7Regs.body (s : Seg7Regs) : Seg7Regs := { s with rspValid := false, rsp := ⟨0, false⟩ }

/-- The registers that can be written. -/
def seg7Writable : List (BitVec 8) := [REG_CTRL, REG_SW_VALUE, REG_DP_N, REG_BLANK]

/-- The registers that can be read. -/
def seg7Readable : List (BitVec 8) :=
  seg7Writable ++ [REG_LIVE_VALUE, REG_FROZEN_VALUE, REG_ACTIVE_VALUE, REG_STATUS]

/-- The register map of `seg7_debug_regs`. -/
def seg7Mapped (addr : BitVec 12) : Prop := addr ∈ seg7Readable.map (BitVec.setWidth 12)

/-- The low byte of the address is that of a register that the request can reach. -/
def Aliases (q : MmioReq) : Prop :=
  Seg7Regs.reg q ∈ if q.write then seg7Writable else seg7Readable

variable {n : Nat} {s : Seg7Regs} {liveValue : BitVec (n * 4)} {q : MmioReq} {r : Bool}

/-- The response is an error exactly if the low byte is that of no register. -/
lemma answer_err (s : Seg7Regs) (liveValue : BitVec (n * 4)) (q : MmioReq) :
    (s.answer liveValue q).err = true ↔ ¬ Aliases q := by
  rw [Seg7Regs.answer, Aliases]
  cases q.write with
  | true => simp [Seg7Regs.writeErr, seg7Writable]
  | false =>
    simp only [Bool.false_eq_true, if_false, Seg7Regs.readMux, seg7Readable, seg7Writable]
    split_ifs <;> simp_all

/-- A request to no register, by the low byte of its address, is rejected. -/
lemma seg7Regs_rejects_iff (taken : s.reqReady r = true) :
    Rejected (seg7Regs n) Seg7Regs.body s liveValue q r ↔ ¬ Aliases q := by
  have fire : s.reqFire true r = true := by rw [Seg7Regs.reqFire, taken, Bool.and_self]
  have rsp : ((seg7Regs n).rsp ((seg7Regs n).next s liveValue true q r)) = s.answer liveValue q := by
    simp [seg7Regs, Seg7Regs.step, fire]
  constructor
  · intro rejected
    rw [← answer_err s liveValue q, ← rsp]
    exact rejected.error
  · intro apart
    refine ⟨by simp [seg7Regs, Seg7Regs.step, fire], ?_, ?_⟩
    · rw [rsp, answer_err]
      exact apart
    · have noWrite : ∀ addr ∈ seg7Writable, s.wrReg true q r addr = false := by
        intro addr mem
        rw [Seg7Regs.wrReg, Seg7Regs.wrFire, Bool.and_eq_false_iff]
        cases write : q.write with
        | false => simp
        | true =>
          rw [Aliases, write, if_pos rfl] at apart
          right
          rw [beq_eq_false_iff_ne]
          rintro rfl
          exact apart mem
      have off : ∀ addr, s.wrReg false q r addr = false := fun _ => rfl
      simp only [seg7Writable, List.forall_mem_cons, List.not_mem_nil, false_imp_iff, implies_true,
        and_true] at noWrite
      obtain ⟨ctrl, swValue, dpN, blank⟩ := noWrite
      simp [seg7Regs, Seg7Regs.step, Seg7Regs.body, Seg7Regs.snapshotPulse, Seg7Regs.freezeRise,
        ctrl, swValue, dpN, blank, off]

end ModularControl.Debug

namespace ModularControl.Axi
open Sync

/-- For every width, number of channels, pins and digits: a request to an address of no register is
    rejected without effect, whatever the registers hold and whatever it carries, except by
    `seg7_debug_regs`, and there exactly if the low byte of its address is not that of a register it
    can reach. -/
theorem unmapped_rejected_iff (minDivisor : BitVec 16) (w n : Nat) (applyOnPeriodEnd : Bool) :
    RejectsUnmapped (I2c.i2cRegs minDivisor) I2c.I2cRegs.body I2c.i2cMapped ∧
      RejectsUnmapped Spi.spiRegs Spi.SpiRegs.body Spi.spiMapped ∧
      RejectsUnmapped (Pwm.pwmRegsCommon w n applyOnPeriodEnd) Pwm.RegsCommon.body
        (Pwm.pwmMapped n) ∧
      RejectsUnmapped (Gpio.gpioRegs w) Gpio.GpioRegs.body Gpio.gpioMapped ∧
      ∀ s liveValue q r, (Debug.seg7Regs n).ready s q r = true → ¬ Debug.seg7Mapped q.addr →
        (Rejected (Debug.seg7Regs n) Debug.Seg7Regs.body s liveValue q r ↔ ¬ Debug.Aliases q) :=
  ⟨I2c.i2cRegs_rejects minDivisor, Spi.spiRegs_rejects,
    Pwm.pwmRegsCommon_rejects w n applyOnPeriodEnd, Gpio.gpioRegs_rejects w,
    fun _ _ _ _ taken _ => Debug.seg7Regs_rejects_iff taken⟩

/-- A write of 1 to address 0x100 of the seven-segment block sets its CTRL register. -/
theorem seg7_alias_written :
    let q : MmioReq := ⟨true, 0x100, 1, 0b1111⟩
    let live : BitVec (6 * 4) := 0
    ¬ Debug.seg7Mapped q.addr ∧
      ((Debug.Seg7Regs.reset 6).step live true q true).rsp.err = false ∧
      ((Debug.Seg7Regs.reset 6).step live true q true).ctrlReg = 1 ∧
      ¬ RejectsUnmapped (Debug.seg7Regs 6) Debug.Seg7Regs.body Debug.seg7Mapped := by
  intro q live
  have unmapped : ¬ Debug.seg7Mapped q.addr := by
    rw [Debug.seg7Mapped]
    decide
  refine ⟨unmapped, by decide, by decide, fun rejects => ?_⟩
  have told := (rejects (.reset 6) live q true rfl unmapped).error
  exact absurd told (by decide)

end ModularControl.Axi
