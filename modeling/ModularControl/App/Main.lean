import ModularControl.Debug.Seg7Driver
import ModularControl.Gpio.Port
import ModularControl.Pwm.Frames

/-!
# The switch test

`main.c`: it sets the motors to what the switches say whenever they have changed, and shows the duty
in decimal. The program runs on any words and any C library.
-/

namespace ModularControl.App
open Sync Axi Gpio Debug Pwm

def MOTOR_TEST_PERIOD : BitVec 32 := 1000
def GPIO_SW_MASK : BitVec 32 := 0x3FF
def PWM_CTRL_ENABLE_MASK : BitVec 32 := 1
def DIR_MASK_A : BitVec 32 := 0
def DIR_MASK_B : BitVec 32 := 3

def dutyFromSel (sel : BitVec 32) : BitVec 32 :=
  match sel &&& 0x7 with
  | 0 => 0
  | 1 => 100
  | 2 => 150
  | 3 => 200
  | 4 => 250
  | 5 => 300
  | 6 => 400
  | _ => 500

def packDecimal6digits (value : BitVec 32) : BitVec 32 :=
  let d0 := (value % 10).setWidth 8
  let value := value / 10
  let d1 := (value % 10).setWidth 8
  let value := value / 10
  let d2 := (value % 10).setWidth 8
  let value := value / 10
  let d3 := (value % 10).setWidth 8
  let value := value / 10
  let d4 := (value % 10).setWidth 8
  let value := value / 10
  let d5 := (value % 10).setWidth 8
  seg7PackHex6 d5 d4 d3 d2 d1 d0

/-! ## What the switches say -/

section Switches

variable (sw : BitVec 16)

def enableBit : BitVec 32 := (sw >>> 0).setWidth 32 &&& 0x1
def dirSel : BitVec 32 := (sw >>> 1).setWidth 32 &&& 0x1
def dutySel : BitVec 32 := (sw >>> 2).setWidth 32 &&& 0x7
def motorSel : BitVec 32 := (sw >>> 5).setWidth 32 &&& 0x1

def dirMask : BitVec 32 := if dirSel sw ≠ 0 then DIR_MASK_B else DIR_MASK_A

def duty : BitVec 32 := dutyFromSel (dutySel sw)

def chEnable : BitVec 32 :=
  if motorSel sw = 0 then if enableBit sw ≠ 0 then 0x1 else 0x0
  else if enableBit sw ≠ 0 then 0x2 else 0x0

def duty0 : BitVec 32 := if motorSel sw = 0 then duty sw else 0
def duty1 : BitVec 32 := if motorSel sw = 0 then 0 else duty sw

/-- The calls by which the motors are set to the switches. -/
def switchCalls : List (MotorCall 2) :=
  [.setPeriod MOTOR_TEST_PERIOD, .setChDuty ⟨0, Nat.zero_lt_two⟩ (duty0 sw),
    .setChDuty ⟨1, Nat.one_lt_two⟩ (duty1 sw), .dirChannels (dirMask sw), .enableCh (chEnable sw),
    .setCtrl (if enableBit sw ≠ 0 then PWM_CTRL_ENABLE_MASK else 0)]

end Switches

/-- The calls by which the motors are disabled. -/
def disableCalls : List (MotorCall 2) := [.enableCh 0, .setCtrl 0]

/-- What the program uses of the C library. -/
structure Libc (σ : Type) where
  printf : String → List (BitVec 32) → StateM σ Unit
  fflush : StateM σ Unit
  usleep : BitVec 32 → StateM σ Unit

section Program

variable {σ : Type} (m : Words σ) (c : Libc σ)

def getSwitches : StateM σ (BitVec 16) := do
  return ((← readPort m GPIO_BASE) &&& GPIO_SW_MASK).setWidth 16

def motorDisableAll : StateM σ Unit := do
  pwmSetChEnable m MOTOR_PWM_BASE 0
  pwmSetCtrl m MOTOR_PWM_BASE 0
  pwmApply m MOTOR_PWM_BASE

def seg7ShowDutyDecimal (duty : BitVec 32) : StateM σ Unit := do
  seg7SelectSoftware m
  seg7SetMode m SEG7_MODE_FULL6_HEX
  seg7SetSwValue m (packDecimal6digits duty)

def motorApplySwitchControl (sw : BitVec 16) : StateM σ Unit := do
  pwmSetPeriod m MOTOR_PWM_BASE MOTOR_TEST_PERIOD
  pwmSetDutyCh m MOTOR_PWM_BASE 0 (duty0 sw)
  pwmSetDutyCh m MOTOR_PWM_BASE 1 (duty1 sw)
  m.store (MOTOR_PWM_BASE + MOTOR_PWM_REG_DIR_MASK_OFFSET) (dirMask sw)
  pwmSetChEnable m MOTOR_PWM_BASE (chEnable sw)
  pwmSetCtrl m MOTOR_PWM_BASE (if enableBit sw ≠ 0 then PWM_CTRL_ENABLE_MASK else 0)
  pwmApply m MOTOR_PWM_BASE
  seg7ShowDutyDecimal m (duty sw)

/-- `main` up to its loop. -/
def start : StateM σ Unit := do
  c.printf "Motor switch test\n" []
  c.printf "SW0=en SW1=dir SW[4:2]=duty SW5=motor\n" []
  c.printf "SEG7 shows current duty in decimal\n" []
  c.fflush
  setTris m GPIO_BASE 0xFFFFFFFF
  seg7Init m
  seg7ShowDutyDecimal m 0
  motorDisableAll m

/-- A turn of the loop of `main`; it is given `last_sw` and returns it. -/
def turn (lastSw : BitVec 16) : StateM σ (BitVec 16) := do
  let sw ← getSwitches m
  if sw ≠ lastSw then
    motorApplySwitchControl m sw
    c.printf "SW=0x%03X en=%lu dir=%lu duty=%lu motor=%lu\n"
      [sw.setWidth 32, enableBit sw, dirSel sw, duty sw, motorSel sw]
    c.fflush
  c.usleep 20000
  return sw

/-- `main` with the first `k` turns of its loop; it returns `last_sw`. -/
def main : Nat → StateM σ (BitVec 16)
  | 0 => do
    start m c
    return 0xFFFF
  | k + 1 => do
    let lastSw ← main k
    turn m c lastSw

lemma motorApplySwitchControl_eq (sw : BitVec 16) : motorApplySwitchControl m sw = (do
    motorFrame m (switchCalls sw)
    seg7ShowDutyDecimal m (duty sw)) := rfl

lemma motorDisableAll_eq : motorDisableAll m = motorFrame m disableCalls := rfl

end Program

/-! ## What the motors and the display show -/

section Meaning

variable (sw : BitVec 16)

/-- The settings of the motors. -/
def motorSettings : Settings 32 2 where
  config.ctrl := if enableBit sw ≠ 0 then PWM_CTRL_ENABLE_MASK else 0
  config.period := MOTOR_TEST_PERIOD
  config.duty := #v[duty0 sw, duty1 sw]
  config.chEnable := (chEnable sw).setWidth 2
  masks := ⟨(dirMask sw).setWidth 2, 0, 0⟩

/-- The pins of motor `j` in cycle `k` of a period: SW0 enables the motor that SW5 selects, and SW1
    is the direction. -/
def switchPins (k : Nat) (j : Fin 2) : HbridgePins where
  pwmO := sw.getLsbD 0 && sw.getLsbD 5 == decide (j.val = 1) && decide (k < (duty sw).toNat)
  in1O := sw.getLsbD 1
  in2O := !sw.getLsbD 1

/-- A digit of the duty, without its decimal point. -/
def dutyDigit (duty : BitVec 32) (k : Fin 6) : BitVec 4 × Bool :=
  (.ofNat 4 (duty.toNat / 10 ^ k.val % 10), false)

/-- The display while it shows a duty. -/
def dutyPanel (duty : BitVec 32) : Panel :=
  { Panel.started with software := true, swValue := (packDecimal6digits duty).setWidth 24 }

end Meaning

section Bits

variable (sw : BitVec 16)

/-- A switch. -/
lemma switch_ne_zero (n : Nat) : (sw >>> n).setWidth 32 &&& 0x1#32 ≠ 0 ↔ sw.getLsbD n = true := by
  have bit : (sw >>> n).setWidth 32 &&& 0x1#32 = (BitVec.ofBool (sw.getLsbD n)).setWidth 32 := by
    apply BitVec.eq_of_getLsbD_eq
    intro j lt
    by_cases first : j = 0
    · have small (set : sw.getLsbD n = true) : n < 32 :=
        Nat.lt_of_lt_of_le (BitVec.lt_of_getLsbD set) (by decide)
      simpa [first] using small
    · simp [first]
  rw [bit]
  cases sw.getLsbD n <;> decide

lemma motorSel_eq_zero : motorSel sw = 0 ↔ sw.getLsbD 5 = false := by
  rw [← Bool.not_eq_true, ← switch_ne_zero sw 5, not_not]
  rfl

lemma enableBit_ne_zero : enableBit sw ≠ 0 ↔ sw.getLsbD 0 = true := switch_ne_zero sw 0

lemma dirSel_ne_zero : dirSel sw ≠ 0 ↔ sw.getLsbD 1 = true := switch_ne_zero sw 1

/-- No duty is more than half a period. -/
lemma duty_le : (duty sw).toNat ≤ 500 := by
  rw [duty, dutyFromSel]
  split <;> decide

end Bits

section Settings

variable (sw : BitVec 16)

lemma period_motorSettings : (motorSettings sw).coreIn.period = 1000 := by
  rw [CoreIpIn.period]
  rfl

lemma enable_motorSettings : (motorSettings sw).coreIn.enable = sw.getLsbD 0 := by
  show (if enableBit sw ≠ 0 then PWM_CTRL_ENABLE_MASK else 0).getLsbD 0 = _
  simp only [enableBit_ne_zero]
  cases sw.getLsbD 0 <;> decide

lemma chEnable_motorSettings (j : Fin 2) : (motorSettings sw).coreIn.chEnableI.getLsbD j =
    (sw.getLsbD 0 && sw.getLsbD 5 == decide (j.val = 1)) := by
  show ((chEnable sw).setWidth 2).getLsbD j = _
  simp only [chEnable, motorSel_eq_zero, enableBit_ne_zero]
  revert j
  cases sw.getLsbD 0 <;> cases sw.getLsbD 5 <;> decide

lemma duty_motorSettings (j : Fin 2) : (motorSettings sw).coreIn.dutyCyclesI.get j =
    if sw.getLsbD 5 == decide (j.val = 1) then duty sw else 0 := by
  obtain rfl | rfl : j = 0 ∨ j = 1 := by omega
  · show duty0 sw = _
    simp only [duty0, motorSel_eq_zero]
    cases sw.getLsbD 5 <;> rfl
  · show duty1 sw = _
    simp only [duty1, motorSel_eq_zero]
    cases sw.getLsbD 5 <;> rfl

lemma dir_motorSettings (j : Fin 2) : (motorSettings sw).masks.dir.getLsbD j = sw.getLsbD 1 := by
  show ((dirMask sw).setWidth 2).getLsbD j = _
  simp only [dirMask, dirSel_ne_zero]
  revert j
  cases sw.getLsbD 1 <;> decide

/-- The settings mean what the switches say. -/
lemma wave_motorSettings (k : Nat) : (motorSettings sw).wave k = switchPins sw k := by
  funext j
  have small := duty_le sw
  have pwm : ((motorSettings sw).coreIn.wave k).pwmO j = (switchPins sw k j).pwmO := by
    simp only [CoreIpIn.wave, enable_motorSettings, chEnable_motorSettings, duty_motorSettings,
      period_motorSettings, switchPins]
    cases sel : sw.getLsbD 5 == decide (j.val = 1) with
    | false => simp only [Bool.and_false, Bool.false_and]
    | true =>
      rw [if_pos rfl, Nat.min_eq_left (by omega), Bool.and_true, Bool.and_self]
  have brake : (motorSettings sw).masks.brake.getLsbD j = false := BitVec.getLsbD_zero
  have coast : (motorSettings sw).masks.coast.getLsbD j = false := BitVec.getLsbD_zero
  rw [Settings.wave, Settings.pinsOf, brake, coast, dir_motorSettings, pwm]
  rfl

/-- The calls make these settings of any that neither brake nor coast. -/
lemma foldl_switchCalls {st : Settings 32 2} (brake : st.masks.brake = 0)
    (coast : st.masks.coast = 0) : (switchCalls sw).foldl MotorCall.set st = motorSettings sw := by
  have duties (d : Vector (BitVec 32) 2) (x y : BitVec 32) : (d.set 0 x).set 1 y = #v[x, y] := by
    apply Vector.ext
    intro i lt
    obtain rfl | rfl : i = 0 ∨ i = 1 := by omega
    · simp
    · simp
  obtain ⟨⟨ctrl, period, duty, chEnable⟩, ⟨dir, _, _⟩⟩ := st
  cases brake
  cases coast
  simp [switchCalls, MotorCall.set, motorSettings, duties]

end Settings

/-- The motor that is not selected is off. -/
lemma switchPins_other {sw : BitVec 16} {k : Nat} {j : Fin 2}
    (other : sw.getLsbD 5 ≠ decide (j.val = 1)) : (switchPins sw k j).pwmO = false := by
  show (sw.getLsbD 0 && sw.getLsbD 5 == decide (j.val = 1) && decide (k < (duty sw).toNat)) = false
  rw [beq_false_of_ne other, Bool.and_false, Bool.false_and]

section Digits

/-- The digits of the packed word are the decimal ones. -/
lemma extract_packDecimal (value : BitVec 32) (k : Fin 6) :
    ((packDecimal6digits value).setWidth 24).extractLsb' (4 * k) 4 =
      .ofNat 4 (value.toNat / 10 ^ k.val % 10) := by
  have digit (value : BitVec 32) : (value % 10).setWidth 8 = .ofNat 8 (value.toNat % 10) := by
    apply BitVec.eq_of_toNat_eq
    rw [BitVec.toNat_setWidth, BitVec.toNat_umod, BitVec.toNat_ofNat]
    rfl
  have next (value : BitVec 32) : (value / 10).toNat = value.toNat / 10 := BitVec.toNat_udiv
  let dig (k : Fin 6) : BitVec 8 := .ofNat 8 (value.toNat / 10 ^ k.val % 10)
  have packed : packDecimal6digits value =
      seg7PackHex6 (dig 5) (dig 4) (dig 3) (dig 2) (dig 1) (dig 0) := by
    have first : dig 0 = .ofNat 8 (value.toNat % 10) :=
      congrArg (fun d => BitVec.ofNat 8 (d % 10)) (Nat.div_one _)
    simp only [packDecimal6digits, digit, next, Nat.div_div_eq_div_mul, first]
    rfl
  rw [packed, extract_seg7PackHex6]
  apply BitVec.eq_of_toNat_eq
  rw [BitVec.toNat_setWidth, BitVec.toNat_ofNat, BitVec.toNat_ofNat]
  omega

/-- In this mode no decimal point is lit. -/
lemma separates_dutyPanel (duty : BitVec 32) (k : Fin 6) : (dutyPanel duty).separates k = false := by
  show (MODE_FULL6_HEX = MODE_SPLIT2X12 && k = 3 ||
    MODE_FULL6_HEX = MODE_SPLIT3X8 && (k = 2 || k = 4)) = false
  revert k
  decide

/-- The panel shows the digits of the duty. -/
lemma digit_dutyPanel (duty : BitVec 32) (live : BitVec 24) (k : Fin 6) :
    (dutyPanel duty).digit live k = some (dutyDigit duty k) := by
  have value : (dutyPanel duty).value live = (packDecimal6digits duty).setWidth 24 := rfl
  have lit : (dutyPanel duty).enabled && !(dutyPanel duty).blank.getLsbD k := by
    have blank : (dutyPanel duty).blank.getLsbD k = false := BitVec.getLsbD_zero
    rw [blank]
    rfl
  have dpN : (dutyPanel duty).dpN.getLsbD k = true :=
    BitVec.getLsbD_allOnes.trans (decide_eq_true k.isLt)
  rw [Panel.digit, if_pos lit, value, extract_packDecimal, separates_dutyPanel, dpN]
  rfl

end Digits

end ModularControl.App
