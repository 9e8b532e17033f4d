import ModularControl.App.Main

/-!
# The board

The blocks that `main.c` accesses, on the bus of `niosv_modular_control_system.qsys`, with the rules
by which what is proved of each of them and its driver holds of the program.
-/

namespace ModularControl.App
open Sync Axi Gpio Debug Pwm

/-- The blocks that the program accesses. -/
inductive Block where
  | gpio
  | seg7
  | motor
deriving DecidableEq

instance : Inhabited Block := ⟨.gpio⟩

namespace Block

abbrev Regs : Block → Type
  | gpio => GpioRegs 32
  | seg7 => Seg7Regs
  | motor => Motor 32 2

/-- What surrounds a block: the input pins, and the live value of the display. -/
abbrev Env : Block → Type
  | gpio => BitVec 32
  | seg7 => BitVec (6 * 4)
  | motor => Unit

abbrev device : ∀ b : Block, Responder b.Regs b.Env MmioReq MmioRsp
  | gpio => gpioRegs 32
  | seg7 => seg7Regs 6
  | motor => motorBlock 32 2

abbrev Inv : ∀ b : Block, b.Regs → Prop
  | gpio => fun _ => True
  | seg7 => fun _ => True
  | motor => Motor.Tracked

def base : Block → BitVec 32
  | gpio => GPIO_BASE
  | seg7 => SEG7_DEBUG_BASE
  | motor => MOTOR_PWM_BASE

/-- A block is selected by all but the low twelve bits of an address. -/
def decode (addr : BitVec 32) : Option Block :=
  [gpio, seg7, motor].find? fun b => addr >>> 12 == b.base >>> 12

lemma device_lawful (b : Block) : b.device.Lawful b.Inv := by
  cases b with
  | gpio => exact gpioRegs_lawful 32
  | seg7 => exact seg7Regs_lawful 6
  | motor => exact motorBlock_lawful 32 2

lemma device_steady (b : Block) : b.device.Steady := by
  cases b with
  | gpio => exact gpioRegs_steady 32
  | seg7 => exact seg7Regs_steady 6
  | motor => exact motorBlock_steady 32 2

end Block

/-- The blocks with all they have seen. -/
abbrev Board := Bench (Shared Block.Regs) (∀ b : Block, b.Env) (Block × MmioReq)

/-- How long the calls of the C library take, by the cycle in which they are made. -/
structure Delays where
  printf : Nat → Nat
  fflush : Nat → Nat
  usleep : BitVec 32 → Nat → Nat

/-- The clock runs at 50 MHz, and `usleep` lasts the microseconds it is given or longer. -/
def Delays.Sleeps (d : Delays) : Prop := ∀ usec t, 50 * usec.toNat ≤ d.usleep usec t

section Run

variable (W : World (∀ b : Block, b.Env)) (d : Delays)

def words : Words Board := busWords Block.device W Block.decode

/-- Cycles in which none of the blocks is accessed. -/
def pass (k : Nat → Nat) : StateM Board Unit :=
  modify fun t => t.waits (.shared Block.device) W (.gpio, readReq 0) (k t.now)

def libc : Libc Board where
  printf _ _ := pass W d.printf
  fflush := pass W d.fflush
  usleep usec := pass W (d.usleep usec)

def boardStart : Board := ⟨(Responder.shared Block.device).init, []⟩

/-- The board after the first `k` turns of the loop. -/
def boardAt (k : Nat) : Board := ((main (words W) (libc W d) k).run boardStart).2

def lastSwAt (k : Nat) : BitVec 16 := ((main (words W) (libc W d) k).run boardStart).1

/-- The switches as the program samples them in a cycle. -/
def switchesAt (u : Nat) : BitVec 16 := ((inputAt (W.part Block.gpio) u).setWidth 10).setWidth 16

variable (t : Board) (u : Nat)

/-- The pins of the motors in a cycle gone by. -/
def pinsAt : Fin 2 → HbridgePins :=
  Motor.pins ((t.atCycle (.shared Block.device) u).regs Block.motor)

/-- What the display shows in a cycle gone by. -/
def digitAt (k : Fin 6) : Option (BitVec 4 × Bool) :=
  readSseg (Seg7Regs.hex ((t.atCycle (.shared Block.device) u).regs Block.seg7) (W.env u Block.seg7) k)

end Run

/-! ## What is known of the blocks -/

/-- What is known of each block. -/
abbrev each (G : GpioBench 32 → Prop) (S : Bench Seg7Regs (BitVec (6 * 4)) MmioReq → Prop)
    (M : MotorBench 32 2 → Prop) : ∀ b : Block, Bench b.Regs b.Env MmioReq → Prop
  | .gpio => G
  | .seg7 => S
  | .motor => M

/-- What is known of the board, that was `t₀` before. -/
abbrev Known (t₀ : Board) (G : GpioBench 32 → Prop)
    (S : Bench Seg7Regs (BitVec (6 * 4)) MmioReq → Prop) (M : MotorBench 32 2 → Prop) :
    Board → Prop :=
  Bench.Each Block.device Block.Inv t₀.past (each G S M)

section Rules

variable {W : World (∀ b : Block, b.Env)} {t₀ : Board} {G : GpioBench 32 → Prop}
  {S : Bench Seg7Regs (BitVec (6 * 4)) MmioReq → Prop} {M : MotorBench 32 2 → Prop} {γ : Type}
  {y : StateM Board γ}

lemma gpio_triple {x : StateM (GpioBench 32) γ} {Q : γ → GpioBench 32 → Prop}
    (li : Lifts Block.device Block.Inv W .gpio x y)
    (tr : Triple (fun t => t.Free (gpioRegs 32) (fun _ => True) ∧ G t) x fun c t =>
      t.Free (gpioRegs 32) (fun _ => True) ∧ Q c t)
    (seg7 : Stays Block.device W .seg7 S) (motor : Stays Block.device W .motor M) :
    Triple (Known t₀ G S M) y fun c => Known t₀ (Q c) S M := by
  refine li.triple tr (fun c b other => ?_) fun b other => ?_
  · cases b with
    | gpio => exact absurd rfl other
    | _ => rfl
  · cases b with
    | gpio => exact absurd rfl other
    | seg7 => exact seg7
    | motor => exact motor

lemma seg7_triple {x : StateM (Bench Seg7Regs (BitVec (6 * 4)) MmioReq) γ}
    {Q : γ → Bench Seg7Regs (BitVec (6 * 4)) MmioReq → Prop}
    (li : Lifts Block.device Block.Inv W .seg7 x y)
    (tr : Triple (fun t => t.Free (seg7Regs 6) (fun _ => True) ∧ S t) x fun c t =>
      t.Free (seg7Regs 6) (fun _ => True) ∧ Q c t)
    (gpio : Stays Block.device W .gpio G) (motor : Stays Block.device W .motor M) :
    Triple (Known t₀ G S M) y fun c => Known t₀ G (Q c) M := by
  refine li.triple tr (fun c b other => ?_) fun b other => ?_
  · cases b with
    | seg7 => exact absurd rfl other
    | _ => rfl
  · cases b with
    | gpio => exact gpio
    | seg7 => exact absurd rfl other
    | motor => exact motor

lemma motor_triple {x : StateM (MotorBench 32 2) γ} {Q : γ → MotorBench 32 2 → Prop}
    (li : Lifts Block.device Block.Inv W .motor x y)
    (tr : Triple (fun t => t.Free (motorBlock 32 2) Motor.Tracked ∧ M t) x fun c t =>
      t.Free (motorBlock 32 2) Motor.Tracked ∧ Q c t)
    (gpio : Stays Block.device W .gpio G) (seg7 : Stays Block.device W .seg7 S) :
    Triple (Known t₀ G S M) y fun c => Known t₀ G S (Q c) := by
  refine li.triple tr (fun c b other => ?_) fun b other => ?_
  · cases b with
    | motor => exact absurd rfl other
    | _ => rfl
  · cases b with
    | gpio => exact gpio
    | seg7 => exact seg7
    | motor => exact absurd rfl other

lemma pass_triple {k : Nat → Nat} {G' : GpioBench 32 → Prop}
    {S' : Bench Seg7Regs (BitVec (6 * 4)) MmioReq → Prop} {M' : MotorBench 32 2 → Prop}
    (gpio : ∀ u t, G t → G' (t.waits (gpioRegs 32) (W.part Block.gpio) (readReq 0) (k u)))
    (seg7 : ∀ u t, S t → S' (t.waits (seg7Regs 6) (W.part Block.seg7) (readReq 0) (k u)))
    (motor : ∀ u t, M t → M' (t.waits (motorBlock 32 2) (W.part Block.motor) (readReq 0) (k u))) :
    Triple (Known t₀ G S M) (pass W k) fun _ => Known t₀ G' S' M' := by
  refine fun t known => known.waits Block.device_lawful fun b t' => ?_
  cases b with
  | gpio => exact gpio t.now t'
  | seg7 => exact seg7 t.now t'
  | motor => exact motor t.now t'

end Rules

/-! ## The parts of the program -/

section Lifts

variable (W : World (∀ b : Block, b.Env))

lemma lifts_getSwitches : Lifts Block.device Block.Inv W .gpio
    (getSwitches (deviceWords (gpioRegs 32) (W.part Block.gpio))) (getSwitches (words W)) :=
  (lifts_load Block.device_lawful Block.device_steady rfl).bind fun _ => .pure _

lemma lifts_setTris (trisMask : BitVec 32) : Lifts Block.device Block.Inv W .gpio
    (setTris (deviceWords (gpioRegs 32) (W.part Block.gpio)) GPIO_BASE trisMask)
    (setTris (words W) GPIO_BASE trisMask) :=
  lifts_store Block.device_lawful Block.device_steady rfl

lemma lifts_updateCtrl (clearMask setMask : BitVec 32) : Lifts Block.device Block.Inv W .seg7
    (seg7UpdateCtrl (deviceWords (seg7Regs 6) (W.part Block.seg7)) clearMask setMask)
    (seg7UpdateCtrl (words W) clearMask setMask) :=
  (lifts_load Block.device_lawful Block.device_steady rfl).bind fun _ =>
    lifts_store Block.device_lawful Block.device_steady rfl

lemma lifts_show (duty : BitVec 32) : Lifts Block.device Block.Inv W .seg7
    (seg7ShowDutyDecimal (deviceWords (seg7Regs 6) (W.part Block.seg7)) duty)
    (seg7ShowDutyDecimal (words W) duty) :=
  (lifts_updateCtrl W _ _).bind fun _ => (lifts_updateCtrl W _ _).bind fun _ =>
    lifts_store Block.device_lawful Block.device_steady rfl

lemma lifts_seg7Init : Lifts Block.device Block.Inv W .seg7
    (seg7Init (deviceWords (seg7Regs 6) (W.part Block.seg7))) (seg7Init (words W)) := by
  have store (offset value : BitVec 32)
      (own : Block.decode (SEG7_DEBUG_BASE + offset) = some .seg7) :
      Lifts Block.device Block.Inv W .seg7
        (seg7Write (deviceWords (seg7Regs 6) (W.part Block.seg7)) offset value)
        (seg7Write (words W) offset value) :=
    lifts_store Block.device_lawful Block.device_steady own
  exact (store SEG7_SW_VALUE _ rfl).bind fun _ => (store SEG7_DP_N _ rfl).bind fun _ =>
    (store SEG7_BLANK _ rfl).bind fun _ => store SEG7_CTRL _ rfl

lemma decode_word (call : MotorCall 2) : Block.decode call.word.1 = some .motor := by
  cases call with
  | setChDuty channel duty =>
    show Block.decode (MOTOR_PWM_BASE + pwmRegDutyOffset (.ofNat 32 channel)) = some .motor
    revert channel
    decide
  | _ =>
    dsimp only [MotorCall.word]
    decide

lemma lifts_motorFrame (calls : List (MotorCall 2)) : Lifts Block.device Block.Inv W .motor
    (motorFrame (deviceWords (motorBlock 32 2) (W.part Block.motor)) calls)
    (motorFrame (words W) calls) := by
  have each : Lifts Block.device Block.Inv W .motor
      (calls.forM (MotorCall.run (deviceWords (motorBlock 32 2) (W.part Block.motor))))
      (calls.forM (MotorCall.run (words W))) := by
    induction calls with
    | nil => exact .pure _
    | cons call calls ih =>
      refine Lifts.bind ?_ fun _ => ih
      rw [call.run_eq, call.run_eq]
      exact lifts_store Block.device_lawful Block.device_steady (decode_word call)
  exact each.bind fun _ => lifts_store Block.device_lawful Block.device_steady rfl

end Lifts

end ModularControl.App
