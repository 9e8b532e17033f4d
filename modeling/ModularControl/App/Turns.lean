import ModularControl.App.Board

/-!
# The switch test on the board

`main.c` with the blocks that it accesses. Whatever the switches do and however long everything takes,
the motors and the display follow the switches as they were sampled, one sample at a time.
-/

namespace ModularControl.App
open Sync Axi Gpio Debug Pwm

section Blocks

/-- The port since cycle `a`. -/
def Polled (W : World (BitVec 32)) (a : Nat) (t : GpioBench 32) : Prop :=
  (∃ p, Holds W p t) ∧ a ≤ t.now

/-- The motors since cycle `a`, with nothing more written. -/
def Steered (st : Settings 32 2) (c a : Nat) (t : MotorBench 32 2) : Prop :=
  Writing st c st t ∧ a ≤ t.now

variable {a : Nat}

lemma Polled.idle {W : World (BitVec 32)} (t : GpioBench 32) (q : MmioReq) (r : Bool)
    (po : Polled W a t) : Polled W a (t.cycle (gpioRegs 32) W false q r) := by
  obtain ⟨⟨p, ho⟩, ge⟩ := po
  refine ⟨⟨p, ho.idle⟩, ?_⟩
  rw [Bench.now_cycle]
  exact Nat.le_succ_of_le ge

lemma Steered.idle {W : World Unit} {st : Settings 32 2} {c : Nat} (t : MotorBench 32 2)
    (q : MmioReq) (r : Bool) (se : Steered st c a t) :
    Steered st c a (t.cycle (motorBlock 32 2) W false q r) := by
  obtain ⟨wr, ge⟩ := se
  refine ⟨wr.idle (by decide), ?_⟩
  rw [Bench.now_cycle]
  exact Nat.le_succ_of_le ge

lemma getSwitches_samples {W : World (BitVec 32)} :
    Triple (fun t => t.Free (gpioRegs 32) (fun _ => True) ∧ Polled W a t)
      (getSwitches (deviceWords (gpioRegs 32) W)) fun sw t =>
      t.Free (gpioRegs 32) (fun _ => True) ∧ ∃ u, a ≤ u ∧ Polled W (u + 1) t ∧
        sw = ((inputAt W u).setWidth 10).setWidth 16 := by
  rintro t ⟨free, ⟨p, ho⟩, ge⟩
  obtain ⟨free, re, u, later, lt, read⟩ := readPort_reads (W := W) t
    ⟨free, Facade.reading_start (portFacade_lawful W) ho, Nat.le_refl _⟩
  refine ⟨free, u, Nat.le_trans ge later, ⟨⟨p, re.holds⟩, lt⟩, ?_⟩
  have low (x : BitVec 32) : x &&& GPIO_SW_MASK = (x.setWidth 10).setWidth 32 := and_low x 10
  show (((readPort (deviceWords (gpioRegs 32) W) GPIO_BASE).run t).1 &&& GPIO_SW_MASK).setWidth 16 = _
  rw [read, low, BitVec.setWidth_setWidth_of_le _ (by decide), GpioRegs.packGpio]
  simp

lemma show_changes {W : World (BitVec (6 * 4))} {d d' : BitVec 32} :
    Triple (fun t => t.Free (seg7Regs 6) (fun _ => True) ∧
        Facade.Reading (panelFacade W) (seg7Regs 6) a (dutyPanel d) t)
      (seg7ShowDutyDecimal (deviceWords (seg7Regs 6) W) d') fun _ t =>
      t.Free (seg7Regs 6) (fun _ => True) ∧
        Facade.Changed (panelFacade W) (seg7Regs 6) a (dutyPanel d) (dutyPanel d') t := by
  refine ((select_changes (p := dutyPanel d) (b := a) true).pre
    fun t ⟨free, re⟩ => ⟨free, re, re.begun⟩).bind fun _ => ?_
  refine ((setMode_changes (p := dutyPanel d) SEG7_MODE_FULL6_HEX).pre
    fun t ⟨free, ch⟩ => ⟨free, ch.reading, ch.begun⟩).bind fun _ => ?_
  exact (setSwValue_changes (p := dutyPanel d) (packDecimal6digits d')).pre
    fun t ⟨free, ch⟩ => ⟨free, ch.reading, ch.begun⟩

lemma setTris_holds {W : World (BitVec 32)} (trisMask : BitVec 32) :
    Triple (fun t => t.Free (gpioRegs 32) (fun _ => True) ∧ ∃ p, Holds W p t)
      (setTris (deviceWords (gpioRegs 32) W) GPIO_BASE trisMask) fun _ t =>
      t.Free (gpioRegs 32) (fun _ => True) ∧ ∃ p, Holds W p t := by
  rintro t ⟨free, p, ho⟩
  obtain ⟨free, p', called⟩ := setTris_obeys trisMask p t.now t
    ⟨free, Facade.reading_start (portFacade_lawful W) ho, Nat.le_refl _⟩
  exact ⟨free, p', called.holds⟩

lemma init_holds {W : World (BitVec (6 * 4))} :
    Triple (fun t => t.Free (seg7Regs 6) (fun _ => True) ∧ Displays .reset t)
      (seg7Init (deviceWords (seg7Regs 6) W)) fun _ t =>
      t.Free (seg7Regs 6) (fun _ => True) ∧ Displays .started t :=
  Facade.holds_changes (panelFacade_lawful W) fun _ => init_changes

/-- The display comes to show a duty. -/
lemma show_holds {W : World (BitVec (6 * 4))} (d : BitVec 32) :
    Triple (fun t => t.Free (seg7Regs 6) (fun _ => True) ∧ Displays .started t)
      (seg7ShowDutyDecimal (deviceWords (seg7Regs 6) W) d) fun _ t =>
      t.Free (seg7Regs 6) (fun _ => True) ∧ Displays (dutyPanel d) t := by
  have lawful := panelFacade_lawful W
  refine (Facade.holds_changes lawful fun a => select_changes true).bind fun _ => ?_
  refine (Facade.holds_changes lawful fun a => setMode_changes SEG7_MODE_FULL6_HEX).bind fun _ => ?_
  exact Facade.holds_changes lawful fun a => setSwValue_changes (packDecimal6digits d)

/-- The motors, that are off, are disabled. -/
lemma disable_changes {W : World Unit} :
    Triple (fun t => t.Free (motorBlock 32 2) Motor.Tracked ∧
        Writing (Desk.reset 32 2).shown 0 (Desk.reset 32 2).shown t)
      (motorFrame (deviceWords (motorBlock 32 2) W) disableCalls) fun _ t =>
      t.Free (motorBlock 32 2) Motor.Tracked ∧
        ∃ c, Changed (Desk.reset 32 2).shown 0 (Desk.reset 32 2).shown c t := by
  have off : (Desk.reset 32 2).shown.coreIn.enable = false := rfl
  have sound : (Desk.reset 32 2).shown.Sound := fun en => absurd (off.symm.trans en) (by decide)
  rintro t ⟨free, wr⟩
  obtain ⟨free, -, -, -, wt | ⟨b, -, sw⟩⟩ := frame_triple (W := W) (a := t.now) (by decide) (by decide)
    sound disableCalls t ⟨free, wr, Nat.le_refl _⟩
  · exact absurd (off.symm.trans wt.enabled) (by decide)
  · exact ⟨free, b + 1, sw.toChanged⟩

end Blocks

/-! ## A turn -/

/-- The settings show the switches, with a period that is over before `usleep` is. -/
structure Shows (st : Settings 32 2) (sw : BitVec 16) : Prop where
  brake : st.masks.brake = 0
  coast : st.masks.coast = 0
  sound : st.Sound
  short : st.coreIn.enable = true → st.coreIn.period ≤ 1000
  wave : ∀ k, st.wave (k % st.coreIn.period) = switchPins sw (k % 1000)

lemma motorSettings_shows (sw : BitVec 16) : Shows (motorSettings sw) sw := by
  refine ⟨rfl, rfl, fun _ => ?_, fun _ => Nat.le_of_eq (period_motorSettings sw), fun k => ?_⟩
  · show MOTOR_TEST_PERIOD ≠ 0
    decide
  · rw [period_motorSettings, wave_motorSettings]

/-- After reset the motors are off, as if no switch was on. -/
lemma reset_shows : Shows (Desk.reset 32 2).shown 0 := by
  have off : (Desk.reset 32 2).shown.coreIn.enable = false := rfl
  refine ⟨rfl, rfl, fun en => ?_, fun en => ?_, fun k => ?_⟩
  · rw [off] at en
    cases en
  · rw [off] at en
    cases en
  · funext j
    have dir : (Desk.reset 32 2).shown.masks.dir.getLsbD j = false := BitVec.getLsbD_zero
    have brake : (Desk.reset 32 2).shown.masks.brake.getLsbD j = false := BitVec.getLsbD_zero
    have coast : (Desk.reset 32 2).shown.masks.coast.getLsbD j = false := BitVec.getLsbD_zero
    have zero (n : Nat) : (0 : BitVec 16).getLsbD n = false := BitVec.getLsbD_zero
    rw [Settings.wave, Settings.pinsOf, dir, brake, coast, switchPins, zero, zero, zero]
    simp only [CoreIpIn.wave, off, Bool.false_and]
    rfl

section Turn

variable {W : World (∀ b : Block, b.Env)} {d : Delays} {t₀ : Board} {st : Settings 32 2}
  {s : BitVec 16} {a b c : Nat}

/-- The board during a turn that began in cycle `a`, after the cycle `b`, before the switches are
    found to have changed. -/
abbrev Watching (W : World (∀ b : Block, b.Env)) (t₀ : Board) (st : Settings 32 2) (s : BitVec 16)
    (c a b : Nat) : Board → Prop :=
  Known t₀ (Polled (W.part Block.gpio) b)
    (Facade.Reading (panelFacade (W.part Block.seg7)) (seg7Regs 6) a (dutyPanel (duty s)))
    (Steered st c b)

/-- The board after a turn in which they have. -/
abbrev Followed (W : World (∀ b : Block, b.Env)) (t₀ : Board) (st : Settings 32 2)
    (s sw : BitVec 16) (c a b : Nat) : Board → Prop :=
  Known t₀ (Polled (W.part Block.gpio) b) (Facade.Changed (panelFacade (W.part Block.seg7))
    (seg7Regs 6) a (dutyPanel (duty s)) (dutyPanel (duty sw)))
    fun t => ∃ c', b < c' ∧ Changed st c (motorSettings sw) c' t

lemma panel_reading_stays {p : Panel} : Stays Block.device W .seg7
    (Facade.Reading (panelFacade (W.part Block.seg7)) (seg7Regs 6) a p) :=
  fun _ q r re => re.idle (panelFacade_lawful _) q r

lemma panel_changed_stays {p p' : Panel} : Stays Block.device W .seg7
    (Facade.Changed (panelFacade (W.part Block.seg7)) (seg7Regs 6) a p p') :=
  fun _ q r ch => ch.idle (panelFacade_lawful _) q r

lemma applied_stays (shows : Shows st s) {st' : Settings 32 2} :
    Stays Block.device W .motor (Applied st c st' a) :=
  fun _ q r ap => ap.idle (by decide) shows.sound q r

lemma waits_stays {b : Block} {P : Bench b.Regs b.Env MmioReq → Prop}
    (stays : Stays Block.device W b P) (k : Nat) (t : Bench b.Regs b.Env MmioReq) (p : P t) :
    P (t.waits b.device (W.part b) (readReq 0) k) :=
  Bench.waits_keeps (fun t p => stays t (readReq 0) false p) k p

/-- A new sample is applied while the program sleeps. -/
lemma apply_triple (shows : Shows st s) (sleeps : d.Sleeps) (sw : BitVec 16) :
    Triple (Watching W t₀ st s c a b) (do
      motorApplySwitchControl (words W) sw
      (libc W d).printf "SW=0x%03X en=%lu dir=%lu duty=%lu motor=%lu\n"
        [sw.setWidth 32, enableBit sw, dirSel sw, duty sw, motorSel sw]
      (libc W d).fflush
      (libc W d).usleep 20000) fun _ => Followed W t₀ st s sw c a b := by
  have applied := foldl_switchCalls sw shows.brake shows.coast
  have frame : Triple (fun t => t.Free (motorBlock 32 2) Motor.Tracked ∧ Steered st c b t)
      (motorFrame (deviceWords (motorBlock 32 2) (W.part Block.motor)) (switchCalls sw)) fun _ t =>
      t.Free (motorBlock 32 2) Motor.Tracked ∧
        Applied st c ((switchCalls sw).foldl MotorCall.set st) b t :=
    frame_triple (by decide) (by decide) shows.sound _
  rw [applied] at frame
  rw [motorApplySwitchControl_eq]
  let between : Board → Prop := Known t₀ (Polled (W.part Block.gpio) b)
    (Facade.Changed (panelFacade (W.part Block.seg7)) (seg7Regs 6) a (dutyPanel (duty s))
      (dutyPanel (duty sw))) (Applied st c (motorSettings sw) b)
  refine Triple.bind (R := fun _ => between) ?_ fun _ => ?_
  · exact (motor_triple (lifts_motorFrame W _) frame Polled.idle panel_reading_stays).bind fun _ =>
      seg7_triple (lifts_show W _) show_changes Polled.idle (applied_stays shows)
  -- nothing is requested from here on
  have gpio (k : Nat) := waits_stays (W := W) (b := .gpio) (Polled.idle (a := b)) k
  have idle (k : Nat → Nat) : Keeps between (pass W k) :=
    pass_triple (fun u => gpio (k u)) (fun u => waits_stays (b := .seg7) panel_changed_stays (k u))
      fun u => waits_stays (b := .motor) (applied_stays shows) (k u)
  refine Triple.bind (idle d.printf) fun _ => Triple.bind (idle d.fflush) fun _ => ?_
  refine pass_triple (fun u => gpio _) (fun u => waits_stays (b := .seg7) panel_changed_stays _)
    fun u t ap => ?_
  have slow : st.coreIn.enable = true → st.coreIn.period ≤ d.usleep 20000 u := by
    intro en
    have asked := sleeps 20000 u
    have usec : (20000 : BitVec 32).toNat = 20000 := rfl
    have short := shows.short en
    omega
  obtain ⟨a', b', later, -, inTime, sw⟩ := ap.changes (by decide) shows.sound (readReq 0) slow
  exact ⟨b' + 1, Nat.lt_succ_of_le (Nat.le_trans later inTime.le), sw.toChanged⟩

/-- A turn samples the switches, and applies the sample if it is a new one. -/
lemma turn_triple (shows : Shows st s) (sleeps : d.Sleeps) (lastSw : BitVec 16) :
    Triple (Watching W t₀ st s c a a) (turn (words W) (libc W d) lastSw) fun sw t =>
      ∃ u, a ≤ u ∧ sw = switchesAt W u ∧
        ((sw ≠ lastSw ∧ Followed W t₀ st s sw c a (u + 1) t) ∨
          sw = lastSw ∧ Watching W t₀ st s c a (u + 1) t) := by
  refine Triple.bind (R := fun sw t => ∃ u, (a ≤ u ∧ sw = switchesAt W u) ∧
    Watching W t₀ st s c a (u + 1) t) ?_ fun sw => .of_exists fun u => ?_
  · refine (gpio_triple (lifts_getSwitches W) getSwitches_samples panel_reading_stays
      Steered.idle).post ?_
    rintro sw t ⟨bus, ext, each⟩
    obtain ⟨u, ge, polled, known⟩ := each .gpio
    have later : u + 1 ≤ (t.part .motor).now := by
      rw [Bench.now_part, ← Bench.now_part (i := Block.gpio)]
      exact polled.2
    refine ⟨u, ⟨ge, known⟩, bus, ext, fun b => ?_⟩
    cases b with
    | gpio => exact polled
    | seg7 => exact each .seg7
    | motor => exact ⟨(each .motor).1, later⟩
  · refine .assume (fun _ found => found.1) fun ⟨ge, known⟩ => ?_
    refine (Triple.ite (fun new => ?_) fun same => ?_).pre fun _ found => found.2
    · exact (apply_triple shows sleeps sw).bind fun _ =>
        .pure fun t followed => ⟨u, ge, known, .inl ⟨new, followed⟩⟩
    · refine Triple.bind (pass_triple (fun u => waits_stays (b := .gpio) Polled.idle _)
        (fun u => waits_stays (b := .seg7) panel_reading_stays _)
        fun u => waits_stays (b := .motor) Steered.idle _) fun _ => .pure fun t watching => ?_
      exact ⟨u, ge, known, .inr ⟨not_not.mp same, watching⟩⟩

end Turn

/-! ## Every turn -/

/-- What the board shows: a sample of the switches, and since when the motors do. -/
structure Face where
  sw : BitVec 16
  since : Nat
deriving DecidableEq

/-- The board between two turns. -/
def Rests (W : World (∀ b : Block, b.Env)) (f : Face) (t : Board) : Prop :=
  ∃ st, Shows st f.sw ∧ Known boardStart (fun t => ∃ p, Holds (W.part Block.gpio) p t)
    (Displays (dutyPanel (duty f.sw))) (Writing st f.since st) t

/-- A turn from the board `t` to the board `t'`. The switches are sampled once; if they have changed
    the motors change to the sample at a time after that, period by period of 1000 cycles, and the
    display changes once from one duty to the other. -/
structure Turn (W : World (∀ b : Block, b.Env)) (lastSw : BitVec 16) (f f' : Face) (t t' : Board) :
    Prop where
  ext : t.past <+: t'.past
  sampled : ∃ u, t.now ≤ u ∧ u < t'.now ∧ f'.sw = switchesAt W u ∧ (f'.sw ≠ lastSw → u < f'.since)
  kept : f'.sw = lastSw → f' = f
  before : f'.since ≤ t'.now
  pins : ∀ u, t.now ≤ u → u ≤ t'.now → pinsAt t' u =
    if u < f'.since then switchPins f.sw ((u - f.since) % 1000)
    else switchPins f'.sw ((u - f'.since) % 1000)
  digits : ∃ x, t.now ≤ x ∧ x ≤ t'.now ∧ ∀ u, t.now ≤ u → u ≤ t'.now → ∀ k, digitAt W t' u k =
    some (dutyDigit (duty (if u < x then f.sw else f'.sw)) k)

section Every

variable {W : World (∀ b : Block, b.Env)} {d : Delays} {t t' : Board} {st st' : Settings 32 2}
  {f f' : Face} {lastSw : BitVec 16} {u : Nat}

lemma pinsAt_eq (bus : t.OnBus Block.device Block.Inv) (le : u ≤ t.now) :
    pinsAt t u = Motor.pins ((t.part .motor).atCycle (motorBlock 32 2) u) :=
  congrArg Motor.pins (bus.split.same Block.motor u le)

lemma digitAt_eq (bus : t.OnBus Block.device Block.Inv) (le : u ≤ t.now) (k : Fin 6) :
    digitAt W t u k = readSseg (Seg7Regs.hex ((t.part .seg7).atCycle (seg7Regs 6) u)
      (W.env u Block.seg7) k) :=
  congrArg (fun s => readSseg (Seg7Regs.hex s (W.env u Block.seg7) k))
    (bus.split.same Block.seg7 u le)

/-- What the motors have shown since cycle `a`. -/
lemma pins_changed (bus : t.OnBus Block.device Block.Inv) {s sw : BitVec 16} {c c' : Nat}
    (shows : Shows st s) (shows' : Shows st' sw) (ch : Changed st c st' c' (t.part .motor))
    (ge : c ≤ u) (le : u ≤ t.now) : pinsAt t u =
      if u < c' then switchPins s ((u - c) % 1000) else switchPins sw ((u - c') % 1000) := by
  rw [pinsAt_eq bus le]
  split_ifs with early
  · rw [ch.before u ge early, shows.wave]
  · rw [← Bench.now_part (i := Block.motor)] at le
    rw [ch.shown u (Nat.le_of_not_lt early) le, shows'.wave]

/-- What a turn leaves is what it says. -/
lemma finished (shows : Shows st f.sw) (shows' : Shows st' f'.sw) (begun : f.since ≤ t.now)
    (known : Known t (fun t => ∃ p, Holds (W.part Block.gpio) p t)
      (Facade.Changed (panelFacade (W.part Block.seg7)) (seg7Regs 6) t.now (dutyPanel (duty f.sw))
        (dutyPanel (duty f'.sw))) (Changed st f.since st' f'.since) t')
    (sampled : ∃ u, t.now ≤ u ∧ u < t'.now ∧ f'.sw = switchesAt W u ∧
      (f'.sw ≠ lastSw → u < f'.since))
    (kept : f'.sw = lastSw → f' = f) : Rests W f' t' ∧ Turn W lastSw f f' t t' := by
  obtain ⟨bus, ext, each⟩ := known
  have panel := each .seg7
  have motor : Changed st f.since st' f'.since (t'.part .motor) := each .motor
  refine ⟨⟨st', shows', bus, List.nil_prefix, fun b => ?_⟩, ext, sampled, kept, ?_, fun u ge le => ?_,
    ?_⟩
  · cases b with
    | gpio => exact each .gpio
    | seg7 => exact panel.holds
    | motor => exact motor.toWriting
  · rw [← Bench.now_part (i := Block.motor)]
    exact motor.begun
  · exact pins_changed bus shows shows' motor (Nat.le_trans begun ge) le
  · obtain ⟨x, ge, le, shows⟩ := panel.shows
    rw [Bench.now_part] at le
    refine ⟨x, ge, le, fun u ge le k => ?_⟩
    rw [digitAt_eq bus le]
    rw [← Bench.now_part (i := Block.seg7)] at le
    refine (shows u ge le k).trans ?_
    rw [← digit_dutyPanel _ (W.env u Block.seg7)]
    split_ifs
    · rfl
    · rfl

/-- A sample has ten bits. -/
lemma switchesAt_ne : switchesAt W u ≠ 0xFFFF := by
  intro same
  have small := ((inputAt (W.part Block.gpio) u).setWidth 10).isLt
  have value : (switchesAt W u).toNat = ((inputAt (W.part Block.gpio) u).setWidth 10).toNat := by
    rw [switchesAt, BitVec.toNat_setWidth_of_le (by decide)]
  rw [same] at value
  have all : (0xFFFF : BitVec 16).toNat = 65535 := rfl
  omega

lemma Rests.turn (rests : Rests W f t) (sleeps : d.Sleeps) (last : lastSw = 0xFFFF ∨ lastSw = f.sw) :
    ∃ f', ((App.turn (words W) (libc W d) lastSw).run t).1 = f'.sw ∧
      Rests W f' ((App.turn (words W) (libc W d) lastSw).run t).2 ∧
      Turn W lastSw f f' t ((App.turn (words W) (libc W d) lastSw).run t).2 := by
  obtain ⟨st, shows, bus, -, each⟩ := rests
  have writing : Writing st f.since st (t.part .motor) := each .motor
  have begun : f.since ≤ t.now := by
    rw [← Bench.now_part (i := Block.motor)]
    exact writing.begun
  have now (b : Block) : t.now ≤ (t.part b).now := Nat.le_of_eq Bench.now_part.symm
  have watching : Watching W t st f.sw f.since t.now t.now t := by
    refine ⟨bus, List.prefix_refl _, fun b => ?_⟩
    cases b with
    | gpio => exact ⟨each .gpio, now .gpio⟩
    | seg7 =>
      have start := Facade.reading_start (panelFacade_lawful (W.part Block.seg7)) (each .seg7)
      rw [Bench.now_part] at start
      exact start
    | motor => exact ⟨writing, now .motor⟩
  obtain ⟨u, ge, known, ⟨new, bus, ext, each⟩ | ⟨same, bus, ext, each⟩⟩ :=
    turn_triple shows sleeps lastSw t watching
  · obtain ⟨port, lt⟩ := each .gpio
    obtain ⟨c', later, ch⟩ := each .motor
    rw [Bench.now_part] at lt
    refine ⟨⟨_, c'⟩, rfl, finished shows (motorSettings_shows _) begun ⟨bus, ext, fun b => ?_⟩
      ⟨u, ge, lt, known, fun _ => Nat.lt_of_succ_lt later⟩ fun same => absurd same new⟩
    cases b with
    | gpio => exact port
    | seg7 => exact each .seg7
    | motor => exact ch
  · obtain ⟨port, lt⟩ := each .gpio
    obtain ⟨wr, -⟩ := each .motor
    rw [Bench.now_part] at lt
    have shown : ((App.turn (words W) (libc W d) lastSw).run t).1 = f.sw := by
      obtain first | last := last
      · exact absurd (known.symm.trans (same.trans first)) switchesAt_ne
      · exact same.trans last
    rw [shown] at known
    refine ⟨f, shown, finished shows shows begun ⟨bus, ext, fun b => ?_⟩
      ⟨u, ge, lt, known, fun new => absurd (shown.symm.trans same) new⟩ fun _ => rfl⟩
    cases b with
    | gpio => exact port
    | seg7 => exact (each .seg7).changed
    | motor => exact ⟨wr, fun u ge lt => absurd lt (Nat.not_lt.mpr ge)⟩

/-- `main` up to its loop leaves the motors off, and the display at 0. -/
lemma start_triple : Triple (· = boardStart) (start (words W) (libc W d)) fun _ t =>
    ∃ c, Rests W ⟨0, c⟩ t ∧ ∀ u ≤ t.now, pinsAt t u = switchPins 0 0 := by
  let port (t : GpioBench 32) : Prop := ∃ p, Holds (W.part Block.gpio) p t
  let still : MotorBench 32 2 → Prop := Writing (Desk.reset 32 2).shown 0 (Desk.reset 32 2).shown
  have portStays : Stays Block.device W .gpio port := fun _ _ _ ⟨p, ho⟩ => ⟨p, ho.idle⟩
  have panelStays (p : Panel) : Stays Block.device W .seg7 (Displays p) :=
    fun _ q r di => (panelFacade_lawful _).idle q r di
  have motorStays : Stays Block.device W .motor still := fun _ _ _ wr => wr.idle (by decide)
  have idle (k : Nat → Nat) : Keeps (Known boardStart port (Displays .reset) still) (pass W k) :=
    pass_triple (fun u => waits_stays (b := .gpio) portStays (k u))
      (fun u => waits_stays (b := .seg7) (panelStays _) (k u))
      fun u => waits_stays (b := .motor) motorStays (k u)
  rw [start, motorDisableAll_eq]
  refine (Triple.bind (idle d.printf) fun _ => Triple.bind (idle d.printf) fun _ =>
    Triple.bind (idle d.printf) fun _ => Triple.bind (idle d.fflush) fun _ => ?_).pre ?_
  · refine (gpio_triple (lifts_setTris W _) (setTris_holds _) (panelStays _) motorStays).bind
      fun _ => ?_
    refine (seg7_triple (lifts_seg7Init W) init_holds portStays motorStays).bind fun _ => ?_
    refine (seg7_triple (lifts_show W 0) (show_holds 0) portStays motorStays).bind fun _ => ?_
    refine (motor_triple (lifts_motorFrame W _) disable_changes portStays (panelStays _)).post ?_
    rintro _ t ⟨bus, ext, each⟩
    obtain ⟨c, ch⟩ := each .motor
    have dark (k : Nat) : switchPins 0 k = switchPins 0 0 := rfl
    refine ⟨c, ⟨_, reset_shows, bus, ext, fun b => ?_⟩, fun u le => ?_⟩
    · cases b with
      | gpio => exact each .gpio
      | seg7 =>
        have zero : duty 0 = 0 := by decide
        show Displays (dutyPanel (duty 0)) _
        rw [zero]
        exact each .seg7
      | motor => exact ch.toWriting
    · rw [pins_changed bus reset_shows reset_shows ch (Nat.zero_le u) le, dark, dark (_ % _), ite_self]
  · rintro t rfl
    refine ⟨Bench.onBus_start Block.device_lawful, List.prefix_refl _, fun b => ?_⟩
    cases b with
    | gpio => exact ⟨_, holds_reset⟩
    | seg7 => exact displays_reset
    | motor => exact (settled_reset (by decide)).writing

end Every

/-- The board after a number of turns, with all that has led to it. -/
lemma boardAt_rests {W : World (∀ b : Block, b.Env)} {d : Delays} (sleeps : d.Sleeps) (k : Nat) :
    ∃ f : Nat → Face, (f 0).sw = 0 ∧ (∀ i ≤ k, Rests W (f i) (boardAt W d i)) ∧
      ∀ i < k, lastSwAt W d (i + 1) = (f (i + 1)).sw ∧
        Turn W (lastSwAt W d i) (f i) (f (i + 1)) (boardAt W d i) (boardAt W d (i + 1)) := by
  obtain ⟨c, start, -⟩ := start_triple (W := W) (d := d) boardStart rfl
  obtain ⟨f, first, rests, turns⟩ := exists_course
    (P := fun i f => Rests W f (boardAt W d i) ∧
      (lastSwAt W d i = 0xFFFF ∨ lastSwAt W d i = f.sw))
    (R := fun i f f' => lastSwAt W d (i + 1) = f'.sw ∧
      Turn W (lastSwAt W d i) f f' (boardAt W d i) (boardAt W d (i + 1))) (k := k)
    ⟨start, .inl rfl⟩ fun i _ f ⟨rests, last⟩ => by
    obtain ⟨f', shown, rests', turn⟩ := rests.turn sleeps last
    exact ⟨f', ⟨rests', .inr shown⟩, shown, turn⟩
  exact ⟨f, congrArg Face.sw first, fun i le => (rests i le).1, turns⟩

/-- Whatever the switches do and however long the accesses, the prints and the sleeps take, if
    `usleep` lasts as long as it says: before the first turn the motors are off, and every turn of
    the loop samples the switches once. If the sample is the one before, nothing changes; else the
    motors change to it, all at once and after the sample, and the display to its duty. In every
    cycle the pins are those of one sample, in a period that began when it was applied. -/
theorem switches_drive_motors (W : World (∀ b : Block, b.Env)) (d : Delays) (sleeps : d.Sleeps)
    (k : Nat) : (∀ u ≤ (boardAt W d 0).now, pinsAt (boardAt W d 0) u = switchPins 0 0) ∧
    ∃ f : Nat → Face, (f 0).sw = 0 ∧ ∀ i < k, lastSwAt W d (i + 1) = (f (i + 1)).sw ∧
      Turn W (lastSwAt W d i) (f i) (f (i + 1)) (boardAt W d i) (boardAt W d (i + 1)) := by
  obtain ⟨c, -, off⟩ := start_triple (W := W) (d := d) boardStart rfl
  obtain ⟨f, first, -, turns⟩ := boardAt_rests sleeps k
  exact ⟨off, f, first, turns⟩

/-- Motor 1 is enabled with a duty of 150 while accesses take up to three cycles. -/
def enabled : World (∀ b : Block, b.Env) where
  env _ b := match b with
    | .gpio => 0x29
    | .seg7 => 0
    | .motor => ()
  gap t := t % 3
  lag _ := 1

/-- A C library that sleeps as long as it says. -/
def punctual : Delays := ⟨fun _ => 7, fun _ => 3, fun usec _ => 50 * usec.toNat⟩

theorem switches_drive_motors_twice :
    (∀ u ≤ (boardAt enabled punctual 0).now, pinsAt (boardAt enabled punctual 0) u = switchPins 0 0) ∧
    ∃ f : Nat → Face, (f 0).sw = 0 ∧ ∀ i < 2, lastSwAt enabled punctual (i + 1) = (f (i + 1)).sw ∧
      Turn enabled (lastSwAt enabled punctual i) (f i) (f (i + 1)) (boardAt enabled punctual i)
        (boardAt enabled punctual (i + 1)) :=
  switches_drive_motors enabled punctual (fun _ _ => Nat.le_refl _) 2

/-- The pins of the motors are those of a sample that has been taken. -/
def Traced (W : World (∀ b : Block, b.Env)) (u : Nat) (pins : Fin 2 → HbridgePins) : Prop :=
  ∃ sw k, (sw = 0 ∨ ∃ v < u, sw = switchesAt W v) ∧ pins = switchPins sw k

section Traced

variable {W : World (∀ b : Block, b.Env)} {lastSw : BitVec 16} {f f' : Face} {t t' : Board}

/-- A turn leaves no cycle in which the pins are not those of a sample. -/
lemma Turn.traced (tu : Turn W lastSw f f' t t')
    (sample : f.sw = 0 ∨ ∃ v < t.now, f.sw = switchesAt W v)
    (before : ∀ u ≤ t.now, Traced W u (pinsAt t u)) :
    (f'.sw = 0 ∨ ∃ v < t'.now, f'.sw = switchesAt W v) ∧
      ∀ u ≤ t'.now, Traced W u (pinsAt t' u) := by
  obtain ⟨v, -, lt, known, causal⟩ := tu.sampled
  refine ⟨.inr ⟨v, lt, known⟩, fun u le => ?_⟩
  obtain gone | now := Nat.lt_or_ge u t.now
  · rw [pinsAt, Bench.atCycle_ext tu.ext (Nat.le_of_lt gone)]
    exact before u (Nat.le_of_lt gone)
  have old : Traced W u (switchPins f.sw ((u - f.since) % 1000)) := by
    refine ⟨_, _, sample.imp_right fun ⟨v, lt, known⟩ => ?_, rfl⟩
    exact ⟨v, Nat.lt_of_lt_of_le lt now, known⟩
  rw [tu.pins u now le]
  split_ifs with early
  · exact old
  · by_cases same : f'.sw = lastSw
    · rw [tu.kept same]
      exact old
    · exact ⟨_, _, .inr ⟨v, Nat.lt_of_lt_of_le (causal same) (Nat.le_of_not_lt early), known⟩, rfl⟩

end Traced

lemma boardAt_traced {W : World (∀ b : Block, b.Env)} {d : Delays} (sleeps : d.Sleeps) (k u : Nat)
    (le : u ≤ (boardAt W d k).now) : Traced W u (pinsAt (boardAt W d k) u) := by
  obtain ⟨c, -, off⟩ := start_triple (W := W) (d := d) boardStart rfl
  obtain ⟨f, first, -, turns⟩ := boardAt_rests sleeps k
  have run (i : Nat) (before : i ≤ k) :
      ((f i).sw = 0 ∨ ∃ v < (boardAt W d i).now, (f i).sw = switchesAt W v) ∧
        ∀ u ≤ (boardAt W d i).now, Traced W u (pinsAt (boardAt W d i) u) := by
    induction i with
    | zero => exact ⟨.inl first, fun u le => ⟨0, 0, .inl rfl, off u le⟩⟩
    | succ i ih =>
      obtain ⟨sample, traced⟩ := ih (Nat.le_of_succ_le before)
      exact (turns i before).2.traced sample traced
  exact (run k (Nat.le_refl k)).2 u le

/-- In every cycle of every run one of the motors is off, and a motor is driven only in the
    direction and with the enable of a sample taken before that selects it. -/
theorem one_motor_at_a_time (W : World (∀ b : Block, b.Env)) (d : Delays) (sleeps : d.Sleeps)
    (k u : Nat) (le : u ≤ (boardAt W d k).now) :
    (∃ j, (pinsAt (boardAt W d k) u j).pwmO = false) ∧
    ∀ j, (pinsAt (boardAt W d k) u j).pwmO = true → ∃ v < u,
      (switchesAt W v).getLsbD 0 = true ∧ (switchesAt W v).getLsbD 5 = decide (j.val = 1) ∧
        pinsAt (boardAt W d k) u j =
          ⟨true, (switchesAt W v).getLsbD 1, !(switchesAt W v).getLsbD 1⟩ := by
  obtain ⟨sw, n, sample, pins⟩ := boardAt_traced sleeps k u le
  rw [pins]
  constructor
  · cases sel : sw.getLsbD 5 with
    | false => exact ⟨1, switchPins_other (by rw [sel]; decide)⟩
    | true => exact ⟨0, switchPins_other (by rw [sel]; decide)⟩
  · intro j driven
    have all : (sw.getLsbD 0 && sw.getLsbD 5 == decide (j.val = 1) &&
      decide (n < (duty sw).toNat)) = true := driven
    rw [Bool.and_eq_true, Bool.and_eq_true, beq_iff_eq] at all
    obtain ⟨⟨en, sel⟩, -⟩ := all
    obtain rfl | ⟨v, lt, rfl⟩ := sample
    · exact absurd (BitVec.getLsbD_zero.symm.trans en) (by decide)
    · refine ⟨v, lt, en, sel, ?_⟩
      rw [← driven]
      rfl

theorem one_motor_at_a_time_once :
    (∃ j, (pinsAt (boardAt enabled punctual 1) (boardAt enabled punctual 1).now j).pwmO = false) ∧
    ∀ j, (pinsAt (boardAt enabled punctual 1) (boardAt enabled punctual 1).now j).pwmO = true →
      ∃ v < (boardAt enabled punctual 1).now,
        (switchesAt enabled v).getLsbD 0 = true ∧
        (switchesAt enabled v).getLsbD 5 = decide (j.val = 1) ∧
        pinsAt (boardAt enabled punctual 1) (boardAt enabled punctual 1).now j =
          ⟨true, (switchesAt enabled v).getLsbD 1, !(switchesAt enabled v).getLsbD 1⟩ :=
  one_motor_at_a_time enabled punctual (fun _ _ => Nat.le_refl _) 1 _ (Nat.le_refl _)

end ModularControl.App
