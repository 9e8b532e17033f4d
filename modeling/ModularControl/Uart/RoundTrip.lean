import ModularControl.Uart.BaudGen
import ModularControl.Uart.RxEngine
import ModularControl.Uart.TxEngine

/-!
# From the transmitter to the receiver

The transmitter's line wired to the receiver, both on the ticks of one generator. A frame takes the
transmitter 160 ticks and one clock, the receiver 160 ticks and two clocks. With a divider of 3 or
more no tick falls into these clocks; with 1 or 2 the receiver falls behind by a tick with every
frame that follows the one before at once.
-/

namespace ModularControl.Uart
open Sync

/-- What is offered to the transmitter in a cycle. -/
structure Offer where
  valid : Bool
  data : BitVec 8
deriving DecidableEq, Repr

/-- What a cycle of the link shows: the byte the transmitter accepts and the byte taken from the
    receiver. -/
structure LinkCycle where
  accepted : Option (BitVec 8)
  delivered : Option (BitVec 8)
deriving DecidableEq, Repr

/-- The registers of generator, transmitter and receiver. -/
structure Link (w : Nat) where
  baud : BaudGen w
  tx : TxEngine
  rx : RxEngine

namespace Link

variable {w : Nat} (p : BaudParams) (divX16 : BitVec w) (s : Link w) (i : Offer)

def txIn : TxIn := ⟨s.baud.baudX16Tick, i.valid, i.data⟩

/-- The receiver's pin is the transmitter's, and its output is always taken. -/
def rxIn : RxEngineIn := ⟨s.baud.baudX16Tick, s.tx.uartTx, true⟩

def step : Link w where
  baud := s.baud.step p ⟨true, divX16⟩
  tx := s.tx.step (s.txIn i)
  rx := s.rx.step s.rxIn

def cycle : LinkCycle where
  accepted := if s.tx.txFire (s.txIn i) then some i.data else none
  delivered := if s.rx.rxFire s.rxIn then some s.rx.outputBuffer else none

end Link

/-- The link with a divider that stays. -/
def link (w : Nat) (p : BaudParams) (divX16 : BitVec w) : Machine (Link w) Offer LinkCycle where
  init := ⟨.reset, .reset, .reset⟩
  step s i := s.step p divX16 i
  out s i := s.cycle i

section Streams

variable {w : Nat} (p : BaudParams) (divX16 : BitVec w) (f : Nat → Offer)

def linkAccepted (t : Nat) : Option (BitVec 8) := ((link w p divX16).outAt f t).accepted

def linkDelivered (t : Nat) : Option (BitVec 8) := ((link w p divX16).outAt f t).delivered

/-- The receiver puts out the bytes that the transmitter has accepted, in order, and in the end all
    of them. -/
def RoundTrip : Prop :=
  ∀ t, log (linkDelivered p divX16 f) t <+: log (linkAccepted p divX16 f) t ∧
    ∃ u, log (linkAccepted p divX16 f) t <+: log (linkDelivered p divX16 f) u

/-- No byte is accepted in the clock after a stop bit. -/
def Rested : Prop :=
  ∀ t, ((link w p divX16).atCycle f t).tx.currentState = .stop → linkAccepted p divX16 f (t + 1) = none

end Streams

/-! ## The transmitter on given ticks -/

/-- The transmitter's inputs, with its ticks and what is offered. -/
def offering (tick : Nat → Bool) (f : Nat → Offer) (t : Nat) : TxIn :=
  ⟨tick t, (f t).valid, (f t).data⟩

/-- The byte that the transmitter accepts in a cycle. -/
def taken (tick : Nat → Bool) (f : Nat → Offer) (t : Nat) : Option (BitVec 8) :=
  uartTxEngine.outAt (offering tick f) t

/-- The transmitter's line. -/
def sentLine (tick : Nat → Bool) (f : Nat → Offer) (t : Nat) : Bool :=
  (uartTxEngine.atCycle (offering tick f) t).uartTx

section Link

variable {w : Nat} (p : BaudParams) (divX16 : BitVec w) (f : Nat → Offer) (t : Nat)

lemma link_baud : ((link w p divX16).atCycle f t).baud.baudX16Tick = x16Tick p divX16 t :=
  congrArg BaudGen.baudX16Tick ((link w p divX16).atCycle_project (baudGen w p) Link.baud
    (fun _ _ => ⟨true, divX16⟩) rfl (fun _ _ => rfl) f t)

lemma link_tx : ((link w p divX16).atCycle f t).tx =
    uartTxEngine.atCycle (offering (x16Tick p divX16) f) t := by
  have inputs := (link w p divX16).atCycle_project uartTxEngine Link.tx Link.txIn rfl
    (fun _ _ => rfl) f t
  simp only [Link.txIn, link_baud] at inputs
  exact inputs

lemma link_rx : ((link w p divX16).atCycle f t).rx =
    uartRxEngine.atCycle (listening (x16Tick p divX16) (sentLine (x16Tick p divX16) f)) t := by
  have inputs := (link w p divX16).atCycle_project uartRxEngine Link.rx (fun s _ => s.rxIn) rfl
    (fun _ _ => rfl) f t
  simp only [Link.rxIn, link_baud, link_tx] at inputs
  exact inputs

lemma linkAccepted_eq : linkAccepted p divX16 f = taken (x16Tick p divX16) f := by
  funext t
  change (if ((link w p divX16).atCycle f t).tx.txFire
    ⟨((link w p divX16).atCycle f t).baud.baudX16Tick, (f t).valid, (f t).data⟩ then
      some (f t).data else none) = _
  rw [link_tx, link_baud]
  rfl

lemma linkDelivered_eq : linkDelivered p divX16 f =
    received (x16Tick p divX16) (sentLine (x16Tick p divX16) f) := by
  funext t
  change (if ((link w p divX16).atCycle f t).rx.rxFire
    ⟨((link w p divX16).atCycle f t).baud.baudX16Tick, ((link w p divX16).atCycle f t).tx.uartTx,
      true⟩ then some ((link w p divX16).atCycle f t).rx.outputBuffer else none) = _
  rw [link_rx, link_baud, link_tx]
  rfl

end Link

/-! ## One frame after the other -/

section Frames

variable {d : Nat} {tick : Nat → Bool} {f : Nat → Offer} {a t x : Nat} {b : BitVec 8}

/-- The line in a frame that begins in cycle `a`. -/
lemma sentLine_frame (begins : (uartTxEngine.atCycle (offering tick f) a).InFrame b 0) (ge : a ≤ t)
    (lt : count tick t < count tick a + 160) :
    sentLine tick f t = frameLevel b ((count tick t - count tick a) / 16) := by
  have ticks : ∀ t, (offering tick f t).baudX16Tick = tick t := fun _ => rfl
  exact (tx_frame ticks begins ge lt).line (by omega)

/-- In its frame the transmitter accepts nothing. -/
lemma taken_frame (begins : (uartTxEngine.atCycle (offering tick f) a).InFrame b 0) (ge : a ≤ t)
    (lt : count tick t < count tick a + 160) : taken tick f t = none := by
  have ticks : ∀ t, (offering tick f t).baudX16Tick = tick t := fun _ => rfl
  have fr := tx_frame ticks begins ge lt
  refine if_neg ?_
  rw [fr.noFire]
  exact Bool.false_ne_true

/-- A receiver that sees the start bit no more than three ticks late samples every bit of the frame
    in its time. -/
lemma samples_sent (begins : (uartTxEngine.atCycle (offering tick f) a).InFrame b 0)
    (after : a + 2 ≤ x) (lag : count tick (x + 1) ≤ count tick a + 3) :
    Samples tick (sentLine tick f) (x + 1) (frameLevel b) := by
  refine ⟨rfl, fun u ge pulse j lt at_j => ?_⟩
  obtain ⟨v, rfl⟩ : ∃ v, u = v + 2 := ⟨u - 2, by omega⟩
  -- the synchroniser shows the line of two clocks, so of at most two ticks, ago
  have before := count_add_le tick v 2
  have mono := count_mono tick (by omega : v ≤ v + 2)
  have first := count_mono tick (by omega : a ≤ x + 1)
  change sentLine tick f v = _
  rw [sentLine_frame begins (by omega) (by omega)]
  congr 1
  omega

/-- The transmitter is idle from cycle `e` on and the receiver waits from cycle `r` on, having
    handed over what had been accepted. -/
structure Rest (d : Nat) (tick : Nat → Bool) (f : Nat → Offer) (e r : Nat) : Prop where
  idle : (uartTxEngine.atCycle (offering tick f) e).currentState = .idle
  waits : (uartRxEngine.atCycle (listening tick (sentLine tick f)) r).Waits
  all : log (received tick (sentLine tick f)) r = log (taken tick f) e
  late : ∀ a, e ≤ a → (3 ≤ d ∨ e < a ∨ e = 0) → count tick (r + 1) ≤ count tick (a + 1) + 3
  high : ∀ v, r ≤ v + 2 → v ≤ e → sentLine tick f v = true
  after : e = 0 ∨ ∃ z, e = z + 1 ∧ (uartTxEngine.atCycle (offering tick f) z).currentState = .stop

/-- No byte is accepted from cycle `e` on before cycle `t`. -/
def Quiet (tick : Nat → Bool) (f : Nat → Offer) (e t : Nat) : Prop :=
  ∀ u, e ≤ u → u < t → taken tick f u = none

variable {e r : Nat}

/-- Both are at rest after reset. -/
lemma rest_reset (d : Nat) (tick : Nat → Bool) (f : Nat → Offer) : Rest d tick f 0 2 := by
  obtain ⟨waits, none⟩ := rx_reset tick (sentLine tick f)
  refine ⟨rfl, waits, none, fun a _ _ => ?_, fun v _ le => ?_, .inl rfl⟩
  · have le : count tick 3 ≤ count tick 0 + 3 := count_add_le tick 0 3
    rw [count_zero] at le
    change count tick 3 ≤ _
    omega
  · obtain rfl : v = 0 := by omega
    rfl

/-- At rest the receiver goes on waiting until it sees the next start bit. -/
lemma Rest.seen_high (rest : Rest d tick f e r) (quiet : Quiet tick f e a) {u : Nat} (ge : r ≤ u)
    (le : u ≤ a + 2) : seen (sentLine tick f) u = true := by
  match u with
  | 0 => rfl
  | 1 => rfl
  | v + 2 =>
    change sentLine tick f v = true
    by_cases early : v ≤ e
    · exact rest.high v ge early
    · have idle := tx_idle rest.idle (by omega : e ≤ v) fun u ge lt => quiet u ge (by omega)
      rw [sentLine, TxEngine.uartTx, idle]

/-- A byte is accepted in cycle `a`, the first since both were at rest. -/
structure Accepts (tick : Nat → Bool) (f : Nat → Offer) (e a : Nat) : Prop where
  ge : e ≤ a
  quiet : Quiet tick f e a
  fire : (uartTxEngine.atCycle (offering tick f) a).txFire (offering tick f a) = true

lemma Accepts.begins (ac : Accepts tick f e a) :
    (uartTxEngine.atCycle (offering tick f) (a + 1)).InFrame (f a).data 0 := by
  rw [Machine.atCycle_succ]
  exact TxEngine.inFrame_of_fire ac.fire

/-- What has been accepted in the frame. -/
lemma Accepts.log_frame (ac : Accepts tick f e a) (gt : a < t)
    (le : ∀ u, a < u → u < t → count tick u < count tick (a + 1) + 160) :
    log (taken tick f) t = log (taken tick f) e ++ [(f a).data] := by
  have before : log (taken tick f) a = log (taken tick f) e := log_still ac.ge ac.quiet
  have frame : log (taken tick f) t = log (taken tick f) (a + 1) :=
    log_still gt fun u ge lt => taken_frame ac.begins ge (le u ge lt)
  have now : taken tick f a = some (f a).data := if_pos ac.fire
  rw [frame, log_succ, before, now, Option.toList_some]

/-- The receiver sees the start bit two clocks after it has begun, or as soon as it waits again. -/
lemma Rest.catches (rest : Rest d tick f e r) (ac : Accepts tick f e a)
    (can : 3 ≤ d ∨ e < a ∨ e = 0) :
    ∃ x, r ≤ x ∧ a + 3 ≤ x ∧ count tick (x + 1) ≤ count tick (a + 1) + 3 ∧
      (∀ u, r ≤ u → u < x → seen (sentLine tick f) u = true) ∧ seen (sentLine tick f) x = false := by
  have lag : count tick (max (a + 3) r + 1) ≤ count tick (a + 1) + 3 := by
    obtain le | le := Nat.le_total r (a + 3)
    · rw [Nat.max_eq_left le]
      exact count_add_le tick (a + 1) 3
    · rw [Nat.max_eq_right le]
      exact rest.late a ac.ge can
  refine ⟨max (a + 3) r, Nat.le_max_right _ _, Nat.le_max_left _ _, lag, fun u ge lt => ?_, ?_⟩
  · exact rest.seen_high ac.quiet ge (by omega)
  · obtain ⟨v, eq⟩ : ∃ v, max (a + 3) r = v + 2 := ⟨max (a + 3) r - 2, by omega⟩
    have mono := count_mono tick (by omega : v ≤ max (a + 3) r + 1)
    rw [eq]
    change sentLine tick f v = false
    rw [sentLine_frame ac.begins (by omega) (by omega), Nat.div_eq_of_lt (by omega)]
    rfl

/-- From rest to rest: the frame of the next byte. -/
lemma Rest.next (ev : Every d tick) (pos : 0 < d) (rest : Rest d tick f e r)
    (ac : Accepts tick f e a) (can : 3 ≤ d ∨ e < a ∨ e = 0) :
    ∃ z r', tick z = true ∧ count tick z = count tick (a + 1) + 159 ∧
      Rest d tick f (z + 1) r' ∧
      ∀ t, r ≤ t → t ≤ z →
        log (received tick (sentLine tick f)) t = log (received tick (sentLine tick f)) r := by
  have ticks : ∀ t, (offering tick f t).baudX16Tick = tick t := fun _ => rfl
  obtain ⟨x, ge, after, lag, high, low⟩ := rest.catches ac can
  have first := count_mono tick (by omega : a + 1 ≤ x + 1)
  -- the last tick of the transmitter's frame and that of the receiver's
  obtain ⟨z, z_eq⟩ : ∃ z, z = d * (count tick (a + 1) + 159 + 1) := ⟨_, rfl⟩
  obtain ⟨y, y_eq⟩ : ∃ y, y = d * (count tick (x + 1) + 159 + 1) := ⟨_, rfl⟩
  have pulse_z : tick z = true := z_eq ▸ ev.pulse pos _
  have pulse_y : tick y = true := y_eq ▸ ev.pulse pos _
  have count_z : count tick z = count tick (a + 1) + 159 := z_eq ▸ ev.count_pulse pos _
  have count_y : count tick y = count tick (x + 1) + 159 := y_eq ▸ ev.count_pulse pos _
  have order : z ≤ y := by
    rw [z_eq, y_eq]
    exact Nat.mul_le_mul_left d (by omega)
  have inside : a + 1 ≤ z := by
    by_contra lt
    have mono := count_mono tick (by omega : z ≤ a + 1)
    omega
  obtain ⟨waits, still, all⟩ := rx_delivers rest.waits ge high low
    (samples_sent ac.begins (by omega) lag) pulse_y count_y
  have idle := tx_frame_end ticks ac.begins inside pulse_z count_z
  have stop := tx_frame ticks ac.begins inside (by omega)
  rw [count_z, Nat.add_sub_cancel_left] at stop
  refine ⟨z, y + 2, pulse_z, count_z, ⟨idle, waits, ?_, ?_, ?_, .inr ⟨z, rfl, stop.state⟩⟩,
    fun t ge le => still t ge (by omega)⟩
  · rw [all, rest.all, ac.log_frame (by omega : a < z + 1) fun u _ lt => ?_]
    have mono := count_mono tick (by omega : u ≤ z)
    omega
  · rintro a' ge' can'
    -- the ticks in the two clocks of the receiver against those while the transmitter is idle
    have late : 2 / d ≤ (a' - z) / d := by
      obtain wide | later | zero := can'
      · rw [Nat.div_eq_of_lt (by omega : 2 < d)]
        exact Nat.zero_le _
      · exact Nat.div_le_div_right (by omega)
      · omega
    have rx := ev.count_after pos pulse_y 2
    have tx := ev.count_after pos pulse_z (a' - z)
    rw [show z + 1 + (a' - z) = a' + 1 by omega] at tx
    change count tick (y + 1 + 2) ≤ _
    omega
  · intro v ge' le'
    obtain rfl | rfl : v = z ∨ v = z + 1 := by omega
    · exact stop.line (by decide)
    · rw [sentLine, TxEngine.uartTx, idle]

/-- The ticks pass slowly enough for frames without a pause, or no byte is accepted in the clock
    after a stop bit. -/
def InTime (d : Nat) (tick : Nat → Bool) (f : Nat → Offer) : Prop :=
  3 ≤ d ∨ ∀ t, (uartTxEngine.atCycle (offering tick f) t).currentState = .stop →
    taken tick f (t + 1) = none

lemma Rest.can (rest : Rest d tick f e r) (ac : Accepts tick f e a) (inTime : InTime d tick f) :
    3 ≤ d ∨ e < a ∨ e = 0 := by
  obtain wide | rested := inTime
  · exact .inl wide
  · obtain zero | ⟨z, rfl, stop⟩ := rest.after
    · exact .inr (.inr zero)
    · refine .inr (.inl (Nat.lt_of_le_of_ne ac.ge ?_))
      rintro rfl
      have none := rested z stop
      rw [taken, Machine.outAt] at none
      exact absurd ((if_pos ac.fire).symm.trans none) (by simp)

/-- Every cycle is at rest or in a frame. -/
lemma covers (ev : Every d tick) (pos : 0 < d) (inTime : InTime d tick f) (t : Nat) :
    ∃ e r, Rest d tick f e r ∧ e ≤ t ∧
      (Quiet tick f e t ∨
        ∃ a, Accepts tick f e a ∧ a < t ∧ count tick t ≤ count tick (a + 1) + 159) := by
  induction t with
  | zero => exact ⟨0, 2, rest_reset d tick f, Nat.le_refl 0, .inl fun u _ lt => by omega⟩
  | succ t ih =>
    obtain ⟨e, r, rest, le, quiet | ⟨a, ac, lt, within⟩⟩ := ih
    · refine ⟨e, r, rest, Nat.le_succ_of_le le, ?_⟩
      by_cases fire : (uartTxEngine.atCycle (offering tick f) t).txFire (offering tick f t) = true
      · exact .inr ⟨t, ⟨le, quiet, fire⟩, Nat.lt_succ_self t, Nat.le_add_right _ _⟩
      · refine .inl fun u ge lt => ?_
        obtain lt | rfl := Nat.lt_succ_iff_lt_or_eq.mp lt
        · exact quiet u ge lt
        · exact if_neg fire
    · by_cases inside : count tick (t + 1) ≤ count tick (a + 1) + 159
      · exact ⟨e, r, rest, Nat.le_succ_of_le le, .inr ⟨a, ac, Nat.lt_succ_of_lt lt, inside⟩⟩
      · -- the last tick of the frame
        rw [count_succ] at inside
        have one := Bool.toNat_le (tick t)
        have pulse : tick t = true := Bool.toNat_eq_one.mp (by omega)
        obtain ⟨z, r', pulse_z, count_z, rest', -⟩ := rest.next ev pos ac (rest.can ac inTime)
        have same : t = z := by
          rw [ev.pulse_at pos pulse, ev.pulse_at pos pulse_z, count_z]
          congr 2
          omega
        rw [same]
        exact ⟨z + 1, r', rest', Nat.le_refl _, .inl fun u ge lt => by omega⟩

/-- What the receiver has handed over, if it has handed over nothing since it was at rest. -/
lemma Rest.prefix_taken (rest : Rest d tick f e r) (le : e ≤ t)
    (still : r ≤ t → log (received tick (sentLine tick f)) t =
      log (received tick (sentLine tick f)) r) :
    log (received tick (sentLine tick f)) t <+: log (taken tick f) t := by
  have before : log (received tick (sentLine tick f)) t <+:
      log (received tick (sentLine tick f)) r := by
    obtain early | late := Nat.le_total t r
    · exact log_mono early
    · exact still late ▸ List.prefix_refl _
  rw [rest.all] at before
  exact before.trans (log_mono le)

/-- In time, every byte accepted is handed over, in order. -/
lemma round_trip_ticks (ev : Every d tick) (pos : 0 < d) (inTime : InTime d tick f) (t : Nat) :
    log (received tick (sentLine tick f)) t <+: log (taken tick f) t ∧
      ∃ u, log (taken tick f) t <+: log (received tick (sentLine tick f)) u := by
  obtain ⟨e, r, rest, le, quiet | ⟨a, ac, lt, within⟩⟩ := covers ev pos inTime t
  · refine ⟨rest.prefix_taken le fun late => log_still late fun u ge lt => ?_, r, ?_⟩
    · exact received_none (rx_waits rest.waits ge fun v ge lt' =>
        rest.seen_high quiet ge (by omega)).2
    · rw [log_still le quiet, rest.all]
  · obtain ⟨z, r', pulse, count_z, rest', still⟩ := rest.next ev pos ac (rest.can ac inTime)
    have inside : t ≤ z := by
      by_contra gt
      have mono := count_mono tick (by omega : z + 1 ≤ t)
      rw [count_succ, pulse, Bool.toNat_true] at mono
      omega
    refine ⟨rest.prefix_taken le fun late => still t late inside, r', ?_⟩
    rw [rest'.all]
    exact log_mono (Nat.le_succ_of_le inside)

/-! ## A transmitter that never pauses -/

/-- The ticks from one frame to the next when a byte is always offered. -/
def txPace (d : Nat) : Nat := 160 + 1 / d

/-- The cycle in which frame `n` begins if a byte is always offered. -/
def frameStart (d : Nat) : Nat → Nat
  | 0 => 1
  | n + 1 => d * (txPace d * n + 160) + 2

/-- A byte offered in every cycle until frame `n` has begun. -/
def burst (d n : Nat) (t : Nat) : Offer := ⟨decide (t < frameStart d n), 0x55⟩

/-- A frame begins before its last tick. -/
lemma frameStart_le (pos : 0 < d) (n : Nat) {z : Nat} (z_eq : z = d * (txPace d * n + 159 + 1)) :
    frameStart d n ≤ z := by
  have wide : 160 ≤ d * txPace d := Nat.le_trans (Nat.le_add_right 160 _) (Nat.le_mul_of_pos_left _ pos)
  cases n with
  | zero =>
    have ge := Nat.mul_le_mul_right (txPace d * 0 + 159 + 1) pos
    rw [z_eq, frameStart]
    omega
  | succ n =>
    have split : txPace d * (n + 1) + 159 + 1 = txPace d * n + 160 + txPace d := by
      rw [Nat.mul_succ]
      omega
    have later : z = d * (txPace d * n + 160) + d * txPace d := by rw [z_eq, split, Nat.mul_add]
    rw [later, frameStart]
    omega

/-- With a byte offered all the time the frames follow at the transmitter's pace. -/
lemma tx_paced (ev : Every d tick) (pos : 0 < d) (n : Nat)
    (offered : ∀ t < frameStart d n, (f t).valid = true) :
    count tick (frameStart d n) = txPace d * n ∧
      (∃ b, (uartTxEngine.atCycle (offering tick f) (frameStart d n)).InFrame b 0) ∧
      (log (taken tick f) (frameStart d n)).length = n + 1 := by
  have ticks : ∀ t, (offering tick f t).baudX16Tick = tick t := fun _ => rfl
  induction n with
  | zero =>
    have fire : (uartTxEngine.atCycle (offering tick f) 0).txFire (offering tick f 0) = true := by
      have valid := offered 0 Nat.one_pos
      simpa [uartTxEngine, TxEngine.reset, TxEngine.txFire, TxEngine.txInReady, offering] using valid
    have low : tick 0 = false := by
      rw [← Bool.not_eq_true, ev]
      exact fun high => Nat.lt_irrefl 0 high.1
    refine ⟨?_, ⟨(f 0).data, ?_⟩, ?_⟩
    · simp [frameStart, low]
    · rw [frameStart, Machine.atCycle_succ]
      exact TxEngine.inFrame_of_fire fire
    · have now : taken tick f 0 = some (f 0).data := if_pos fire
      simp [frameStart, now]
  | succ n ih =>
    -- the last tick of frame `n`, and the clock after it, in which the next byte is accepted
    obtain ⟨z, z_eq⟩ : ∃ z, z = d * (txPace d * n + 159 + 1) := ⟨_, rfl⟩
    have next : frameStart d (n + 1) = z + 2 := by rw [z_eq]; rfl
    have pulse : tick z = true := z_eq ▸ ev.pulse pos _
    have count_z : count tick z = txPace d * n + 159 := z_eq ▸ ev.count_pulse pos _
    have start_le : frameStart d n ≤ z := frameStart_le pos n z_eq
    obtain ⟨at_n, ⟨b, begins⟩, len⟩ := ih fun t lt => offered t (by omega)
    have idle := tx_frame_end ticks begins start_le pulse (by omega)
    have fire : (uartTxEngine.atCycle (offering tick f) (z + 1)).txFire
        (offering tick f (z + 1)) = true := by
      have ready : (uartTxEngine.atCycle (offering tick f) (z + 1)).txInReady = true :=
        decide_eq_true idle
      rw [TxEngine.txFire, ready, Bool.and_true]
      exact offered (z + 1) (by omega)
    have still : log (taken tick f) (z + 1) = log (taken tick f) (frameStart d n) := by
      refine log_still (Nat.le_succ_of_le start_le) fun u ge lt => taken_frame begins ge ?_
      have mono := count_mono tick (by omega : u ≤ z)
      omega
    have now : taken tick f (z + 1) = some (f (z + 1)).data := if_pos fire
    have pace := ev.count_after pos pulse 1
    rw [next]
    refine ⟨?_, ⟨(f (z + 1)).data, ?_⟩, ?_⟩
    · rw [Nat.mul_succ]
      change count tick (z + 1 + 1) = _ + (160 + 1 / d)
      omega
    · rw [Machine.atCycle_succ]
      exact TxEngine.inFrame_of_fire fire
    · rw [log_succ, still, now, List.length_append, len]
      rfl

/-- With a divider of 1 or 2 the receiver needs a tick more for a frame than the transmitter. -/
lemma rxPace_eq (pos : 0 < d) (narrow : d < 3) : rxPace d = txPace d + 1 := by
  obtain rfl | rfl : d = 1 ∨ d = 2 := by omega
  · rfl
  · rfl

/-- After its last frame the line stays high. -/
lemma burst_line (ev : Every d tick) (pos : 0 < d) (n : Nat) {v : Nat}
    (low : sentLine tick (burst d n) v = false) : count tick v ≤ txPace d * n + 159 := by
  obtain ⟨at_n, ⟨b, begins⟩, -⟩ := tx_paced ev pos n (f := burst d n) fun t lt => decide_eq_true lt
  obtain ⟨z, z_eq⟩ : ∃ z, z = d * (txPace d * n + 159 + 1) := ⟨_, rfl⟩
  have ticks : ∀ t, (offering tick (burst d n) t).baudX16Tick = tick t := fun _ => rfl
  have pulse : tick z = true := z_eq ▸ ev.pulse pos _
  have count_z : count tick z = txPace d * n + 159 := z_eq ▸ ev.count_pulse pos _
  have start_le := frameStart_le pos n z_eq
  by_contra later
  have gt : z < v := by
    by_contra le
    have mono := count_mono tick (Nat.not_lt.mp le)
    omega
  have idle := tx_idle (tx_frame_end ticks begins start_le pulse (by omega)) gt fun u ge lt => by
    refine if_neg ?_
    have silent : (offering tick (burst d n) u).txInValid = false :=
      decide_eq_false (by omega : ¬ u < frameStart d n)
    rw [TxEngine.txFire, silent, Bool.false_and]
    exact Bool.false_ne_true
  rw [sentLine, TxEngine.uartTx, idle] at low
  cases low

/-- Of a long enough burst a byte is lost. -/
lemma burst_lost (ev : Every d tick) (pos : 0 < d) (narrow : d < 3) :
    ¬ ∃ u, log (taken tick (burst d 163)) (frameStart d 163) <+:
      log (received tick (sentLine tick (burst d 163))) u := by
  rintro ⟨u, prefix_u⟩
  obtain ⟨-, -, len⟩ := tx_paced ev pos 163 (f := burst d 163) fun t lt => decide_eq_true lt
  have more : 163 < (log (received tick (sentLine tick (burst d 163))) u).length := by
    have le := prefix_u.length_le
    omega
  obtain ⟨x, low, time⟩ := rx_began ev pos more
  match x with
  | 0 => cases low
  | 1 => cases low
  | v + 2 =>
    have early := burst_line ev pos 163 low
    have near := count_add_le tick v 3
    have whole : count tick (v + 3) = (v + 2) / d := ev.count_eq _
    rw [rxPace_eq pos narrow] at time
    omega

end Frames

/-- For every width, both parameters and every divider from 1 on: every stream of offers comes
    through exactly if the divider is at least 3, and with the smaller ones every stream that leaves
    the line idle for two clocks between frames does. -/
theorem uart_round_trip_iff (w : Nat) (p : BaudParams) (divX16 : BitVec w)
    (pos : 0 < divX16.toNat) :
    ((∀ f, RoundTrip p divX16 f) ↔ 3 ≤ divX16.toNat) ∧
      ∀ f, Rested p divX16 f → RoundTrip p divX16 f := by
  have ev := x16Tick_every p pos
  have comes : ∀ f, InTime divX16.toNat (x16Tick p divX16) f → RoundTrip p divX16 f := by
    intro f inTime t
    rw [linkAccepted_eq, linkDelivered_eq]
    exact round_trip_ticks ev pos inTime t
  refine ⟨⟨fun all => ?_, fun wide f => comes f (.inl wide)⟩, fun f rested => ?_⟩
  · by_contra narrow
    have through := (all (burst divX16.toNat 163) (frameStart divX16.toNat 163)).2
    rw [linkAccepted_eq, linkDelivered_eq] at through
    exact burst_lost ev pos (by omega) through
  · refine comes f (.inr fun t stop => ?_)
    rw [← linkAccepted_eq]
    exact rested t (by rwa [link_tx])

/-- The default divider. -/
theorem uart_round_trip_default :
    ((∀ f, RoundTrip {} (326 : BitVec 9) f) ↔ 3 ≤ (326 : BitVec 9).toNat) ∧
      ∀ f, Rested {} (326 : BitVec 9) f → RoundTrip {} (326 : BitVec 9) f :=
  uart_round_trip_iff 9 {} 326 (by decide)

/-- With a divider of 1, of 164 bytes sent back to back one is lost. -/
theorem uart_round_trip_lossy : ¬ RoundTrip {} (1 : BitVec 9) (burst 1 163) := by
  intro comes
  have pos : 0 < (1 : BitVec 9).toNat := by decide
  have through := (comes (frameStart 1 163)).2
  rw [linkAccepted_eq, linkDelivered_eq] at through
  exact burst_lost (x16Tick_every {} pos) pos (by decide) through

end ModularControl.Uart
