import Mathlib.Algebra.Order.Archimedean.Basic
import Mathlib.Data.Rat.Floor
import Mathlib.Tactic.Linarith
import Mathlib.Tactic.NormNum
import ModularControl.Uart.BaudGen
import ModularControl.Uart.RxEngine

/-!
# A sender with another clock

A sender puts frames on the line back to back, with a bit time of its own. The receiver begins each
frame with the start bit it sees, so the phase error does not add up as long as it is waiting again
when the next start bit comes. It waits for the stop bit to its end, so a sender that is faster than
the ticks leaves it less time with every frame.
-/

namespace ModularControl.Uart
open Sync

/-- The line of a sender that begins the first bit at the time `start` and spends the time `bitTime`
    on each, in units of the receiver's clock. -/
def senderLine (start bitTime : ℚ) (bytes : List (BitVec 8)) (t : Nat) : Bool :=
  if (t : ℚ) < start then true
  else
    match bytes[⌊((t : ℚ) - start) / bitTime⌋₊ / 10]? with
    | some b => frameLevel b (⌊((t : ℚ) - start) / bitTime⌋₊ % 10)
    | none => true

/-- The registers of generator and receiver. -/
structure Receiver (w : Nat) where
  baud : BaudGen w
  rx : RxEngine

namespace Receiver

variable {w : Nat} (p : BaudParams) (divX16 : BitVec w) (s : Receiver w) (pin : Bool)

/-- The receiver's output is always taken. -/
def rxIn : RxEngineIn := ⟨s.baud.baudX16Tick, pin, true⟩

def step : Receiver w where
  baud := s.baud.step p ⟨true, divX16⟩
  rx := s.rx.step (s.rxIn pin)

def delivers : Option (BitVec 8) :=
  if s.rx.rxFire (s.rxIn pin) then some s.rx.outputBuffer else none

end Receiver

/-- The receiver with a divider that stays. -/
def receiver (w : Nat) (p : BaudParams) (divX16 : BitVec w) :
    Machine (Receiver w) Bool (Option (BitVec 8)) where
  init := ⟨.reset, .reset⟩
  step s pin := s.step p divX16 pin
  out s pin := s.delivers pin

/-- The receiver delivers exactly the given bytes, in order. -/
def DeliversAll {w : Nat} (p : BaudParams) (divX16 : BitVec w) (line : Nat → Bool)
    (bytes : List (BitVec 8)) : Prop :=
  (∀ t, log ((receiver w p divX16).outAt line) t <+: bytes) ∧
    ∃ t, log ((receiver w p divX16).outAt line) t = bytes

/-- Within 2 % of the receiver's own bit time. -/
def Tolerable (d : Nat) (bitTime : ℚ) : Prop := |bitTime - 16 * d| ≤ 2 / 100 * (16 * d)

section Receiver

variable {w : Nat} (p : BaudParams) (divX16 : BitVec w) (line : Nat → Bool) (t : Nat)

lemma receiver_baud :
    ((receiver w p divX16).atCycle line t).baud.baudX16Tick = x16Tick p divX16 t :=
  congrArg BaudGen.baudX16Tick ((receiver w p divX16).atCycle_project (baudGen w p) Receiver.baud
    (fun _ _ => ⟨true, divX16⟩) rfl (fun _ _ => rfl) line t)

lemma receiver_rx : ((receiver w p divX16).atCycle line t).rx =
    uartRxEngine.atCycle (listening (x16Tick p divX16) line) t := by
  have inputs := (receiver w p divX16).atCycle_project uartRxEngine Receiver.rx Receiver.rxIn rfl
    (fun _ _ => rfl) line t
  simp only [Receiver.rxIn, receiver_baud] at inputs
  exact inputs

lemma receiver_out : (receiver w p divX16).outAt line = received (x16Tick p divX16) line := by
  funext t
  change (if ((receiver w p divX16).atCycle line t).rx.rxFire
    ⟨((receiver w p divX16).atCycle line t).baud.baudX16Tick, line t, true⟩ then
      some ((receiver w p divX16).atCycle line t).rx.outputBuffer else none) = _
  rw [receiver_rx, receiver_baud]
  rfl

end Receiver

/-! ## The sender's line -/

section Line

variable {start bitTime : ℚ} {bytes : List (BitVec 8)} {b : BitVec 8} {n j v : Nat}

/-- The line in bit `j` of frame `n`. -/
lemma senderLine_bit (pos : 0 < bitTime) (byte : bytes[n]? = some b) (lt : j < 10)
    (from_ : start + (10 * n + j) * bitTime ≤ v) (until_ : v < start + (10 * n + j + 1) * bitTime) :
    senderLine start bitTime bytes v = frameLevel b j := by
  have nonneg : 0 ≤ (10 * n + j : ℚ) * bitTime := by positivity
  have bit : ⌊((v : ℚ) - start) / bitTime⌋₊ = 10 * n + j := by
    rw [Nat.floor_eq_iff (div_nonneg (by linarith) pos.le), le_div_iff₀ pos, div_lt_iff₀ pos]
    push_cast
    constructor <;> linarith
  rw [senderLine, if_neg (by linarith), bit, show (10 * n + j) / 10 = n by omega,
    show (10 * n + j) % 10 = j by omega, byte]

/-- Before the first frame the line is high. -/
lemma senderLine_before (early : (v : ℚ) < start) : senderLine start bitTime bytes v = true :=
  if_pos early

/-- It is low in a frame only. -/
lemma senderLine_low (pos : 0 < bitTime) (low : senderLine start bitTime bytes v = false) :
    (v : ℚ) < start + 10 * bytes.length * bitTime := by
  by_contra beyond
  have nonneg : 0 ≤ (10 * bytes.length : ℚ) * bitTime := by positivity
  have bit : 10 * bytes.length ≤ ⌊((v : ℚ) - start) / bitTime⌋₊ := by
    apply Nat.le_floor
    rw [le_div_iff₀ pos]
    push_cast
    linarith
  rw [senderLine, if_neg (by linarith), List.getElem?_eq_none (by omega)] at low
  cases low

end Line

/-! ## A sender that is not faster -/

section Frames

variable {d : Nat} {tick : Nat → Bool} {start bitTime : ℚ} {bytes : List (BitVec 8)} {n r x : Nat}
  {b : BitVec 8}

/-- Where frame `n` of the sender begins. -/
def edge (start bitTime : ℚ) (n : Nat) : ℚ := start + 10 * n * bitTime

/-- The receiver waits from cycle `r` on, two clocks after a tick, having handed over the first `n`
    bytes, and less than five clocks after the beginning of the next frame. -/
structure Ready (d : Nat) (tick : Nat → Bool) (start bitTime : ℚ) (bytes : List (BitVec 8))
    (n r : Nat) : Prop where
  waits : (uartRxEngine.atCycle (listening tick (senderLine start bitTime bytes)) r).Waits
  all : log (received tick (senderLine start bitTime bytes)) r = bytes.take n
  early : (r : ℚ) < edge start bitTime n + 5
  aligned : ∃ k, r = d * k + 2
  high : ∀ v : Nat, r ≤ v + 2 → (v : ℚ) < edge start bitTime n →
    senderLine start bitTime bytes v = true

lemma ready_reset (d : Nat) (tick : Nat → Bool) (nonneg : 0 ≤ start) :
    Ready d tick start bitTime bytes 0 2 := by
  obtain ⟨waits, none⟩ := rx_reset tick (senderLine start bitTime bytes)
  refine ⟨waits, none, ?_, ⟨0, rfl⟩, fun v _ lt => senderLine_before ?_⟩
  · simp only [edge]
    push_cast
    linarith
  · simpa [edge] using lt

/-- The line in bit `j` of frame `n`, from the frame's edge on. -/
lemma line_bit (pos : 0 < bitTime) (byte : bytes[n]? = some b) {j v : Nat} (lt : j < 10)
    (from_ : edge start bitTime n + j * bitTime ≤ v)
    (until_ : v < edge start bitTime n + (j + 1) * bitTime) :
    senderLine start bitTime bytes v = frameLevel b j := by
  rw [edge] at from_ until_
  exact senderLine_bit pos byte lt (by linarith) (by linarith)

/-- The first tick after the later of two cycles, of which one is two clocks after a tick. -/
lemma first_tick (wide : 2 < d) (aligned : ∃ k, r = d * k + 2) (l : Nat) :
    d * (max l r / d + 1) ≤ l + d ∨ d * (max l r / d + 1) + 2 = r + d := by
  obtain le | le := Nat.le_total r l
  · left
    rw [Nat.max_eq_left le, Nat.mul_succ]
    exact Nat.add_le_add_right (Nat.mul_div_le _ _) d
  · right
    obtain ⟨k, rfl⟩ := aligned
    rw [Nat.max_eq_right le, Nat.mul_add_div (by omega), Nat.div_eq_of_lt wide, Nat.add_zero,
      Nat.mul_succ]
    omega

/-- The receiver sees the start bit of the next frame; the tick that it counts first follows the
    beginning of the frame by at least three clocks, and by less than a tick and three clocks. -/
lemma Ready.catches (ready : Ready d tick start bitTime bytes n r) (wide : 16 ≤ d)
    (nonneg : 0 ≤ edge start bitTime n) (slow : 16 * d ≤ bitTime) (byte : bytes[n]? = some b) :
    ∃ x, r ≤ x ∧
      (∀ u, r ≤ u → u < x → seen (senderLine start bitTime bytes) u = true) ∧
      seen (senderLine start bitTime bytes) x = false ∧
      edge start bitTime n + 3 ≤ ((d * (x / d + 1) : Nat) : ℚ) ∧
      ((d * (x / d + 1) : Nat) : ℚ) < edge start bitTime n + d + 3 := by
  obtain ⟨l, l_eq⟩ : ∃ l, l = ⌈edge start bitTime n⌉₊ := ⟨_, rfl⟩
  have l_ge : edge start bitTime n ≤ l := l_eq ▸ Nat.le_ceil _
  have l_lt : (l : ℚ) < edge start bitTime n + 1 := l_eq ▸ Nat.ceil_lt_add_one nonneg
  have wide' : (16 : ℚ) ≤ d := by exact_mod_cast wide
  have early := ready.early
  have tick_after : max (l + 2) r < d * (max (l + 2) r / d + 1) :=
    Nat.lt_mul_div_succ _ (by omega)
  have first := first_tick (by omega : 2 < d) ready.aligned (l + 2)
  refine ⟨max (l + 2) r, Nat.le_max_right _ _, fun u ge lt => ?_, ?_, ?_, ?_⟩
  · match u with
    | 0 => rfl
    | 1 => rfl
    | v + 2 =>
      refine ready.high v ge (Nat.lt_ceil.mp ?_)
      omega
  · obtain ⟨v, eq⟩ : ∃ v, max (l + 2) r = v + 2 := ⟨max (l + 2) r - 2, by omega⟩
    rw [eq]
    have low : (l : ℚ) ≤ v := by exact_mod_cast (by omega : l ≤ v)
    have near : (v : ℚ) < edge start bitTime n + 3 := by
      obtain rfl | back : v = l ∨ v + 2 = r := by omega
      · linarith
      · have back : (v : ℚ) + 2 = r := by exact_mod_cast back
        linarith
    refine line_bit (j := 0) (by linarith) byte (by decide) ?_ ?_
    · push_cast
      linarith
    · push_cast
      linarith
  · have le : l + 3 ≤ d * (max (l + 2) r / d + 1) := by omega
    have le : (l : ℚ) + 3 ≤ ((d * (max (l + 2) r / d + 1) : Nat) : ℚ) := by exact_mod_cast le
    linarith
  · obtain le | eq := first
    · have le : ((d * (max (l + 2) r / d + 1) : Nat) : ℚ) ≤ l + 2 + d := by exact_mod_cast le
      linarith
    · have eq : ((d * (max (l + 2) r / d + 1) : Nat) : ℚ) + 2 = r + d := by exact_mod_cast eq
      linarith

/-- A sample in the middle of bit `j`, counted from a first tick as above, falls into the bit. -/
lemma sample_inside {e D B F : ℚ} {j : Nat} (lt : j < 9) (wide : 16 ≤ D) (slow : 16 * D ≤ B)
    (tolerable : B ≤ 16 * D + 2 / 100 * (16 * D)) (after : e + 3 ≤ F) (before : F < e + D + 3) :
    e + j * B ≤ F + D * (16 * j + 7) - 2 ∧ F + D * (16 * j + 7) - 2 < e + (j + 1) * B := by
  have le : (j : ℚ) ≤ 8 := by exact_mod_cast Nat.le_of_lt_succ lt
  have drift : (j : ℚ) * (B - 16 * D) ≤ 8 * (B - 16 * D) :=
    mul_le_mul_of_nonneg_right le (by linarith)
  have ahead : 0 ≤ (j : ℚ) * (B - 16 * D) := mul_nonneg (Nat.cast_nonneg j) (by linarith)
  constructor <;> linarith

/-- The frame of the next byte. -/
lemma Ready.next (ev : Every d tick) (ready : Ready d tick start bitTime bytes n r) (wide : 16 ≤ d)
    (nonneg : 0 ≤ edge start bitTime n) (slow : 16 * d ≤ bitTime)
    (tolerable : bitTime ≤ 16 * d + 2 / 100 * (16 * d)) (byte : bytes[n]? = some b) :
    ∃ r', Ready d tick start bitTime bytes (n + 1) r' := by
  obtain ⟨x, ge, high, low, after, before⟩ := ready.catches wide nonneg slow byte
  have pos : 0 < d := by omega
  have wide' : (16 : ℚ) ≤ d := by exact_mod_cast wide
  obtain ⟨F, F_eq⟩ : ∃ F, F = d * (x / d + 1) := ⟨_, rfl⟩
  rw [← F_eq] at after before
  have next : edge start bitTime (n + 1) = edge start bitTime n + 10 * bitTime := by
    simp only [edge]
    push_cast
    ring
  -- the sample of bit `j` is taken two clocks after the line had the level
  have sm : Samples tick (senderLine start bitTime bytes) (x + 1) (frameLevel b) := by
    refine ⟨rfl, fun u ge pulse j lt at_j => ?_⟩
    have some_ticks := count_add_le tick 0 u
    rw [Nat.zero_add, count_zero] at some_ticks
    obtain ⟨v, rfl⟩ : ∃ v, u = v + 2 := ⟨u - 2, by omega⟩
    have at_v : v + 2 = F + d * (16 * j + 7) := by
      rw [ev.eq_pulse_after pos pulse at_j, F_eq]
      ring
    have at_v : (v : ℚ) + 2 = F + d * (16 * j + 7) := by exact_mod_cast at_v
    obtain ⟨from_, until_⟩ := sample_inside lt wide' slow tolerable after before
    exact line_bit (by linarith) byte (by omega) (by linarith) (by linarith)
  obtain ⟨z, z_eq⟩ : ∃ z, z = d * (x / d + 159 + 1) := ⟨_, rfl⟩
  have pulse : tick z = true := z_eq ▸ (ev.pulse_after pos x 159).1
  have last : count tick z = count tick (x + 1) + 159 := z_eq ▸ (ev.pulse_after pos x 159).2
  have at_z : z = F + d * 159 := by
    rw [z_eq, F_eq, ← Nat.mul_add]
  have at_z : (z : ℚ) = F + d * 159 := by exact_mod_cast at_z
  obtain ⟨waits, -, all⟩ := rx_delivers ready.waits ge high low sm pulse last
  refine ⟨z + 2, waits, ?_, ?_, ⟨_, congrArg (· + 2) z_eq⟩, fun v ge' lt => ?_⟩
  · rw [all, ready.all, List.take_add_one, byte]
    rfl
  · push_cast
    linarith
  · have ge' : (z : ℚ) ≤ v := by exact_mod_cast (by omega : z ≤ v)
    refine (line_bit (j := 9) (by linarith) byte (by decide) ?_ ?_).trans rfl
    · push_cast
      linarith
    · push_cast
      linarith

/-- All frames of the sender, one after the other. -/
lemma ready_all (ev : Every d tick) (wide : 16 ≤ d) (nonneg : 0 ≤ start) (slow : 16 * d ≤ bitTime)
    (tolerable : bitTime ≤ 16 * d + 2 / 100 * (16 * d)) (le : n ≤ bytes.length) :
    ∃ r, Ready d tick start bitTime bytes n r := by
  have pos : 0 ≤ bitTime := le_trans (by positivity) slow
  induction n with
  | zero => exact ⟨2, ready_reset d tick nonneg⟩
  | succ n ih =>
    obtain ⟨r, ready⟩ := ih (by omega)
    have later : 0 ≤ edge start bitTime n := add_nonneg nonneg (by positivity)
    exact ready.next ev wide later slow tolerable (List.getElem?_eq_getElem le)

/-- After the last frame nothing more comes. -/
lemma Ready.last (pos : 0 < bitTime)
    (ready : Ready d tick start bitTime bytes bytes.length r) {t : Nat} (ge : r ≤ t) :
    log (received tick (senderLine start bitTime bytes)) t = bytes := by
  have high : ∀ u, r ≤ u → seen (senderLine start bitTime bytes) u = true := by
    intro u ge
    match u with
    | 0 => rfl
    | 1 => rfl
    | v + 2 =>
      by_contra low
      rw [Bool.not_eq_true] at low
      have early := senderLine_low pos low
      have up := ready.high v ge early
      exact Bool.false_ne_true (low.symm.trans up)
  have still : log (received tick (senderLine start bitTime bytes)) t =
      log (received tick (senderLine start bitTime bytes)) r :=
    log_still ge fun u ge' _ => received_none (rx_waits ready.waits ge' fun v ge _ => high v ge).2
  rw [still, ready.all, List.take_length]

/-! ## A faster sender -/

/-- Of a long enough stream of a faster sender a byte is lost. -/
lemma fast_lost (ev : Every d tick) (wide : 16 ≤ d) (pos : 0 < bitTime) (n : Nat)
    (len : bytes.length = n + 1)
    (long : 160 * d + 2 + 10 * (n + 1) * bitTime ≤ 160 * d * (n + 1)) :
    ∀ t, log (received tick (senderLine 0 bitTime bytes)) t ≠ bytes := by
  intro t all
  have more : n < (log (received tick (senderLine 0 bitTime bytes)) t).length := by
    rw [all, len]
    exact Nat.lt_succ_self n
  obtain ⟨x, low, time⟩ := rx_began ev (by omega : 0 < d) more
  match x with
  | 0 => cases low
  | 1 => cases low
  | v + 2 =>
    have early := senderLine_low pos low
    rw [rxPace, Nat.div_eq_of_lt (by omega : 2 < d), Nat.le_div_iff_mul_le (by omega)] at time
    have time : (160 + 0) * (n : ℚ) * d ≤ v + 2 := by exact_mod_cast time
    rw [len] at early
    push_cast at early
    linarith

end Frames

/-- For every width, parameters and divider with an effective value from 16 on, and every bit time
    within 2 %: the bytes of every sender with that bit time are delivered exactly if it is at least
    the receiver's own. -/
theorem uart_tolerance_iff (w : Nat) (p : BaudParams) (divX16 : BitVec w)
    (wide : 16 ≤ (divEff p divX16).toNat) (bitTime : ℚ)
    (tolerable : Tolerable (divEff p divX16).toNat bitTime) :
    (∀ start, 0 ≤ start → ∀ bytes,
        DeliversAll p divX16 (senderLine start bitTime bytes) bytes) ↔
      16 * ((divEff p divX16).toNat : ℚ) ≤ bitTime := by
  have ev := x16Tick_every_eff p (by omega : 0 < (divEff p divX16).toNat)
  have wide' : (16 : ℚ) ≤ (divEff p divX16).toNat := by exact_mod_cast wide
  obtain ⟨least, most⟩ := abs_le.mp tolerable
  have pos : 0 < bitTime := by linarith
  constructor
  · intro all
    by_contra fast
    rw [not_le] at fast
    obtain ⟨n, many⟩ := exists_nat_ge ((160 * ((divEff p divX16).toNat : ℚ) + 2) /
      (160 * ((divEff p divX16).toNat : ℚ) - 10 * bitTime))
    rw [div_le_iff₀ (by linarith)] at many
    obtain ⟨t, out⟩ := (all 0 (le_refl 0) (List.replicate (n + 1) 0x55)).2
    rw [receiver_out] at out
    refine fast_lost ev wide pos n (List.length_replicate) ?_ t out
    linarith
  · intro slow start nonneg bytes
    obtain ⟨r, ready⟩ := ready_all ev wide nonneg slow (by linarith) (Nat.le_refl bytes.length)
    rw [DeliversAll, receiver_out]
    refine ⟨fun t => ?_, r, ready.last pos (Nat.le_refl r)⟩
    have before := log_mono (o := received (x16Tick p divX16) (senderLine start bitTime bytes))
      (Nat.le_max_left t r)
    rwa [ready.last pos (Nat.le_max_right t r)] at before

/-- A divider of 16 and a sender with exactly its bit time. -/
theorem uart_tolerance_even :
    (∀ start, 0 ≤ start → ∀ bytes,
        DeliversAll {} (16 : BitVec 9) (senderLine start 256 bytes) bytes) ↔
      16 * ((divEff {} (16 : BitVec 9)).toNat : ℚ) ≤ 256 :=
  uart_tolerance_iff 9 {} 16 (by decide) 256 (by
    have eff : (divEff {} (16 : BitVec 9)).toNat = 16 := by decide
    rw [Tolerable, eff]
    norm_num)

/-- With a divider of 16 and a sender that is faster by 1 part in 256, of 513 bytes sent back to
    back one is lost. -/
theorem uart_tolerance_fast :
    Tolerable (divEff {} (16 : BitVec 9)).toNat 255 ∧
      ¬ DeliversAll {} (16 : BitVec 9) (senderLine 0 255 (List.replicate 513 0x55))
        (List.replicate 513 0x55) := by
  have eff : (divEff {} (16 : BitVec 9)).toNat = 16 := by decide
  have ev := x16Tick_every_eff {} (by omega : 0 < (divEff {} (16 : BitVec 9)).toNat)
  rw [eff] at ev ⊢
  refine ⟨?_, fun delivers => ?_⟩
  · rw [Tolerable]
    norm_num
  · obtain ⟨t, out⟩ := delivers.2
    rw [receiver_out] at out
    refine fast_lost ev (by decide) (by norm_num) 512 List.length_replicate ?_ t out
    norm_num

end ModularControl.Uart
