import ModularControl.Uart.Tolerance

/-!
# Glitches between the frames

The line falls for a while between two frames. The receiver takes the fall for a start bit, sees at
the eighth tick that it was none, and is blind until the sixteenth. A start bit that begins meanwhile
is still low at the eighth tick after that, so the samples of its frame are later by less than half
a bit; the phase of the ticks adds at most one tick more.
-/

namespace ModularControl.Uart
open Sync

/-- The line up to clock `t` carries the frames of some bytes, with gaps of any length in which the
    line is high but for glitches; `g` is the beginning of the last one. A bit is 16 ticks of `d`
    clocks, a glitch is shorter than 7 ticks and begins no less than 17 after the one before. -/
inductive Carries (d : Nat) (line : Nat → Bool) : List (BitVec 8) → Option Nat → Nat → Prop
  | start : Carries d line [] none 0
  | idle {bs g t} (before : Carries d line bs g t) (high : line t = true) :
    Carries d line bs g (t + 1)
  | frame {bs g t} {b : BitVec 8} (before : Carries d line bs g t)
    (bits : ∀ v < 160 * d, line (t + v) = frameLevel b (v / (16 * d))) :
    Carries d line (bs ++ [b]) g (t + 160 * d)
  | glitch {bs g t len} (before : Carries d line bs g t) (apart : ∀ s ∈ g, s + 17 * d ≤ t)
    (pos : 0 < len) (short : len < 7 * d) (low : ∀ v < len, line (t + v) = false) :
    Carries d line bs (some t) (t + len)

section Receiver

variable {d : Nat} {tick line : Nat → Bool} {bs : List (BitVec 8)} {b : BitVec 8} {r x t : Nat}

/-- Where a receiver that has seen the line low in clock `x` samples the start bit. -/
def middle (d x : Nat) : Nat := d * (x / d + 7 + 1)

lemma middle_bounds (pos : 0 < d) (x : Nat) : x + 7 * d < middle d x ∧ middle d x ≤ x + 8 * d := by
  have split := Nat.div_add_mod x d
  have lt := Nat.mod_lt x pos
  have eq : middle d x = d * (x / d) + 8 * d := by
    rw [middle]
    ring
  omega

/-- The receiver waits from clock `r` on, having handed over the bytes, and has seen nothing up to
    clock `t`; if it is still busy then, it will not be for long. -/
structure Awaits (d : Nat) (tick line : Nat → Bool) (bs : List (BitVec 8)) (t r : Nat) : Prop where
  waits : (uartRxEngine.atCycle (listening tick line) r).Waits
  all : log (received tick line) r = bs
  high : ∀ v, r ≤ v → v < t → seen line v = true
  back : t < r → d * (r / d) < t + 8 * d ∧ r ≤ d * (r / d) + 2

/-- The receiver, which has handed over the bytes, has seen the line low in clock `x` and has not
    taken the sample of the start bit before clock `t`. -/
structure Doubts (d : Nat) (tick line : Nat → Bool) (bs : List (BitVec 8)) (t r x : Nat) : Prop where
  waits : (uartRxEngine.atCycle (listening tick line) r).Waits
  all : log (received tick line) r = bs
  ge : r ≤ x
  high : ∀ v, r ≤ v → v < x → seen line v = true
  low : seen line x = false
  pending : t ≤ middle d x

/-- How far the receiver follows the line. -/
inductive Follows (d : Nat) (tick line : Nat → Bool) (bs : List (BitVec 8)) (g : Option Nat)
    (t : Nat) : Prop
  | awaits {r : Nat} (aw : Awaits d tick line bs t r)
  | doubts {r x s : Nat} (db : Doubts d tick line bs t r x) (before : x < t) (last : g = some s)
    (near : x < s + 7 * d)

/-- Up to the sample nothing more is handed over. -/
lemma Doubts.still (db : Doubts d tick line bs t r x) (ev : Every d tick) (pos : 0 < d)
    (ge : r ≤ t) : log (received tick line) t = bs := by
  obtain ⟨-, at_7⟩ := ev.pulse_after pos x 7
  have sm : SamplesTo tick line (x + 1) (fun _ => true) (middle d x) := by
    intro u from_ lt pulse j _ at_j
    have mono := count_mono tick (Nat.le_of_lt lt)
    rw [middle, at_7] at mono
    obtain rfl : j = 0 := by omega
    have eq : u = middle d x := ev.eq_pulse_after pos pulse at_j
    exact absurd eq (Nat.ne_of_lt lt)
  rw [← db.all]
  refine rx_quiet db.waits db.ge db.high db.low sm ?_ (fun le => ?_) ge
    (Nat.le_succ_of_le db.pending)
  · rw [middle, at_7]
    omega
  · rw [middle, at_7] at le
    omega

/-- A receiver that sees the line high at the sample waits again soon. -/
lemma Doubts.reject (db : Doubts d tick line bs t r x) (ev : Every d tick) (wide : 2 < d)
    (now : t = middle d x) (high : seen line t = true) :
    Awaits d tick line bs (t + 1) (d * (x / d + 15 + 1) + 1) := by
  have pos : 0 < d := by omega
  obtain ⟨pulse, at_15⟩ := ev.pulse_after pos x 15
  obtain ⟨waits, same⟩ := rx_rejects db.waits db.ge db.high db.low
    (fun u _ pulse at_7 => by rwa [ev.eq_pulse_after pos pulse at_7, ← middle, ← now]) pulse at_15
  have eq : d * (x / d + 15 + 1) = middle d x + 8 * d := by
    rw [middle]
    ring
  refine ⟨waits, same.trans db.all, fun v ge lt => ?_, fun _ => ?_⟩
  · omega
  · have back : (d * (x / d + 15 + 1) + 1) / d = x / d + 15 + 1 := by
      rw [Nat.mul_add_div pos, Nat.div_eq_of_lt (by omega : 1 < d), Nat.add_zero]
    rw [back]
    constructor
    · omega
    · omega

/-- The sample of bit `j` falls into the bit if that of the start bit does. -/
lemma sample_in_bit {j e : Nat} (lt : j < 9) (inside : e < 16 * d) :
    e + 16 * d * j < 160 * d ∧ (e + 16 * d * j) / (16 * d) = j := by
  constructor
  · have le : 16 * d * j ≤ 16 * d * 8 := Nat.mul_le_mul_left _ (by omega)
    omega
  · rw [Nat.add_mul_div_left _ _ (by omega), Nat.div_eq_of_lt inside, Nat.zero_add]

/-- A receiver that samples the start bit of a frame while it lasts hands over its byte. -/
lemma Doubts.deliver (db : Doubts d tick line bs t r x) (ev : Every d tick) (wide : 2 < d)
    (inside : middle d x < t + 16 * d)
    (bits : ∀ v < 160 * d, seen line (t + v) = frameLevel b (v / (16 * d))) :
    Awaits d tick line (bs ++ [b]) (t + 160 * d) (d * (x / d + 159 + 1) + 2) := by
  have pos : 0 < d := by omega
  obtain ⟨e, at_e⟩ := Nat.exists_eq_add_of_le db.pending
  have sm : Samples tick line (x + 1) (frameLevel b) := by
    refine ⟨rfl, fun u _ pulse j lt at_j => ?_⟩
    have eq : u = middle d x + 16 * d * j := by
      rw [ev.eq_pulse_after pos pulse at_j, middle]
      ring
    obtain ⟨within, bit⟩ := sample_in_bit (d := d) (e := e) lt (by omega)
    rw [eq, at_e, Nat.add_assoc, bits _ within, bit]
  obtain ⟨pulse, at_159⟩ := ev.pulse_after pos x 159
  obtain ⟨waits, -, more⟩ := rx_delivers db.waits db.ge db.high db.low sm pulse at_159
  have eq : d * (x / d + 159 + 1) = middle d x + 152 * d := by
    rw [middle]
    ring
  refine ⟨waits, by rw [more, db.all], fun v ge lt => ?_, fun _ => ?_⟩
  · -- the rest of the stop bit
    obtain ⟨w, rfl⟩ := Nat.exists_eq_add_of_le (by omega : t ≤ v)
    rw [bits w (by omega)]
    refine frameLevel_stop b ?_
    rw [Nat.le_div_iff_mul_le (by omega)]
    omega
  · have back : (d * (x / d + 159 + 1) + 2) / d = x / d + 159 + 1 := by
      rw [Nat.mul_add_div pos, Nat.div_eq_of_lt wide, Nat.add_zero]
    rw [back]
    constructor
    · omega
    · omega

/-- A waiting receiver that is not busy for long sees a low line before it is too late. -/
lemma Awaits.middle_near (aw : Awaits d tick line bs t r) (wide : 2 < d) :
    middle d (max r t) < t + 16 * d := by
  have pos : 0 < d := by omega
  obtain le | lt := Nat.lt_or_ge t r
  · obtain ⟨near, close⟩ := aw.back le
    have eq : middle d r = d * (r / d) + 8 * d := by
      rw [middle]
      ring
    rw [Nat.max_eq_left (Nat.le_of_lt le)]
    omega
  · have bounds := middle_bounds pos t
    rw [Nat.max_eq_right lt]
    omega

/-- It sees the line fall at once, or as soon as it waits. -/
lemma Awaits.catch (aw : Awaits d tick line bs t r) (pos : 0 < d) {len : Nat} (long : r < t + len)
    (positive : 0 < len) (low : ∀ v < len, seen line (t + v) = false) :
    Doubts d tick line bs t r (max r t) := by
  have bounds := middle_bounds pos (max r t)
  obtain ⟨v, at_v⟩ := Nat.exists_eq_add_of_le (Nat.le_max_right r t)
  refine ⟨aw.waits, aw.all, Nat.le_max_left r t, fun v ge lt => aw.high v ge ?_, ?_, ?_⟩
  · by_contra late
    omega
  · rw [at_v]
    exact low v (by omega)
  · omega

/-- A clock in which the line is seen high. -/
lemma Follows.idle {g : Option Nat} (fl : Follows d tick line bs g t) (ev : Every d tick)
    (wide : 2 < d) (high : seen line t = true) : Follows d tick line bs g (t + 1) := by
  cases fl with
  | awaits aw =>
    refine .awaits ⟨aw.waits, aw.all, fun v ge lt => ?_, fun lt => ?_⟩
    · obtain lt | rfl := Nat.lt_succ_iff_lt_or_eq.mp lt
      · exact aw.high v ge lt
      · exact high
    · obtain ⟨near, close⟩ := aw.back (Nat.lt_of_succ_lt lt)
      exact ⟨by omega, close⟩
  | @doubts r x s db before last near =>
    by_cases now : t = middle d x
    · exact .awaits (db.reject ev wide now high)
    · have later : t + 1 ≤ middle d x := Nat.lt_of_le_of_ne db.pending now
      exact .doubts { db with pending := later } (Nat.lt_succ_of_lt before) last near

/-- A frame. -/
lemma Follows.frame {g : Option Nat} (fl : Follows d tick line bs g t) (ev : Every d tick)
    (wide : 2 < d) (bits : ∀ v < 160 * d, seen line (t + v) = frameLevel b (v / (16 * d))) :
    Follows d tick line (bs ++ [b]) g (t + 160 * d) := by
  have pos : 0 < d := by omega
  cases fl with
  | @awaits r aw =>
    have near := aw.middle_near wide
    have bounds := middle_bounds pos (max r t)
    have low : ∀ v < 16 * d, seen line (t + v) = false := by
      intro v lt
      rw [bits v (by omega), Nat.div_eq_of_lt lt]
      rfl
    exact .awaits ((aw.catch pos (by omega) (by omega) low).deliver ev wide near bits)
  | @doubts r x s db before last near =>
    have bounds := middle_bounds pos x
    exact .awaits (db.deliver ev wide (by omega) bits)

/-- A glitch. -/
lemma Follows.glitch {g : Option Nat} {len : Nat} (fl : Follows d tick line bs g t) (pos : 0 < d)
    (apart : ∀ s ∈ g, s + 17 * d ≤ t) (positive : 0 < len) (short : len < 7 * d)
    (low : ∀ v < len, seen line (t + v) = false) :
    Follows d tick line bs (some t) (t + len) := by
  cases fl with
  | @awaits r aw =>
    by_cases late : t + len ≤ r
    · refine .awaits ⟨aw.waits, aw.all, fun v ge lt => ?_, fun lt => ?_⟩
      · omega
      · obtain ⟨near, close⟩ := aw.back (by omega)
        exact ⟨by omega, close⟩
    · have db := aw.catch pos (by omega) positive low
      have bounds := middle_bounds pos (max r t)
      have after : t ≤ max r t := Nat.le_max_right r t
      have inside : max r t < t + len := Nat.max_lt.mpr ⟨by omega, by omega⟩
      exact .doubts { db with pending := by omega } inside rfl (by omega)
  | @doubts r x s db before last near =>
    -- the sample would be over
    have far := apart s last
    have bounds := middle_bounds pos x
    have pending := db.pending
    omega

/-- The receiver follows every line with frames and glitches, two clocks behind it. -/
lemma follows (ev : Every d tick) (wide : 2 < d) {g : Option Nat} (carries : Carries d line bs g t) :
    Follows d tick line bs (g.map (· + 2)) (t + 2) := by
  induction carries with
  | start =>
    obtain ⟨waits, none⟩ := rx_reset tick line
    exact .awaits ⟨waits, none, fun v ge lt => by omega, fun lt => absurd lt (Nat.lt_irrefl 2)⟩
  | idle before high ih => exact ih.idle ev wide high
  | @frame bs g t b before bits ih =>
    rw [Nat.add_right_comm]
    exact ih.frame ev wide fun v lt => by
      rw [Nat.add_right_comm]
      exact bits v lt
  | @glitch bs g t len before apart pos short low ih =>
    rw [Nat.add_right_comm]
    refine ih.glitch (by omega) ?_ pos short fun v lt => ?_
    · rintro _ last
      obtain ⟨s, own, rfl⟩ := Option.mem_map.mp last
      have far := apart s own
      omega
    · rw [Nat.add_right_comm]
      exact low v lt

/-- What a receiver that follows the line has handed over. -/
lemma Follows.delivered {g : Option Nat} (fl : Follows d tick line bs g t) (ev : Every d tick)
    (pos : 0 < d) :
    log (received tick line) t <+: bs ∧ bs <+: log (received tick line) (t + 8 * d + 1) := by
  cases fl with
  | @awaits r aw =>
    by_cases early : r ≤ t
    · have still : log (received tick line) t = bs := by
        rw [← aw.all]
        exact log_still early fun v ge lt => received_none
          (rx_waits aw.waits ge fun u ge lt' => aw.high u ge (by omega)).2
      rw [still]
      exact ⟨List.prefix_refl bs, still ▸ log_mono (by omega)⟩
    · obtain ⟨near, close⟩ := aw.back (by omega)
      rw [← aw.all]
      exact ⟨log_mono (by omega), log_mono (by omega)⟩
  | @doubts r x s db before last near =>
    have still := db.still ev pos (Nat.le_of_lt (Nat.lt_of_le_of_lt db.ge before))
    rw [still]
    exact ⟨List.prefix_refl bs, still ▸ log_mono (by omega)⟩

end Receiver

/-- For every width, parameters and divider with an effective value from 4 on, and every line with
    frames and glitches: the receiver hands over the bytes of the frames, none before its frame and
    all of them within half a bit and a few clocks. -/
theorem uart_rx_glitches (w : Nat) (p : BaudParams) (divX16 : BitVec w)
    (wide : 4 ≤ (divEff p divX16).toNat) {line : Nat → Bool} {bs : List (BitVec 8)}
    {g : Option Nat} {t : Nat} (carries : Carries (divEff p divX16).toNat line bs g t) :
    log ((receiver w p divX16).outAt line) t <+: bs ∧
      bs <+: log ((receiver w p divX16).outAt line) (t + 8 * (divEff p divX16).toNat + 3) := by
  have ev := x16Tick_every_eff p (by omega : 0 < (divEff p divX16).toNat)
  obtain ⟨none_else, all⟩ := (follows ev (by omega) carries).delivered ev (by omega)
  rw [receiver_out]
  refine ⟨(log_mono (Nat.le_add_right t 2)).trans none_else, all.trans (log_mono ?_)⟩
  omega

/-- A glitch of 27 clocks that goes over into the start bit of a frame, with a divider of 4. -/
def glitched (t : Nat) : Bool :=
  if t < 3 then true else if t < 30 then false else frameLevel 0x55 ((t - 30) / 64)

theorem uart_rx_glitched :
    log ((receiver 9 {} 4).outAt glitched) 670 <+: [0x55] ∧
      [0x55] <+: log ((receiver 9 {} 4).outAt glitched) 705 := by
  have gap : Carries 4 glitched [] none 3 := .idle (.idle (.idle .start rfl) rfl) rfl
  have glitch : Carries 4 glitched [] (some 3) 30 := by
    have low : ∀ v < 27, glitched (3 + v) = false := by decide
    exact .glitch gap (fun s last => by cases last) (by decide) (by decide) low
  have frame : Carries 4 glitched [0x55] (some 3) 670 := by
    refine .frame glitch fun v _ => ?_
    rw [glitched, if_neg (by omega), if_neg (by omega), Nat.add_sub_cancel_left]
  have eff : (divEff {} (4 : BitVec 9)).toNat = 4 := by decide
  have delivered := uart_rx_glitches 9 {} 4 (by decide) (eff.symm ▸ frame)
  rwa [eff] at delivered

end ModularControl.Uart
