import ModularControl.Lcd.Initialisation

/-!
# The timing of the pulses

If no delay exceeds the range of the timer, every pulse of `lcd_e` keeps the delays that the
parameters ask for: the setup and the hold of the bus, the width of the pulse, and the delay of the
command. The commands are those of the ROM until the host is first told to go ahead.
-/

namespace ModularControl.Lcd
open Sync

/-- No delay exceeds the range of the timer. -/
structure LcdParams.Fits (p : LcdParams) : Prop where
  addressSetup : p.addressSetupCyc.toNat ≤ 2 ^ p.timerBits
  ePulse : p.ePulseCyc.toNat ≤ 2 ^ p.timerBits
  addressHold : p.addressHoldCyc.toNat ≤ 2 ^ p.timerBits
  shortDelay : p.shortDelayCyc.toNat ≤ 2 ^ p.timerBits
  longDelay : p.longDelayCyc.toNat ≤ 2 ^ p.timerBits

/-- A pulse of `lcd_e` from cycle `t` to cycle `u` in time for the display: the bus is the same from
    the setup before the pulse to the hold after it, the pulse is wide enough, and the next one is as
    far away as `delay` asks for. -/
structure Pulse (p : LcdParams) (f : Nat → LcdIn) (t u : Nat) (delay : BitVec 32) : Prop where
  after_setup : p.addressSetupCyc.toNat ≤ t
  stable : ∀ v, t ≤ v + p.addressSetupCyc.toNat → v < u + p.addressHoldCyc.toNat →
    bus p f v = bus p f t
  wide : t + p.ePulseCyc.toNat ≤ u
  high : ∀ v, t ≤ v → v < u → lcdE p f v = true
  apart : ∀ v, u ≤ v → v < u + p.addressHoldCyc.toNat + delay.toNat → lcdE p f v = false

namespace LcdParams

variable (p : LcdParams)

/-- A delay within the range of the timer is waited out as it is. -/
lemma waits_fit {cycles : BitVec 32} (pos : 0 < cycles.toNat) (fit : cycles.toNat ≤ 2 ^ p.timerBits) :
    p.waits cycles = cycles.toNat := by
  rw [p.waits_eq pos, Nat.mod_eq_of_lt (Nat.sub_one_lt_of_le pos fit), Nat.sub_add_cancel pos]

variable {p}

lemma Fits.delay (fits : p.Fits) (isLong : Bool) :
    p.waits (p.delayCyc isLong) = (p.delayCyc isLong).toNat := by
  rw [delayCyc]
  cases isLong with
  | false =>
    rw [if_neg Bool.false_ne_true]
    exact p.waits_fit (p.cyclesFrom_pos _ _) fits.shortDelay
  | true =>
    rw [if_pos rfl]
    exact p.waits_fit (p.cyclesFrom_pos _ _) fits.longDelay

end LcdParams

section Run

variable {p : LcdParams} {f : Nat → LcdIn} {t u : Nat} {x : Txn}

lemma Begins.pulse (be : Begins p f t x) (fits : p.Fits) :
    Pulse p f (t + p.riseAt) (t + p.fallAt) (p.delayCyc x.isLong) := by
  have setup : p.riseAt = _ := p.waits_fit (p.cyclesFrom_pos _ _) fits.addressSetup
  have width : p.waits p.ePulseCyc = _ := p.waits_fit (p.cyclesFrom_pos _ _) fits.ePulse
  have held : p.waits p.addressHoldCyc = _ := p.waits_fit (p.cyclesFrom_pos _ _) fits.addressHold
  have delay := fits.delay x.isLong
  have fall : p.fallAt = p.riseAt + p.waits p.ePulseCyc := rfl
  have hold : p.holdAt = p.fallAt + p.waits p.addressHoldCyc := rfl
  have total : p.total x.isLong = p.holdAt + p.waits (p.delayCyc x.isLong) := rfl
  have rises := p.riseAt_lt_fallAt
  have falls := p.fallAt_lt_holdAt
  have holds := p.holdAt_lt_total x.isLong
  refine ⟨by omega, fun v from_ until_ => ?_, by omega, fun v from_ until_ => ?_,
    fun v from_ until_ => ?_⟩
  · obtain ⟨n, rfl⟩ := Nat.exists_eq_add_of_le (show t ≤ v by omega)
    rw [be.bus_at (by omega), be.bus_at (by omega)]
  · obtain ⟨n, rfl⟩ := Nat.exists_eq_add_of_le (show t ≤ v by omega)
    rw [be.lcdE_at (by omega)]
    exact decide_eq_true (by omega)
  · obtain ⟨n, rfl⟩ := Nat.exists_eq_add_of_le (show t ≤ v by omega)
    rw [be.lcdE_at (by omega)]
    exact decide_eq_false (by omega)

lemma Begins.bus_rise (be : Begins p f t x) : bus p f (t + p.riseAt) = x.pair :=
  be.bus_at (Nat.lt_trans p.riseAt_lt_fallAt p.fallAt_lt_holdAt)

lemma LcdParams.sent_mem (p : LcdParams) {k : Nat} (le : k ≤ p.rom.length) :
    p.sent k ∈ p.rom.entries := by
  have pos : 0 < p.rom.length := p.rom.pos
  have lt : k - 1 < p.rom.entries.length := by
    show k - 1 < p.rom.length
    omega
  rw [LcdParams.sent, ← List.getElem_eq_getD (h := lt)]
  exact List.getElem_mem lt

/-- Whatever the host does, every pulse is that of a transaction. -/
theorem pulses_in_time (fits : p.Fits) (edge : rising (lcdE p f) t = true) :
    ∃ u, ∃ x : Txn, bus p f t = x.pair ∧ Pulse p f t u (p.delayCyc x.isLong) := by
  cases doing p f t with
  | waking zero =>
    subst zero
    exact (no_rise (show _ = LcdState.powerupWait from rfl) (by simp) edge).elim
  | latched state =>
    obtain state | state := state
    · exact (no_rise state (by simp) edge).elim
    · exact (no_rise state (by simp) edge).elim
  | idle state => exact (no_rise state (by simp) edge).elim
  | @sending a n x begins now lt =>
    subst now
    rw [begins.rises lt edge]
    exact ⟨_, x, begins.bus_rise, begins.pulse fits⟩

/-- Before the host is told to go ahead every strobe is that of an entry of the ROM. -/
lemma sent_of_rise (edge : rising (lcdE p f) t = true) {m : Nat} (le : m ≤ p.rom.length + 1)
    (lt : t < p.initAt m) : ∃ k ≤ p.rom.length, t = p.initAt k + p.riseAt := by
  induction m with
  | zero =>
    have low := lcdE_first (f := f) (Nat.lt_add_right p.riseAt lt)
    rw [rising_high edge] at low
    cases low
  | succ m ih =>
    have lt : t < p.initAt m + p.total (p.sent m).isLong + 1 := lt
    have begins := (sending p f (Nat.le_of_succ_le_succ le)).begins
    by_cases early : t < p.initAt m
    · exact ih (Nat.le_of_succ_le le) early
    · obtain ⟨n, rfl⟩ := Nat.exists_eq_add_of_le (Nat.le_of_not_lt early)
      obtain within | last : n < p.total (p.sent m).isLong ∨ n = p.total (p.sent m).isLong := by
        omega
      · exact ⟨m, Nat.le_of_succ_le_succ le, by rw [begins.rises within edge]⟩
      · -- after the delay the controller latches or is idle
        have ended := begins.ended
        rw [last] at edge
        split at ended
        · exact (no_rise ended.1 (by simp) edge).elim
        · exact (no_rise ended.1 (by simp) edge).elim

/-- The pulse of every transaction that is sent at initialisation. -/
lemma init_pulse (fits : p.Fits) (edge : rising (lcdE p f) t = true) (lt : t < p.readyAt) :
    ∃ u, ∃ x ∈ p.rom.entries, bus p f t = x.pair ∧ Pulse p f t u (p.delayCyc x.isLong) := by
  obtain ⟨k, le, rfl⟩ := sent_of_rise edge (Nat.le_refl (p.rom.length + 1))
    (Nat.lt_succ_of_lt lt)
  have begins := (sending p f le).begins
  exact ⟨_, p.sent k, p.sent_mem le, begins.bus_rise, begins.pulse fits⟩

end Run

end ModularControl.Lcd
