import ModularControl.Lcd.Course

/-!
# The initialisation of the display

After reset the controller sends the entries of its ROM, each when the delay of the one before is
over, and then tells the host that it is ready. The timer is not loaded for the state that reset
enters, so that the wait after power-up is skipped; and the first entry is sent twice, since the
index is moved on when an entry is latched after another, and the first is latched after none.
-/

namespace ModularControl.Lcd
open Sync

section Powerup

/-- `lcd_e` stays low for the first `POWERUP_CYC` clocks. -/
def PowerupSafe (p : LcdParams) (f : Nat → LcdIn) : Prop :=
  ∀ t < p.powerupCyc.toNat, lcdE p f t = false

variable {p : LcdParams} {f : Nat → LcdIn} {t : Nat}

/-- The entries of the ROM as they are sent: the first one, and then all of them. -/
def LcdParams.sent (p : LcdParams) (k : Nat) : Txn :=
  p.rom.entries.getD (k - 1) ⟨0, false, false⟩

/-- The wait after power-up lasts a clock. -/
lemma begins_first (p : LcdParams) (f : Nat → LcdIn) : Begins p f 2 (p.sent 0) :=
  (begins_latched (t := 1) (.inl rfl)).1

/-- The first pulse does not depend on `POWERUP_CYC`. -/
lemma lcdE_first : ∀ {t : Nat}, t < 2 + p.riseAt → lcdE p f t = false
  | 0, _ => rfl
  | 1, _ => rfl
  | n + 2, lt => by
    have rise := p.riseAt_lt_fallAt
    have fall := p.fallAt_lt_holdAt
    have hold := p.holdAt_lt_total (p.sent 0).isLong
    rw [Nat.add_comm n, (begins_first p f).lcdE_at (by omega)]
    exact decide_eq_false (by omega)

lemma lcdE_rises (p : LcdParams) (f : Nat → LcdIn) : lcdE p f (2 + p.riseAt) = true := by
  have rise := p.riseAt_lt_fallAt
  have fall := p.fallAt_lt_holdAt
  have hold := p.holdAt_lt_total (p.sent 0).isLong
  rw [(begins_first p f).lcdE_at (by omega)]
  exact decide_eq_true ⟨Nat.le_refl _, rise⟩

lemma powerupSafe_iff_rise : PowerupSafe p f ↔ p.powerupCyc.toNat ≤ 2 + p.riseAt := by
  constructor
  · intro safe
    by_contra late
    have low := safe (2 + p.riseAt) (Nat.lt_of_not_le late)
    rw [lcdE_rises] at low
    cases low
  · intro le t lt
    exact lcdE_first (Nat.lt_of_lt_of_le lt le)

end Powerup

/-- For every clock, every delay and ROM, and whatever the host does: `lcd_e` is low for the first
    `POWERUP_CYC` clocks exactly if these are at most two more than the clocks that the timer waits
    for the address setup. -/
theorem powerup_safe_iff (p : LcdParams) (f : Nat → LcdIn) :
    PowerupSafe p f ↔
      p.powerupCyc.toNat ≤ (p.addressSetupCyc.toNat - 1) % 2 ^ p.timerBits + 3 := by
  rw [powerupSafe_iff_rise, p.riseAt_eq, Nat.add_comm 2]

/-- With the parameters of the source and a host that asks for nothing, `lcd_e` rises within the
    first clocks. -/
theorem powerup_skipped : ¬ PowerupSafe {} fun _ => {} := by
  have cut : (({} : LcdParams).addressSetupCyc.toNat - 1) % 2 ^ ({} : LcdParams).timerBits ≤ 2 :=
    Nat.mod_le _ _
  have long : ({} : LcdParams).powerupCyc.toNat = 2500000 := rfl
  rw [powerupSafe_iff_rise, LcdParams.riseAt_eq, long]
  omega

section Sequence

/-- The host is told to go ahead for the first time. -/
structure FirstReady (p : LcdParams) (f : Nat → LcdIn) (t : Nat) : Prop where
  ready : hostReady p f t = true
  before : ∀ u < t, hostReady p f u = false

/-- After a strobe in cycle `t` the delay passes before `lcd_e` rises again or the host is told to go
    ahead. -/
def DelayedAfter (p : LcdParams) (f : Nat → LcdIn) (t delay : Nat) : Prop :=
  ∃ u, t < u ∧ (∀ v, t ≤ v → v < u → lcdE p f v = true) ∧
    ∀ v, u ≤ v → v < u + delay → lcdE p f v = false ∧ hostReady p f v = false

/-- Before the host is first told to go ahead, in cycle `t`, the entries of the ROM are strobed in
    order, each of them once, and followed by its own delay. -/
structure InitSequence (p : LcdParams) (f : Nat → LcdIn) (t : Nat) : Prop where
  first : FirstReady p f t
  strobes : log (strobe p f) t = p.rom.entries.map Txn.pair
  delays : ∀ u < t, rising (lcdE p f) u = true → ∀ x,
    p.rom.entries[(log (strobe p f) u).length]? = some x →
      DelayedAfter p f u (p.delayCyc x.isLong).toNat

/-- The cycle in which entry `k` of what is sent goes on the bus. -/
def LcdParams.initAt (p : LcdParams) : Nat → Nat
  | 0 => 2
  | k + 1 => p.initAt k + p.total (p.sent k).isLong + 1

/-- The end of the last delay. -/
def LcdParams.readyAt (p : LcdParams) : Nat :=
  p.initAt p.rom.length + p.total (p.sent p.rom.length).isLong

/-- Where the registers are when entry `k` of what is sent goes on the bus. -/
structure Sending (p : LcdParams) (f : Nat → LcdIn) (k : Nat) : Prop where
  begins : Begins p f (p.initAt k) (p.sent k)
  index : (regs p f (p.initAt k)).initIndex.toNat = min k (p.rom.length - 1)
  done : (regs p f (p.initAt k)).initDone = decide (k = p.rom.length)
  strobed : log (strobe p f) (p.initAt k) = (List.range k).map fun j => (p.sent j).pair
  notReady : ∀ t < p.initAt k, hostReady p f t = false

variable {p : LcdParams} {f : Nat → LcdIn} {t k : Nat} {x : Txn}

lemma FirstReady.unique {u : Nat} (fr : FirstReady p f t) (fr' : FirstReady p f u) : t = u := by
  obtain lt | eq | gt := Nat.lt_trichotomy t u
  · have ready := fr'.before t lt
    rw [fr.ready] at ready
    cases ready
  · exact eq
  · have ready := fr.before u gt
    rw [fr'.ready] at ready
    cases ready

lemma sending_first (p : LcdParams) (f : Nat → LcdIn) : Sending p f 0 where
  begins := begins_first p f
  index := by
    rw [Nat.zero_min]
    rfl
  done := (decide_eq_false (Nat.ne_of_lt p.rom.pos)).symm
  strobed := rfl
  notReady t lt := by
    have lt : t < 2 := lt
    match t, lt with
    | 0, _ => exact notReady_of_busy (show _ = LcdState.powerupWait from rfl) (by simp)
    | 1, _ => exact notReady_of_busy (show _ = LcdState.initLatch from rfl) (by simp)

/-- The index register holds every index of the ROM. -/
lemma LcdParams.length_lt (p : LcdParams) : p.rom.length < 2 ^ p.indexBits :=
  Nat.le_pow_clog (by decide) (p.rom.length + 1)

/-- One entry is followed by the next: its latch sees the index before it is moved on. -/
lemma Sending.next (se : Sending p f k) (lt : k < p.rom.length) : Sending p f (k + 1) := by
  have ended := se.begins.ended
  have notDone : (regs p f (p.initAt k)).initDone = false :=
    se.done.trans (decide_eq_false (Nat.ne_of_lt lt))
  have index : (regs p f (p.initAt k)).initIndex.toNat = k := by
    rw [se.index]
    exact Nat.min_eq_left (Nat.le_sub_one_of_lt lt)
  rw [notDone, if_neg Bool.false_ne_true, index] at ended
  obtain ⟨state, txn, index', done'⟩ := ended
  obtain ⟨begins, keepsIndex, keepsDone⟩ := begins_latched (.inl state)
  have isLast : (regs p f (p.initAt k)).lastEntry p = decide (k = p.rom.length - 1) := by
    rw [Controller.lastEntry, index]
    rfl
  rw [isLast] at index' done'
  refine ⟨?_, ?_, ?_, ?_, fun t before => ?_⟩
  · rw [LcdParams.sent, Nat.add_sub_cancel, ← txn]
    exact begins
  · have room := p.length_lt
    rw [LcdParams.initAt, keepsIndex, index']
    by_cases last : k = p.rom.length - 1
    · rw [if_pos (decide_eq_true last), index]
      omega
    · rw [if_neg (by simpa using last), toNat_succ (by omega), index]
      omega
  · rw [LcdParams.initAt, keepsDone, done']
    exact decide_eq_decide.mpr (by omega)
  · rw [LcdParams.initAt, log_succ, strobe_quiet (lcdE_low state (by simp)), se.begins.log_total,
      se.strobed, List.range_succ, List.map_append]
    exact List.append_nil _
  · have before : t < p.initAt k + p.total (p.sent k).isLong + 1 := before
    obtain early | ⟨n, rfl⟩ : t < p.initAt k ∨ ∃ n, t = p.initAt k + n := by
      by_cases early : t < p.initAt k
      · exact .inl early
      · exact .inr ⟨t - p.initAt k, by omega⟩
    · exact se.notReady t early
    · obtain within | latch : n < p.total (p.sent k).isLong ∨ n = p.total (p.sent k).isLong := by
        omega
      · exact se.begins.notReady within
      · rw [latch]
        exact notReady_of_busy state (by simp)

lemma sending (p : LcdParams) (f : Nat → LcdIn) (le : k ≤ p.rom.length) : Sending p f k := by
  induction k with
  | zero => exact sending_first p f
  | succ k ih => exact (ih (Nat.le_of_succ_le le)).next le

/-- The host is told to go ahead when the last entry has had its delay. -/
lemma firstReady (p : LcdParams) (f : Nat → LcdIn) : FirstReady p f p.readyAt where
  ready := by
    have se := sending p f (Nat.le_refl _)
    have ended := se.begins.ended
    rw [se.done, if_pos (decide_eq_true rfl)] at ended
    exact hostReady_iff.mpr ended
  before t lt := by
    have se := sending p f (Nat.le_refl _)
    by_cases early : t < p.initAt p.rom.length
    · exact se.notReady t early
    · obtain ⟨n, rfl⟩ := Nat.exists_eq_add_of_le (Nat.le_of_not_lt early)
      exact se.begins.notReady (Nat.lt_of_add_lt_add_left lt)

/-- From the second on, what is sent is the ROM. -/
lemma map_sent (p : LcdParams) :
    ((List.range p.rom.length).map fun k => p.sent (k + 1)) = p.rom.entries := by
  refine List.ext_getElem (by rw [List.length_map, List.length_range]; rfl) fun k _ lt => ?_
  rw [List.getElem_map, List.getElem_range, LcdParams.sent, Nat.add_sub_cancel]
  exact (List.getElem_eq_getD _).symm

/-- The first entry is strobed twice. -/
lemma init_strobes (p : LcdParams) (f : Nat → LcdIn) :
    log (strobe p f) p.readyAt = (p.sent 0).pair :: p.rom.entries.map Txn.pair := by
  have se := sending p f (Nat.le_refl _)
  calc log (strobe p f) p.readyAt
      = log (strobe p f) (p.initAt p.rom.length) ++ [(p.sent p.rom.length).pair] :=
        se.begins.log_total
    _ = (List.range (p.rom.length + 1)).map fun k => (p.sent k).pair := by
      rw [se.strobed, List.range_succ, List.map_append, List.map_singleton]
    _ = (p.sent 0).pair :: ((List.range p.rom.length).map fun k => p.sent (k + 1)).map Txn.pair := by
      rw [List.range_succ_eq_map, List.map_cons, List.map_map, List.map_map]
      rfl
    _ = (p.sent 0).pair :: p.rom.entries.map Txn.pair := by rw [map_sent]

lemma not_initSequence (p : LcdParams) (f : Nat → LcdIn) (t : Nat) : ¬ InitSequence p f t := by
  intro seq
  have strobes := seq.strobes
  rw [seq.first.unique (firstReady p f), init_strobes] at strobes
  exact absurd (congrArg List.length strobes) (Nat.succ_ne_self _)

end Sequence

/-- For every clock, every delay and ROM, and whatever the host does: the strobes before the host is
    first told to go ahead are the first entry of the ROM and then all of them, so that the ROM is
    never sent as it is. -/
theorem init_sequence_never (p : LcdParams) (f : Nat → LcdIn) :
    (∃ t, FirstReady p f t ∧
      log (strobe p f) t = (p.sent 0).pair :: p.rom.entries.map Txn.pair) ∧
      ¬ ∃ t, InitSequence p f t :=
  ⟨⟨p.readyAt, firstReady p f, init_strobes p f⟩, fun ⟨t, seq⟩ => not_initSequence p f t seq⟩

/-- The ROM of the source: its first command, which sets the function of the display, is sent
    twice. -/
theorem init_repeats_first :
    (log (strobe {} fun _ => {}) ({} : LcdParams).readyAt).take 3 =
        [(false, 0x38), (false, 0x38), (false, 0x08)] ∧
      ¬ ∃ t, InitSequence {} (fun _ => {}) t := by
  refine ⟨?_, fun ⟨t, seq⟩ => not_initSequence _ _ t seq⟩
  rw [init_strobes]
  rfl

end ModularControl.Lcd
