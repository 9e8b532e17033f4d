import Mathlib.Data.Nat.Find
import ModularControl.Uart.BaudGen

/-!
# Changes of the divider

The baud generator compares its count with the divider in force for equality. While the divider
stays, the ticks are that many clocks apart; when it is moved from above the count to the count or
below, the count runs past it and ticks only after it has gone round, if at all.
-/

namespace ModularControl.Uart
open Sync

variable {w : Nat} (p : BaudParams) (f : Nat → BaudIn w)

/-- Two ticks with none between them. -/
structure Consecutive (tick : Nat → Bool) (t u : Nat) : Prop where
  lt : t < u
  first : tick t = true
  last : tick u = true
  between : ∀ v, t < v → v < u → tick v = false

/-- Cycle `e` is the first after reset, or after the generator was disabled. -/
def Starts (e : Nat) : Prop := e = 0 ∨ ∃ v, e = v + 1 ∧ (f v).en = false

/-- Cycle `u` belongs to the count that starts with the tick in cycle `t`: the generator is enabled
    up to there, and there is no other tick. -/
structure Counting (t u : Nat) : Prop where
  ge : t ≤ u
  en : Enabled f t (u + 1)
  none : ∀ v, t < v → v ≤ u → x16At p f v = false

/-- The ticks while the generator is enabled: a gap is no longer than the largest divider in it, and
    the time since the last tick stays below it, whether another tick comes or not; while the
    divider stays, the ticks after one of them are those that many clocks apart; and the 1x tick
    comes with every 16th x16 tick. -/
structure Spaced : Prop where
  gap : ∀ t u, Consecutive (x16At p f) t u → Enabled f t u →
    ∃ v, t ≤ v ∧ v < u ∧ u - t ≤ effAt p f v
  due : ∀ t u, x16At p f t = true → Counting p f t u → ∃ v, Counting p f t v ∧ u - t < effAt p f v
  constant : ∀ d t n, x16At p f t = true → Enabled f t n → (∀ v, t ≤ v → v < n → effAt p f v = d) →
    ∀ u, t ≤ u → u ≤ n → (x16At p f u = true ↔ d ∣ u - t)
  sixteenth : ∀ e t, Starts f e → Enabled f e t → e ≤ t → (x1At p f t = true ↔ x16At p f t = true ∧
    16 ∣ count (x16At p f) (t + 1) - count (x16At p f) e)

/-- The divider meets the count that starts in cycle `t`: `k` clocks after the tick it is
    `k + 1`. -/
def Meets (t : Nat) : Prop := ∃ k, Enabled f t (t + k + 1) ∧ effAt p f (t + k) = k + 1

/-- The generator is disabled before that count is longer than the largest divider in it. -/
def Cut (t : Nat) : Prop :=
  ∃ l, Enabled f t (t + l) ∧ (f (t + l)).en = false ∧ (l = 0 ∨ ∃ k < l, l ≤ effAt p f (t + k))

variable {p f} {t u : Nat}

/-- With a tick the count starts again. -/
lemma BaudGen.cnt_of_tick {s : BaudGen w} (i : BaudIn w) (tick : (s.step p i).baudX16Tick = true) :
    (s.step p i).cnt = 0 := by
  cases en : i.en <;> cases hw : s.wraps p i <;> simp [BaudGen.step, en, hw] at tick ⊢

lemma cnt_of_tick (tick : x16At p f t = true) : ((baudGen w p).atCycle f t).cnt = 0 := by
  cases t with
  | zero => simp [x16At, baudGen, BaudGen.reset] at tick
  | succ t =>
    rw [x16At, Machine.atCycle_succ] at tick
    rw [Machine.atCycle_succ]
    exact BaudGen.cnt_of_tick _ tick

/-- The cycle in which the generator starts shows no tick. -/
lemma tick_none (starts : Starts f t) : x16At p f t = false ∧
    ((baudGen w p).atCycle f t).sub16 = 0 ∧ x1At p f t = false := by
  obtain rfl | ⟨v, rfl, off⟩ := starts
  · exact ⟨rfl, rfl, rfl⟩
  · simp [x16At, x1At, baudGen, BaudGen.step, off]

section Wide

variable {p : BaudParams} {f : Nat → BaudIn (w + 1)} {t u e : Nat}

/-- The effective divider is at least 1. -/
lemma effAt_pos (p : BaudParams) (f : Nat → BaudIn (w + 1)) (t : Nat) : 0 < effAt p f t := by
  have one : (1 : BitVec (w + 1)).toNat = 1 :=
    Nat.mod_eq_of_lt (Nat.one_lt_two_pow (Nat.succ_ne_zero w))
  rw [effAt, divEff]
  split_ifs with le
  · rw [one]
    exact Nat.one_pos
  · rw [BitVec.le_def, one] at le
    omega

/-- Between ticks the count goes up, and round. -/
lemma Counting.cnt (co : Counting p f t u) (tick : x16At p f t = true) :
    ((baudGen (w + 1) p).atCycle f u).cnt.toNat = (u - t) % 2 ^ (w + 1) := by
  obtain ⟨ge, en, none⟩ := co
  induction ge with
  | refl => simp [cnt_of_tick tick]
  | @step v ge ih =>
    have ge : t ≤ v := ge
    have before := ih (fun x gt le => en x gt (Nat.lt_succ_of_lt le))
      fun x gt le => none x gt (Nat.le_succ_of_le le)
    obtain ⟨-, cnt⟩ := x16At_succ (en v ge (by omega)) (effAt_pos p f v)
    rw [none (v + 1) (by omega) (Nat.le_refl _), if_neg Bool.false_ne_true, before,
      Nat.mod_add_mod] at cnt
    rw [cnt, Nat.succ_eq_add_one, Nat.sub_add_comm ge]

/-- A count ends with the cycle in which the divider is one more than it. -/
lemma Counting.tick_iff (co : Counting p f t u) (tick : x16At p f t = true) :
    x16At p f (u + 1) = true ↔ effAt p f u = (u - t) % 2 ^ (w + 1) + 1 := by
  rw [(x16At_succ (co.en u co.ge (Nat.lt_succ_self u)) (effAt_pos p f u)).1, co.cnt tick, eq_comm]

/-- A count the divider has not met goes on, until it goes round. -/
lemma counting_of_unmet (tick : x16At p f t = true) {k : Nat} (en : Enabled f t (t + k + 1))
    (room : k ≤ 2 ^ (w + 1)) (unmet : ∀ j < k, effAt p f (t + j) ≠ j + 1) :
    Counting p f t (t + k) := by
  induction k with
  | zero => exact ⟨Nat.le_refl t, en, fun v gt le => absurd gt (Nat.not_lt.mpr le)⟩
  | succ k ih =>
    have co := ih (fun v ge lt => en v ge (by omega)) (by omega)
      fun j lt => unmet j (Nat.lt_succ_of_lt lt)
    refine ⟨Nat.le_add_right _ _, en, fun v gt le => ?_⟩
    obtain rfl | lt := Nat.eq_or_lt_of_le le
    · have goes := mt (co.tick_iff tick).mp
      rw [Nat.add_sub_cancel_left, Nat.mod_eq_of_lt (by omega)] at goes
      exact Bool.eq_false_iff.mpr (goes (unmet k (Nat.lt_succ_self k)))
    · exact co.none v gt (by omega)

/-- The divider meets a count before it goes round, and ends it. -/
lemma Meets.ends (meets : Meets p f t) (tick : x16At p f t = true) :
    ∃ k, Counting p f t (t + k) ∧ effAt p f (t + k) = k + 1 ∧ x16At p f (t + k + 1) = true := by
  classical
  obtain ⟨en, met⟩ := Nat.find_spec meets
  have bound : effAt p f (t + Nat.find meets) < 2 ^ (w + 1) := BitVec.isLt _
  have co := counting_of_unmet tick en (by omega) fun j lt eq =>
    Nat.find_min meets lt ⟨fun v ge le => en v ge (by omega), eq⟩
  refine ⟨_, co, met, (co.tick_iff tick).mpr ?_⟩
  rw [met, Nat.add_sub_cancel_left, Nat.mod_eq_of_lt (by omega)]

/-- A count that is met stays below the divider that meets it. -/
lemma Meets.due (meets : Meets p f t) (tick : x16At p f t = true) (co : Counting p f t u) :
    ∃ v, Counting p f t v ∧ u - t < effAt p f v := by
  obtain ⟨k, met, eff, last⟩ := meets.ends tick
  refine ⟨t + k, met, ?_⟩
  by_contra long
  rw [co.none (t + k + 1) (by omega) (by omega)] at last
  cases last

/-- A count that is cut in time does too. -/
lemma Cut.due (cut : Cut p f t) (tick : x16At p f t = true) (unmet : ¬ Meets p f t)
    (co : Counting p f t u) : ∃ v, Counting p f t v ∧ u - t < effAt p f v := by
  obtain ⟨l, en, off, short⟩ := cut
  have lt : u < t + l := by
    by_contra ge
    rw [co.en (t + l) (by omega) (by omega)] at off
    cases off
  have ge := co.ge
  obtain ⟨k, below, le⟩ := short.resolve_left (by omega)
  have bound : effAt p f (t + k) < 2 ^ (w + 1) := BitVec.isLt _
  refine ⟨t + k, counting_of_unmet tick (fun v ge lt => en v ge (by omega)) (by omega) ?_, by omega⟩
  exact fun j less eq => unmet ⟨j, fun v ge lt => en v ge (by omega), eq⟩

/-- A count that stays below its largest divider is met or cut. -/
lemma meets_or_cut (tick : x16At p f t = true)
    (due : ∀ u, Counting p f t u → ∃ v, Counting p f t v ∧ u - t < effAt p f v) :
    Meets p f t ∨ Cut p f t := by
  by_cases meets : Meets p f t
  · exact .inl meets
  right
  have goes : ∀ k, k ≤ 2 ^ (w + 1) → Enabled f t (t + k + 1) → Counting p f t (t + k) := by
    intro k room en
    exact counting_of_unmet tick en room fun j lt eq =>
      meets ⟨j, fun v ge less => en v ge (by omega), eq⟩
  have off : ∃ l, l ≤ 2 ^ (w + 1) ∧ (f (t + l)).en = false := by
    by_contra on
    have en : Enabled f t (t + 2 ^ (w + 1) + 1) := by
      intro v ge lt
      by_contra low
      exact on ⟨v - t, by omega, by rwa [Nat.add_sub_cancel' ge, ← Bool.not_eq_true]⟩
    obtain ⟨v, -, less⟩ := due _ (goes _ (Nat.le_refl _) en)
    have bound : effAt p f v < 2 ^ (w + 1) := BitVec.isLt _
    omega
  obtain ⟨room, low⟩ := Nat.find_spec off
  have en : Enabled f t (t + Nat.find off) := by
    intro v ge lt
    have on := Nat.find_min off (m := v - t) (by omega)
    rw [Nat.add_sub_cancel' ge] at on
    by_contra low
    exact on ⟨by omega, Bool.eq_false_iff.mpr low⟩
  refine ⟨Nat.find off, en, low, ?_⟩
  obtain zero | pos := Nat.eq_zero_or_pos (Nat.find off)
  · exact .inl zero
  · -- the divider that is larger than the count is presented before the generator is disabled
    obtain ⟨v, co, less⟩ := due _ (goes (Nat.find off - 1) (by omega)
      fun v ge lt => en v ge (by omega))
    have ge := co.ge
    have before : v < t + Nat.find off := by
      by_contra late
      rw [co.en (t + Nat.find off) (by omega) (by omega)] at low
      cases low
    refine .inr ⟨v - t, by omega, ?_⟩
    rw [Nat.add_sub_cancel' ge]
    omega

/-- A gap between two ticks is a count, up to the last cycle of it. -/
lemma Consecutive.counting (co : Consecutive (x16At p f) t u) (en : Enabled f t u) :
    Counting p f t (u - 1) := by
  have lt := co.lt
  exact ⟨by omega, fun v ge less => en v ge (by omega), fun v gt le => co.between v gt (by omega)⟩

/-- Since the generator started, the ticks are counted modulo 16. -/
lemma sub16_counts (starts : Starts f e) (en : Enabled f e t) (ge : e ≤ t) :
    ((baudGen (w + 1) p).atCycle f t).sub16.toNat =
        (count (x16At p f) (t + 1) - count (x16At p f) e) % 16 ∧
      (x1At p f t = true ↔ x16At p f t = true ∧
        16 ∣ count (x16At p f) (t + 1) - count (x16At p f) e) := by
  induction ge with
  | refl =>
    obtain ⟨low, zero, low1⟩ := tick_none (p := p) starts
    simp [low, zero, low1]
  | @step t ge ih =>
    obtain ⟨sub, -⟩ := ih fun v ge' lt => en v ge' (Nat.lt_succ_of_lt lt)
    have now := en t ge (Nat.lt_succ_self t)
    have mono : count (x16At p f) e ≤ count (x16At p f) (t + 1) :=
      count_mono (x16At p f) (Nat.le_succ_of_le ge)
    have next : (baudGen (w + 1) p).atCycle f (t + 1) =
        ((baudGen (w + 1) p).atCycle f t).step p (f t) := Machine.atCycle_succ _ _ _
    have top : ((baudGen (w + 1) p).atCycle f t).sub16 = 15 ↔
        (count (x16At p f) (t + 1) - count (x16At p f) e) % 16 = 15 := by
      rw [← BitVec.toNat_inj, sub]
      rfl
    rw [count_succ _ (t + 1), Nat.sub_add_comm mono]
    generalize count (x16At p f) (t + 1) - count (x16At p f) e = c at sub top
    cases hw : ((baudGen (w + 1) p).atCycle f t).wraps p (f t) with
    | false =>
      have low : x16At p f (t + 1) = false := by rw [x16At, next]; simp [BaudGen.step, now, hw]
      have low1 : x1At p f (t + 1) = false := by rw [x1At, next]; simp [BaudGen.step, now, hw]
      rw [next]
      simpa [BaudGen.step, now, hw, low, low1] using sub
    | true =>
      have high : x16At p f (t + 1) = true := by rw [x16At, next]; simp [BaudGen.step, now, hw]
      have high1 : x1At p f (t + 1) =
          decide (((baudGen (w + 1) p).atCycle f t).sub16 = 15) := by
        rw [x1At, next]
        simp [BaudGen.step, now, hw]
      rw [high1, decide_eq_true_iff, high, next, Bool.toNat_true]
      simp only [BaudGen.step, now, hw, if_true, top, true_and]
      constructor
      · split_ifs with last
        · simp
          omega
        · rw [BitVec.toNat_add, sub]
          simp
      · omega

end Wide

/-- For every width from one bit on, both parameters and every run: the ticks of the enabled
    generator are spaced as they should be exactly if every count that starts with a tick is met by
    the divider, or cut in time. -/
theorem baudGen_spaced_iff (w : Nat) (p : BaudParams) (f : Nat → BaudIn (w + 1)) :
    Spaced p f ↔ ∀ t, x16At p f t = true → Meets p f t ∨ Cut p f t := by
  constructor
  · intro spaced t tick
    exact meets_or_cut tick fun u => spaced.due t u tick
  · intro ends
    have due : ∀ t u, x16At p f t = true → Counting p f t u →
        ∃ v, Counting p f t v ∧ u - t < effAt p f v := by
      intro t u tick co
      by_cases meets : Meets p f t
      · exact meets.due tick co
      · exact ((ends t tick).resolve_left meets).due tick meets co
    refine ⟨fun t u co en => ?_, due, fun d t n tick en const u ge le => ?_,
      fun e t starts en ge => (sub16_counts starts en ge).2⟩
    · have lt := co.lt
      obtain ⟨v, counting, less⟩ := due t (u - 1) co.first (co.counting en)
      have before : v < u := by
        by_contra late
        have high := co.last
        rw [counting.none u lt (by omega)] at high
        cases high
      exact ⟨v, counting.ge, before, by omega⟩
    · obtain rfl | lt := Nat.eq_or_lt_of_le ge
      · simp [tick]
      · have pos : 0 < d := by
          rw [← const t (Nat.le_refl t) (by omega)]
          exact effAt_pos p f t
        exact (baudGen_counts_from (cnt_of_tick tick) pos en const ge le).2 lt

/-- A divider of 1 until the first tick, of 3 in the next clock and of 1 from then on. -/
def dipping (t : Nat) : BaudIn 2 := ⟨true, if t = 1 then 3 else 1⟩

/-- With a divider of 2 bits, set to 1 when the count is at 1, the next tick comes after five
    clocks. -/
theorem baudGen_missed : ¬ Spaced {} dipping := by
  intro spaced
  have co : Consecutive (x16At {} dipping) 1 6 := by
    refine ⟨by decide, by decide, by decide, fun v gt lt => ?_⟩
    obtain rfl | rfl | rfl | rfl : v = 2 ∨ v = 3 ∨ v = 4 ∨ v = 5 := by omega
    all_goals decide
  obtain ⟨v, -, -, le⟩ := spaced.gap 1 6 co fun _ _ _ => rfl
  have bound : effAt {} dipping v < 4 := BitVec.isLt _
  omega

end ModularControl.Uart
