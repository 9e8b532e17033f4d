import Mathlib.Data.BitVec

/-!
# 8N1 frames

A byte goes over the line as a low start bit, its bits from the lowest to the highest, and a high
stop bit. The line is high between frames. Both engines count the ticks of a frame in a counter of
sixteenths of a bit and one of data bits.
-/

namespace ModularControl.Uart

/-- The level of bit `j` of the frame of a byte. -/
def frameLevel (b : BitVec 8) (j : Nat) : Bool :=
  if j = 0 then false else if j ≤ 8 then b.getLsbD (j - 1) else true

@[simp] lemma frameLevel_start (b : BitVec 8) : frameLevel b 0 = false := rfl

lemma frameLevel_data (b : BitVec 8) {k : Nat} (lt : k < 8) : frameLevel b (k + 1) = b.getLsbD k := by
  rw [frameLevel, if_neg (Nat.succ_ne_zero k), if_pos (Nat.succ_le_of_lt lt), Nat.add_sub_cancel]

lemma frameLevel_stop (b : BitVec 8) {j : Nat} (ge : 9 ≤ j) : frameLevel b j = true := by
  rw [frameLevel, if_neg (by omega), if_neg (by omega)]

/-- A byte is known by the levels of its frame. -/
lemma eq_of_frameLevel {b b' : BitVec 8} (same : ∀ k < 8, b'.getLsbD k = frameLevel b (k + 1)) :
    b' = b := by
  apply BitVec.eq_of_getLsbD_eq
  intro k lt
  rw [same k lt, frameLevel_data b lt]

/-! ## The counters of a frame -/

section Counters

variable {tickCounter : BitVec 4} {bitIdx : BitVec 3} {c : Nat}

/-- The tick counter counts the ticks modulo 16. -/
lemma tickCounter_next (tick : Bool) (at_c : tickCounter.toNat = c % 16) :
    (if tick then (if tickCounter = 15 then 0 else tickCounter + 1) else tickCounter).toNat =
      (c + tick.toNat) % 16 := by
  have top : tickCounter = 15 ↔ c % 16 = 15 := by
    rw [← BitVec.toNat_inj, at_c]
    rfl
  cases tick with
  | false => simpa using at_c
  | true =>
    simp only [if_true, top, Bool.toNat_true]
    split_ifs with last
    · simp
      omega
    · rw [BitVec.toNat_add, at_c]
      simp

/-- An event at the count `k` of a bit. -/
lemma tickCounter_at (tick : Bool) (k : BitVec 4) (at_c : tickCounter.toNat = c % 16) :
    (tick && tickCounter == k) = (tick && decide (c % 16 = k.toNat)) := by
  rw [beq_eq_decide, ← at_c]
  simp only [BitVec.toNat_inj]

/-- The last of the data bits. -/
lemma bitIdx_last (at_c : bitIdx.toNat = c / 16 - 1) : bitIdx = 7 ↔ c / 16 = 8 := by
  rw [← BitVec.toNat_inj, at_c]
  exact Nat.pred_eq_succ_iff

/-- The data bit after the end of another. -/
lemma bitIdx_next (at_c : bitIdx.toNat = c / 16 - 1) (ge : 16 ≤ c) (ended : c % 16 = 15)
    (lt : c + 1 < 144) : (bitIdx + 1).toNat = (c + 1) / 16 - 1 := by
  rw [BitVec.toNat_add, at_c]
  change (c / 16 - 1 + 1) % 8 = _
  omega

end Counters

end ModularControl.Uart
