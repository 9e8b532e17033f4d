import Mathlib.Algebra.Group.Nat.Defs
import Mathlib.Tactic.Common

/-!
# Counters of a fixed width

The value of a counter after a step up or down that does not wrap, and what is left of a value that
is loaded, less one, into a narrower counter.
-/

namespace ModularControl.Sync

variable {w n : Nat} {c : BitVec w}

lemma toNat_one (lt : 1 < 2 ^ w) : (1 : BitVec w).toNat = 1 := Nat.mod_eq_of_lt lt

lemma toNat_succ (room : c.toNat + 1 < 2 ^ w) : (c + 1).toNat = c.toNat + 1 := by
  rw [BitVec.toNat_add, toNat_one (by omega)]
  exact Nat.mod_eq_of_lt room

/-- Whether it wraps or not. -/
lemma toNat_succ_le (c : BitVec w) : (c + 1).toNat ≤ c.toNat + 1 := by
  rw [BitVec.toNat_add]
  exact Nat.le_trans (Nat.mod_le _ _) (Nat.add_le_add_left (Nat.mod_le _ _) _)

lemma toNat_pred (pos : 0 < c.toNat) : (c - 1).toNat = c.toNat - 1 := by
  have one : (1 : BitVec w).toNat = 1 := toNat_one (Nat.lt_of_le_of_lt pos c.isLt)
  rw [BitVec.toNat_sub_of_le (by rw [BitVec.le_def, one]; exact pos), one]

/-- A load keeps the value less one modulo the range of the counter. -/
lemma toNat_load {x : BitVec n} (pos : 0 < x.toNat) :
    (x.setWidth w - 1).toNat = (x.toNat - 1) % 2 ^ w := by
  have split : x.setWidth w - 1 = BitVec.ofNat w (x.toNat - 1) := by
    rw [BitVec.sub_eq_iff_eq_add]
    calc x.setWidth w = BitVec.ofNat w x.toNat := BitVec.eq_of_toNat_eq (by simp)
      _ = BitVec.ofNat w (x.toNat - 1 + 1) := by rw [Nat.sub_add_cancel pos]
      _ = BitVec.ofNat w (x.toNat - 1) + 1 := BitVec.ofNat_add _ _
  rw [split, BitVec.toNat_ofNat]

end ModularControl.Sync
