import Mathlib.Tactic.Common

/-!
# The internal MMIO channel

The bus-agnostic request and response words every register block of the repository is built on, at
the default widths `ADDR_W = 12` and `DATA_W = 32`, and the byte merge the blocks share.
-/

namespace ModularControl.Axi

/-- A request on the internal MMIO channel (`req_write`, `req_addr`, `req_wdata`, `req_wstrb`). -/
structure MmioReq where
  write : Bool
  addr : BitVec 12
  wdata : BitVec 32
  wstrb : BitVec 4
deriving DecidableEq, Repr

/-- A response on the internal MMIO channel (`rsp_rdata`, `rsp_err`). -/
structure MmioRsp where
  rdata : BitVec 32
  err : Bool
deriving DecidableEq, Repr

/-- A word whose only bit that can be set is bit `k`. -/
def bitAt (k : Nat) (b : Bool) : BitVec 32 := if b then 1#32 <<< k else 0

/-- Eight copies of a strobe bit. -/
def lane (b : Bool) : BitVec 8 := if b then 0xFF else 0

/-- `write_mask`. -/
def writeMask (strb : BitVec 4) : BitVec 32 :=
  lane (strb.getLsbD 3) ++ lane (strb.getLsbD 2) ++ lane (strb.getLsbD 1) ++ lane (strb.getLsbD 0)

/-- `merge_wstrb`: the bytes of the new value whose strobe is set, the others of the old one. -/
def mergeWstrb (old new : BitVec 32) (strb : BitVec 4) : BitVec 32 :=
  (old &&& ~~~writeMask strb) ||| (new &&& writeMask strb)

lemma getLsbD_bitAt (k : Nat) (b : Bool) {j : Nat} (lt : j < 32) :
    (bitAt k b).getLsbD j = (b && k == j) := by
  cases b with
  | false => simp [bitAt]
  | true =>
    rw [bitAt, if_pos rfl, ← BitVec.twoPow_eq, BitVec.getLsbD_twoPow, Bool.true_and]
    by_cases e : k = j
    · rw [e, decide_eq_true lt, Bool.true_and]
      rfl
    · simp [e]

/-- A test against a word with one bit set reads the bit. -/
lemma and_shift (x : BitVec 32) {k : Nat} (lt : k < 32) : (x &&& 1#32 <<< k != 0) = x.getLsbD k := by
  have ne : 1#32 <<< k ≠ 0 := by
    intro zero
    have bit := congrArg (fun x => BitVec.getLsbD x k) zero
    rw [← BitVec.twoPow_eq] at bit
    simp [lt] at bit
  rw [← BitVec.twoPow_eq, BitVec.and_twoPow]
  split_ifs with h
  · rw [h, BitVec.twoPow_eq]
    exact bne_iff_ne.mpr ne
  · rw [Bool.not_eq_true] at h
    rw [h]
    rfl

/-- The low byte of a word that holds a byte. -/
lemma and_byte (byte : BitVec 8) : (byte.setWidth 32 &&& 0xFF).setWidth 8 = byte := by
  have ones : (0xFF : BitVec 32).setWidth 8 = BitVec.allOnes 8 := by decide
  rw [BitVec.setWidth_and, ones, BitVec.and_allOnes, BitVec.setWidth_setWidth_of_le _ (by decide),
    BitVec.setWidth_eq]

lemma getLsbD_lane (b : Bool) {j : Nat} (lt : j < 8) : (lane b).getLsbD j = b := by
  cases b with
  | false => simp [lane]
  | true =>
    have ones : ∀ j < 8, (0xFF#8).getLsbD j = true := by decide
    exact ones j lt

/-- A bit of the mask is the strobe of its byte. -/
lemma getLsbD_writeMask (strb : BitVec 4) {j : Nat} (lt : j < 32) :
    (writeMask strb).getLsbD j = strb.getLsbD (j / 8) := by
  simp only [writeMask, BitVec.getLsbD_append]
  split_ifs with h0 h1 h2
  · rw [getLsbD_lane _ h0, Nat.div_eq_of_lt h0]
  · rw [getLsbD_lane _ h1, show j / 8 = 1 by omega]
  · rw [getLsbD_lane _ h2, show j / 8 = 2 by omega]
  · rw [getLsbD_lane _ (by omega), show j / 8 = 3 by omega]

/-- A bit of a merged word comes from the new word if its byte is strobed. -/
lemma getLsbD_mergeWstrb (old new : BitVec 32) (strb : BitVec 4) {j : Nat} (lt : j < 32) :
    (mergeWstrb old new strb).getLsbD j =
      if strb.getLsbD (j / 8) then new.getLsbD j else old.getLsbD j := by
  have mask := getLsbD_writeMask strb lt
  rw [mergeWstrb, BitVec.getLsbD_or, BitVec.getLsbD_and, BitVec.getLsbD_and, BitVec.getLsbD_not,
    mask]
  cases strb.getLsbD (j / 8) <;> simp [lt]

/-- The bits that a register of `k` bits keeps of a merged word do not depend on those it does not
    have. -/
lemma setWidth_mergeWstrb (k : Nat) (old new : BitVec 32) (strb : BitVec 4) :
    (mergeWstrb ((old.setWidth k).setWidth 32) new strb).setWidth k =
      (mergeWstrb old new strb).setWidth k := by
  apply BitVec.eq_of_getLsbD_eq
  intro j lt
  rw [BitVec.getLsbD_setWidth, BitVec.getLsbD_setWidth]
  by_cases word : j < 32
  · rw [getLsbD_mergeWstrb _ _ _ word, getLsbD_mergeWstrb _ _ _ word]
    simp [lt, word]
  · rw [BitVec.getLsbD_of_ge _ _ (by omega), BitVec.getLsbD_of_ge _ _ (by omega)]

/-- A write of all four bytes replaces the word. -/
lemma mergeWstrb_full (old new : BitVec 32) : mergeWstrb old new 0b1111 = new := by
  have ones : writeMask 0b1111 = BitVec.allOnes 32 := by decide
  rw [mergeWstrb, ones, BitVec.not_allOnes, BitVec.and_zero, BitVec.zero_or, BitVec.and_allOnes]

end ModularControl.Axi
