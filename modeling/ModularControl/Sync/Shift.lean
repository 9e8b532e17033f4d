import Mathlib.Data.BitVec

/-!
# Shift registers

A word goes over a wire bit by bit, from its most or from its least significant bit on; `serial` is
the list of its bits in that order. A shift register takes a bit in at the end of this list and
drops the first one, which is the bit that it shows, so that its contents are a window on the bits
that pass.
-/

namespace ModularControl.Sync

variable {n : Nat}

/-- The bits of a word in the order in which they pass. -/
def serial (msbFirst : Bool) (x : BitVec n) : List Bool :=
  (List.range n).map fun k => if msbFirst then x.getMsbD k else x.getLsbD k

/-- A shift register after a bit has passed into it. -/
def shiftIn (msbFirst : Bool) (x : BitVec n) (b : Bool) : BitVec n :=
  if msbFirst then x.shiftConcat b else (x.cons b).extractLsb' 1 n

/-- The bit that a shift register shows. -/
def foremost (msbFirst : Bool) (x : BitVec (n + 1)) : Bool :=
  if msbFirst then x.getLsbD n else x.getLsbD 0

variable {m b : Bool} {x y : BitVec n} {bs : List Bool}

@[simp] lemma length_serial (m : Bool) (x : BitVec n) : (serial m x).length = n := by
  simp [serial]

lemma getElem?_serial {k : Nat} (lt : k < n) :
    (serial m x)[k]? = some (if m then x.getMsbD k else x.getLsbD k) := by
  simp [serial, lt]

/-! ## Words longer by a bit -/

/-- The bit above the others comes first or last. -/
lemma serial_cons (b : Bool) (x : BitVec n) :
    serial m (x.cons b) = if m then b :: serial m x else serial m x ++ [b] := by
  cases m with
  | true =>
    rw [if_pos rfl, serial, List.range_succ_eq_map, List.map_cons, List.map_map]
    refine congrArg₂ _ ?_ (List.map_congr_left fun k _ => ?_)
    · simp
    · simp
  | false =>
    rw [if_neg Bool.false_ne_true, serial, List.range_succ, List.map_append, List.map_singleton]
    refine congrArg₂ _ (List.map_congr_left fun k mem => ?_) ?_
    · have ne : k ≠ n := Nat.ne_of_lt (List.mem_range.mp mem)
      rw [if_neg Bool.false_ne_true, if_neg Bool.false_ne_true, BitVec.getLsbD_cons, if_neg ne]
    · rw [if_neg Bool.false_ne_true, BitVec.getLsbD_cons, if_pos rfl]

/-- The bit below the others comes last or first. -/
lemma serial_concat (x : BitVec n) (b : Bool) :
    serial m (x.concat b) = if m then serial m x ++ [b] else b :: serial m x := by
  cases m with
  | true =>
    rw [if_pos rfl, serial, List.range_succ, List.map_append, List.map_singleton]
    refine congrArg₂ _ (List.map_congr_left fun k mem => ?_) ?_
    · have lt : k < n := List.mem_range.mp mem
      have below : n - k ≠ 0 := by omega
      rw [if_pos rfl, if_pos rfl, BitVec.getMsbD, BitVec.getMsbD, Nat.add_sub_cancel,
        BitVec.getLsbD_concat, if_neg below, decide_eq_true lt,
        decide_eq_true (Nat.lt_succ_of_lt lt), show n - k - 1 = n - 1 - k by omega]
    · simp [BitVec.getMsbD]
  | false =>
    rw [if_neg Bool.false_ne_true, serial, List.range_succ_eq_map, List.map_cons, List.map_map]
    refine congrArg₂ _ ?_ (List.map_congr_left fun k _ => ?_)
    · simp
    · simp [BitVec.getLsbD_concat]

/-- The bit shown is the first one. -/
lemma serial_foremost (x : BitVec (n + 1)) : (serial m x).head? = some (foremost m x) := by
  rw [List.head?_eq_getElem?, getElem?_serial (Nat.succ_pos n), foremost]
  cases m <;> simp [BitVec.getMsbD]

@[simp] lemma foremost_cons (b : Bool) (x : BitVec n) : foremost true (x.cons b) = b := by
  rw [foremost, if_pos rfl, BitVec.getLsbD_cons, if_pos rfl]

@[simp] lemma foremost_concat (x : BitVec n) (b : Bool) : foremost false (x.concat b) = b := by
  rw [foremost, if_neg Bool.false_ne_true, BitVec.getLsbD_concat, if_pos rfl]

/-! ## Passing bits -/

/-- The bit number `k` is the next one of the word before, or the new one. -/
lemma getElem?_shiftIn {k : Nat} (lt : k < n) : (serial m (shiftIn m x b))[k]? =
    some (if k = n - 1 then b else if m then x.getMsbD (k + 1) else x.getLsbD (k + 1)) := by
  rw [getElem?_serial lt, shiftIn]
  refine congrArg some ?_
  cases m with
  | true =>
    have lo : n - 1 - k < n := by omega
    have new : n - 1 - k = 0 ↔ k = n - 1 := by omega
    rw [if_pos rfl, if_pos rfl, if_pos rfl, BitVec.getMsbD, decide_eq_true lt, Bool.true_and,
      BitVec.getLsbD_shiftConcat, decide_eq_true lo, Bool.true_and]
    by_cases last : k = n - 1
    · rw [if_pos last, if_pos (new.mpr last)]
    · rw [if_neg last, if_neg (mt new.mp last), BitVec.getMsbD, decide_eq_true (by omega),
        Bool.true_and, show n - 1 - k - 1 = n - 1 - (k + 1) by omega]
  | false =>
    have new : 1 + k = n ↔ k = n - 1 := by omega
    rw [if_neg Bool.false_ne_true, if_neg Bool.false_ne_true, if_neg Bool.false_ne_true,
      BitVec.getLsbD_extractLsb', decide_eq_true lt, Bool.true_and, BitVec.getLsbD_cons,
      Nat.add_comm k 1]
    simp only [new]

/-- A bit comes in behind the others, and the first one drops out. -/
lemma serial_shiftIn (m : Bool) (x : BitVec n) (b : Bool) (pos : 0 < n) :
    serial m (shiftIn m x b) = (serial m x).tail ++ [b] := by
  apply List.ext_getElem?
  intro k
  by_cases lt : k < n
  · rw [getElem?_shiftIn lt]
    by_cases last : k = n - 1
    · rw [if_pos last, List.getElem?_append_right (by simp [last]), List.length_tail,
        length_serial, last, Nat.sub_self, List.getElem?_cons_zero]
    · rw [if_neg last, List.getElem?_append_left (by simp; omega), List.getElem?_tail,
        getElem?_serial (by omega)]
  · rw [List.getElem?_eq_none (by simp; omega), List.getElem?_eq_none (by simp; omega)]

/-- What a register still has to show, after its first bit has been shown. -/
lemma prefix_shiftIn (b : Bool) (pos : 0 < n) (shows : bs <+: serial m x) :
    bs.tail <+: serial m (shiftIn m x b) := by
  rw [serial_shiftIn m x b pos]
  obtain ⟨rest, eq⟩ := shows
  cases bs with
  | nil => exact List.nil_prefix
  | cons a bs => exact ⟨rest ++ [b], by rw [← eq]; simp⟩

/-- What a register has taken in, with one bit more. -/
lemma suffix_shiftIn (b : Bool) (room : bs.length < n) (took : bs <:+ serial m x) :
    bs ++ [b] <:+ serial m (shiftIn m x b) := by
  rw [serial_shiftIn m x b (by omega)]
  obtain ⟨older, eq⟩ := took
  cases older with
  | nil =>
    have full : bs.length = n := by
      rw [← length_serial m x, ← eq]
      rfl
    omega
  | cons a older => exact ⟨older, by rw [← eq]; simp⟩

/-- A register that has taken in as many bits as it has holds these. -/
lemma serial_of_suffix (full : bs.length = n) (took : bs <:+ serial m x) : serial m x = bs :=
  (took.eq_of_length (by rw [full, length_serial])).symm

end ModularControl.Sync
