import Mathlib.Data.List.Basic
import Mathlib.Logic.Function.Basic
import ModularControl.Sync.Counter

/-!
# The synchronous FIFO

`sync_fifo.sv` for a depth of `2 ^ k`: pointers of `k` bits that wrap on their own, an occupancy of
`k + 1` bits, and a registered output. The memory is not reset; its contents at reset are a
parameter. `contents` is the queue a FIFO stands for, and `Wf.contents_step` is what a cycle does to
it.
-/

namespace ModularControl.Common

/-- The registers and the memory of `sync_fifo`. -/
structure SyncFifo (k width : Nat) where
  mem : BitVec k → BitVec width
  wrPtr : BitVec k
  rdPtr : BitVec k
  count : BitVec (k + 1)
  dout : BitVec width

namespace SyncFifo

variable {k width : Nat}

/-- The FIFO after reset. -/
def reset (mem : BitVec k → BitVec width) : SyncFifo k width where
  mem := mem
  wrPtr := 0
  rdPtr := 0
  count := 0
  dout := 0

variable (s : SyncFifo k width) (wrEn : Bool) (din : BitVec width) (rdEn : Bool)

def empty : Bool := s.count == 0
def full : Bool := s.count == BitVec.ofNat (k + 1) (2 ^ k)
def doWrite : Bool := wrEn && !s.full
def doRead : Bool := rdEn && !s.empty

/-- The sequential block. -/
def step : SyncFifo k width where
  mem := if s.doWrite wrEn then Function.update s.mem s.wrPtr din else s.mem
  wrPtr := if s.doWrite wrEn then s.wrPtr + 1 else s.wrPtr
  rdPtr := if s.doRead rdEn then s.rdPtr + 1 else s.rdPtr
  count :=
    match s.doWrite wrEn, s.doRead rdEn with
    | true, false => s.count + 1
    | false, true => s.count - 1
    | _, _ => s.count
  dout := if s.doRead rdEn then s.mem s.rdPtr else s.dout

/-- The word `j` places behind the next one to be read. -/
def slot (j : Nat) : BitVec width := s.mem (s.rdPtr + BitVec.ofNat k j)

/-- The words written and not yet read, oldest first. -/
def contents : List (BitVec width) := (List.range s.count.toNat).map s.slot

/-- The pointers are apart by the occupancy, which the depth bounds. -/
structure Wf (s : SyncFifo k width) : Prop where
  count_le : s.count.toNat ≤ 2 ^ k
  wrPtr : s.wrPtr = s.rdPtr + BitVec.ofNat k s.count.toNat

lemma wf_reset (mem : BitVec k → BitVec width) : (reset mem).Wf where
  count_le := by simp [reset]
  wrPtr := by simp [reset]

@[simp] lemma contents_reset (mem : BitVec k → BitVec width) : (reset mem).contents = [] := by
  simp [contents, reset]

lemma length_contents : s.contents.length = s.count.toNat := by
  simp [contents]

variable {s}

lemma empty_iff : s.empty = true ↔ s.contents = [] := by
  rw [← List.length_eq_zero_iff, length_contents, empty, beq_iff_eq]
  constructor
  · intro h
    simp [h]
  · intro h
    apply BitVec.eq_of_toNat_eq
    simpa using h

lemma Wf.full_iff (_ : s.Wf) : s.full = true ↔ s.count.toNat = 2 ^ k := by
  have small : 2 ^ k % 2 ^ (k + 1) = 2 ^ k :=
    Nat.mod_eq_of_lt (Nat.pow_lt_pow_right (by decide) (Nat.lt_succ_self k))
  rw [full, beq_iff_eq]
  constructor
  · intro h
    rw [h, BitVec.toNat_ofNat, small]
  · intro h
    apply BitVec.eq_of_toNat_eq
    rw [h, BitVec.toNat_ofNat, small]

/-- A read takes the oldest word. -/
lemma doRead_contents (read : s.doRead rdEn = true) :
    ∃ rest, s.contents = s.mem s.rdPtr :: rest := by
  have filled : s.empty = false := by
    simp only [doRead, Bool.and_eq_true, Bool.not_eq_true'] at read
    exact read.2
  cases n : s.count.toNat with
  | zero =>
    have none_left : s.empty = true := by
      rw [empty_iff, contents, n]
      rfl
    rw [filled] at none_left
    cases none_left
  | succ c =>
    refine ⟨((List.range c).map Nat.succ).map s.slot, ?_⟩
    rw [contents, n, List.range_succ_eq_map, List.map_cons]
    simp [slot]

lemma count_pos (read : s.doRead rdEn = true) : 0 < s.count.toNat := by
  obtain ⟨rest, eq⟩ := doRead_contents rdEn read
  rw [← length_contents, eq]
  exact Nat.succ_pos _

/-- A write is done only where there is room for its word. -/
lemma Wf.room (wf : s.Wf) (write : s.doWrite wrEn = true) : s.count.toNat < 2 ^ k := by
  refine Nat.lt_of_le_of_ne wf.count_le fun all => ?_
  rw [← wf.full_iff] at all
  rw [doWrite, all, Bool.not_true, Bool.and_false] at write
  cases write

/-- The occupancy after a cycle. -/
lemma Wf.count_step (wf : s.Wf) :
    (s.step wrEn din rdEn).count.toNat =
      s.count.toNat + (s.doWrite wrEn).toNat - (s.doRead rdEn).toNat := by
  cases hr : s.doRead rdEn with
  | false =>
    cases hw : s.doWrite wrEn with
    | false => simp [step, hr, hw]
    | true =>
      have room : s.count.toNat + 1 < 2 ^ (k + 1) :=
        Nat.lt_of_le_of_lt (wf.room wrEn hw)
          (Nat.pow_lt_pow_right (by decide) (Nat.lt_succ_self k))
      simp only [step, hr, hw, Bool.toNat_true, Bool.toNat_false, Nat.sub_zero]
      exact Sync.toNat_succ room
  | true =>
    cases hw : s.doWrite wrEn with
    | false =>
      simp only [step, hr, hw, Bool.toNat_true, Bool.toNat_false, Nat.add_zero]
      exact Sync.toNat_pred (count_pos rdEn hr)
    | true => simp [step, hr, hw]

lemma Wf.step (wf : s.Wf) : (s.step wrEn din rdEn).Wf := by
  have count := wf.count_step wrEn din rdEn
  have bound := wf.count_le
  constructor
  · rw [count]
    cases hw : s.doWrite wrEn with
    | false => simp only [Bool.toNat_false]; omega
    | true =>
      have room := wf.room wrEn hw
      simp only [Bool.toNat_true]
      omega
  · rw [count]
    have ptr := wf.wrPtr
    cases hr : s.doRead rdEn with
    | false => cases hw : s.doWrite wrEn <;> simp [SyncFifo.step, hr, hw, ptr, BitVec.add_assoc,
        BitVec.ofNat_add]
    | true =>
      have pos := count_pos rdEn hr
      -- one word goes: the read pointer moves on by what the occupancy loses
      have split : BitVec.ofNat k s.count.toNat = 1 + BitVec.ofNat k (s.count.toNat - 1) := by
        calc BitVec.ofNat k s.count.toNat = BitVec.ofNat k (1 + (s.count.toNat - 1)) := by
              rw [Nat.add_sub_cancel' pos]
          _ = 1 + BitVec.ofNat k (s.count.toNat - 1) := BitVec.ofNat_add _ _
      cases hw : s.doWrite wrEn with
      | false =>
        simp only [SyncFifo.step, hr, hw, ptr, split, Bool.toNat_true, Bool.toNat_false,
          Nat.add_zero, if_true, Bool.false_eq_true, if_false, BitVec.add_assoc]
      | true =>
        simp only [SyncFifo.step, hr, hw, ptr, Bool.toNat_true, Nat.add_sub_cancel, if_true]
        rw [BitVec.add_assoc, BitVec.add_assoc, BitVec.add_comm 1]

/-- Places that are both in use or next to be written are different. -/
lemma slot_ne {i j : Nat} (lt : i < j) (bound : j < 2 ^ k) (p : BitVec k) :
    p + BitVec.ofNat k i ≠ p + BitVec.ofNat k j := by
  intro same
  rw [BitVec.add_right_inj] at same
  have toNat := congrArg BitVec.toNat same
  rw [BitVec.toNat_ofNat, BitVec.toNat_ofNat, Nat.mod_eq_of_lt (by omega),
    Nat.mod_eq_of_lt bound] at toNat
  omega

/-- The words behind the read pointer after the write of a cycle, before its read. -/
lemma Wf.written (wf : s.Wf) :
    (List.range (s.count.toNat + (s.doWrite wrEn).toNat)).map
        (fun j => (s.step wrEn din rdEn).mem (s.rdPtr + BitVec.ofNat k j)) =
      s.contents ++ if s.doWrite wrEn then [din] else [] := by
  cases hw : s.doWrite wrEn with
  | false => simp [SyncFifo.step, hw, contents, slot]
  | true =>
    have bound := wf.room wrEn hw
    rw [Bool.toNat_true, List.range_succ, List.map_append, contents]
    congr 1
    · apply List.map_congr_left
      intro j mem
      rw [List.mem_range] at mem
      have apart := slot_ne mem bound s.rdPtr
      simp only [SyncFifo.step, hw, if_true, wf.wrPtr, Function.update_of_ne apart, slot]
    · simp [SyncFifo.step, hw, wf.wrPtr]

/-- What a cycle does to the queue: a write puts its word at the end, a read takes the first. -/
lemma Wf.contents_step (wf : s.Wf) :
    (s.step wrEn din rdEn).contents =
      (s.contents ++ if s.doWrite wrEn then [din] else []).drop (s.doRead rdEn).toNat := by
  rw [← wf.written wrEn din rdEn, contents, wf.count_step wrEn din rdEn]
  cases hr : s.doRead rdEn with
  | false =>
    have ptr : (s.step wrEn din rdEn).rdPtr = s.rdPtr := by
      simp [SyncFifo.step, hr]
    simp only [Bool.toNat_false, Nat.sub_zero, List.drop_zero]
    exact List.map_congr_left fun j _ => by rw [slot, ptr]
  | true =>
    have pos := count_pos rdEn hr
    have ptr : (s.step wrEn din rdEn).rdPtr = s.rdPtr + 1 := by
      simp [SyncFifo.step, hr]
    obtain ⟨m, hm⟩ : ∃ m, s.count.toNat + (s.doWrite wrEn).toNat = m + 1 :=
      Nat.exists_eq_succ_of_ne_zero (by omega)
    rw [hm, Bool.toNat_true, Nat.add_sub_cancel, List.range_succ_eq_map, List.map_cons,
      List.drop_one, List.tail_cons, List.map_map]
    apply List.map_congr_left
    intro j _
    rw [slot, ptr, Function.comp_apply, Nat.succ_eq_add_one, Nat.add_comm, BitVec.ofNat_add,
      BitVec.add_assoc]
    rfl

/-- A read presents the word it takes. -/
lemma Wf.dout_step (wf : s.Wf) (read : s.doRead rdEn = true) :
    s.contents ++ (if s.doWrite wrEn then [din] else []) =
      (s.step wrEn din rdEn).dout :: (s.step wrEn din rdEn).contents := by
  obtain ⟨rest, eq⟩ := doRead_contents rdEn read
  rw [wf.contents_step, eq, read]
  simp [SyncFifo.step, read]

/-- A cycle without a read only adds. -/
lemma Wf.contents_kept (wf : s.Wf) (noRead : s.doRead rdEn = false) :
    (s.step wrEn din rdEn).contents =
      s.contents ++ if s.doWrite wrEn then [din] else [] := by
  rw [wf.contents_step, noRead, Bool.toNat_false, List.drop_zero]

end SyncFifo

end ModularControl.Common
