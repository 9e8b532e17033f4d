import ModularControl.Common.SyncFifo
import ModularControl.Sync.Machine

/-!
# The FIFO as a bounded queue

A bounded queue ignores writes while it is full and reads while it is empty, also when both come in
one cycle. `sync_fifo` shows the same as the queue of its depth, cycle by cycle.
-/

namespace ModularControl.Common
open Sync

variable {α : Type*}

/-- A request to a queue in a cycle. -/
structure QueueIn (α : Type*) where
  wrEn : Bool
  din : α
  rdEn : Bool
deriving DecidableEq

/-- What a queue shows in a cycle: its flags, its occupancy, the word that is read in the cycle and
    the word that was read last. -/
structure QueueOut (α : Type*) where
  full : Bool
  empty : Bool
  count : Nat
  read : Option α
  dout : α
deriving DecidableEq

/-- A queue of `depth` words at most: those in it, oldest first, and the last one read. -/
structure BoundedQueue (α : Type*) (depth : Nat) where
  words : List α
  dout : α
  bound : words.length ≤ depth

namespace BoundedQueue

variable {depth : Nat} (q : BoundedQueue α depth) (i : QueueIn α)

/-- The words after the write of a cycle, which is ignored while the queue is full. -/
def pushed : List α :=
  if i.wrEn ∧ q.words.length < depth then q.words ++ [i.din] else q.words

/-- The word read in a cycle, if there is one. -/
def read : Option α := if i.rdEn then q.words.head? else none

/-- The words after a cycle. A word that is written in the cycle is not read in it. -/
def left : List α := (q.pushed i).drop (q.read i).toList.length

lemma left_length : (q.left i).length ≤ depth := by
  have bound := q.bound
  rw [left, List.length_drop, pushed]
  split_ifs with room
  · rw [List.length_append, List.length_singleton]
    omega
  · omega

def step : BoundedQueue α depth where
  words := q.left i
  dout := (q.read i).getD q.dout
  bound := q.left_length i

def out : QueueOut α where
  full := q.words.length = depth
  empty := q.words.isEmpty
  count := q.words.length
  read := q.read i
  dout := q.dout

end BoundedQueue

/-- The bounded queue that starts empty, with `first` shown until the first word is read. -/
def boundedQueue (depth : Nat) (first : α) :
    Machine (BoundedQueue α depth) (QueueIn α) (QueueOut α) where
  init := ⟨[], first, Nat.zero_le depth⟩
  step q i := q.step i
  out q i := q.out i

/-- `sync_fifo` with a depth of `2 ^ k`. A word that is read is presented from the next cycle on. -/
def syncFifo (k width : Nat) (mem : BitVec k → BitVec width) :
    Machine (SyncFifo k width) (QueueIn (BitVec width)) (QueueOut (BitVec width)) where
  init := .reset mem
  step s i := s.step i.wrEn i.din i.rdEn
  out s i :=
    { full := s.full
      empty := s.empty
      count := s.count.toNat
      read := if s.doRead i.rdEn then some (s.step i.wrEn i.din i.rdEn).dout else none
      dout := s.dout }

namespace SyncFifo

variable {k width : Nat} {s : SyncFifo k width} {q : BoundedQueue (BitVec width) (2 ^ k)}
  {i : QueueIn (BitVec width)}

/-- The FIFO holds the words of the queue. -/
structure Holds (s : SyncFifo k width) (q : BoundedQueue (BitVec width) (2 ^ k)) : Prop where
  wf : s.Wf
  words : s.contents = q.words
  dout : s.dout = q.dout

lemma Holds.count (ho : s.Holds q) : s.count.toNat = q.words.length := by
  rw [← ho.words, length_contents]

lemma Holds.empty_eq (ho : s.Holds q) : s.empty = q.words.isEmpty := by
  rw [Bool.eq_iff_iff, empty_iff, ho.words, List.isEmpty_iff]

lemma Holds.full_eq (ho : s.Holds q) : s.full = decide (q.words.length = 2 ^ k) := by
  rw [Bool.eq_iff_iff, ho.wf.full_iff, ho.count, decide_eq_true_iff]

/-- The write of a cycle. -/
lemma Holds.pushed (ho : s.Holds q) :
    s.contents ++ (if s.doWrite i.wrEn then [i.din] else []) = q.pushed i := by
  have bound := q.bound
  have accepts : s.doWrite i.wrEn = true ↔ i.wrEn = true ∧ q.words.length < 2 ^ k := by
    rw [doWrite, ho.full_eq, Bool.and_eq_true, Bool.not_eq_true', decide_eq_false_iff_not]
    exact and_congr_right fun _ => by omega
  rw [BoundedQueue.pushed, ho.words]
  simp only [accepts]
  split_ifs with room
  · rfl
  · exact List.append_nil _

/-- The read of a cycle takes the oldest word. -/
lemma Holds.read (ho : s.Holds q) :
    (if s.doRead i.rdEn then some (s.step i.wrEn i.din i.rdEn).dout else none) = q.read i := by
  cases reads : s.doRead i.rdEn with
  | true =>
    obtain ⟨rest, eq⟩ := doRead_contents i.rdEn reads
    have now : i.rdEn = true := by
      rw [doRead, Bool.and_eq_true] at reads
      exact reads.1
    rw [BoundedQueue.read, if_pos now, ← ho.words, eq]
    simp [step, reads]
  | false =>
    rw [doRead, ho.empty_eq] at reads
    rw [BoundedQueue.read]
    cases now : i.rdEn with
    | false => rfl
    | true =>
      rw [now, Bool.true_and, Bool.not_eq_false', List.isEmpty_iff] at reads
      rw [reads]
      rfl

/-- The read takes one word or none. -/
lemma Holds.taken (ho : s.Holds q) :
    (s.doRead i.rdEn).toNat = (q.read i).toList.length := by
  rw [← ho.read]
  cases s.doRead i.rdEn <;> rfl

/-- The simulation step. -/
lemma Holds.step (ho : s.Holds q) : (s.step i.wrEn i.din i.rdEn).Holds (q.step i) := by
  refine ⟨ho.wf.step _ _ _, ?_, ?_⟩
  · rw [ho.wf.contents_step, ho.pushed, ho.taken]
    rfl
  · rw [BoundedQueue.step, ← ho.read, ← ho.dout]
    cases reads : s.doRead i.rdEn <;> simp [SyncFifo.step, reads]

end SyncFifo

/-- For every depth `2 ^ k`, width, power-up memory and run: the FIFO shows what the bounded queue of
    its depth shows, its occupancy is never more than the depth, and its pointers are apart by the
    occupancy modulo the depth. -/
theorem syncFifo_refines (k width : Nat) (mem : BitVec k → BitVec width)
    (is : List (QueueIn (BitVec width))) :
    (syncFifo k width mem).trace is = (boundedQueue (2 ^ k) (0 : BitVec width)).trace is ∧
      ((syncFifo k width mem).after is).count.toNat ≤ 2 ^ k ∧
      (((syncFifo k width mem).after is).wrPtr - ((syncFifo k width mem).after is).rdPtr).toNat =
        ((syncFifo k width mem).after is).count.toNat % 2 ^ k := by
  obtain ⟨ho, same⟩ := (syncFifo k width mem).simulation_rule (boundedQueue (2 ^ k) 0)
    (R := SyncFifo.Holds) ⟨SyncFifo.wf_reset mem, SyncFifo.contents_reset mem, rfl⟩
    (fun _ _ _ ho => ho.step)
    (fun s q i ho => by
      simp only [syncFifo, boundedQueue, BoundedQueue.out]
      rw [ho.full_eq, ho.empty_eq, ho.count, ho.read, ho.dout]) is
  refine ⟨same, ho.wf.count_le, ?_⟩
  rw [ho.wf.wrPtr, BitVec.add_comm, BitVec.add_sub_cancel, BitVec.toNat_ofNat]

end ModularControl.Common
