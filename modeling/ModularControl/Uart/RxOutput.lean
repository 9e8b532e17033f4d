import ModularControl.Common.SyncFifo
import ModularControl.Sync.Machine
import Mathlib.Data.List.Chain

/-!
# The receive path of the UART port

The RX FIFO and the output stage of `uart_port_ip.sv`, for a FIFO of depth `2 ^ k`. The engine's
valid and data are inputs of the machine. The FIFO is popped while the output register is empty,
and again in the next cycle, when the first word has left the FIFO but not reached the register: the
second word then arrives over the first, which is lost if the consumer has not taken it by then
(`Clash`).
-/

namespace ModularControl.Uart
open Sync Common

/-- What the engine and the consumer drive in a cycle. -/
structure RxIn where
  engineValid : Bool
  engineData : BitVec 8
  rxReady : Bool
deriving DecidableEq, Repr

/-- The registers of the receive path. -/
structure RxOutput (k : Nat) where
  fifo : SyncFifo k 8
  foutValid : Bool
  outValid : Bool
  outData : BitVec 8

/-- A cycle as the engine and the consumer see it: the byte written into the FIFO, and the byte
    presented with the consumer's ready. -/
structure RxCycle where
  written : Option (BitVec 8)
  rx : Option (BitVec 8)
  rxReady : Bool
deriving DecidableEq, Repr

/-- The byte handed over in a cycle. -/
def RxCycle.delivered (o : RxCycle) : Option (BitVec 8) := if o.rxReady then o.rx else none

variable {k : Nat}

namespace RxOutput

def reset (mem : BitVec k → BitVec 8) : RxOutput k where
  fifo := .reset mem
  foutValid := false
  outValid := false
  outData := 0

variable (s : RxOutput k) (i : RxIn)

/-- `rx_fifo_wr_fire`; the engine's ready is the FIFO's not full. -/
def wrFire : Bool := i.engineValid && !s.fifo.full

/-- `rx_fire`. -/
def rxFire : Bool := s.outValid && i.rxReady

/-- `rx_fifo_rd_en`. -/
def rdEn : Bool := (!s.outValid || s.rxFire i) && !s.fifo.empty

/-- The FIFO, the pop in flight and the output register; a word that arrives wins over the
    hand-over. -/
def step : RxOutput k where
  fifo := s.fifo.step (s.wrFire i) i.engineData (s.rdEn i)
  foutValid := s.rdEn i
  outValid := if s.foutValid then true else if s.rxFire i then false else s.outValid
  outData := if s.foutValid then s.fifo.dout else s.outData

def observe : RxCycle where
  written := if s.wrFire i then some i.engineData else none
  rx := if s.outValid then some s.outData else none
  rxReady := i.rxReady

/-- A word arrives at an output register whose word is not taken. -/
def Clash : Prop := s.outValid = true ∧ s.foutValid = true ∧ i.rxReady = false

instance : Decidable (s.Clash i) := inferInstanceAs (Decidable (_ ∧ _))

/-- The bytes written and not yet handed over, oldest first. -/
def held : List (BitVec 8) :=
  (if s.outValid then [s.outData] else []) ++ (if s.foutValid then [s.fifo.dout] else []) ++
    s.fifo.contents

end RxOutput

/-- The receive path as a machine; `mem` is what the FIFO memory holds at power-up. -/
def uartRx (k : Nat) (mem : BitVec k → BitVec 8) : Machine (RxOutput k) RxIn RxCycle where
  init := .reset mem
  step s i := s.step i
  out s i := s.observe i

/-- The bytes written into the FIFO so far. -/
def written (os : List RxCycle) : List (BitVec 8) := os.filterMap RxCycle.written

/-- The bytes handed over so far. -/
def delivered (os : List RxCycle) : List (BitVec 8) := os.filterMap RxCycle.delivered

/-- A byte presented and not taken is presented again in the next cycle. -/
def Stable (o o' : RxCycle) : Prop := o.rx.isSome → o.rxReady = false → o'.rx = o.rx

instance : DecidableRel Stable := fun _ _ => inferInstanceAs (Decidable (_ → _ → _))

/-- Nothing arrives and the consumer is ready. -/
def RxIn.Drains (i : RxIn) : Prop := i.engineValid = false ∧ i.rxReady = true

/-- The delivery of the run `is`: in order, each presented byte kept until it is taken, and none
    lost, which shows when the consumer has emptied the port. -/
structure Delivers (k : Nat) (mem : BitVec k → BitVec 8) (is : List RxIn) : Prop where
  in_order : delivered ((uartRx k mem).trace is) <+: written ((uartRx k mem).trace is)
  stable : ((uartRx k mem).trace is).IsChain Stable
  none_lost : ∀ ds : List RxIn, (∀ d ∈ ds, d.Drains) → 2 ^ k + 2 ≤ ds.length →
    delivered ((uartRx k mem).trace (is ++ ds)) = written ((uartRx k mem).trace (is ++ ds))

/-! ## One cycle -/

@[simp] lemma written_snoc (os : List RxCycle) (o : RxCycle) :
    written (os ++ [o]) = written os ++ o.written.toList :=
  filterMap_snoc _ _ _

@[simp] lemma delivered_snoc (os : List RxCycle) (o : RxCycle) :
    delivered (os ++ [o]) = delivered os ++ o.delivered.toList :=
  filterMap_snoc _ _ _

namespace RxOutput

variable {s : RxOutput k} {i : RxIn}

/-- A pop is only asked of a FIFO that has a word. -/
lemma doRead_rdEn : s.fifo.doRead (s.rdEn i) = s.rdEn i := by
  cases h : s.fifo.empty <;> simp [SyncFifo.doRead, rdEn, h]

/-- A byte is only offered to a FIFO that has room. -/
lemma doWrite_wrFire : s.fifo.doWrite (s.wrFire i) = s.wrFire i := by
  cases h : s.fifo.full <;> simp [SyncFifo.doWrite, wrFire, h]

/-- The words behind the output register after a cycle: what was in the FIFO and what is written,
    with the pop in flight first. -/
lemma behind_step (wf : s.fifo.Wf) :
    (if (s.step i).foutValid then [(s.step i).fifo.dout] else []) ++ (s.step i).fifo.contents =
      s.fifo.contents ++ (s.observe i).written.toList := by
  have word : (s.observe i).written.toList = if s.wrFire i then [i.engineData] else [] := by
    cases h : s.wrFire i <;> simp [observe, h]
  rw [word, ← doWrite_wrFire]
  cases hr : s.rdEn i with
  | true =>
    have read : s.fifo.doRead (s.rdEn i) = true := by rw [doRead_rdEn, hr]
    have kept := wf.dout_step (s.wrFire i) i.engineData (s.rdEn i) read
    rw [hr] at kept
    simp only [step, hr, if_true]
    exact kept.symm
  | false =>
    have noRead : s.fifo.doRead (s.rdEn i) = false := by rw [doRead_rdEn, hr]
    have kept := wf.contents_kept (s.wrFire i) i.engineData (s.rdEn i) noRead
    rw [hr] at kept
    simp only [step, hr, Bool.false_eq_true, if_false, List.nil_append]
    exact kept

/-- Without a clash, what is held and written goes out or stays. -/
lemma held_step (wf : s.fifo.Wf) (clear : ¬ s.Clash i) :
    s.held ++ (s.observe i).written.toList =
      (s.observe i).delivered.toList ++ (s.step i).held := by
  have behind := behind_step (i := i) wf
  rw [held, List.append_assoc, ← behind, held,
    List.append_assoc (if (s.step i).outValid then _ else _)]
  cases ho : s.outValid with
  | true =>
    cases hf : s.foutValid with
    | true =>
      -- the word in flight replaces the one the consumer takes
      have ready : i.rxReady = true := by
        rw [← Bool.not_eq_false]
        exact fun h => clear ⟨ho, hf, h⟩
      simp [observe, RxCycle.delivered, step, ho, hf, ready]
    | false =>
      cases hr : i.rxReady <;>
        simp [observe, RxCycle.delivered, step, rxFire, ho, hf, hr]
  | false =>
    cases hf : s.foutValid <;>
      simp [observe, RxCycle.delivered, step, rxFire, ho, hf]

/-- With a clash, one word fewer is held. -/
lemma held_clash (wf : s.fifo.Wf) (clash : s.Clash i) :
    (s.held ++ (s.observe i).written.toList).length =
      ((s.observe i).delivered.toList ++ (s.step i).held).length + 1 := by
  obtain ⟨ho, hf, hr⟩ := clash
  have behind := congrArg List.length (behind_step (i := i) wf)
  simp only [List.length_append] at behind ⊢
  simp only [held, List.length_append]
  simp only [observe, RxCycle.delivered, step, ho, hf, hr, if_true, Bool.false_eq_true, if_false,
    Option.toList_none, List.length_nil, List.length_singleton] at behind ⊢
  omega

lemma wf_step (wf : s.fifo.Wf) : (s.step i).fifo.Wf := wf.step _ _ _

/-- A byte presented and not taken is presented again, unless another clashes with it. -/
lemma rx_kept (clear : ¬ s.Clash i) (present : (s.observe i).rx.isSome)
    (ready : i.rxReady = false) (j : RxIn) : ((s.step i).observe j).rx = (s.observe i).rx := by
  have ho : s.outValid = true := by
    cases h : s.outValid with
    | true => rfl
    | false => simp [observe, h] at present
  have hf : s.foutValid = false := by
    rw [Bool.eq_false_iff]
    exact fun h => clear ⟨ho, h, ready⟩
  simp [observe, step, rxFire, ho, hf, ready]

/-- The cycles it takes to hand over what is held. -/
def work (s : RxOutput k) : Nat :=
  if s.fifo.contents ≠ [] then s.fifo.contents.length + 2
  else if s.foutValid then 2 else if s.outValid then 1 else 0

lemma work_le (wf : s.fifo.Wf) : s.work ≤ 2 ^ k + 2 := by
  have bound := wf.count_le
  rw [← SyncFifo.length_contents] at bound
  unfold work
  split_ifs <;> omega

/-- In a draining cycle a word leaves the FIFO whenever there is one. -/
lemma contents_drain (wf : s.fifo.Wf) (drain : i.Drains) :
    (s.step i).fifo.contents = s.fifo.contents.tail ∧
      (s.step i).foutValid = !s.fifo.contents.isEmpty := by
  have quiet : s.wrFire i = false := by simp [wrFire, drain.1]
  have pop : s.rdEn i = !s.fifo.empty := by
    cases ho : s.outValid <;> simp [rdEn, rxFire, ho, drain.2]
  have word : s.fifo.empty = s.fifo.contents.isEmpty := by
    rw [Bool.eq_iff_iff, SyncFifo.empty_iff, List.isEmpty_iff]
  have after := wf.contents_step (s.wrFire i) i.engineData (s.rdEn i)
  rw [doWrite_wrFire, doRead_rdEn, quiet, if_neg Bool.false_ne_true, List.append_nil] at after
  refine ⟨?_, by rw [step, pop, word]⟩
  have same : (s.step i).fifo = s.fifo.step false i.engineData (s.rdEn i) := by rw [step, quiet]
  rw [same, after, pop, word]
  cases s.fifo.contents <;> rfl

/-- Every draining cycle does a cycle of work. -/
lemma work_drop (wf : s.fifo.Wf) (drain : i.Drains) : (s.step i).work ≤ s.work - 1 := by
  obtain ⟨left, popped⟩ := contents_drain wf drain
  have fire : s.rxFire i = s.outValid := by simp [rxFire, drain.2]
  have out : (s.step i).outValid = s.foutValid := by
    cases hf : s.foutValid <;> cases ho : s.outValid <;> simp [step, fire, hf, ho]
  rw [work, work, left, popped, out]
  cases hc : s.fifo.contents with
  | nil => cases hf : s.foutValid <;> simp
  | cons a rest => cases hr : rest <;> simp

lemma held_of_work (done : s.work = 0) : s.held = [] := by
  unfold work at done
  split_ifs at done with hc hf ho
  rw [ne_eq, not_not] at hc
  simp [held, hc, hf, ho]

end RxOutput

/-! ## Runs -/

variable {mem : BitVec k → BitVec 8} {is : List RxIn}

/-- Without a clash everything written has been handed over or is held, in order. -/
lemma written_along (al : (uartRx k mem).Along (fun s i => ¬ s.Clash i) is) :
    ((uartRx k mem).after is).fifo.Wf ∧
      written ((uartRx k mem).trace is) =
        delivered ((uartRx k mem).trace is) ++ ((uartRx k mem).after is).held := by
  refine (uartRx k mem).history_rule
    (P := fun s os => s.fifo.Wf ∧ written os = delivered os ++ s.held) ?_ ?_ al
  · refine ⟨SyncFifo.wf_reset mem, ?_⟩
    simp [written, delivered, uartRx, RxOutput.reset, RxOutput.held]
  · rintro s os i ⟨wf, eq⟩ clear
    refine ⟨RxOutput.wf_step wf, ?_⟩
    have move := RxOutput.held_step wf clear
    rw [written_snoc, delivered_snoc, eq, List.append_assoc, List.append_assoc]
    exact congrArg _ move

/-- Without a clash every byte presented and not taken is kept. -/
lemma stable_along (al : (uartRx k mem).Along (fun s i => ¬ s.Clash i) is) :
    ((uartRx k mem).trace is).IsChain Stable := by
  -- the last cycle's byte is the one presented in the next cycle, whatever its inputs
  have kept := (uartRx k mem).history_rule
    (P := fun s os => os.IsChain Stable ∧ ∀ o ∈ os.getLast?, ∀ j, Stable o (s.observe j))
    (C := fun s i => ¬ s.Clash i) ⟨.nil, by simp⟩ ?_ al
  · exact kept.1
  · rintro s os i ⟨chain, last⟩ clear
    refine ⟨List.isChain_append.mpr ⟨chain, by simp, ?_⟩, ?_⟩
    · intro o ho o' ho'
      cases Option.mem_some_iff.mp ho'
      exact last o ho i
    · intro o ho j
      rw [List.getLast?_concat] at ho
      cases Option.mem_some_iff.mp ho
      exact fun present ready => RxOutput.rx_kept clear present ready j

/-- A draining cycle cannot clash. -/
lemma along_drain {s : RxOutput k} {ds : List RxIn} (drain : ∀ d ∈ ds, d.Drains) :
    (uartRx k mem).AlongFrom (fun s i => ¬ s.Clash i ∧ i.Drains) s ds := by
  induction ds generalizing s with
  | nil => trivial
  | cons d ds ih =>
    rw [List.forall_mem_cons] at drain
    refine ⟨⟨?_, drain.1⟩, ih drain.2⟩
    rintro ⟨-, -, ready⟩
    rw [drain.1.2] at ready
    cases ready

/-- The queue is well formed after every run. -/
lemma wf_reachable (is : List RxIn) : ((uartRx k mem).after is).fifo.Wf :=
  (uartRx k mem).invariant_rule (P := fun s => s.fifo.Wf) (C := fun _ _ => True)
    (SyncFifo.wf_reset mem) (fun _ _ wf _ => RxOutput.wf_step wf)
    ((uartRx k mem).along_true is)

/-- Enough draining cycles empty the port. -/
lemma held_drained {ds : List RxIn} (drain : ∀ d ∈ ds, d.Drains) (long : 2 ^ k + 2 ≤ ds.length) :
    ((uartRx k mem).after (is ++ ds)).held = [] := by
  have wf : ((uartRx k mem).after is).fifo.Wf := wf_reachable is
  have drained := (uartRx k mem).measure_runFrom (P := fun s => s.fifo.Wf)
    (C := fun s i => ¬ s.Clash i ∧ i.Drains) RxOutput.work
    (fun _ _ wf _ => RxOutput.wf_step wf) (fun _ _ wf c => RxOutput.work_drop wf c.2) wf
    (along_drain drain)
  have bound := RxOutput.work_le wf
  rw [Machine.after_append]
  apply RxOutput.held_of_work
  omega

/-- The bytes missing: written, but neither handed over nor held. -/
def missing (s : RxOutput k) (os : List RxCycle) : Nat :=
  (written os).length - ((delivered os).length + s.held.length)

/-- What is missing after one more cycle: one byte more if it clashes. -/
lemma missing_step {s : RxOutput k} {os : List RxCycle} {i : RxIn} (wf : s.fifo.Wf)
    (le : (delivered os).length + s.held.length ≤ (written os).length) :
    (delivered (os ++ [s.observe i])).length + (s.step i).held.length ≤
        (written (os ++ [s.observe i])).length ∧
      missing (s.step i) (os ++ [s.observe i]) = missing s os + if s.Clash i then 1 else 0 := by
  rw [missing, missing, written_snoc, delivered_snoc, List.length_append, List.length_append]
  by_cases clash : s.Clash i
  · have move := RxOutput.held_clash wf clash
    simp only [List.length_append] at move
    rw [if_pos clash]
    constructor <;> omega
  · have move := congrArg List.length (RxOutput.held_step wf clash)
    simp only [List.length_append] at move
    rw [if_neg clash]
    constructor <;> omega

/-- If nothing is missing at the end of a run, there was no clash in it. -/
lemma noClash_of_missing (none : missing ((uartRx k mem).after is) ((uartRx k mem).trace is) = 0) :
    (uartRx k mem).Along (fun s i => ¬ s.Clash i) is := by
  refine (uartRx k mem).along_of_loss
    (P := fun s os => s.fifo.Wf ∧ (delivered os).length + s.held.length ≤ (written os).length)
    missing ?_ ?_ ?_ ?_ none
  · exact ⟨SyncFifo.wf_reset mem, by simp [written, delivered, uartRx, RxOutput.reset,
      RxOutput.held]⟩
  · rintro s os i ⟨wf, le⟩
    exact ⟨RxOutput.wf_step wf, (missing_step wf le).1⟩
  · rintro s os i ⟨wf, le⟩
    have grows := (missing_step (i := i) wf le).2
    exact grows ▸ Nat.le_add_right _ _
  · rintro s os i ⟨wf, le⟩ clash
    have grows := (missing_step (i := i) wf le).2
    rw [not_not] at clash
    rw [if_pos clash] at grows
    exact grows ▸ Nat.lt_succ_self _

/-- For every depth, memory at power-up and run: the receive path delivers what the engine wrote
    exactly if no word arrives at an output register whose word is not being taken. -/
theorem uartRx_delivers_iff (k : Nat) (mem : BitVec k → BitVec 8) (is : List RxIn) :
    Delivers k mem is ↔ (uartRx k mem).Along (fun s i => ¬ s.Clash i) is := by
  constructor
  · intro dl
    obtain ⟨ds, drain, long⟩ : ∃ ds : List RxIn, (∀ d ∈ ds, d.Drains) ∧ 2 ^ k + 2 ≤ ds.length := by
      refine ⟨List.replicate (2 ^ k + 2) ⟨false, 0, true⟩, ?_, by rw [List.length_replicate]⟩
      intro d mem
      rw [List.eq_of_mem_replicate mem]
      exact ⟨rfl, rfl⟩
    have all := dl.none_lost ds drain long
    have none : missing ((uartRx k mem).after (is ++ ds)) ((uartRx k mem).trace (is ++ ds)) = 0 := by
      rw [missing, all]
      exact Nat.sub_eq_zero_of_le (Nat.le_add_right _ _)
    exact ((uartRx k mem).alongFrom_append _ _ is _).mp (noClash_of_missing none) |>.1
  · intro al
    refine ⟨⟨_, (written_along al).2.symm⟩, stable_along al, ?_⟩
    intro ds drain long
    have al' : (uartRx k mem).Along (fun s i => ¬ s.Clash i) (is ++ ds) :=
      ((uartRx k mem).alongFrom_append _ _ is ds).mpr
        ⟨al, Machine.AlongFrom.mono _ (fun _ _ c => c.1) (along_drain drain)⟩
    have all := (written_along al').2
    rw [held_drained drain long, List.append_nil] at all
    exact all.symm

/-- A cycle in which the engine has nothing and the consumer is not ready. -/
def stalled : RxIn := ⟨false, 0, false⟩

/-- Three bytes arrive one by one while the consumer stalls; it takes the first and stalls again. -/
def takeOne : List RxIn :=
  ⟨true, 0xA5, false⟩ :: List.replicate 3 stalled ++ ⟨true, 0x5A, false⟩ :: List.replicate 3 stalled ++
    ⟨true, 0xC3, false⟩ :: List.replicate 3 stalled ++ ⟨false, 0, true⟩ :: List.replicate 4 stalled

/-- The second byte is presented, and overwritten by the third before it is taken. -/
theorem uartRx_overwrites : ¬ Delivers 6 (fun _ => 0) takeOne := by
  intro dl
  exact absurd dl.stable (by decide +kernel)

end ModularControl.Uart
