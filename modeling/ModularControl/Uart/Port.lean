import ModularControl.Uart.RoundTrip
import ModularControl.Uart.RxOutput

/-!
# The UART port

`uart_port_ip.sv`: the generator, both engines and the receive path, for a FIFO of depth `2 ^ k`.
Between two bytes of the receiver lie 159 ticks at least. A consumer that takes each byte within that
time keeps the path free for the next one, so that no two words meet in it (`Clash`), and two ports
wired crosswise carry bytes both ways at once.
-/

namespace ModularControl.Uart
open Sync Common

/-- What the users of a port drive in a cycle. -/
structure PortDrive where
  txValid : Bool
  txData : BitVec 8
  rxReady : Bool
deriving DecidableEq, Repr

/-- The inputs of a port in a cycle. -/
structure PortIn (w : Nat) where
  uartRx : Bool
  divX16 : BitVec w
  baudEn : Bool
  drive : PortDrive
deriving DecidableEq, Repr

/-- The outputs of a port. -/
structure PortOut where
  uartTx : Bool
  txReady : Bool
  txBusy : Bool
  rxValid : Bool
  rxData : BitVec 8
  rxBusy : Bool
  rxFifoFull : Bool
  rxFifoEmpty : Bool
deriving DecidableEq, Repr

/-- A cycle as the users of a port see it. -/
structure PortCycle where
  drive : PortDrive
  out : PortOut
deriving DecidableEq, Repr

namespace PortCycle

variable (c : PortCycle)

/-- The byte that the transmitter accepts. -/
def accepted : Option (BitVec 8) :=
  if c.drive.txValid && c.out.txReady then some c.drive.txData else none

/-- The byte that is presented. -/
def presented : Option (BitVec 8) := if c.out.rxValid then some c.out.rxData else none

/-- The byte that is handed over. -/
def handed : Option (BitVec 8) := if c.drive.rxReady then c.presented else none

/-- A byte is presented and not taken. -/
def waits : Bool := c.out.rxValid && !c.drive.rxReady

end PortCycle

/-- The registers of `uart_port`. -/
structure UartPort (w k : Nat) where
  baud : BaudGen w
  tx : TxEngine
  rx : RxEngine
  path : RxOutput k

namespace UartPort

variable {w k : Nat}

def reset (mem : BitVec k → BitVec 8) : UartPort w k := ⟨.reset, .reset, .reset, .reset mem⟩

variable (p : BaudParams) (s : UartPort w k) (i : PortIn w)

def txIn : TxIn := ⟨s.baud.baudX16Tick, i.drive.txValid, i.drive.txData⟩

/-- `rx_engine_ready` is the FIFO's not full. -/
def rxIn : RxEngineIn := ⟨s.baud.baudX16Tick, i.uartRx, !s.path.fifo.full⟩

def pathIn : RxIn := ⟨s.rx.outputValid, s.rx.outputBuffer, i.drive.rxReady⟩

def step : UartPort w k where
  baud := s.baud.step p ⟨i.baudEn, i.divX16⟩
  tx := s.tx.step (s.txIn i)
  rx := s.rx.step (s.rxIn i)
  path := s.path.step (s.pathIn i)

def out : PortOut where
  uartTx := s.tx.uartTx
  txReady := s.tx.txInReady
  txBusy := s.tx.currentState ≠ .idle
  rxValid := s.path.outValid
  rxData := s.path.outData
  rxBusy := s.rx.currentState ≠ .idle
  rxFifoFull := s.path.fifo.full
  rxFifoEmpty := s.path.fifo.empty && !s.path.outValid

end UartPort

/-- A port as a machine; `mem` is what its FIFO memory holds at power-up. -/
def uartPort (w k : Nat) (p : BaudParams) (mem : BitVec k → BitVec 8) :
    Machine (UartPort w k) (PortIn w) PortCycle where
  init := .reset mem
  step s i := s.step p i
  out s i := ⟨i.drive, s.out⟩

/-- Two ports with one divider, the receive pin of each at the other's line. -/
def uartPair (w k : Nat) (p : BaudParams) (divX16 : BitVec w) (mem : Bool → BitVec k → BitVec 8) :
    Machine (Bool → UartPort w k) (Bool → PortDrive) (Bool → PortCycle) where
  init side := .reset (mem side)
  step s i side := (s side).step p ⟨(s !side).tx.uartTx, divX16, true, i side⟩
  out s i side := ⟨i side, (s side).out⟩

/-! ## The receiver is slow -/

namespace RxEngine

variable {s : RxEngine} {i : RxEngineIn}

/-- How far the receiver is, in ticks. -/
def progress (s : RxEngine) : Nat :=
  match s.currentState with
  | .idle => 0
  | .start => s.tickCounter.toNat
  | .data => 16 + 16 * s.bitIndex.toNat + s.tickCounter.toNat
  | .stop => 144 + s.tickCounter.toNat
  | .hold => 160

/-- A byte is out while the receiver holds it, and not else. -/
def Settled (s : RxEngine) : Prop := s.outputValid = decide (s.currentState = .hold)

/-- What a cycle does to the progress: it grows by a tick at most, unless a byte is handed over. -/
lemma Settled.step (se : s.Settled) :
    (s.step i).Settled ∧ (s.step i).progress ≤ s.progress + i.baudX16Tick.toNat ∧
      (s.rxFire i = true → s.progress = 160 ∧ (s.step i).progress = 0) := by
  rw [Settled] at se
  have ended (bit : s.bitEndFire i = true) : s.tickCounterNext i = 0 ∧ i.baudX16Tick = true ∧
      s.tickCounter.toNat = 15 := by
    rw [bitEndFire, Bool.and_eq_true, beq_iff_eq] at bit
    refine ⟨?_, bit.1, congrArg BitVec.toNat bit.2⟩
    rw [tickCounterNext, if_pos bit.1, if_pos bit.2, ite_self]
  have counts : (s.tickCounterNext i).toNat ≤ s.tickCounter.toNat + i.baudX16Tick.toNat := by
    rw [tickCounterNext]
    split_ifs with idle tick top
    · exact Nat.zero_le _
    · exact Nat.zero_le _
    · rw [tick]
      exact toNat_succ_le _
    · exact Nat.le_add_right _ _
  cases state : s.currentState with
  | idle =>
    have valid : s.outputValid = false := by rw [se, state]; rfl
    have fire : s.rxFire i = false := by rw [rxFire, valid, Bool.false_and]
    cases sync : s.uartRxSync <;>
      simp [Settled, RxEngine.step, progress, stateNext, outputValidNext, tickCounterNext, state,
        valid, fire, sync]
  | start =>
    have valid : s.outputValid = false := by rw [se, state]; rfl
    have fire : s.rxFire i = false := by rw [rxFire, valid, Bool.false_and]
    cases bit : s.bitEndFire i with
    | false =>
      simp [Settled, RxEngine.step, progress, stateNext, outputValidNext, state, valid, fire, bit,
        counts]
    | true =>
      obtain ⟨zero, tick, top⟩ := ended bit
      cases start : s.startValid <;>
        simp [Settled, RxEngine.step, progress, stateNext, outputValidNext, bitIndexNext, state,
          valid, fire, bit, zero, tick, top, start]
  | data =>
    have valid : s.outputValid = false := by rw [se, state]; rfl
    have fire : s.rxFire i = false := by rw [rxFire, valid, Bool.false_and]
    cases bit : s.bitEndFire i with
    | false =>
      have same : s.bitIndexNext i = s.bitIndex := by simp [bitIndexNext, state, bit]
      simp [Settled, RxEngine.step, progress, stateNext, outputValidNext, state, valid, fire, bit,
        same, counts, Nat.add_assoc]
    | true =>
      obtain ⟨zero, tick, top⟩ := ended bit
      by_cases last : s.bitIndex = 7
      · simp [Settled, RxEngine.step, progress, stateNext, outputValidNext, state, valid, fire, bit,
          zero, tick, top, last]
      · have next : (s.bitIndexNext i).toNat ≤ s.bitIndex.toNat + 1 := by
          simp only [bitIndexNext, state, bit, ne_eq, last]
          exact toNat_succ_le _
        have stays : s.stateNext i = .data := by
          rw [stateNext, state]
          exact if_neg fun done => last done.1
        simp [Settled, RxEngine.step, progress, outputValidNext, state, valid, fire, zero, tick,
          top, stays]
        omega
  | stop =>
    have valid : s.outputValid = false := by rw [se, state]; rfl
    have fire : s.rxFire i = false := by rw [rxFire, valid, Bool.false_and]
    cases bit : s.bitEndFire i with
    | false =>
      simp [Settled, RxEngine.step, progress, stateNext, outputValidNext, state, valid, fire, bit,
        counts, Nat.add_assoc]
    | true =>
      obtain ⟨zero, tick, top⟩ := ended bit
      simp [Settled, RxEngine.step, progress, stateNext, outputValidNext, state, fire, bit, tick,
        top]
  | hold =>
    have valid : s.outputValid = true := by rw [se, state]; rfl
    cases ready : i.rxOutReady <;>
      simp [Settled, RxEngine.step, progress, stateNext, outputValidNext, rxFire, state, valid,
        ready]

/-- The consumer's ready only counts while a byte is out. -/
lemma step_ready {tick pin ready : Bool} (taken : s.outputValid = true → ready = true) :
    s.step ⟨tick, pin, ready⟩ = s.step ⟨tick, pin, true⟩ := by
  have fire : s.rxFire ⟨tick, pin, ready⟩ = s.rxFire ⟨tick, pin, true⟩ := by
    cases valid : s.outputValid with
    | false => rw [rxFire, rxFire, valid, Bool.false_and, Bool.false_and]
    | true => rw [taken valid]
  have state : s.stateNext ⟨tick, pin, ready⟩ = s.stateNext ⟨tick, pin, true⟩ := by
    rw [stateNext, stateNext, fire]
    rfl
  have valid : s.outputValidNext ⟨tick, pin, ready⟩ = s.outputValidNext ⟨tick, pin, true⟩ := by
    rw [outputValidNext, outputValidNext, fire]
    rfl
  rw [step, step, state, valid]
  rfl

end RxEngine

/-! ## The path behind a slow receiver -/

namespace RxOutput

variable {k : Nat} {s : RxOutput k} {i : RxIn} {b : BitVec 8}

/-- Nothing is in the path. -/
structure Free (s : RxOutput k) : Prop where
  contents : s.fifo.contents = []
  foutValid : s.foutValid = false
  outValid : s.outValid = false

/-- Where the only byte in the path is `n + 1` cycles after it was written. -/
def Carries (s : RxOutput k) : Nat → Prop
  | 0 => (∃ b, s.fifo.contents = [b]) ∧ s.foutValid = false ∧ s.outValid = false
  | 1 => s.fifo.contents = [] ∧ s.foutValid = true ∧ s.outValid = false
  | _ + 2 => s.fifo.contents = [] ∧ s.foutValid = false ∧ s.outValid = true

lemma Free.held (free : s.Free) : s.held = [] := by
  simp [RxOutput.held, free.contents, free.foutValid, free.outValid]

/-- Nothing arrives at a byte that waits. -/
lemma Carries.clear {n : Nat} (ca : s.Carries n) (i : RxIn) : ¬ s.Clash i := by
  rintro ⟨out, fout, -⟩
  obtain _ | _ | n := n
  · rw [ca.2.1] at fout
    cases fout
  · rw [ca.2.2] at out
    cases out
  · rw [ca.2.1] at fout
    cases fout

lemma Free.clear (free : s.Free) (i : RxIn) : ¬ s.Clash i := by
  rintro ⟨out, -⟩
  rw [free.outValid] at out
  cases out

/-- From an empty FIFO nothing is popped. -/
lemma step_empty (wf : s.fifo.Wf) (none : s.fifo.contents = []) :
    (s.step i).foutValid = false ∧
      (s.step i).fifo.contents = if s.wrFire i then [i.engineData] else [] := by
  have pop : (s.step i).foutValid = false := by
    have empty := SyncFifo.empty_iff.mpr none
    simp [step, rdEn, empty]
  have behind := behind_step (i := i) wf
  rw [pop, none] at behind
  refine ⟨pop, ?_⟩
  cases fire : s.wrFire i <;> simpa [observe, fire] using behind

/-- A byte written into the empty path is the only one in it. -/
lemma Free.next (wf : s.fifo.Wf) (free : s.Free) :
    if s.wrFire i then (s.step i).Carries 0 else (s.step i).Free := by
  obtain ⟨pop, contents⟩ := step_empty (i := i) wf free.contents
  have out : (s.step i).outValid = false := by
    simp [step, rxFire, free.outValid, free.foutValid]
  split_ifs with fire
  · rw [if_pos fire] at contents
    exact ⟨⟨_, contents⟩, pop, out⟩
  · rw [if_neg fire] at contents
    exact ⟨contents, pop, out⟩

/-- Every cycle brings the only byte further, until it is taken. -/
lemma Carries.next {n : Nat} (wf : s.fifo.Wf) (ca : s.Carries n) (quiet : i.engineValid = false) :
    (s.step i).Carries (n + 1) ∧ (2 ≤ n → i.rxReady = false) ∨ (s.step i).Free := by
  have fire : s.wrFire i = false := by rw [wrFire, quiet, Bool.false_and]
  obtain _ | _ | n := n
  · obtain ⟨⟨b, contents⟩, fout, out⟩ := ca
    have empty : s.fifo.empty = false := by
      rw [← Bool.not_eq_true, SyncFifo.empty_iff, contents]
      exact List.cons_ne_nil _ _
    have pop : (s.step i).foutValid = true := by simp [step, rdEn, out, empty]
    have behind := behind_step (i := i) wf
    rw [pop, contents] at behind
    have moved : (s.step i).fifo.dout = b ∧ (s.step i).fifo.contents = [] := by
      simpa [observe, fire] using behind
    refine .inl ⟨⟨moved.2, pop, ?_⟩, fun le => absurd le (by decide)⟩
    simp [step, rxFire, fout, out]
  · obtain ⟨contents, fout, out⟩ := ca
    obtain ⟨pop, left⟩ := step_empty (i := i) wf contents
    rw [fire] at left
    refine .inl ⟨⟨left, pop, ?_⟩, fun le => absurd le (by decide)⟩
    simp [step, fout]
  · obtain ⟨contents, fout, out⟩ := ca
    obtain ⟨pop, left⟩ := step_empty (i := i) wf contents
    rw [fire] at left
    cases ready : i.rxReady with
    | false => exact .inl ⟨⟨left, pop, by simp [step, rxFire, fout, out, ready]⟩, fun _ => rfl⟩
    | true => exact .inr ⟨left, pop, by simp [step, rxFire, fout, out, ready]⟩

end RxOutput

/-! ## A port with a prompt consumer -/

/-- No byte is left waiting for `m` cycles. -/
def Prompt (m : Nat) (c : Nat → PortCycle) : Prop :=
  ∀ t, ∃ u, t ≤ u ∧ u < t + m ∧ (c u).waits = false

section Port

variable {w k : Nat} (p : BaudParams) (divX16 : BitVec w) (mem : BitVec k → BitVec 8)
  (f : Nat → PortIn w)

/-- The generator is on and its divider stays. -/
def Running : Prop := ∀ t, (f t).baudEn = true ∧ (f t).divX16 = divX16

/-- What is offered to the transmitter of a port. -/
def portOffers (t : Nat) : Offer := ⟨(f t).drive.txValid, (f t).drive.txData⟩

/-- The line at the receive pin of a port. -/
def portLine (t : Nat) : Bool := (f t).uartRx

/-- The byte that a port hands over in a cycle. -/
def portHanded (t : Nat) : Option (BitVec 8) := ((uartPort w k p mem).outAt f t).handed

/-- In cycle `t` the receiver of a port is as one whose output is always taken, and what it has put
    out has been handed over or is in the path: at most one byte, written in cycle `u`. -/
structure PathFollows (t : Nat) : Prop where
  rx : ((uartPort w k p mem).atCycle f t).rx =
    uartRxEngine.atCycle (listening (x16Tick p divX16) (portLine f)) t
  settled : ((uartPort w k p mem).atCycle f t).rx.Settled
  wf : ((uartPort w k p mem).atCycle f t).path.fifo.Wf
  all : log (received (x16Tick p divX16) (portLine f)) t =
    log (portHanded p mem f) t ++ ((uartPort w k p mem).atCycle f t).path.held
  place : ((uartPort w k p mem).atCycle f t).path.Free ∨ ∃ u n, t = u + n + 1 ∧
    ((uartPort w k p mem).atCycle f u).path.Free ∧
    ((uartPort w k p mem).atCycle f t).path.Carries n ∧
    ((uartPort w k p mem).atCycle f t).rx.progress + count (x16Tick p divX16) (u + 1) ≤
      count (x16Tick p divX16) t ∧
    ∀ v, u + 3 ≤ v → v < t → ((uartPort w k p mem).outAt f v).waits = true

variable {p divX16 mem f} {m t : Nat}

lemma port_tick (on : Running divX16 f) (t : Nat) :
    ((uartPort w k p mem).atCycle f t).baud.baudX16Tick = x16Tick p divX16 t := by
  have inputs := (uartPort w k p mem).atCycle_project (baudGen w p) UartPort.baud
    (fun _ i => ⟨i.baudEn, i.divX16⟩) rfl (fun _ _ => rfl) f t
  simp only [(on _).1, (on _).2] at inputs
  exact congrArg BaudGen.baudX16Tick inputs

lemma port_tx (on : Running divX16 f) (t : Nat) : ((uartPort w k p mem).atCycle f t).tx =
    uartTxEngine.atCycle (offering (x16Tick p divX16) (portOffers f)) t := by
  have inputs := (uartPort w k p mem).atCycle_project uartTxEngine UartPort.tx UartPort.txIn rfl
    (fun _ _ => rfl) f t
  simp only [UartPort.txIn, port_tick on] at inputs
  exact inputs

/-- A byte that is out of the receiver finds the path empty: the byte before it has been taken. -/
lemma PathFollows.free_of_valid (fo : PathFollows p divX16 mem f t) (pos : 0 < divX16.toNat)
    (time : m < 159 * divX16.toNat) (prompt : Prompt m ((uartPort w k p mem).outAt f))
    (valid : ((uartPort w k p mem).atCycle f t).rx.outputValid = true) :
    ((uartPort w k p mem).atCycle f t).path.Free := by
  obtain free | ⟨u, n, -, -, -, slow, waits⟩ := fo.place
  · exact free
  · have ev := x16Tick_every p pos
    have hold : ((uartPort w k p mem).atCycle f t).rx.currentState = .hold := by
      have settled := fo.settled
      rw [RxEngine.Settled, valid] at settled
      exact of_decide_eq_true settled.symm
    have done : ((uartPort w k p mem).atCycle f t).rx.progress = 160 := by
      rw [RxEngine.progress, hold]
    rw [done, ev.count_eq, ev.count_eq, Nat.add_sub_cancel] at slow
    have floor := Nat.lt_div_mul_add (a := u) pos
    have whole := (Nat.le_div_iff_mul_le pos).mp slow
    rw [Nat.add_mul] at whole
    obtain ⟨v, ge, lt, taken⟩ := prompt (u + 3)
    rw [waits v ge (by omega)] at taken
    cases taken

lemma PathFollows.clear (fo : PathFollows p divX16 mem f t) (i : RxIn) :
    ¬ ((uartPort w k p mem).atCycle f t).path.Clash i := by
  obtain free | ⟨u, n, -, -, carries, -⟩ := fo.place
  · exact free.clear i
  · exact carries.clear i

/-- What a cycle writes into the path is what the receiver puts out, and finds room. -/
lemma PathFollows.writes (fo : PathFollows p divX16 mem f t) (pos : 0 < divX16.toNat)
    (time : m < 159 * divX16.toNat) (prompt : Prompt m ((uartPort w k p mem).outAt f)) :
    let s := (uartPort w k p mem).atCycle f t
    (s.rx.outputValid = true → s.path.fifo.full = false) ∧
      s.path.wrFire (s.pathIn (f t)) = s.rx.outputValid ∧
      (s.path.observe (s.pathIn (f t))).written = received (x16Tick p divX16) (portLine f) t := by
  intro s
  have room : s.rx.outputValid = true → s.path.fifo.full = false := by
    intro valid
    have free : s.path.Free := fo.free_of_valid pos time prompt valid
    have none : s.path.fifo.count.toNat = 0 := by
      rw [← SyncFifo.length_contents, free.contents, List.length_nil]
    rw [← Bool.not_eq_true, SyncFifo.Wf.full_iff fo.wf, none]
    exact Nat.ne_of_lt (Nat.two_pow_pos k)
  have fire : s.path.wrFire (s.pathIn (f t)) = s.rx.outputValid := by
    cases valid : s.rx.outputValid with
    | false => simp [RxOutput.wrFire, UartPort.pathIn, valid]
    | true => simp [RxOutput.wrFire, UartPort.pathIn, valid, room valid]
  refine ⟨room, fire, ?_⟩
  have same : s.rx = uartRxEngine.atCycle (listening (x16Tick p divX16) (portLine f)) t := fo.rx
  rw [RxOutput.observe, fire]
  cases valid : s.rx.outputValid with
  | false => rw [received_none (same ▸ valid), if_neg Bool.false_ne_true]
  | true =>
    rw [received_some (same ▸ valid), ← same, if_pos rfl]
    rfl

/-- The cycle after. -/
lemma PathFollows.next (fo : PathFollows p divX16 mem f t) (on : Running divX16 f) (pos : 0 < divX16.toNat)
    (time : m < 159 * divX16.toNat) (prompt : Prompt m ((uartPort w k p mem).outAt f)) :
    PathFollows p divX16 mem f (t + 1) := by
  obtain ⟨room, fire, written⟩ := fo.writes pos time prompt
  have tick : ((uartPort w k p mem).atCycle f t).baud.baudX16Tick = x16Tick p divX16 t :=
    port_tick on t
  have handed : ((((uartPort w k p mem).atCycle f t).path.observe
      (((uartPort w k p mem).atCycle f t).pathIn (f t))).delivered) = portHanded p mem f t := rfl
  have next : (uartPort w k p mem).atCycle f (t + 1) =
      ((uartPort w k p mem).atCycle f t).step p (f t) := Machine.atCycle_succ _ _ _
  have moves := RxOutput.held_step (i := ((uartPort w k p mem).atCycle f t).pathIn (f t)) fo.wf
    (fo.clear _)
  obtain ⟨settled, later, fired⟩ := fo.settled.step
    (i := ((uartPort w k p mem).atCycle f t).rxIn (f t))
  refine ⟨?_, next ▸ settled, next ▸ RxOutput.wf_step fo.wf, ?_, ?_⟩
  · rw [next, Machine.atCycle_succ, ← fo.rx]
    change RxEngine.step _ ⟨_, _, _⟩ = RxEngine.step _ ⟨_, _, true⟩
    rw [tick]
    exact RxEngine.step_ready fun valid => by rw [room valid]; rfl
  · rw [written, handed] at moves
    rw [log_succ, fo.all, List.append_assoc, moves, log_succ, List.append_assoc, next]
    rfl
  · rw [next]
    obtain free | ⟨u, n, now, before, carries, slow, waits⟩ := fo.place
    · have after := free.next (i := ((uartPort w k p mem).atCycle f t).pathIn (f t)) fo.wf
      split_ifs at after with write
      · have taken : ((uartPort w k p mem).atCycle f t).rx.rxFire
            (((uartPort w k p mem).atCycle f t).rxIn (f t)) = true := write
        refine .inr ⟨t, 0, rfl, free, after, ?_, fun v ge lt => by omega⟩
        have zero := (fired taken).2
        rw [UartPort.step, zero]
        exact Nat.le_of_eq (Nat.zero_add _)
      · exact .inl after
    · have quiet : ((uartPort w k p mem).atCycle f t).rx.outputValid = false := by
        rw [Bool.eq_false_iff]
        intro valid
        have free := fo.free_of_valid pos time prompt valid
        obtain _ | _ | n := n
        · obtain ⟨⟨b, contents⟩, -⟩ := carries
          rw [free.contents] at contents
          cases contents
        · rw [RxOutput.Carries, free.foutValid] at carries
          cases carries.2.1
        · rw [RxOutput.Carries, free.outValid] at carries
          cases carries.2.2
      obtain ⟨after, late⟩ | free := carries.next
        (i := ((uartPort w k p mem).atCycle f t).pathIn (f t)) fo.wf quiet
      · refine .inr ⟨u, n + 1, by omega, before, after, ?_, fun v ge lt => ?_⟩
        · have more : (((uartPort w k p mem).atCycle f t).step p (f t)).rx.progress ≤
              ((uartPort w k p mem).atCycle f t).rx.progress + (x16Tick p divX16 t).toNat := by
            rw [← tick]
            exact later
          rw [count_succ _ t]
          omega
        · obtain lt | rfl := Nat.lt_succ_iff_lt_or_eq.mp lt
          · exact waits v ge lt
          · obtain ⟨j, rfl⟩ : ∃ j, n = j + 2 := ⟨n - 2, by omega⟩
            have presented := carries.2.2
            have ready := late (by omega)
            change (_ && !_) = true
            rw [Bool.and_eq_true, Bool.not_eq_true']
            exact ⟨presented, ready⟩
      · exact .inl free

/-- A port whose consumer is prompt follows its receiver. -/
lemma port_follows (on : Running divX16 f) (pos : 0 < divX16.toNat) (time : m < 159 * divX16.toNat)
    (prompt : Prompt m ((uartPort w k p mem).outAt f)) (t : Nat) : PathFollows p divX16 mem f t := by
  induction t with
  | zero =>
    have free : (RxOutput.reset mem).Free := ⟨SyncFifo.contents_reset mem, rfl, rfl⟩
    refine ⟨rfl, rfl, SyncFifo.wf_reset mem, ?_, .inl free⟩
    exact free.held.symm
  | succ t ih => exact ih.next on pos time prompt

/-- Time and again the path is free. -/
lemma path_freed (on : Running divX16 f) (pos : 0 < divX16.toNat) (time : m < 159 * divX16.toNat)
    (prompt : Prompt m ((uartPort w k p mem).outAt f)) (t : Nat) :
    ∃ u, t ≤ u ∧ ((uartPort w k p mem).atCycle f u).path.Free := by
  obtain free | ⟨u, n, now, before, -, -, waits⟩ :=
    (port_follows on pos time prompt (t + m + 3)).place
  · exact ⟨t + m + 3, by omega, free⟩
  · by_cases ge : t ≤ u
    · exact ⟨u, ge, before⟩
    · -- a byte that was there before would have waited too long
      obtain ⟨v, ge', lt, taken⟩ := prompt (t + 2)
      rw [waits v (by omega) (by omega)] at taken
      cases taken

/-- A port with a prompt consumer hands over what a receiver whose output is always taken puts out,
    and presents each byte until it is taken. -/
lemma port_receives (on : Running divX16 f) (pos : 0 < divX16.toNat) (time : m < 159 * divX16.toNat)
    (prompt : Prompt m ((uartPort w k p mem).outAt f)) (t : Nat) :
    log (portHanded p mem f) t <+: log (received (x16Tick p divX16) (portLine f)) t ∧
      (∃ u, log (received (x16Tick p divX16) (portLine f)) t <+: log (portHanded p mem f) u) ∧
      (((uartPort w k p mem).outAt f t).waits = true →
        ((uartPort w k p mem).outAt f (t + 1)).presented =
          ((uartPort w k p mem).outAt f t).presented) := by
  have fo := port_follows on pos time prompt t
  refine ⟨fo.all ▸ List.prefix_append _ _, ?_, fun waits => ?_⟩
  · obtain ⟨u, ge, free⟩ := path_freed on pos time prompt t
    have all := (port_follows on pos time prompt u).all
    rw [free.held, List.append_nil] at all
    exact ⟨u, all ▸ log_mono ge⟩
  · have waits' : ((uartPort w k p mem).atCycle f t).path.outValid = true ∧
        (f t).drive.rxReady = false := by
      change (_ && !_) = true at waits
      rwa [Bool.and_eq_true, Bool.not_eq_true'] at waits
    have present : (((uartPort w k p mem).atCycle f t).path.observe
        (((uartPort w k p mem).atCycle f t).pathIn (f t))).rx.isSome = true := by
      rw [RxOutput.observe, waits'.1]
      rfl
    have kept := RxOutput.rx_kept (fo.clear _) present waits'.2
      (((uartPort w k p mem).atCycle f (t + 1)).pathIn (f (t + 1)))
    rw [Machine.outAt, Machine.atCycle_succ]
    exact kept

/-- What the transmitter of a port accepts. -/
lemma port_accepts (on : Running divX16 f) :
    (fun t => ((uartPort w k p mem).outAt f t).accepted) =
      taken (x16Tick p divX16) (portOffers f) := by
  funext t
  have same : ((uartPort w k p mem).atCycle f t).tx = _ := port_tx on t
  change (if (f t).drive.txValid && ((uartPort w k p mem).atCycle f t).tx.txInReady then
    some (f t).drive.txData else none) = _
  rw [same]
  rfl

end Port

/-! ## Two ports -/

/-- What one port accepts the other hands over, in order and in the end all of it, and each byte is
    presented until it is taken. -/
structure PortDelivers (there here : Nat → PortCycle) : Prop where
  in_order : ∀ t, log (fun t => (here t).handed) t <+: log (fun t => (there t).accepted) t
  complete : ∀ t, ∃ u, log (fun t => (there t).accepted) t <+: log (fun t => (here t).handed) u
  stable : ∀ t, (here t).waits = true → (here (t + 1)).presented = (here t).presented

section Pair

variable {w k : Nat} (p : BaudParams) (divX16 : BitVec w) (mem : Bool → BitVec k → BitVec 8)
  (f : Nat → Bool → PortDrive) (side : Bool)

/-- What a side of the pair shows. -/
def pairCycle (t : Nat) : PortCycle := (uartPair w k p divX16 mem).outAt f t side

/-- The inputs of the port of a side. -/
def pairIn (t : Nat) : PortIn w :=
  ⟨((uartPair w k p divX16 mem).atCycle f t !side).tx.uartTx, divX16, true, f t side⟩

lemma pairIn_on : Running divX16 (pairIn p divX16 mem f side) := fun _ => ⟨rfl, rfl⟩

/-- Each side runs as a port alone. -/
lemma pair_port (t : Nat) : (uartPair w k p divX16 mem).atCycle f t side =
    (uartPort w k p (mem side)).atCycle (pairIn p divX16 mem f side) t :=
  (uartPair w k p divX16 mem).atCycle_project (uartPort w k p (mem side)) (fun s => s side)
    (fun s i => ⟨(s !side).tx.uartTx, divX16, true, i side⟩) rfl (fun _ _ => rfl) f t

lemma pairCycle_eq : pairCycle p divX16 mem f side =
    (uartPort w k p (mem side)).outAt (pairIn p divX16 mem f side) := by
  funext t
  rw [Machine.outAt, ← pair_port]
  rfl

/-- The line of a side is that of the other's transmitter. -/
lemma pair_line : portLine (pairIn p divX16 mem f side) =
    sentLine (x16Tick p divX16) (portOffers (pairIn p divX16 mem f !side)) := by
  funext t
  change ((uartPair w k p divX16 mem).atCycle f t !side).tx.uartTx = _
  rw [pair_port, port_tx (pairIn_on p divX16 mem f !side)]
  rfl

end Pair

/-- Both ways at once, whatever is offered: each side hands over what the other accepts. The divider
    is at least 3, and no consumer leaves a byte for as long as 159 ticks. -/
theorem uart_ports_deliver (w k : Nat) (p : BaudParams) (divX16 : BitVec w)
    (wide : 3 ≤ divX16.toNat) (mem : Bool → BitVec k → BitVec 8) (f : Nat → Bool → PortDrive)
    (m : Nat) (time : m < 159 * divX16.toNat)
    (prompt : ∀ side, Prompt m (pairCycle p divX16 mem f side)) (side : Bool) :
    PortDelivers (pairCycle p divX16 mem f !side) (pairCycle p divX16 mem f side) := by
  have pos : 0 < divX16.toNat := by omega
  have ev := x16Tick_every p pos
  have link := round_trip_ticks (f := portOffers (pairIn p divX16 mem f !side)) ev pos (.inl wide)
  have prompt' := prompt side
  rw [pairCycle_eq] at prompt'
  have port := port_receives (pairIn_on p divX16 mem f side) pos time prompt'
  rw [pair_line] at port
  rw [pairCycle_eq, pairCycle_eq]
  refine ⟨fun t => ?_, fun t => ?_, fun t => (port t).2.2⟩
  · rw [port_accepts (pairIn_on p divX16 mem f !side)]
    exact (port t).1.trans (link t).1
  · rw [port_accepts (pairIn_on p divX16 mem f !side)]
    obtain ⟨v, through⟩ := (link t).2
    obtain ⟨u, out⟩ := (port v).2.1
    exact ⟨u, through.trans out⟩

/-- With the default divider, while both sides always offer a byte and are always ready. -/
theorem uart_ports_deliver_busy :
    PortDelivers (pairCycle {} (326 : BitVec 9) (fun _ (_ : BitVec 6) => 0)
        (fun _ _ => ⟨true, 0x55, true⟩) true)
      (pairCycle {} (326 : BitVec 9) (fun _ (_ : BitVec 6) => 0)
        (fun _ _ => ⟨true, 0x55, true⟩) false) := by
  refine uart_ports_deliver 9 6 {} 326 (by decide) _ _ 1 (by decide) (fun side t => ?_) false
  exact ⟨t, Nat.le_refl t, Nat.lt_succ_self t, Bool.and_false _⟩

end ModularControl.Uart
