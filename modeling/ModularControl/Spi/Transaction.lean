import ModularControl.Spi.Exchange

/-!
# The transaction that is open

What the vendor core has taken and returned so far tells what the flags of `spi_regs` have to be:
BUSY between a word's launch and its return, XFER_OPEN from the first launch to the return of a word
that was launched as final. The final flag is latched with the launch, so a CTRL write can only
change that of the next word.
-/

namespace ModularControl.Spi
open Sync Axi

/-- The final flag of a word that is launched. -/
def Event.flag : Event → Option Bool
  | launch _ finalByte => some finalByte
  | word _ => none

def Event.returned : Event → Option (BitVec 8)
  | launch _ _ => none
  | word byte => some byte

/-- The final flag of the word launched last. -/
def lastFlag (past : List Event) : Option Bool := (past.filterMap Event.flag).getLast?

/-- The word returned last. -/
def lastWord (past : List Event) : Option (BitVec 8) := (past.filterMap Event.returned).getLast?

/-- Every word launched is returned once, before the next one is launched; `open_` if one is in
    flight. -/
inductive Exchanges : List Event → Bool → Prop
  | nil : Exchanges [] false
  | launch {past byte finalByte} (ex : Exchanges past false) :
    Exchanges (past ++ [.launch byte finalByte]) true
  | word {past byte} (ex : Exchanges past true) : Exchanges (past ++ [.word byte]) false

/-- The registers and their vendor core, and all that the core has taken and returned. -/
structure Accounted where
  sys : SpiSystem
  past : List Event
deriving DecidableEq

namespace Accounted

variable (s : Accounted) (i : SpiIn)

def regs : SpiRegs := s.sys.regs

def step : Accounted := ⟨s.sys.step i, s.past ++ s.sys.events i⟩

/-- A word is returned. -/
def completes : Bool := (s.sys.seen i).core.rvalid

/-- A write of one to the bits of IRQ_STATUS that have the number `bit`. -/
def w1c (bit : Nat) : Bool :=
  s.regs.wrIrqStatusFire i.reqValid i.req && i.req.wstrb.getLsbD 0 && i.req.wdata.getLsbD bit

/-- The flags of the transaction are those that the past tells, and stay so whatever is requested
    and whatever the core does next. -/
structure Transactions : Prop where
  exchanges : Exchanges s.past s.regs.busy
  opened : s.regs.busy = true → s.regs.xferOpen = true
  between : s.regs.busy = false → (s.regs.xferOpen = true ↔ lastFlag s.past = some false)
  received : s.regs.rxdataReg = (lastWord s.past).getD 0
  qualifier : s.regs.busy = true → ∀ i : SpiIn,
    lastFlag s.past = some (s.regs.coreTransferEnd i.core i.reqValid i.req)
  done : ∀ i, s.regs.done = false → (s.step i).regs.done = true →
    s.completes i = true ∧ lastFlag s.past = some true
  irqDone : ∀ i, s.regs.irqDonePending = false → (s.step i).regs.irqDonePending = true →
    s.completes i = true ∧ lastFlag s.past = some true
  completion : ∀ i, s.completes i = true → ∃ f, lastFlag s.past = some f ∧
    (s.step i).regs.xferOpen = !f ∧
    (s.step i).regs.done =
      (!s.regs.clrDoneCmdFire i.reqValid i.req && (f || s.regs.done)) ∧
    (s.step i).regs.irqDonePending = (!s.w1c i IRQ_DONE_BIT && (f || s.regs.irqDonePending))

end Accounted

/-- `spi_regs` and its vendor core, with the account of its words. -/
def accounted : Machine Accounted SpiIn Unit where
  init := ⟨spiSystem.init, []⟩
  step s i := s.step i
  out _ _ := ()

namespace Accounted

variable {s : Accounted} {i : SpiIn}

/-- The latched flag is that of the word launched last, and a transaction is open while a word is in
    flight and after one that was not final. -/
structure Latched (s : Accounted) : Prop where
  sound : Sound s.sys
  exchanges : Exchanges s.past s.regs.busy
  flag : s.regs.launchedXferEnd = (lastFlag s.past).getD true
  between : s.regs.busy = false → s.regs.xferOpen = !s.regs.launchedXferEnd
  received : s.regs.rxdataReg = (lastWord s.past).getD 0

@[simp] lemma lastFlag_launch (past : List Event) (byte : BitVec 8) (f : Bool) :
    lastFlag (past ++ [.launch byte f]) = some f := by
  simp [lastFlag, Event.flag]

@[simp] lemma lastFlag_word (past : List Event) (byte : BitVec 8) :
    lastFlag (past ++ [.word byte]) = lastFlag past := by
  simp [lastFlag, Event.flag]

@[simp] lemma lastWord_launch (past : List Event) (byte : BitVec 8) (f : Bool) :
    lastWord (past ++ [.launch byte f]) = lastWord past := by
  simp [lastWord, Event.returned]

@[simp] lemma lastWord_word (past : List Event) (byte : BitVec 8) :
    lastWord (past ++ [.word byte]) = some byte := by
  simp [lastWord, Event.returned]

/-- A word is in flight after a launch. -/
lemma lastFlag_isSome {past : List Event} (ex : Exchanges past true) :
    ∃ f, lastFlag past = some f := by
  cases ex with
  | launch ex => exact ⟨_, lastFlag_launch _ _ _⟩

/-- What a cycle does to the flags of the transaction: nothing, or a launch, or a return. -/
inductive Step (s : Accounted) (i : SpiIn) : Prop
  | still (events : (s.step i).past = s.past) (completes : s.completes i = false)
    (busy : (s.step i).regs.busy = s.regs.busy)
    (opened : (s.step i).regs.xferOpen = s.regs.xferOpen)
    (flag : (s.step i).regs.launchedXferEnd = s.regs.launchedXferEnd)
    (word : (s.step i).regs.rxdataReg = s.regs.rxdataReg)
  | launch {byte : BitVec 8} {f : Bool} (events : (s.step i).past = s.past ++ [.launch byte f])
    (completes : s.completes i = false) (idle : s.regs.busy = false)
    (busy : (s.step i).regs.busy = true) (flag : (s.step i).regs.launchedXferEnd = f)
    (word : (s.step i).regs.rxdataReg = s.regs.rxdataReg)
  | word (events : (s.step i).past = s.past ++ [.word i.core.rdata])
    (completes : s.completes i = true) (flight : s.regs.busy = true)
    (busy : (s.step i).regs.busy = false)
    (opened : (s.step i).regs.xferOpen = !s.regs.launchedXferEnd)
    (flag : (s.step i).regs.launchedXferEnd = s.regs.launchedXferEnd)
    (word : (s.step i).regs.rxdataReg = i.core.rdata)

/-- The inversion lemma of a cycle. -/
lemma step_cases (so : Sound s.sys) (i : SpiIn) : Step s i := by
  have busy := SpiSystem.busy_step (s := s.sys) (i := i)
  have opened := SpiSystem.xferOpen_step (s := s.sys) (i := i)
  have flag := SpiSystem.launchedXferEnd_step (s := s.sys) (i := i)
  have word := SpiSystem.rxdataReg_step (s := s.sys) (i := i)
  have events : (s.step i).past = s.past ++ s.sys.events i := rfl
  rw [SpiSystem.events_eq] at events
  cases launched : s.sys.regs.coreWvalid i.core with
  | true =>
    have idle := (SpiRegs.pending_of_launch launched).2.2.1
    have quiet := so.quiet (i := i) idle
    rw [launched, quiet] at busy opened events
    rw [launched] at flag
    rw [quiet] at word
    exact .launch events quiet idle busy flag word
  | false =>
    rw [launched] at busy opened events flag
    cases back : (s.sys.seen i).core.rvalid with
    | true =>
      rw [back] at busy opened events word
      refine .word events back ?_ busy opened flag word
      by_contra idle
      rw [so.quiet (Bool.not_eq_true _ ▸ idle)] at back
      cases back
    | false =>
      rw [back] at busy opened events word
      refine .still (events.trans (List.append_nil _)) back busy opened flag word

lemma Latched.step (la : Latched s) (i : SpiIn) : Latched (s.step i) := by
  cases step_cases la.sound i with
  | still events completes busy opened flag word =>
    refine ⟨la.sound.step, ?_, ?_, ?_, ?_⟩
    · rw [events, busy]
      exact la.exchanges
    · rw [events, flag]
      exact la.flag
    · rw [busy, opened, flag]
      exact la.between
    · rw [events, word]
      exact la.received
  | launch events completes idle busy flag word =>
    have ex := la.exchanges
    rw [idle] at ex
    refine ⟨la.sound.step, ?_, ?_, ?_, ?_⟩
    · rw [events, busy]
      exact .launch ex
    · rw [events, flag, lastFlag_launch]
      rfl
    · rw [busy]
      exact fun idle => absurd idle (by decide)
    · rw [events, word, lastWord_launch]
      exact la.received
  | word events completes flight busy opened flag word =>
    have ex := la.exchanges
    rw [flight] at ex
    refine ⟨la.sound.step, ?_, ?_, ?_, ?_⟩
    · rw [events, busy]
      exact .word ex
    · rw [events, flag, lastFlag_word]
      exact la.flag
    · rw [opened, flag]
      exact fun _ => rfl
    · rw [events, word, lastWord_word]
      rfl

lemma latched (is : List SpiIn) : Latched (accounted.after is) :=
  accounted.invariant_rule (C := fun _ _ => True) ⟨⟨rfl, nofun⟩, .nil, rfl, fun _ => rfl, rfl⟩
    (fun _ i la _ => la.step i) (accounted.along_true is)

/-- DONE and its interrupt after a cycle. -/
lemma done_step (s : Accounted) (i : SpiIn) : (s.step i).regs.done =
    (!s.regs.clrDoneCmdFire i.reqValid i.req &&
      (s.completes i && s.regs.launchedXferEnd || s.regs.done)) := by
  show (if s.regs.clrDoneCmdFire i.reqValid i.req then false
    else if s.completes i && s.regs.launchedXferEnd then true else s.regs.done) = _
  cases s.regs.clrDoneCmdFire i.reqValid i.req <;>
    cases s.completes i && s.regs.launchedXferEnd <;> rfl

lemma irqDone_step (s : Accounted) (i : SpiIn) : (s.step i).regs.irqDonePending =
    (!s.w1c i IRQ_DONE_BIT &&
      (s.completes i && s.regs.launchedXferEnd || s.regs.irqDonePending)) := by
  show (if s.w1c i IRQ_DONE_BIT then false
    else if s.completes i && s.regs.launchedXferEnd then true else s.regs.irqDonePending) = _
  cases s.w1c i IRQ_DONE_BIT <;> cases s.completes i && s.regs.launchedXferEnd <;> rfl

/-- A word in flight was launched with the flag latched. -/
lemma Latched.flight (la : Latched s) (busy : s.regs.busy = true) :
    lastFlag s.past = some s.regs.launchedXferEnd := by
  have ex := la.exchanges
  rw [busy] at ex
  obtain ⟨f, known⟩ := lastFlag_isSome ex
  rw [la.flag, known]
  rfl

/-- A word is returned only if it is in flight, and closes its transaction if it is final. -/
lemma Latched.returns (la : Latched s) (back : s.completes i = true) :
    s.regs.busy = true ∧ (s.step i).regs.xferOpen = (!s.regs.launchedXferEnd) ∧
      (s.step i).regs.rxdataReg = i.core.rdata := by
  cases step_cases la.sound i with
  | still _ quiet => cases back.symm.trans quiet
  | launch _ quiet => cases back.symm.trans quiet
  | word _ _ flight _ opened _ word => exact ⟨flight, opened, word⟩

/-- The word returned was launched with the flag latched. -/
lemma Latched.completes (la : Latched s) (back : s.completes i = true) :
    lastFlag s.past = some s.regs.launchedXferEnd :=
  la.flight (la.returns back).1

/-- What sets DONE or its interrupt. -/
lemma Latched.set (la : Latched s) {clear old : Bool} (low : old = false)
    (set : (!clear && (s.completes i && s.regs.launchedXferEnd || old)) = true) :
    s.completes i = true ∧ lastFlag s.past = some true := by
  rw [low, Bool.or_false, Bool.and_eq_true, Bool.and_eq_true] at set
  obtain ⟨-, back, final⟩ := set
  exact ⟨back, final ▸ la.completes back⟩

lemma Latched.transactions (la : Latched s) : Transactions s where
  exchanges := la.exchanges
  opened := la.sound.opened
  between idle := by
    rw [la.between idle, la.flag]
    cases lastFlag s.past with
    | none => simp
    | some f => simp
  received := la.received
  qualifier busy i := by
    have still : s.regs.txFire i.core = false := by
      simp [SpiRegs.txFire, SpiRegs.startFire, busy]
    rw [SpiRegs.coreTransferEnd, still, if_neg Bool.false_ne_true]
    exact la.flight busy
  done i low set := by
    rw [done_step] at set
    exact la.set low set
  irqDone i low set := by
    rw [irqDone_step] at set
    exact la.set low set
  completion i back := by
    refine ⟨_, la.completes back, (la.returns back).2.1, ?_, ?_⟩
    · rw [done_step, back, Bool.true_and]
    · rw [irqDone_step, back, Bool.true_and]

end Accounted

/-- For every sequence of requests and every timing of the vendor core, in every state reached: BUSY
    and XFER_OPEN are what the words launched and returned make them, and the final flag of a word in
    flight is the one it was launched with, whatever is written. -/
theorem spi_transactions (is : List SpiIn) : (accounted.after is).Transactions :=
  (Accounted.latched is).transactions

end ModularControl.Spi
