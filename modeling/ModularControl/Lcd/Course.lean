import ModularControl.Lcd.Controller

/-!
# Transactions in a run

Whatever the host does, a run of the controller is made of transactions, latch states and idle
cycles. A transaction that goes on the bus in cycle `t` is followed to its end, and it gives one
pulse of `lcd_e`.
-/

namespace ModularControl.Lcd
open Sync

/-- What the display takes from a pulse of `lcd_e`. -/
def Txn.pair (x : Txn) : Bool × BitVec 8 := (x.rs, x.data)

section Streams

variable (p : LcdParams) (f : Nat → LcdIn)

/-- The registers in a cycle. -/
def regs (t : Nat) : Controller p.timerBits p.indexBits := (hd44780ParallelLcd p).atCycle f t

def lcdE (t : Nat) : Bool := (regs p f t).out.lcdE

def hostReady (t : Nat) : Bool := (regs p f t).out.hostReady

/-- `lcd_rs` and the data lines. -/
def bus (t : Nat) : Bool × BitVec 8 := ((regs p f t).out.lcdRs, (regs p f t).out.lcdDataO)

/-- The pair on the bus when `lcd_e` rises. -/
def strobe (t : Nat) : Option (Bool × BitVec 8) :=
  if rising (lcdE p f) t then some (bus p f t) else none

/-- In cycle `t` the transaction `x` goes on the bus. -/
structure Begins (t : Nat) (x : Txn) : Prop where
  during : (regs p f t).During p 0
  txn : (regs p f t).txnR = x

/-- What the controller is doing in a cycle. -/
inductive Doing (t : Nat) : Prop
  | waking (zero : t = 0)
  | latched (state : (regs p f t).currentState = .initLatch ∨
      (regs p f t).currentState = .txnLatch)
  | idle (state : (regs p f t).currentState = .idle)
  | sending {a n : Nat} {x : Txn} (begins : Begins p f a x) (now : t = a + n)
    (lt : n < p.total x.isLong)

end Streams

section Run

variable {p : LcdParams} {f : Nat → LcdIn} {t n : Nat} {x : Txn}

lemma regs_succ (t : Nat) : regs p f (t + 1) = (regs p f t).step p (f t) :=
  Machine.atCycle_succ _ f t

lemma hostReady_iff : hostReady p f t = true ↔
    (regs p f t).currentState = .idle ∧ (regs p f t).initDone = true :=
  decide_eq_true_iff

/-- A latched transaction goes on the bus in the next cycle. -/
lemma begins_latched (latched : (regs p f t).currentState = .initLatch ∨
    (regs p f t).currentState = .txnLatch) :
    Begins p f (t + 1) (regs p f t).txnR ∧
      (regs p f (t + 1)).initIndex = (regs p f t).initIndex ∧
      (regs p f (t + 1)).initDone = (regs p f t).initDone := by
  have next := Controller.step_latched (p := p) (i := f t) latched
  rw [← regs_succ] at next
  refine ⟨⟨?_, ?_⟩, ?_, ?_⟩
  · rw [regs_succ]
    exact Controller.during_latched latched
  · rw [next, Controller.enter]
  · rw [next, Controller.enter]
  · rw [next, Controller.enter]

/-- The course of a transaction does not depend on the host. -/
lemma Begins.run (be : Begins p f t x) (lt : n < p.total x.isLong) :
    (regs p f (t + n)).During p n ∧ (regs p f (t + n)).txnR = x ∧
      (regs p f (t + n)).initIndex = (regs p f t).initIndex ∧
      (regs p f (t + n)).initDone = (regs p f t).initDone := by
  induction n with
  | zero => exact ⟨be.during, be.txn, rfl, rfl⟩
  | succ n ih =>
    obtain ⟨during, txn, index, done⟩ := ih (Nat.lt_of_succ_lt lt)
    obtain ⟨during', txn', index', done'⟩ := during.step (i := f (t + n)) (by rw [txn]; exact lt)
    rw [← Nat.add_assoc, regs_succ]
    exact ⟨during', txn'.trans txn, index'.trans index, done'.trans done⟩

/-- After its last clock the next entry of the ROM is latched, or the controller is idle. -/
lemma Begins.ended (be : Begins p f t x) :
    if (regs p f t).initDone then
      (regs p f (t + p.total x.isLong)).currentState = .idle ∧
        (regs p f (t + p.total x.isLong)).initDone = true
    else
      (regs p f (t + p.total x.isLong)).currentState = .initLatch ∧
        (regs p f (t + p.total x.isLong)).txnR =
          p.rom.entries.getD (regs p f t).initIndex.toNat ⟨0, false, false⟩ ∧
        (regs p f (t + p.total x.isLong)).initIndex =
          (if (regs p f t).lastEntry p then (regs p f t).initIndex
            else (regs p f t).initIndex + 1) ∧
        (regs p f (t + p.total x.isLong)).initDone = (regs p f t).lastEntry p := by
  obtain ⟨n, last⟩ : ∃ n, n + 1 = p.total x.isLong :=
    ⟨p.total x.isLong - 1, Nat.sub_add_cancel (Nat.zero_lt_of_lt (p.holdAt_lt_total _))⟩
  obtain ⟨during, txn, index, done⟩ := be.run (n := n) (by omega)
  obtain ⟨state, over_⟩ := during.ended (by rw [txn]; exact last)
  have next := Controller.step_waited (p := p) (i := f (t + n)) state over_
  have lastEntry : (regs p f (t + n)).lastEntry p = (regs p f t).lastEntry p := by
    rw [Controller.lastEntry, index, Controller.lastEntry]
  rw [← last, ← Nat.add_assoc, regs_succ, next, done, index, lastEntry]
  cases initDone : (regs p f t).initDone with
  | false => exact ⟨rfl, rfl, rfl, rfl⟩
  | true => exact ⟨rfl, rfl⟩

/-- What it does in a cycle follows from what it did in the one before. -/
lemma doing (p : LcdParams) (f : Nat → LcdIn) (t : Nat) : Doing p f t := by
  induction t with
  | zero => exact .waking rfl
  | succ t ih =>
    cases ih with
    | waking zero =>
      subst zero
      exact .latched (.inl rfl)
    | latched state =>
      exact .sending (begins_latched state).1 rfl (Nat.zero_lt_of_lt (p.holdAt_lt_total _))
    | idle state =>
      cases valid : (f t).hostValid with
      | false =>
        refine .idle ?_
        rw [regs_succ]
        exact (Controller.step_idle state valid).1
      | true =>
        refine .latched (.inr ?_)
        rw [regs_succ]
        exact (Controller.step_host state valid).1
    | @sending a n x begins now lt =>
      obtain more | last := Nat.lt_or_eq_of_le (Nat.succ_le_of_lt lt)
      · exact .sending begins (by rw [now, Nat.add_assoc]) more
      · have ended := begins.ended
        rw [show t + 1 = a + p.total x.isLong by omega]
        split at ended
        · exact .idle ended.1
        · exact .latched (.inl ended.1)

/-! ## The pulses -/

lemma Begins.lcdE_at (be : Begins p f t x) (lt : n < p.total x.isLong) :
    lcdE p f (t + n) = decide (p.riseAt ≤ n ∧ n < p.fallAt) :=
  (be.run lt).1.lcdE

/-- The bus shows the transaction until it is left. -/
lemma Begins.bus_at (be : Begins p f t x) (lt : n < p.holdAt) : bus p f (t + n) = x.pair := by
  obtain ⟨during, txn, -⟩ := be.run (Nat.lt_trans lt (p.holdAt_lt_total x.isLong))
  rw [bus, during.lcdRs lt]
  exact congrArg Txn.pair txn

lemma strobe_quiet (low : lcdE p f t = false) : strobe p f t = none := by
  rw [strobe, rising_low low, if_neg Bool.false_ne_true]

/-- Only an idle controller is ready. -/
lemma notReady_of_busy {st : LcdState} (state : (regs p f t).currentState = st) (ne : st ≠ .idle) :
    hostReady p f t = false := by
  subst state
  rw [← Bool.not_eq_true, hostReady_iff]
  exact fun ready => ne ready.1

/-- The host waits while a transaction is on its way. -/
lemma Begins.notReady (be : Begins p f t x) (lt : n < p.total x.isLong) :
    hostReady p f (t + n) = false :=
  (be.run lt).1.notReady

/-- Outside the transactions `lcd_e` is low. -/
lemma lcdE_low {st : LcdState} (state : (regs p f t).currentState = st) (ne : st ≠ .eHigh) :
    lcdE p f t = false := by
  subst state
  exact decide_eq_false ne

/-- Nor does it rise there. -/
lemma no_rise {st : LcdState} (state : (regs p f t).currentState = st) (ne : st ≠ .eHigh)
    (edge : rising (lcdE p f) t = true) : False := by
  have low := lcdE_low state ne
  rw [rising_high edge] at low
  cases low

/-- `lcd_e` rises once in a transaction. -/
lemma Begins.rising_at (be : Begins p f t x) (lt : n < p.total x.isLong) :
    rising (lcdE p f) (t + n) = decide (n = p.riseAt) := by
  have pos := p.riseAt_pos
  have rise := p.riseAt_lt_fallAt
  have high := be.lcdE_at lt
  cases n with
  | zero =>
    rw [rising_low (high.trans (decide_eq_false (by omega)))]
    exact (decide_eq_false (Nat.ne_of_lt pos)).symm
  | succ n =>
    have before := be.lcdE_at (Nat.lt_of_succ_lt lt)
    rw [← Nat.add_assoc, rising, Nat.add_assoc, high, before, Bool.eq_iff_iff]
    simp only [Bool.and_eq_true, Bool.not_eq_true', decide_eq_true_eq, decide_eq_false_iff_not]
    omega

/-- A transaction is strobed once. -/
lemma Begins.strobe_at (be : Begins p f t x) (lt : n < p.total x.isLong) :
    strobe p f (t + n) = if n = p.riseAt then some x.pair else none := by
  rw [strobe, be.rising_at lt]
  by_cases at_rise : n = p.riseAt
  · have rise := p.riseAt_lt_fallAt
    have fall := p.fallAt_lt_holdAt
    rw [if_pos at_rise, if_pos (decide_eq_true at_rise), be.bus_at (by omega)]
  · rw [if_neg at_rise, if_neg (by simpa using at_rise)]

/-- So far it has been strobed if its rise is over. -/
lemma Begins.log_at (be : Begins p f t x) (le : n ≤ p.total x.isLong) :
    log (strobe p f) (t + n) =
      log (strobe p f) t ++ if p.riseAt < n then [x.pair] else [] := by
  induction n with
  | zero => simp
  | succ n ih =>
    rw [← Nat.add_assoc, log_succ, ih (Nat.le_of_succ_le le), be.strobe_at le, List.append_assoc]
    congr 1
    by_cases at_rise : n = p.riseAt
    · rw [if_pos at_rise, if_neg (by omega), if_pos (by omega)]
      rfl
    · rw [if_neg at_rise, Option.toList_none, List.append_nil]
      by_cases past : p.riseAt < n
      · rw [if_pos past, if_pos (by omega)]
      · rw [if_neg past, if_neg (by omega)]

lemma Begins.log_total (be : Begins p f t x) :
    log (strobe p f) (t + p.total x.isLong) = log (strobe p f) t ++ [x.pair] := by
  have rise := p.riseAt_lt_fallAt
  have fall := p.fallAt_lt_holdAt
  have hold := p.holdAt_lt_total x.isLong
  rw [be.log_at (Nat.le_refl _), if_pos (by omega)]

/-- A transaction with a rising `lcd_e` is there. -/
lemma Begins.rises {n : Nat} (be : Begins p f t x) (lt : n < p.total x.isLong)
    (edge : rising (lcdE p f) (t + n) = true) : n = p.riseAt := by
  rw [be.rising_at lt] at edge
  exact of_decide_eq_true edge

end Run

end ModularControl.Lcd
