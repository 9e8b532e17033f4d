import ModularControl.I2c.Timing
import ModularControl.Sync.Stream

/-!
# The clock-stretch watchdog

While a phase that has released SCL waits for it, the core counts the cycles, and it aborts when the
limit is reached. A wait ends when SCL is qualified high or with an abort, and either way the next
one is counted from zero.
-/

namespace ModularControl.I2c
open Sync

section Streams

variable (p : Params) (f : Nat → CoreIn)

/-- The core waits for SCL in a cycle. -/
def waitsForScl (t : Nat) : Bool := ((core p).atCycle f t).waitingForHighPhase

/-- The watchdog strikes in a cycle. -/
def timesOut (t : Nat) : Bool := ((core p).atCycle f t).sclHighTimeoutEvent p

/-- The cycle before was aborted. -/
def justAborted : Nat → Bool
  | 0 => false
  | t + 1 => ((core p).atCycle f t).abortFire p (f t)

/-- The watchdog, but for what its counter shows: it is within its limit, begins every wait at zero,
    and strikes when the core has waited for as long as the limit says, once in a wait, and with an
    abort. A wait begins when the cycle before was none or belonged to another phase. -/
structure Watches : Prop where
  bounded : ∀ t, ((core p).atCycle f t).highWaitCntReg ≤ p.highWaitTimeoutClks
  fresh : ∀ t, waitsForScl p f t = true →
    (∀ u, t = u + 1 → waitsForScl p f u = true →
      ((core p).atCycle f u).stateReg ≠ ((core p).atCycle f t).stateReg) →
    ((core p).atCycle f t).highWaitCntReg = 0
  strikes : ∀ t, timesOut p f t = true ↔
    waitsForScl p f t = true ∧ streak (waitsForScl p f) t = p.highWaitTimeoutClks.toNat
  once : ∀ t u, t < u → timesOut p f t = true → timesOut p f u = true →
    ∃ v, t < v ∧ v < u ∧ waitsForScl p f v = false
  aborts : ∀ t, timesOut p f t = true → ((core p).atCycle f (t + 1)).stateReg = .abort1

/-- And its counter shows the cycles of the wait. -/
structure CountsWaits : Prop extends Watches p f where
  counts : ∀ t, ((core p).atCycle f t).highWaitCntReg.toNat = streak (waitsForScl p f) t

/-- And its counter shows the cycles of the wait, unless an abort has just ended it. -/
structure CountsUnaborted : Prop extends Watches p f where
  counts : ∀ t, ((core p).atCycle f t).highWaitCntReg.toNat =
    if justAborted p f t then 0 else streak (waitsForScl p f) t

end Streams

namespace Core

variable {p : Params} {s : Core} {i : CoreIn}

lemma waits_of_waiting (waiting : s.waitingForHighPhase = true) : s.stateReg.waitsHigh = true := by
  rw [waitingForHighPhase, Bool.and_eq_true] at waiting
  exact waiting.1

/-- An abort leaves every phase that could wait. -/
lemma state_of_abort (fire : s.abortFire p i = true) : (s.step p i).stateReg = .abort1 := by
  simp [step, stateNext, fire]

lemma not_waiting_of_abort (fire : s.abortFire p i = true) :
    (s.step p i).waitingForHighPhase = false := by
  rw [waitingForHighPhase, state_of_abort fire]
  rfl

/-- The watchdog strikes with an abort. -/
lemma abort_of_timeout (event : s.sclHighTimeoutEvent p = true) : s.abortFire p i = true := by
  have waiting : s.waitingForHighPhase = true := by
    rw [sclHighTimeoutEvent, Bool.and_eq_true] at event
    exact event.1
  have busy : s.stateReg ≠ .idle := by
    intro idle
    have waits := waits_of_waiting waiting
    rw [idle] at waits
    cases waits
  simp [abortFire, event, busy]

/-- A wait that is not aborted is counted on, and stays in its phase. -/
lemma wait_step (waiting : s.waitingForHighPhase = true) (noAbort : s.abortFire p i = false)
    (le : s.highWaitCntReg ≤ p.highWaitTimeoutClks) :
    (s.step p i).highWaitCntReg.toNat = s.highWaitCntReg.toNat + 1 ∧
      (s.step p i).highWaitCntReg ≤ p.highWaitTimeoutClks ∧
      (s.step p i).stateReg = s.stateReg := by
  have ne : s.highWaitCntReg ≠ p.highWaitTimeoutClks := by
    intro reached
    have event : s.sclHighTimeoutEvent p = true := by
      rw [sclHighTimeoutEvent, waiting, reached, beq_self_eq_true, Bool.true_and]
    rw [abort_of_timeout event] at noAbort
    cases noAbort
  have lt : s.highWaitCntReg.toNat < p.highWaitTimeoutClks.toNat :=
    Nat.lt_of_le_of_ne le fun same => ne (BitVec.eq_of_toNat_eq same)
  have counted := highWait_counted waiting noAbort lt
  refine ⟨counted, ?_, ?_⟩
  · rw [BitVec.le_def, counted]
    exact lt
  · have waits := waits_of_waiting waiting
    have unready : s.highPhaseReady = false := by
      rw [waitingForHighPhase, Bool.and_eq_true, Bool.not_eq_true'] at waiting
      exact waiting.2
    have timed := timed_of_waits waits
    refine phase_stays rfl timed noAbort ?_
    rw [phaseEnd, unready, Bool.and_false]

end Core

section Run

variable {p : Params} {f : Nat → CoreIn} {t u : Nat}

lemma core_succ (p : Params) (f : Nat → CoreIn) (t : Nat) :
    (core p).atCycle f (t + 1) = ((core p).atCycle f t).step p (f t) :=
  (core p).atCycle_succ f t

/-- After an abort nothing waits. -/
lemma justAborted_waits (aborted : justAborted p f t = true) : waitsForScl p f t = false := by
  cases t with
  | zero => cases aborted
  | succ t =>
    rw [waitsForScl, core_succ]
    exact Core.not_waiting_of_abort aborted

/-- A wait is not under way in the cycle after an abort. -/
lemma unaborted (waiting : waitsForScl p f t = true) : justAborted p f t = false := by
  rw [← Bool.not_eq_true]
  intro aborted
  rw [justAborted_waits aborted] at waiting
  cases waiting

/-- The counter is within its limit and shows the cycles of the wait, unless an abort has just ended
    it. -/
lemma highWait_counts (p : Params) (f : Nat → CoreIn) (t : Nat) :
    ((core p).atCycle f t).highWaitCntReg ≤ p.highWaitTimeoutClks ∧
      ((core p).atCycle f t).highWaitCntReg.toNat =
        if justAborted p f t then 0 else streak (waitsForScl p f) t := by
  induction t with
  | zero => exact ⟨Nat.zero_le _, rfl⟩
  | succ t ih =>
    obtain ⟨le, counts⟩ := ih
    have over_ (h : waitsForScl p f t = false ∨ ((core p).atCycle f t).abortFire p (f t) = true) :
        ((core p).atCycle f (t + 1)).highWaitCntReg = 0 := by
      rw [core_succ]
      exact Core.highWait_cleared h
    have now : justAborted p f (t + 1) = ((core p).atCycle f t).abortFire p (f t) := rfl
    rw [now]
    cases fire : ((core p).atCycle f t).abortFire p (f t) with
    | true =>
      rw [over_ (.inr fire), if_pos rfl]
      exact ⟨Nat.zero_le _, rfl⟩
    | false =>
      rw [if_neg Bool.false_ne_true]
      cases waiting : waitsForScl p f t with
      | false =>
        rw [over_ (.inl waiting), streak_low waiting]
        exact ⟨Nat.zero_le _, rfl⟩
      | true =>
        rw [unaborted waiting, if_neg Bool.false_ne_true] at counts
        obtain ⟨next, bound, -⟩ := Core.wait_step waiting fire le
        rw [core_succ, next, counts, streak_high waiting]
        exact ⟨bound, rfl⟩

/-- While the core waits the counter shows the cycles of the wait. -/
lemma highWait_waiting (waiting : waitsForScl p f t = true) :
    ((core p).atCycle f t).highWaitCntReg.toNat = streak (waitsForScl p f) t := by
  obtain ⟨-, counts⟩ := highWait_counts p f t
  rw [unaborted waiting, if_neg Bool.false_ne_true] at counts
  exact counts

/-- A wait goes on in its phase. -/
lemma wait_stays (before : waitsForScl p f t = true) (waiting : waitsForScl p f (t + 1) = true) :
    ((core p).atCycle f (t + 1)).stateReg = ((core p).atCycle f t).stateReg := by
  have noAbort : ((core p).atCycle f t).abortFire p (f t) = false := unaborted waiting
  rw [core_succ]
  exact (Core.wait_step before noAbort (highWait_counts p f t).1).2.2

lemma timesOut_iff : timesOut p f t = true ↔
    waitsForScl p f t = true ∧ streak (waitsForScl p f) t = p.highWaitTimeoutClks.toNat := by
  rw [timesOut, Core.sclHighTimeoutEvent, Bool.and_eq_true, beq_iff_eq, ← BitVec.toNat_inj]
  refine and_congr_right fun waiting => ?_
  rw [highWait_waiting waiting]

lemma timesOut_aborts (event : timesOut p f t = true) :
    ((core p).atCycle f (t + 1)).stateReg = .abort1 := by
  rw [core_succ]
  exact Core.state_of_abort (Core.abort_of_timeout event)

lemma watches (p : Params) (f : Nat → CoreIn) : Watches p f where
  bounded t := (highWait_counts p f t).1
  fresh t waiting first := by
    have counts := highWait_waiting waiting
    cases t with
    | zero => rfl
    | succ t =>
      have none_ : waitsForScl p f t = false := by
        rw [← Bool.not_eq_true]
        exact fun before => first t rfl before (wait_stays before waiting).symm
      rw [streak_low none_] at counts
      exact BitVec.eq_of_toNat_eq counts
  strikes _ := timesOut_iff
  once t u lt event event' := by
    have over_ : waitsForScl p f (t + 1) = false :=
      justAborted_waits (t := t + 1) (Core.abort_of_timeout event)
    refine ⟨t + 1, Nat.lt_succ_self t, Nat.lt_of_le_of_ne lt ?_, over_⟩
    rintro rfl
    rw [(timesOut_iff.mp event').1] at over_
    cases over_
  aborts _ := timesOut_aborts

end Run

/-- For both parameters and every stream of inputs, whatever the bus does: the watchdog counts every
    wait from zero up to its limit, and strikes there, once, and with an abort; the counter shows the
    cycles that the core has waited in a row, unless an abort has just cleared it. -/
theorem watchdog_counts (p : Params) (f : Nat → CoreIn) : CountsUnaborted p f where
  toWatches := watches p f
  counts t := (highWait_counts p f t).2

/-- SCL is held low from reset on, and software aborts a START after three cycles of waiting: the
    counter is cleared with the abort. -/
theorem watchdog_cleared :
    ¬ CountsWaits {} fun t =>
      { command START_CMD 0 with
        divisor := 9
        sclIn := false
        cmdValidI := t = 0
        abortI := t = 5 } := by
  intro all
  have shown := all.counts 6
  revert shown
  decide +kernel

end ModularControl.I2c
