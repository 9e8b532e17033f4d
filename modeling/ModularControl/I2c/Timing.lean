import Mathlib.Algebra.Group.Nat.Defs
import ModularControl.I2c.Bus

/-!
# The phase counter of the I2C master

A timed phase ends when the tick counter equals its target and, in a released-high phase, SCL is
qualified high in that very cycle. If it is not, the counter runs past the target and the phase can
only end after a wrap. The doubled divisor of the half-bit phases is compared in 16 bits, so from
`0x8000` on a released-high half-bit phase ends early or after a wrap.
-/

namespace ModularControl.I2c
open Sync

namespace Core

variable (s : Core)

/-- The phases that the tick counter times. -/
def timed : Bool := s.stateReg.half || s.stateReg.quarter

/-- The duration of a timed phase: the divisor, or twice the divisor. -/
def target : Nat := if s.stateReg.half then 2 * s.divisorReg.toNat else s.divisorReg.toNat

/-- The value the tick counter is compared with. -/
def phaseCnt : BitVec 16 := if s.stateReg.half then s.halfCnt else s.quarterCnt

/-- The doubled divisor of a half-bit phase does not fit the tick counter. -/
def Truncated : Prop := s.stateReg.half = true ∧ 2 ^ 15 ≤ s.divisorReg.toNat

instance : DecidablePred Truncated := fun _ => inferInstanceAs (Decidable (_ ∧ _))

end Core

/-- The core with the number of cycles it has spent in its phase. -/
structure Phased where
  core : Core
  elapsed : Nat
deriving DecidableEq

namespace Phased

variable (p : Params) (s : Phased) (i : CoreIn)

def step : Phased where
  core := s.core.step p i
  elapsed :=
    if (s.core.step p i).stateReg = s.core.stateReg ∧ s.core.abortFire p i = false then s.elapsed + 1
    else 0

/-- In a timed phase the tick counter counts the cycles of the phase, up to its duration. -/
def InTime : Prop :=
  s.core.timed = true →
    s.core.tickCntReg.toNat = s.elapsed ∧ s.core.tickCntReg.toNat ≤ s.core.target

/-- A released-high phase that is not aborted ends exactly when its duration has elapsed and SCL is
    qualified high. -/
def EndsInTime : Prop :=
  s.core.stateReg.waitsHigh = true → s.core.abortFire p i = false →
    ((s.core.step p i).stateReg ≠ s.core.stateReg ↔
      s.core.target ≤ s.elapsed ∧ s.core.sclHighQual = true)

/-- SCL is qualified high whenever a released-high phase that is not aborted reaches its target, and
    a phase with a truncated target neither ends nor wraps its counter before it is aborted. -/
def Punctual : Prop :=
  s.core.stateReg.waitsHigh = true → s.core.abortFire p i = false →
    if s.core.Truncated then s.core.phaseEnd = false ∧ s.core.tickCntReg.toNat ≠ 2 ^ 16 - 1
    else s.core.tickCntReg = s.core.phaseCnt → s.core.sclHighQual = true

instance : Decidable s.InTime := inferInstanceAs (Decidable (_ → _))

instance : Decidable (s.EndsInTime p i) := inferInstanceAs (Decidable (_ → _ → _))

instance : Decidable (s.Punctual p i) := inferInstanceAs (Decidable (_ → _ → _))

end Phased

/-- The core with its phase clock. -/
def phased (p : Params) : Machine Phased CoreIn Unit where
  init := ⟨.reset p, 0⟩
  step s i := s.step p i
  out _ _ := ()

namespace Core

variable {s : Core} {p : Params} {i : CoreIn}

lemma toNat_halfCnt (s : Core) : s.halfCnt.toNat = 2 * s.divisorReg.toNat % 2 ^ 16 := by
  have lt := s.divisorReg.isLt
  simp only [halfCnt, BitVec.toNat_setWidth, BitVec.toNat_shiftLeft, Nat.shiftLeft_eq, Nat.pow_one]
  omega

/-- The compare value is the duration, unless the doubled divisor does not fit. -/
lemma toNat_phaseCnt (fits : ¬ s.Truncated) : s.phaseCnt.toNat = s.target := by
  rw [phaseCnt, target]
  cases h : s.stateReg.half with
  | false => rfl
  | true =>
    have small : ¬ 2 ^ 15 ≤ s.divisorReg.toNat := fun big => fits ⟨h, big⟩
    rw [if_pos rfl, if_pos rfl, toNat_halfCnt]
    omega

/-- The compare value never exceeds the duration. -/
lemma toNat_phaseCnt_le (s : Core) : s.phaseCnt.toNat ≤ s.target := by
  rw [phaseCnt, target]
  cases h : s.stateReg.half with
  | false => exact Nat.le_refl _
  | true =>
    rw [if_pos rfl, if_pos rfl, toNat_halfCnt]
    exact Nat.mod_le _ _

lemma phaseEnd_iff : s.phaseEnd = true ↔ s.tickCntReg = s.phaseCnt ∧ s.highPhaseReady = true := by
  rw [phaseEnd, phaseCnt, Bool.and_eq_true]
  cases s.stateReg.half <;> simp

/-- Without an abort a timed phase is left exactly at its end. -/
lemma leaves_iff (timed : s.timed = true) (noAbort : s.abortFire p i = false) :
    (s.step p i).stateReg ≠ s.stateReg ↔ s.phaseEnd = true := by
  cases hp : s.phaseEnd with
  | false =>
    rw [phase_stays rfl timed noAbort hp]
    simp
  | true =>
    rw [phase_follows rfl timed noAbort hp]
    cases h : s.stateReg <;> simp [Core.timed, h, State.half, State.quarter] at timed <;>
      simp [State.follow]
    split_ifs <;> simp

lemma timed_of_waits (h : s.stateReg.waitsHigh = true) : s.timed = true := by
  cases hs : s.stateReg <;> simp [hs, State.waitsHigh] at h <;>
    simp [timed, hs, State.half, State.quarter]

/-- A new phase begins with its tick counter at 0. -/
lemma tick_new (new : (s.step p i).stateReg ≠ s.stateReg ∨ s.abortFire p i = true) :
    (s.step p i).tickCntReg = 0 := by
  cases ha : s.abortFire p i with
  | true => simp [step, tickCntNext, ha]
  | false =>
    have moved : (s.step p i).stateReg ≠ s.stateReg := by
      obtain moved | abort := new
      · exact moved
      · rw [ha] at abort
        cases abort
    cases ht : s.timed with
    | true => rw [tick_step ht ha, if_pos ((leaves_iff ht ha).mp moved)]
    | false =>
      -- the idle and hold states are left by a command only
      cases hc : s.cmdFire i with
      | true => simp [step, tickCntNext, hc]
      | false =>
        exfalso
        apply moved
        simp only [cmdFire, holdCmdFire, Bool.or_eq_false_iff] at hc
        cases h : s.stateReg <;> simp [timed, h, State.half, State.quarter] at ht <;>
          simp [step, stateNext, ha, h, hc]

end Core

namespace Phased

variable {p : Params} {s : Phased} {i : CoreIn}

/-- What a run keeps of the counter: it counts the cycles of the phase, up to the value it is
    compared with, or without bound if that value is truncated and the phase waits for SCL. -/
def Counting (s : Phased) : Prop :=
  s.core.timed = true →
    s.core.tickCntReg.toNat = s.elapsed ∧
      (¬ (s.core.Truncated ∧ s.core.stateReg.waitsHigh = true) →
        s.core.tickCntReg.toNat ≤ s.core.phaseCnt.toNat)

/-- What a cycle does inside a phase. -/
lemma stay (same : (s.core.step p i).stateReg = s.core.stateReg)
    (noAbort : s.core.abortFire p i = false) (timed : s.core.timed = true) :
    s.core.phaseEnd = false ∧ (s.step p i).core.tickCntReg = s.core.tickCntReg + 1 ∧
      (s.step p i).elapsed = s.elapsed + 1 ∧ (s.step p i).core.target = s.core.target ∧
      (s.step p i).core.phaseCnt = s.core.phaseCnt ∧
      ((s.step p i).core.Truncated ↔ s.core.Truncated) := by
  have noEnd : s.core.phaseEnd = false := by
    rw [← Bool.not_eq_true]
    exact fun ended => (Core.leaves_iff timed noAbort).mpr ended same
  have tick := Core.tick_step timed noAbort
  have div := Core.divisor_kept (p := p) (i := i) timed
  rw [noEnd, if_neg Bool.false_ne_true] at tick
  refine ⟨noEnd, tick, by rw [step, if_pos ⟨same, noAbort⟩], ?_, ?_, ?_⟩
  · simp only [step, Core.target, same, div]
  · simp only [step, Core.phaseCnt, Core.halfCnt, Core.quarterCnt, same, div]
  · simp only [step, Core.Truncated, same, div]

/-- What a cycle does that begins a phase. -/
lemma new (moved : ¬ ((s.core.step p i).stateReg = s.core.stateReg ∧
    s.core.abortFire p i = false)) :
    (s.step p i).core.tickCntReg = 0 ∧ (s.step p i).elapsed = 0 := by
  refine ⟨Core.tick_new ?_, by rw [step, if_neg moved]⟩
  rw [not_and_or, Bool.not_eq_false] at moved
  exact moved

/-- The truncated duration is out of the tick counter's range. -/
lemma target_big (trunc : s.core.Truncated) : s.core.tickCntReg.toNat < s.core.target := by
  have lt := s.core.tickCntReg.isLt
  obtain ⟨half, big⟩ := trunc
  rw [Core.target, half, if_pos rfl]
  omega

/-- A phase that goes on is one that was timed before. -/
lemma timed_before (same : (s.core.step p i).stateReg = s.core.stateReg)
    (timed' : (s.step p i).core.timed = true) : s.core.timed = true := by
  have now : (s.core.step p i).timed = true := timed'
  rw [Core.timed, same] at now
  exact now

lemma Counting.step (ct : s.Counting) (pt : s.Punctual p i) : (s.step p i).Counting := by
  intro timed'
  by_cases moved : (s.core.step p i).stateReg = s.core.stateReg ∧ s.core.abortFire p i = false
  · obtain ⟨same, noAbort⟩ := moved
    have timed := timed_before same timed'
    obtain ⟨count, bound⟩ := ct timed
    obtain ⟨noEnd, tick, elapsed, -, cnt, trunc⟩ := stay same noAbort timed
    rw [tick, elapsed, cnt, trunc, show (s.step p i).core.stateReg = s.core.stateReg from same]
    by_cases free : s.core.Truncated ∧ s.core.stateReg.waitsHigh = true
    · have room := pt free.2 noAbort
      rw [if_pos free.1] at room
      have top := s.core.tickCntReg.isLt
      rw [Sync.toNat_succ (by omega), count]
      exact ⟨rfl, fun h => absurd free h⟩
    · -- the compare value is not reached: at it, the phase would have ended
      have le := bound free
      have ne : s.core.tickCntReg ≠ s.core.phaseCnt := by
        intro reached
        rw [Bool.eq_false_iff, ne_eq, Core.phaseEnd_iff, not_and] at noEnd
        apply noEnd reached
        cases hw : s.core.stateReg.waitsHigh with
        | false => exact Core.highPhaseReady_of_not_waits hw
        | true =>
          have ready := pt hw noAbort
          rw [if_neg fun h => free ⟨h, hw⟩] at ready
          rw [Core.highPhaseReady_of_waits hw]
          exact ready reached
      have lt : s.core.tickCntReg.toNat < s.core.phaseCnt.toNat :=
        Nat.lt_of_le_of_ne le fun e => ne (BitVec.eq_of_toNat_eq e)
      have top := s.core.phaseCnt.isLt
      rw [Sync.toNat_succ (by omega), count]
      exact ⟨rfl, fun _ => by omega⟩
  · obtain ⟨tick, elapsed⟩ := new moved
    rw [tick, elapsed]
    exact ⟨rfl, fun _ => Nat.zero_le _⟩

lemma Counting.inTime (ct : s.Counting) : s.InTime := by
  intro timed
  obtain ⟨count, bound⟩ := ct timed
  refine ⟨count, ?_⟩
  by_cases trunc : s.core.Truncated
  · exact Nat.le_of_lt (target_big trunc)
  · exact Nat.le_trans (bound fun h => trunc h.1) s.core.toNat_phaseCnt_le

lemma Counting.endsInTime (ct : s.Counting) (pt : s.Punctual p i) : s.EndsInTime p i := by
  intro waits noAbort
  have timed := Core.timed_of_waits waits
  obtain ⟨count, bound⟩ := ct timed
  have ready := pt waits noAbort
  rw [Core.leaves_iff timed noAbort]
  by_cases trunc : s.core.Truncated
  · rw [if_pos trunc] at ready
    have big := target_big trunc
    rw [ready.1]
    constructor
    · intro h
      cases h
    · intro h
      omega
  · have le := bound fun h => trunc h.1
    rw [Core.toNat_phaseCnt trunc] at le
    rw [Core.phaseEnd_iff, Core.highPhaseReady_of_waits waits, ← count]
    refine and_congr_left fun _ => ⟨fun e => ?_, fun ge => ?_⟩
    · exact Nat.le_of_eq (by rw [e, Core.toNat_phaseCnt trunc])
    · apply BitVec.eq_of_toNat_eq
      rw [Core.toNat_phaseCnt trunc]
      omega

/-- A counter that keeps time in the next cycle and a phase that ends in time are punctual. -/
lemma Counting.punctual (ct : s.Counting) (inTime : (s.step p i).InTime)
    (ends : s.EndsInTime p i) : s.Punctual p i := by
  intro waits noAbort
  have timed := Core.timed_of_waits waits
  obtain ⟨count, bound⟩ := ct timed
  have ends := ends waits noAbort
  rw [Core.leaves_iff timed noAbort] at ends
  -- while the phase goes on, the next cycle is one more of it
  have goesOn : s.core.phaseEnd = false →
      (s.core.tickCntReg + 1).toNat = s.elapsed + 1 ∧
        (s.core.tickCntReg + 1).toNat ≤ s.core.target := by
    intro noEnd
    have same : (s.core.step p i).stateReg = s.core.stateReg := by
      by_contra moved
      rw [(Core.leaves_iff timed noAbort).mp moved] at noEnd
      cases noEnd
    obtain ⟨-, tick, elapsed, target, -, -⟩ := stay same noAbort timed
    have timed' : (s.step p i).core.timed = true := by
      rw [Core.timed, show (s.step p i).core.stateReg = _ from same]
      exact timed
    have next := inTime timed'
    rw [tick, elapsed, target] at next
    exact next
  by_cases trunc : s.core.Truncated
  · rw [if_pos trunc]
    have big := target_big trunc
    have noEnd : s.core.phaseEnd = false := by
      rw [← Bool.not_eq_true]
      intro ended
      have := (ends.mp ended).1
      omega
    refine ⟨noEnd, fun top => ?_⟩
    have next := (goesOn noEnd).1
    have lt := (s.core.tickCntReg + 1).isLt
    omega
  · rw [if_neg trunc]
    intro reached
    by_contra unqualified
    have noEnd : s.core.phaseEnd = false := by
      rw [← Bool.not_eq_true, Core.phaseEnd_iff, Core.highPhaseReady_of_waits waits]
      exact fun h => unqualified h.2
    have next := goesOn noEnd
    have full := congrArg BitVec.toNat reached
    rw [Core.toNat_phaseCnt trunc] at full
    omega

end Phased

/-- For both parameters and every run, whatever the bus does: the counter keeps time and every
    released-high phase ends in time exactly if every cycle is punctual. -/
theorem phase_counter_iff (p : Params) (is : List CoreIn) :
    (phased p).Along (fun s i => (s.step p i).InTime ∧ s.EndsInTime p i) is ↔
      (phased p).Along (fun s i => s.Punctual p i) is := by
  refine (phased p).along_congr (P := Phased.Counting) (C := fun _ _ => True) ?_ ?_ ?_
    ((phased p).along_true is)
  · intro timed
    cases timed
  · intro s i ct _ inTime
    exact ct.step (ct.punctual inTime.1 inTime.2)
  · intro s i ct _
    exact ⟨fun h => ct.punctual h.1 h.2, fun pt => ⟨(ct.step pt).inTime, ct.endsInTime pt⟩⟩

/-- The core with its phase clock, and the number of cycles for which it has released SCL. -/
structure Releasing where
  phased : Phased
  released : Nat
deriving DecidableEq

namespace Releasing

variable (p : Params) (d : Nat) (s : Releasing) (i : CoreIn)

def step : Releasing where
  phased := s.phased.step p i
  released := if s.phased.core.sclOutReg then s.released + 1 else 0

/-- SCL follows the master's release within `d` cycles, and stays high with it. -/
def Follows : Prop := s.phased.core.sclOutReg = true → d ≤ s.released → i.sclIn = true

/-- A START latches a divisor that leaves time for the delay and for the filter behind it, and whose
    double fits the tick counter. -/
def LatchesAmple : Prop :=
  s.phased.core.idleStartFire i = true →
    d + 6 ≤ (Core.divisorClamped p i).toNat ∧ (Core.divisorClamped p i).toNat < 2 ^ 15

/-- What a run on such a bus keeps: the counter counts, the divisor is ample, the time that SCL
    takes to be qualified runs from its release on, and it is released from the second cycle of a
    phase on that waits for it. -/
structure InStep (d : Nat) (s : Releasing) : Prop where
  counting : s.phased.Counting
  ample : s.phased.core.stateReg ≠ .idle →
    d + 6 ≤ s.phased.core.divisorReg.toNat ∧ s.phased.core.divisorReg.toNat < 2 ^ 15
  lag : s.phased.core.sclLag ≤ d + 5 - s.released
  since : s.phased.core.stateReg.waitsHigh = true → s.phased.elapsed ≤ s.released + 1
  driven : s.phased.core.stateReg.waitsHigh = true → 0 < s.phased.elapsed →
    s.phased.core.sclOutReg = true

variable {p d s i}

/-- A released-high phase has reached its target when SCL has been qualified. -/
lemma InStep.punctual (st : s.InStep d) : s.phased.Punctual p i := by
  intro waits _
  have busy : s.phased.core.stateReg ≠ .idle := by
    intro idle
    rw [idle] at waits
    cases waits
  obtain ⟨room, fits⟩ := st.ample busy
  have whole : ¬ s.phased.core.Truncated := fun trunc => absurd trunc.2 (Nat.not_le.mpr fits)
  rw [if_neg whole]
  intro reached
  have count := (st.counting (Core.timed_of_waits waits)).1
  have target := Core.toNat_phaseCnt whole
  have long : s.phased.core.divisorReg.toNat ≤ s.phased.core.target := by
    rw [Core.target]
    split_ifs <;> omega
  have since := st.since waits
  have lag := st.lag
  rw [reached, target] at count
  exact Core.sclHighQual_of_lag (by omega)

/-- The divisor of a core that is not idle was latched by a START. -/
lemma ample_step (ample : s.phased.core.stateReg ≠ .idle →
      d + 6 ≤ s.phased.core.divisorReg.toNat ∧ s.phased.core.divisorReg.toNat < 2 ^ 15)
    (latches : s.LatchesAmple p d i) (busy : (s.phased.core.step p i).stateReg ≠ .idle) :
    d + 6 ≤ (s.phased.core.step p i).divisorReg.toNat ∧
      (s.phased.core.step p i).divisorReg.toNat < 2 ^ 15 := by
  have div : (s.phased.core.step p i).divisorReg =
      if s.phased.core.idleStartFire i then Core.divisorClamped p i
      else s.phased.core.divisorReg := rfl
  rw [div]
  cases start : s.phased.core.idleStartFire i with
  | true => exact latches start
  | false =>
    apply ample
    intro idle
    apply busy
    simp [Core.step, Core.stateNext, Core.abortFire, idle, start]

/-- A phase that waits for SCL goes on in the next cycle, with SCL released, or is a new one. -/
lemma goes_on (waits' : (s.step p i).phased.core.stateReg.waitsHigh = true)
    (older : 0 < (s.step p i).phased.elapsed) :
    s.phased.core.stateReg.waitsHigh = true ∧
      (s.step p i).phased.elapsed = s.phased.elapsed + 1 ∧
      (s.step p i).phased.core.sclOutReg = true := by
  by_cases stays : (s.phased.core.step p i).stateReg = s.phased.core.stateReg ∧
      s.phased.core.abortFire p i = false
  · have waits : s.phased.core.stateReg.waitsHigh = true := stays.1 ▸ waits'
    exact ⟨waits, if_pos stays, Bus.sclOutNext_of_waits waits⟩
  · have new : (s.step p i).phased.elapsed = 0 := if_neg stays
    rw [new] at older
    cases older

lemma InStep.step (st : s.InStep d) (follows : s.Follows d i) (latches : s.LatchesAmple p d i) :
    (s.step p i).InStep d := by
  have released : (s.step p i).released =
      if s.phased.core.sclOutReg then s.released + 1 else 0 := rfl
  refine ⟨st.counting.step st.punctual, ample_step st.ample latches, ?_, ?_, ?_⟩
  · have le := (s.phased.core.step p i).sclLag_le
    show (s.phased.core.step p i).sclLag ≤ d + 5 - (s.step p i).released
    rw [released]
    cases out : s.phased.core.sclOutReg with
    | false => exact Nat.le_trans le (by simp)
    | true =>
      rw [if_pos rfl]
      by_cases up : d ≤ s.released
      · have lag := st.lag
        rw [Core.sclLag_step (follows out up)]
        omega
      · omega
  · intro waits'
    obtain zero | older := Nat.eq_zero_or_pos (s.step p i).phased.elapsed
    · rw [zero]
      exact Nat.zero_le _
    · obtain ⟨waits, elapsed, -⟩ := goes_on waits' older
      have since := st.since waits
      rw [elapsed, released]
      obtain first | later := Nat.eq_zero_or_pos s.phased.elapsed
      · omega
      · rw [st.driven waits later, if_pos rfl]
        omega
  · intro waits' older
    exact (goes_on waits' older).2.2

end Releasing

/-- The core with its phase clock and its release of SCL. -/
def releasing (p : Params) : Machine Releasing CoreIn Unit where
  init := ⟨⟨.reset p, 0⟩, 0⟩
  step s i := s.step p i
  out _ _ := ()

/-- On every bus on which SCL follows the master's release within `d` cycles, every run is punctual
    in which no START latches a divisor below `d + 6` or from `0x8000` on. -/
theorem punctual_of_follows (p : Params) (d : Nat) {is : List CoreIn}
    (follows : (releasing p).Along (fun s i => s.Follows d i ∧ s.LatchesAmple p d i) is) :
    (phased p).Along (fun s i => s.Punctual p i) is := by
  refine ((releasing p).alongFrom_project (phased p) Releasing.phased (fun _ _ => rfl) _
    (releasing p).init is).mpr ?_
  refine ((releasing p).along_congr (P := Releasing.InStep d) (E := fun _ _ => True) ?_ ?_ ?_
    follows).mpr ((releasing p).along_true is)
  · refine ⟨fun timed => ?_, fun busy => absurd rfl busy, Nat.zero_le _, fun waits => ?_,
      fun waits => ?_⟩
    · cases timed
    · cases waits
    · cases waits
  · intro s i st allowed _
    exact st.step allowed.1 allowed.2
  · intro s i st _
    exact iff_true_intro st.punctual

/-- A START and a WR with the smallest divisor, up to the second quarter of the first bit. -/
def startWrite : List CoreIn :=
  idealBus {} (.reset {}) (command START_CMD 0 :: List.replicate 5 pause ++ command WR_CMD 0xA5 ::
    List.replicate 4 pause)

/-- On a bus that follows the master at once, with a divisor of 1, the counter passes its target of
    1 while the filter still qualifies SCL. -/
theorem phase_counter_overshoots :
    ((phased {}).after startWrite).core.stateReg = .data2 ∧
      ((phased {}).after startWrite).core.target = 1 ∧
      ((phased {}).after startWrite).core.tickCntReg = 2 ∧
      ¬ (phased {}).Along (fun s i => (s.step {} i).InTime ∧ s.EndsInTime {} i) startWrite := by
  decide +kernel

end ModularControl.I2c
