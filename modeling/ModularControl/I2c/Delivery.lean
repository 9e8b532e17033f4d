import Mathlib.Algebra.Group.Nat.Defs
import ModularControl.I2c.Transport

/-!
# Delivery of bytes by the I2C master

What `Agrees` says to the observer: no fault, the levels asked for in every phase, the slave's levels
in the report at the end. The end comes, since every cycle of a byte lowers its `rank`.
-/

namespace ModularControl.I2c
open Sync

namespace Bus

variable {p : Params} {s : Bus} {i : BusIn} {t : Transfer}

/-- Whatever quarter it is, the levels driven so far are those the command asks for. -/
lemma Carrying.faithful (ca : s.Carrying t) : t.Faithful := by
  obtain ⟨og, d⟩ := ca
  have part {n : Nat} (sent : t.masters = t.cmd.drive.take n) : t.Faithful :=
    ⟨og.steady, sent ▸ List.take_prefix n _⟩
  cases h : s.core.stateReg with
  | data1 =>
    simp only [h] at d
    exact part d.sent.1
  | data2 =>
    simp only [h] at d
    obtain ⟨-, sent⟩ | ⟨-, -, cu⟩ := d.line
    · exact part sent.1
    · exact part cu.1
  | data3 =>
    simp only [h] at d
    exact part d.current.1
  | data4 =>
    simp only [h] at d
    exact part d.sent.1
  | dataEnd =>
    simp only [h] at d
    exact part d.sent.1
  | _ => simp [h] at d

/-- Each bit shifted in is the level of its phase, in which the master drove what it had to. -/
lemma sent_bit (sent : s.core.Sent t 9) {k : Nat} (le : k ≤ 8) :
    ∃ q, t.phases[k]? = some q ∧ t.cmd.drive[k]? = some q.master ∧
      s.core.rxReg.getLsbD (8 - k) = q.level := by
  obtain ⟨masters, rx⟩ := sent
  rw [List.take_of_length_le (Nat.le_of_eq t.cmd.drive_length)] at masters
  have nine : t.phases.length = 9 := by
    rw [← t.cmd.drive_length, ← masters, Transfer.masters, List.length_map]
  have at_k : t.phases[k]? = some t.phases[k] := List.getElem?_eq_getElem _
  refine ⟨t.phases[k], at_k, ?_, ?_⟩
  · rw [← masters, Transfer.masters, List.getElem?_map, at_k]
    rfl
  · rw [rx, ← collect_getLsbD (Nat.le_of_eq nine) at_k, nine]

/-- When the ninth bit is over, what the core reports is what the slave drove. -/
lemma InDataEnd.delivered (d : s.InDataEnd t) : t.Delivered (s.cycle p i) := by
  refine ⟨d.sent.1.trans (List.take_of_length_le (Nat.le_of_eq t.cmd.drive_length)), ?_⟩
  cases hc : t.cmd with
  | wr data =>
    obtain ⟨q, at_8, drive, bit⟩ := sent_bit d.sent (Nat.le_refl 8)
    have released : q.master = true := by
      rw [hc] at drive
      simpa [ByteCmd.drive] using drive.symm
    rw [Phase.level, released, Bool.true_and, Nat.sub_self] at bit
    simp only [Transfer.slaves, List.getElem?_map, at_8, Option.map_some, cycle, Core.ack, bit]
  | rd last =>
    apply List.ext_getElem?
    intro k
    by_cases lt : k < 8
    · obtain ⟨q, at_k, drive, bit⟩ := sent_bit d.sent (Nat.le_of_lt lt)
      have released : q.master = true := by
        rw [hc, ByteCmd.drive_data _ lt] at drive
        simpa using drive.symm
      rw [Phase.level, released, Bool.true_and] at bit
      rw [List.getElem?_map, List.getElem?_range lt, List.getElem?_take_of_lt lt, Transfer.slaves,
        List.getElem?_map, at_k, Option.map_some, Option.map_some, ← bit]
      have top : 1 + (7 - k) = 8 - k := by omega
      simp only [cycle, Core.rxData, BitVec.getLsbD_extractLsb', top]
      rw [decide_eq_true (by omega), Bool.true_and]
    · rw [List.getElem?_eq_none (by simpa using lt), List.getElem?_eq_none (by simp; omega)]

lemma Agrees.cycle {b : Option Transfer} (ag : s.Agrees b) (pt : s.Patient p)
    (c : s.Compliant p i) : CycleFaithful b (s.cycle p i) := by
  have noAbort := ag.noAbort pt c
  refine ⟨?_, ?_, ?_, ?_⟩
  · obtain ⟨abort, unstable, late⟩ := pt.clear
    rw [Bus.cycle, noAbort, abort, unstable, late]
    rfl
  · intro accepted
    cases b with
    | none => rfl
    | some t =>
      obtain ⟨cmd, fire⟩ := Option.ne_none_iff_exists'.mp accepted
      obtain ⟨h, -⟩ := accepted_step (p := p) fire noAbort
      obtain ⟨-, d⟩ := ag
      simp [h] at d
  · rintro closed rfl
    simp only [Bus.cycle, Core.doneTick, decide_eq_true_eq] at closed
    simp [Agrees, Free, closed.1] at ag
  · rintro t ⟨⟩
    cases closed : (s.cycle p i).done with
    | false =>
      have next := Carrying.step ag pt c noAbort
      rw [track, closed, if_neg Bool.false_ne_true] at next
      exact ⟨next.faithful, fun closed => by cases closed⟩
    | true =>
      have h : s.core.stateReg = .dataEnd := by
        simp only [Bus.cycle, Core.doneTick, decide_eq_true_eq] at closed
        exact closed.1
      have faithful := ag.faithful
      obtain ⟨-, d⟩ := ag
      simp only [h] at d
      have now : s.busScl i = false := by rw [busScl, d.out, Bool.false_and]
      rw [Transfer.see_low now]
      exact ⟨faithful, fun _ => d.delivered⟩

end Bus

/-- `Agrees` and `Patient` along a run. -/
lemma transports_from {p : Params} (slaveSda : Bool) (min : 1 ≤ p.minDivisor) {s : Bus}
    {b : Option Transfer} {is : List BusIn} (ag : s.Agrees b) (pt : s.Patient p)
    (al : (bus p slaveSda).AlongFrom (fun s i => s.Compliant p i) s is) :
    Transports b ((bus p slaveSda).traceFrom s is) := by
  induction is generalizing s b with
  | nil => trivial
  | cons i is ih =>
    obtain ⟨c, al⟩ := al
    exact ⟨ag.cycle pt c, ih (ag.step pt c) (pt.step min c (ag.noAbort pt c)) al⟩

namespace Core

variable (p : Params) (s : Core)

/-- How many cycles the phase may still take: the rest of the wait for SCL and a full turn of the
    tick counter, or what the tick counter has left. -/
def remaining : Nat :=
  if s.waitingForHighPhase then p.highWaitTimeoutClks.toNat - s.highWaitCntReg.toNat + 2 ^ 16
  else (s.divisorReg - s.tickCntReg).toNat

/-- How many quarters of the byte are over. -/
def quartersOver : Nat :=
  match s.stateReg with
  | .data1 => 4 * s.bitIdxReg.toNat
  | .data2 => 4 * s.bitIdxReg.toNat + 1
  | .data3 => 4 * s.bitIdxReg.toNat + 2
  | .data4 => 4 * s.bitIdxReg.toNat + 3
  | _ => 36

/-- How many cycles the byte may still take. -/
def rank : Nat := (36 - s.quartersOver) * 2 ^ 17 + s.remaining p

variable {p s} {i : CoreIn}

lemma remaining_lt : s.remaining p < 2 ^ 17 := by
  have := p.highWaitTimeoutClks.isLt
  have := (s.divisorReg - s.tickCntReg).isLt
  rw [remaining]
  split_ifs <;> omega

lemma rank_lt : s.rank p < 37 * 2 ^ 17 := by
  have := remaining_lt (p := p) (s := s)
  rw [rank]
  omega

/-- One tick closer to the divisor. -/
lemma ticks_left {d t : BitVec 16} (ne : t ≠ d) : (d - (t + 1)).toNat < (d - t).toNat := by
  have : d.toNat ≠ t.toNat := fun e => ne (BitVec.eq_of_toNat_eq e.symm)
  have := d.isLt
  have := t.isLt
  rw [BitVec.toNat_sub, BitVec.toNat_sub, BitVec.toNat_add]
  simp
  omega

lemma rank_next {s' : Core} (le : s.quartersOver < 36)
    (count : s'.quartersOver = s.quartersOver + 1) : s'.rank p < s.rank p := by
  have := remaining_lt (p := p) (s := s')
  rw [rank, rank, count]
  omega

lemma rank_same {s' : Core} (count : s'.quartersOver = s.quartersOver)
    (less : s'.remaining p < s.remaining p) : s'.rank p < s.rank p := by
  rw [rank, rank, count]
  omega

/-- A quarter in which SCL is not waited for has a tick less to go. -/
lemma remaining_tick (quarter : s.stateReg.quarter = true) (noEnd : s.phaseEnd = false)
    (noAbort : s.abortFire p i = false) (ready : s.highPhaseReady = true)
    (ready' : (s.step p i).highPhaseReady = true) :
    (s.step p i).remaining p < s.remaining p := by
  have timed : (s.stateReg.half || s.stateReg.quarter) = true := by rw [quarter, Bool.or_true]
  have tick := tick_step timed noAbort
  rw [noEnd, if_neg Bool.false_ne_true] at tick
  have divisor := divisor_kept (p := p) (i := i) timed
  have whole : s.stateReg.half = false := by
    cases h : s.stateReg <;> simp [h, State.quarter] at quarter <;> rfl
  have ne : s.tickCntReg ≠ s.divisorReg := by
    rw [phaseEnd, whole, if_neg Bool.false_ne_true, ready, Bool.and_true, quarterCnt,
      beq_eq_false_iff_ne] at noEnd
    exact noEnd
  rw [remaining, remaining, waitingForHighPhase, waitingForHighPhase, ready, ready', tick, divisor,
    Bool.not_true, Bool.and_false, Bool.and_false, if_neg Bool.false_ne_true,
    if_neg Bool.false_ne_true]
  exact ticks_left ne

end Core

namespace Bus

variable {p : Params} {s : Bus} {i : BusIn} {t : Transfer}

/-- As long as SCL is waited for, the limit of the wait comes closer. -/
lemma remaining_wait (pt : s.Patient p) (c : s.Compliant p i)
    (noAbort : s.core.abortFire p (s.coreIn i) = false)
    (waiting : s.core.waitingForHighPhase = true) :
    (s.step p i).core.remaining p < s.core.remaining p := by
  have lt := pt.below c (lag_of_waiting waiting)
  have short := ((s.step p i).core.divisorReg - (s.step p i).core.tickCntReg).isLt
  rw [Core.remaining, Core.remaining, if_pos waiting, pt.counts c noAbort waiting]
  split_ifs <;> omega

/-- In the second and third quarter, SCL once qualified stays so. -/
lemma ready_stays (pt : s.Patient p) (c : s.Compliant p i)
    (lag : s.core.sclLag = 0) (out : s.core.sclOutReg = true) :
    (s.step p i).core.highPhaseReady = true := by
  have high : s.core.sclMetaReg = true := by
    rw [← Bool.not_eq_false]
    intro low
    rw [Core.sclLag_low low] at lag
    cases lag
  have now : s.busScl i = true := (pt.scl_stays c high).trans out
  have lag' : (s.step p i).core.sclLag = 0 := by
    rw [show (s.step p i).core.sclLag = _ from Core.sclLag_step now, lag]
  rw [Core.highPhaseReady, Core.sclHighQual_of_lag lag', ite_self]

/-- A quarter that goes on has less to go. -/
lemma rank_stay (pt : s.Patient p) (c : s.Compliant p i)
    (noAbort : s.core.abortFire p (s.coreIn i) = false) (quarter : s.core.stateReg.quarter = true)
    (noEnd : s.core.phaseEnd = false)
    (same : (s.step p i).core.quartersOver = s.core.quartersOver)
    (ready : s.core.waitingForHighPhase = false →
      s.core.highPhaseReady = true ∧ (s.step p i).core.highPhaseReady = true) :
    (s.step p i).core.rank p < s.core.rank p := by
  apply Core.rank_same same
  cases waiting : s.core.waitingForHighPhase with
  | true => exact remaining_wait pt c noAbort waiting
  | false =>
    obtain ⟨now, next⟩ := ready waiting
    exact Core.remaining_tick quarter noEnd noAbort now next

/-- A quarter that does not wait for SCL has a cycle less to go. -/
lemma rank_stay_free {st : State} (h : s.core.stateReg = st) (quarter : st.quarter = true)
    (free : st.waitsHigh = false) (pt : s.Patient p) (c : s.Compliant p i)
    (noAbort : s.core.abortFire p (s.coreIn i) = false) (noEnd : s.core.phaseEnd = false)
    (same : (s.step p i).core.quartersOver = s.core.quartersOver) :
    (s.step p i).core.rank p < s.core.rank p := by
  have next : (s.step p i).core.stateReg = st :=
    Core.phase_stays h (by rw [quarter, Bool.or_true]) noAbort noEnd
  subst h
  refine rank_stay pt c noAbort quarter noEnd same fun _ => ⟨?_, ?_⟩
  · exact Core.highPhaseReady_of_not_waits free
  · exact Core.highPhaseReady_of_not_waits (next ▸ free)

/-- Every cycle of a byte brings its end closer. -/
lemma Carrying.rank_drop (ca : s.Carrying t) (pt : s.Patient p) (c : s.Compliant p i)
    (noAbort : s.core.abortFire p (s.coreIn i) = false) (open_ : s.core.doneTick = false) :
    (s.step p i).core.rank p < s.core.rank p := by
  obtain ⟨og, d⟩ := ca
  have bit := og.bit
  have kept (data : s.core.stateReg.dataPhase = true) (stay : s.core.nextBit = false) :
      (s.step p i).core.bitIdxReg = s.core.bitIdxReg :=
    (Core.bit_kept (p := p) (i := s.coreIn i) data stay).2.1
  cases h : s.core.stateReg with
  | data1 =>
    have same := kept (by rw [h]; rfl) (by simp [Core.nextBit, h])
    cases hp : s.core.phaseEnd with
    | true =>
      have next : (s.step p i).core.stateReg = .data2 := Core.phase_follows h rfl noAbort hp
      apply Core.rank_next <;> simp only [Core.quartersOver, h, next, same]
      omega
    | false =>
      have next : (s.step p i).core.stateReg = .data1 := Core.phase_stays h rfl noAbort hp
      apply rank_stay_free h rfl rfl pt c noAbort hp
      simp only [Core.quartersOver, h, next, same]
  | data2 =>
    simp only [h] at d
    have same := kept (by rw [h]; rfl) (by simp [Core.nextBit, h])
    cases hp : s.core.phaseEnd with
    | true =>
      have next : (s.step p i).core.stateReg = .data3 := Core.phase_follows h rfl noAbort hp
      apply Core.rank_next <;> simp only [Core.quartersOver, h, next, same]
      omega
    | false =>
      have next : (s.step p i).core.stateReg = .data2 := Core.phase_stays h rfl noAbort hp
      refine rank_stay pt c noAbort (by rw [h]; rfl) hp ?_ fun ready => ?_
      · simp only [Core.quartersOver, h, next, same]
      · have qual : s.core.highPhaseReady = true := by
          simpa [Core.waitingForHighPhase, State.waitsHigh, h] using ready
        have qual' := qual
        rw [Core.highPhaseReady_of_waits (by rw [h]; rfl)] at qual'
        obtain ⟨lag, out⟩ := d.qualified qual'
        exact ⟨qual, ready_stays pt c lag out⟩
  | data3 =>
    simp only [h] at d
    have same := kept (by rw [h]; rfl) (by simp [Core.nextBit, h])
    cases hp : s.core.phaseEnd with
    | true =>
      have next : (s.step p i).core.stateReg = .data4 := Core.phase_follows h rfl noAbort hp
      apply Core.rank_next <;> simp only [Core.quartersOver, h, next, same]
      omega
    | false =>
      have next : (s.step p i).core.stateReg = .data3 := Core.phase_stays h rfl noAbort hp
      refine rank_stay pt c noAbort (by rw [h]; rfl) hp ?_ fun _ => ⟨?_, ?_⟩
      · simp only [Core.quartersOver, h, next, same]
      · rw [Core.highPhaseReady, Core.sclHighQual_of_lag d.lag, ite_self]
      · exact ready_stays pt c d.lag d.out
  | data4 =>
    cases hp : s.core.phaseEnd with
    | true =>
      obtain ⟨last, next⟩ | ⟨bitNext, next⟩ := data4_end og h hp noAbort
      · apply Core.rank_next <;> simp only [Core.quartersOver, h, next, last] <;> decide
      · obtain ⟨-, lt, -, succ, -⟩ := Core.bit_next (p := p) (i := s.coreIn i) bitNext
        have count : (s.step p i).core.bitIdxReg.toNat = s.core.bitIdxReg.toNat + 1 := by
          rw [Bus.step, succ, Core.bitIdx_succ lt]
        have lt : s.core.bitIdxReg.toNat < 8 := lt
        apply Core.rank_next <;> simp only [Core.quartersOver, h, next, count] <;> omega
    | false =>
      have same := kept (by rw [h]; rfl) (Core.nextBit_of_goes_on hp)
      have next : (s.step p i).core.stateReg = .data4 := Core.phase_stays h rfl noAbort hp
      apply rank_stay_free h rfl rfl pt c noAbort hp
      simp only [Core.quartersOver, h, next, same]
  | dataEnd =>
    have hp : s.core.phaseEnd = false := by
      rw [← open_]
      simp [Core.doneTick, Core.phaseEnd, Core.highPhaseReady, Core.quarterCnt, State.half,
        State.waitsHigh, h]
      rfl
    have next : (s.step p i).core.stateReg = .dataEnd := Core.phase_stays h rfl noAbort hp
    apply rank_stay_free h rfl rfl pt c noAbort hp
    simp only [Core.quartersOver, h, next]
  | _ => simp [h] at d

/-- A byte under way is done before its rank is used up. -/
lemma done_within (slaveSda : Bool) (min : 1 ≤ p.minDivisor) {is : List BusIn} (ca : s.Carrying t)
    (pt : s.Patient p) (al : (bus p slaveSda).AlongFrom (fun s i => s.Compliant p i) s is)
    (long : s.core.rank p < is.length) :
    ∃ o ∈ (bus p slaveSda).traceFrom s is, o.done = true := by
  induction is generalizing s t with
  | nil => cases long
  | cons i is ih =>
    obtain ⟨c, al⟩ := al
    have noAbort := Agrees.noAbort (b := some t) ca pt c
    rw [Machine.traceFrom_cons]
    cases closed : s.core.doneTick with
    | true => exact ⟨s.cycle p i, List.mem_cons_self, closed⟩
    | false =>
      have next := Carrying.step ca pt c noAbort
      rw [track, show (s.cycle p i).done = false from closed, if_neg Bool.false_ne_true] at next
      have drop := ca.rank_drop pt c noAbort closed
      rw [List.length_cons] at long
      obtain ⟨o, mem, done⟩ := ih next (pt.step min c noAbort) al (show
        (s.step p i).core.rank p < is.length by omega)
      exact ⟨o, List.mem_cons_of_mem _ mem, done⟩

end Bus

/-- Until the first command nothing is under way. -/
lemma bus_init_agrees (p : Params) (slaveSda : Bool) (min : 1 ≤ p.minDivisor) :
    (bus p slaveSda).init.Patient p ∧ (bus p slaveSda).init.Agrees none := by
  refine ⟨⟨rfl, fun zero => ?_, .inl rfl, .inl rfl, rfl, rfl, rfl⟩, trivial⟩
  rw [show p.minDivisor = 0 from zero] at min
  exact absurd min (by decide)

/-- For all parameters with a smallest divisor of at least 1, every initial level of the slave and
    every run with a compliant slave, whatever the commands, the data and the divisors: every cycle
    is faithful, and a byte command under way is done within `37 * 2 ^ 17` clocks. -/
theorem bus_transports (p : Params) (slaveSda : Bool) (min : 1 ≤ p.minDivisor) (is js : List BusIn)
    (al : (bus p slaveSda).Along (fun s i => s.Compliant p i) (is ++ js)) :
    Transports none ((bus p slaveSda).trace (is ++ js)) ∧
      (((bus p slaveSda).trace is).foldl track none ≠ none → 37 * 2 ^ 17 ≤ js.length →
        ∃ o ∈ (bus p slaveSda).traceFrom ((bus p slaveSda).after is) js, o.done = true) := by
  obtain ⟨pt, ag⟩ := bus_init_agrees p slaveSda min
  refine ⟨transports_from slaveSda min ag pt al, fun under long => ?_⟩
  obtain ⟨before, after⟩ := ((bus p slaveSda).alongFrom_append _ _ is js).mp al
  obtain ⟨pt', ag'⟩ := (bus p slaveSda).history_rule
    (P := fun s os => s.Patient p ∧ s.Agrees (os.foldl track none)) ⟨pt, ag⟩
    (fun s os i inv c => by
      rw [List.foldl_append]
      exact ⟨inv.1.step min c (inv.2.noAbort inv.1 c), inv.2.step inv.1 c⟩) before
  obtain ⟨t, ht⟩ := Option.ne_none_iff_exists'.mp under
  rw [ht] at ag'
  exact Bus.done_within slaveSda min ag' pt' after (Nat.lt_of_lt_of_le Core.rank_lt long)

/-- A START with a divisor of 8, and a WR as soon as the bus is held. -/
def startWr : List BusIn :=
  let quiet : BusIn := {}
  { host := { command START_CMD 0 with divisor := 8 } } :: List.replicate 26 quiet ++
    [{ host := command WR_CMD 0xA5 }]

/-- A slave that pulls SDA low at once, and holds SCL low for two cycles at its first rise. -/
def slaveAcks : List BusIn :=
  let acks : BusIn := { slaveSda := false }
  List.replicate 10 acks ++ List.replicate 2 { acks with slaveScl := false } ++
    List.replicate 330 acks

/-- A byte is written to a slave that stretches the clock and acknowledges. -/
theorem bus_transports_write :
    Transports none ((bus {} true).trace (startWr ++ slaveAcks)) :=
  (bus_transports {} true (by decide) startWr slaveAcks (by decide +kernel)).1

end ModularControl.I2c
