import ModularControl.I2c.Core

/-!
# The I2C bus

The core and a slave on two wired-AND lines. A `Transfer` is what a third party on the bus sees of
one byte command, from the cycle in which it is accepted: the levels driven at each rise of SCL, and
whether the master held its level as long as SCL stayed high. `Transports` says what a faithful byte
transport shows it.
-/

namespace ModularControl.I2c
open Sync

/-- The core, and the bus as the last cycle left it. -/
structure Bus where
  core : Core
  /-- SCL in the last cycle. -/
  scl : Bool
  /-- SDA as the slave drove it in the last cycle. -/
  slaveSda : Bool
  /-- For how many cycles the slave has held SCL low against the master. -/
  stretch : Nat

/-- The inputs of the bus: the two drives of the slave, and what the core is told. The lines and the
    abort input of `host` are not used. -/
structure BusIn where
  slaveScl : Bool := true
  slaveSda : Bool := true
  host : CoreIn := {}
deriving DecidableEq

/-- A byte command, as it is accepted. -/
inductive ByteCmd where
  | wr (data : BitVec 8)
  | rd (last : Bool)
deriving DecidableEq

/-- The levels a byte command puts on SDA, one for each high phase of SCL. -/
def ByteCmd.drive : ByteCmd → List Bool
  | wr data => (List.range 8).map (fun k => data.getLsbD (7 - k)) ++ [true]
  | rd last => List.replicate 8 true ++ [last]

/-- What is seen of the bus in a cycle. -/
structure BusCycle where
  accepted : Option ByteCmd
  scl : Bool
  master : Bool
  slave : Bool
  done : Bool
  ack : Bool
  rxData : BitVec 8
  fault : Bool

namespace Bus

variable (p : Params) (s : Bus) (i : BusIn)

def busScl : Bool := s.core.sclOutReg && i.slaveScl

/-- While it receives, the master releases SDA. -/
def busSda : Bool := s.core.sdaDriven && i.slaveSda

def coreIn : CoreIn := { i.host with sclIn := s.busScl i, sdaIn := s.busSda i, abortI := false }

def stretchNext : Nat := if s.core.sclOutReg && !s.busScl i then s.stretch + 1 else 0

def step : Bus where
  core := s.core.step p (s.coreIn i)
  scl := s.busScl i
  slaveSda := i.slaveSda
  stretch := s.stretchNext i

def accepted : Option ByteCmd :=
  if s.core.holdWrFire (s.coreIn i) then some (.wr i.host.txDataI)
  else if s.core.holdRdFire (s.coreIn i) then some (.rd i.host.rdLastI)
  else none

/-- A fault is an abort of the core, for whichever reason, or one of its fault registers. -/
def cycle : BusCycle where
  accepted := s.accepted i
  scl := s.busScl i
  master := s.core.sdaDriven
  slave := i.slaveSda
  done := s.core.doneTick
  ack := s.core.ack
  rxData := s.core.rxData
  fault := s.core.abortFire p (s.coreIn i) || s.core.faultAbortSeenReg ||
    s.core.faultSdaUnstableReg || s.core.faultSclHighTimeoutReg

/-- The slave changes SDA under a low SCL only, and holds SCL low only to extend a low phase, by at
    most `highWaitTimeoutClks - 8` clocks. -/
def Compliant : Prop :=
  (i.slaveSda ≠ s.slaveSda → s.scl = false ∧ s.busScl i = false) ∧
    (i.slaveScl = false → s.core.sclOutReg = true → s.scl = false) ∧
    s.stretchNext i + 8 ≤ p.highWaitTimeoutClks.toNat

instance : Decidable (s.Compliant p i) := inferInstanceAs (Decidable (_ ∧ _))

end Bus

/-- The bus after reset, with a slave that drives SDA at `slaveSda`. -/
def bus (p : Params) (slaveSda : Bool) : Machine Bus BusIn BusCycle where
  init := { core := .reset p, scl := true, slaveSda := slaveSda, stretch := 0 }
  step s i := s.step p i
  out s i := s.cycle p i

/-- The levels driven when SCL rose. -/
structure Phase where
  master : Bool
  slave : Bool

/-- The level of the line. -/
def Phase.level (q : Phase) : Bool := q.master && q.slave

/-- A byte command as seen on the bus. -/
structure Transfer where
  cmd : ByteCmd
  scl : Bool
  phases : List Phase := []
  /-- The master has kept its level through every high phase. -/
  steady : Bool := true

namespace Transfer

variable (t : Transfer) (o : BusCycle)

def masters : List Bool := t.phases.map Phase.master
def slaves : List Bool := t.phases.map Phase.slave

/-- A rise of SCL opens a phase; while SCL stays high the master must keep its level. -/
def see : Transfer :=
  if o.scl then
    if t.scl then { t with steady := t.steady && t.masters.getLast? == some o.master }
    else { t with scl := true, phases := t.phases ++ [⟨o.master, o.slave⟩] }
  else { t with scl := false }

/-- The master has driven what its command asks for, in every phase so far. -/
def Faithful : Prop := t.steady = true ∧ t.masters <+: t.cmd.drive

/-- All nine phases are over, and what the core reports is what the slave drove. -/
def Delivered : Prop :=
  t.masters = t.cmd.drive ∧
    match t.cmd with
    | .wr _ => t.slaves[8]? = some o.ack
    | .rd _ => (List.range 8).map (fun k => o.rxData.getLsbD (7 - k)) = t.slaves.take 8

end Transfer

/-- The transfer in progress after a cycle. -/
def track : Option Transfer → BusCycle → Option Transfer
  | none, o => o.accepted.map fun cmd => { cmd := cmd, scl := o.scl }
  | some t, o => if o.done then none else some (t.see o)

/-- A cycle without a fault, in which no byte command is accepted during another, none is done
    without having been accepted, and the one in progress is faithful, and delivered when done. -/
def CycleFaithful (b : Option Transfer) (o : BusCycle) : Prop :=
  o.fault = false ∧ (o.accepted ≠ none → b = none) ∧ (o.done = true → b ≠ none) ∧
    ∀ t ∈ b, (t.see o).Faithful ∧ (o.done = true → (t.see o).Delivered o)

/-- Every cycle is faithful, the transfer `b` being in progress before the first. -/
def Transports : Option Transfer → List BusCycle → Prop
  | _, [] => True
  | b, o :: os => CycleFaithful b o ∧ Transports (track b o) os

/-- For how many cycles more SCL has to stay high until it is qualified. -/
def Core.sclLag (s : Core) : Nat :=
  if !s.sclMetaReg then 5
  else if !s.sclSyncReg then 4
  else if !s.sclHist0 then 3
  else if !s.sclHist1 then 2
  else if !s.sclHist2 then 1
  else 0

lemma Core.sclLag_le (s : Core) : s.sclLag ≤ 5 := by
  rw [sclLag]
  split_ifs <;> decide

lemma Core.sclLag_low {s : Core} (low : s.sclMetaReg = false) : s.sclLag = 5 := by
  rw [sclLag, low]
  rfl

lemma Core.sclLag_step {p : Params} {s : Core} {i : CoreIn} (high : i.sclIn = true) :
    (s.step p i).sclLag = s.sclLag - 1 := by
  cases h0 : s.sclMetaReg <;> cases h1 : s.sclSyncReg <;> cases h2 : s.sclHist0 <;>
    cases h3 : s.sclHist1 <;> simp [sclLag, step, high, h0, h1, h2, h3]
  cases h4 : s.sclHist2 <;> simp

lemma Core.sclHighQual_of_lag {s : Core} (lag : s.sclLag = 0) : s.sclHighQual = true := by
  simp only [sclLag] at lag
  split_ifs at lag
  simp_all [sclHighQual]

namespace Bus

/-- The wait for a qualified SCL never comes close to its limit. -/
structure Patient (p : Params) (s : Bus) : Prop where
  scl : s.scl = s.core.sclMetaReg
  divisor : s.core.divisorReg ≠ 0
  stretch : s.stretch = 0 ∨ s.stretch + 8 ≤ p.highWaitTimeoutClks.toNat
  wait : s.core.highWaitCntReg.toNat = 0 ∨
    (s.core.sclOutReg = true ∧
      (s.core.sclMetaReg = false → s.core.highWaitCntReg.toNat ≤ s.stretch + 1) ∧
      (s.core.sclMetaReg = true → 0 < s.core.sclLag →
        s.core.highWaitCntReg.toNat + s.core.sclLag + 2 ≤ p.highWaitTimeoutClks.toNat))
  clear : s.core.faultAbortSeenReg = false ∧ s.core.faultSdaUnstableReg = false ∧
    s.core.faultSclHighTimeoutReg = false

variable {p : Params} {s : Bus} {i : BusIn}

lemma lag_of_waiting {s : Core} (waiting : s.waitingForHighPhase = true) : 0 < s.sclLag := by
  rw [Core.waitingForHighPhase, Bool.and_eq_true] at waiting
  obtain ⟨waits, unready⟩ := waiting
  rw [Nat.pos_iff_ne_zero]
  intro lag
  rw [Core.highPhaseReady_of_waits waits, Core.sclHighQual_of_lag lag] at unready
  cases unready

lemma Patient.below (pt : s.Patient p) (c : s.Compliant p i) (lag : 0 < s.core.sclLag) :
    s.core.highWaitCntReg.toNat < p.highWaitTimeoutClks.toNat := by
  have room : 8 ≤ p.highWaitTimeoutClks.toNat := Nat.le_trans (Nat.le_add_left 8 _) c.2.2
  obtain zero | ⟨-, low, high⟩ := pt.wait
  · omega
  · have st := pt.stretch
    cases hm : s.core.sclMetaReg with
    | false =>
      have := low hm
      omega
    | true =>
      have := high hm lag
      omega

lemma Patient.noTimeout (pt : s.Patient p) (c : s.Compliant p i) :
    s.core.sclHighTimeoutEvent p = false := by
  cases waiting : s.core.waitingForHighPhase with
  | false => rw [Core.sclHighTimeoutEvent, waiting, Bool.false_and]
  | true =>
    have lt := pt.below c (lag_of_waiting waiting)
    rw [Core.sclHighTimeoutEvent, waiting, Bool.true_and, beq_eq_false_iff_ne]
    intro full
    rw [full] at lt
    exact Nat.lt_irrefl _ lt

/-- SCL once high stays high as long as the master releases it. -/
lemma Patient.scl_stays (pt : s.Patient p) (c : s.Compliant p i)
    (high : s.core.sclMetaReg = true) : s.busScl i = s.core.sclOutReg := by
  rw [busScl]
  cases hs : i.slaveScl with
  | true => rw [Bool.and_true]
  | false =>
    cases ho : s.core.sclOutReg with
    | false => rfl
    | true =>
      have low := c.2.1 hs ho
      rw [pt.scl, high] at low
      cases low

/-- A slave that keeps to a high SCL keeps its level. -/
lemma Patient.sda_stays (pt : s.Patient p) (c : s.Compliant p i)
    (high : s.core.sclMetaReg = true ∨ s.busScl i = true) : i.slaveSda = s.slaveSda := by
  by_contra changed
  obtain ⟨before, now⟩ := c.1 changed
  rw [pt.scl] at before
  rw [before, now] at high
  simp at high

lemma sclOutNext_of_waits {s : Core} (waits : s.stateReg.waitsHigh = true) :
    s.sclOutNext = true := by
  cases h : s.stateReg <;> simp [h, State.waitsHigh] at waits <;> simp [Core.sclOutNext, h]

/-- The wait is counted, below its limit. -/
lemma Patient.counts (pt : s.Patient p) (c : s.Compliant p i)
    (noAbort : s.core.abortFire p (s.coreIn i) = false)
    (waiting : s.core.waitingForHighPhase = true) :
    (s.step p i).core.highWaitCntReg.toNat = s.core.highWaitCntReg.toNat + 1 := by
  have lt := pt.below c (lag_of_waiting waiting)
  exact Core.highWait_counted waiting noAbort lt

/-- The divisor that a START latches is not below the parameter. -/
lemma divisorClamped_ne {i : CoreIn} (min : 1 ≤ p.minDivisor) : Core.divisorClamped p i ≠ 0 := by
  rw [Core.divisorClamped]
  split_ifs with lt
  · rintro zero
    rw [zero] at min
    exact absurd min (by decide)
  · rintro zero
    rw [zero] at lt
    exact lt (Nat.lt_of_lt_of_le Nat.one_pos min)

/-- Without an abort there is no fault to record. -/
lemma Patient.noFault (pt : s.Patient p) (c : s.Compliant p i)
    (noAbort : s.core.abortFire p (s.coreIn i) = false) :
    (s.step p i).core.faultAbortSeenReg = false ∧ (s.step p i).core.faultSdaUnstableReg = false ∧
      (s.step p i).core.faultSclHighTimeoutReg = false := by
  have quiet := pt.noTimeout c
  have stable : s.core.protocolFaultEvent = false := by
    rw [Core.abortFire, Bool.and_eq_false_iff] at noAbort
    obtain none_ | idle := noAbort
    · simp only [Bool.or_eq_false_iff] at none_
      exact none_.1.2
    · rw [bne_eq_false_iff_eq] at idle
      simp [Core.protocolFaultEvent, idle]
  obtain ⟨abort, unstable, late⟩ := pt.clear
  simp [Bus.step, Core.step, noAbort, stable, quiet, abort, unstable, late]

lemma Patient.step (min : 1 ≤ p.minDivisor) (pt : s.Patient p) (c : s.Compliant p i)
    (noAbort : s.core.abortFire p (s.coreIn i) = false) : (s.step p i).Patient p := by
  have bound := c.2.2
  refine ⟨rfl, ?_, .inr bound, ?_, pt.noFault c noAbort⟩
  · simp only [Bus.step, Core.step]
    split_ifs
    · exact divisorClamped_ne min
    · exact pt.divisor
  · cases waiting : s.core.waitingForHighPhase with
    | false =>
      have cleared : (s.step p i).core.highWaitCntReg = 0 := Core.highWait_cleared (.inl waiting)
      rw [cleared]
      exact .inl rfl
    | true =>
      have lag := lag_of_waiting waiting
      rw [pt.counts c noAbort waiting]
      rw [Core.waitingForHighPhase, Bool.and_eq_true] at waiting
      refine .inr ⟨sclOutNext_of_waits waiting.1, ?_, ?_⟩
      · intro (low : s.busScl i = false)
        have next : (s.step p i).stretch = if s.core.sclOutReg = true then s.stretch + 1 else 0 := by
          simp [Bus.step, stretchNext, low]
        rw [next]
        obtain zero | ⟨out, held, -⟩ := pt.wait
        · omega
        · -- the slave extends the low phase by one more cycle
          have still : s.core.sclMetaReg = false := by
            rw [← Bool.not_eq_true]
            intro high
            rw [pt.scl_stays c high, out] at low
            cases low
          have := held still
          rw [if_pos out]
          omega
      · intro (high : s.busScl i = true) _
        -- SCL has risen, or is one cycle closer to being qualified
        rw [show (s.step p i).core.sclLag = _ from Core.sclLag_step high]
        have five := s.core.sclLag_le
        have room : 8 ≤ p.highWaitTimeoutClks.toNat := Nat.le_trans (Nat.le_add_left 8 _) bound
        obtain zero | ⟨-, held, risen⟩ := pt.wait
        · omega
        · have st := pt.stretch
          cases hm : s.core.sclMetaReg with
          | false =>
            have := held hm
            have := Core.sclLag_low hm
            omega
          | true =>
            have := risen hm lag
            omega

end Bus
end ModularControl.I2c
