import ModularControl.I2c.Core

/-!
# Abort recovery on the bus

`S_ABORT_1` drives both lines low and `S_ABORT_2` releases both, so the two releases happen in one
cycle: the way back to idle shows no STOP of its own. The only STOP on it is that of a STOP command
whose last edge is under way when the abort strikes.
-/

namespace ModularControl.I2c
open Sync

namespace Core

/-- SDA is released under a released SCL: a STOP condition. -/
def StopEdge (s s' : Core) : Prop :=
  s.sclOutReg = true ∧ s'.sclOutReg = true ∧ s.sdaDriven = false ∧ s'.sdaDriven = true

/-- SDA is pulled low under a released SCL: a START condition. -/
def StartEdge (s s' : Core) : Prop :=
  s.sclOutReg = true ∧ s'.sclOutReg = true ∧ s.sdaDriven = true ∧ s'.sdaDriven = false

instance : DecidableRel StopEdge := fun _ _ => inferInstanceAs (Decidable (_ ∧ _))

instance : DecidableRel StartEdge := fun _ _ => inferInstanceAs (Decidable (_ ∧ _))

/-- The run `is` from `s` ends where it first reaches the idle state. -/
structure ToIdle (p : Params) (s : Core) (is : List CoreIn) : Prop where
  there : ((core p).runFrom s is).stateReg = .idle
  first : (core p).AlongFrom (fun t _ => t.stateReg ≠ .idle) s is

/-- The run `is` from `s` shows a STOP condition, and no START condition. -/
structure StopsBus (p : Params) (s : Core) (is : List CoreIn) : Prop where
  stop : ¬ (core p).AlongFrom (fun t i => ¬ StopEdge t (t.step p i)) s is
  noStart : (core p).AlongFrom (fun t i => ¬ StartEdge t (t.step p i)) s is

/-- In the phases that release both lines at once, they have been driven alike before; and in the
    middle of a bit cell SDA shows the bit. -/
def Paired (s : Core) : Prop :=
  match s.stateReg with
  | .restart | .abort2 => s.sdaOutReg = s.sclOutReg
  | .data2 | .data3 => s.sdaOutReg = s.txReg.getLsbD 8
  | _ => True

variable {p : Params} {s : Core} {i : CoreIn}

lemma paired_of_abort (fire : s.abortFire p i = true) : (s.step p i).Paired := by
  have next : (s.step p i).stateReg = .abort1 := by simp [step, stateNext, fire]
  simp [Paired, next]

lemma paired_step : (s.step p i).Paired := by
  cases noAbort : s.abortFire p i with
  | true => exact paired_of_abort noAbort
  | false =>
    cases h : s.stateReg with
    | idle => cases hf : s.idleStartFire i <;> simp [Paired, step, stateNext, noAbort, h, hf]
    | start1 | start2 | stop1 | stop2 | dataEnd | restart | abort1 | abort2 =>
      cases hp : s.phaseEnd <;>
        simp [Paired, step, stateNext, sclOutNext, sdaOutNext, noAbort, h, hp]
    | hold =>
      cases hr : s.holdRestartFire i <;> cases hs : s.holdStopFire i <;>
        cases hf : s.holdWrFire i || s.holdRdFire i <;>
        simp [Paired, step, stateNext, sclOutNext, sdaOutNext, noAbort, h, hr, hs, hf]
    | data4 =>
      cases hp : s.phaseEnd with
      | false => simp [Paired, phase_stays h rfl noAbort hp]
      | true =>
        obtain ⟨-, next⟩ | ⟨-, next⟩ := data4_follows h noAbort hp <;> simp [Paired, next]
    | data1 | data2 | data3 =>
      have shown := sda_shown (p := p) (i := i) (by rw [h]; rfl) (by simp [nextBit, h])
      cases hp : s.phaseEnd with
      | false => simp [Paired, phase_stays h rfl noAbort hp, shown]
      | true => simp [Paired, phase_follows h rfl noAbort hp, State.follow, shown]

/-- The recovery phases drive both lines alike from their second cycle on, so that no condition is
    signalled after the first. -/
lemma recovery_silent (pa : s.Paired) (recovering : s.stateReg = .abort1 ∨ s.stateReg = .abort2) :
    ¬ StopEdge s (s.step p i) ∧ ¬ StartEdge s (s.step p i) := by
  obtain h | h := recovering
  · have low : (s.step p i).sclOutReg = false := by simp [step, sclOutNext, h]
    simp [StopEdge, StartEdge, low]
  · have high : (s.step p i).sdaDriven = true := by simp [sdaDriven, step, sdaOutNext, h]
    have alike : s.sdaDriven = s.sclOutReg := by
      simp only [Paired, h] at pa
      rw [sdaDriven, masterReceiving, h, pa]
      rfl
    rw [StopEdge, StartEdge, high, alike]
    refine ⟨fun stop => ?_, fun start => Bool.noConfusion start.2.2.2⟩
    rw [stop.1] at stop
    exact Bool.noConfusion stop.2.2.1

/-- A recovery phase is followed by one, or by the idle state. -/
lemma recovery_step (recovering : s.stateReg = .abort1 ∨ s.stateReg = .abort2)
    (busy : (s.step p i).stateReg ≠ .idle) :
    (s.step p i).stateReg = .abort1 ∨ (s.step p i).stateReg = .abort2 := by
  cases noAbort : s.abortFire p i with
  | true => exact .inl (by simp [step, stateNext, noAbort])
  | false =>
    obtain h | h := recovering <;> cases hp : s.phaseEnd
    · exact .inl (phase_stays h rfl noAbort hp)
    · exact .inr (phase_follows h rfl noAbort hp)
    · exact .inr (phase_stays h rfl noAbort hp)
    · exact absurd (phase_follows h rfl noAbort hp) busy

/-- The recovery phases signal nothing on the way to the idle state, however often they are entered
    anew. -/
lemma recovery_silent_along {is : List CoreIn} (pa : s.Paired)
    (recovering : s.stateReg = .abort1 ∨ s.stateReg = .abort2)
    (first : (core p).AlongFrom (fun t _ => t.stateReg ≠ .idle) s is) :
    (core p).AlongFrom (fun t i => ¬ StopEdge t (t.step p i) ∧ ¬ StartEdge t (t.step p i)) s is := by
  induction is generalizing s with
  | nil => trivial
  | cons i is ih =>
    refine ⟨recovery_silent pa recovering, ?_⟩
    cases is with
    | nil => trivial
    | cons j is => exact ih paired_step (recovery_step recovering first.2.1) first.2

/-- The step of an abort shows a STOP condition only if it is the last edge of a STOP command. -/
lemma stopEdge_of_abort (pa : s.Paired) (fire : s.abortFire p i = true)
    (busy : s.stateReg ≠ .idle) : StopEdge s (s.step p i) ↔
      s.stateReg = .stop2 ∧ s.sclOutReg = true ∧ s.sdaDriven = false := by
  have next : (s.step p i).stateReg = .abort1 := by simp [step, stateNext, fire]
  have driven : (s.step p i).sdaDriven = s.sdaOutNext := by
    rw [sdaDriven, masterReceiving, next]
    rfl
  rw [StopEdge, driven, show (s.step p i).sclOutReg = s.sclOutNext from rfl]
  constructor
  · rintro ⟨scl, scl', sda, sda'⟩
    have level : s.sdaOutReg = false := (Bool.or_eq_false_iff.mp sda).2
    refine ⟨?_, scl, sda⟩
    cases h : s.stateReg <;> simp [sdaOutNext, sclOutNext, Paired, h] at sda' scl' pa busy
    case stop2 => rfl
    case restart | abort2 => rw [pa, scl] at level; cases level
    case data2 | data3 => rw [pa, sda'] at level; cases level
  · rintro ⟨h, scl, sda⟩
    simp [h, scl, sda, sdaOutNext, sclOutNext]

end Core

/-- From every abort of every run, for every cause, both parameters and every way back to the idle
    state: the way back shows a STOP condition and no START exactly if the abort strikes while a STOP
    command is releasing SDA. -/
theorem core_abort_stops_iff (p : Params) (is : List CoreIn) (i : CoreIn) (js : List CoreIn)
    (fire : ((core p).after is).abortFire p i = true)
    (idle : Core.ToIdle p ((core p).after is) (i :: js)) :
    Core.StopsBus p ((core p).after is) (i :: js) ↔
      ((core p).after is).stateReg = .stop2 ∧ ((core p).after is).sclOutReg = true ∧
        ((core p).after is).sdaDriven = false := by
  have pa : ((core p).after is).Paired :=
    (core p).invariant_rule (P := Core.Paired) (C := fun _ _ => True) trivial
      (fun _ _ _ _ => Core.paired_step) ((core p).along_true is)
  generalize (core p).after is = s at fire idle pa
  have next : (s.step p i).stateReg = .abort1 := by simp [Core.step, Core.stateNext, fire]
  have silent := Core.recovery_silent_along Core.paired_step (.inl next) idle.first.2
  rw [← Core.stopEdge_of_abort pa fire idle.first.1]
  constructor
  · intro bus
    by_contra noEdge
    exact bus.stop ⟨noEdge, silent.mono _ fun _ _ h => h.1⟩
  -- the edge of the step into the recovery is the STOP's, and nothing comes after it
  · intro edge
    refine ⟨fun none => none.1 edge, fun start => ?_, silent.mono _ fun _ _ h => h.2⟩
    exact absurd (edge.2.2.2.symm.trans start.2.2.2) Bool.noConfusion

/-- A START with the divisor 4, up to the hold state. -/
def held : List CoreIn := { command START_CMD 0 with divisor := 4 } :: List.replicate 14 pause

/-- The same, and a STOP command up to the cycle that releases SDA. -/
def stopping : List CoreIn :=
  idealBus {} (.reset {}) (held ++ command STOP_CMD 0 :: List.replicate 9 pause)

/-- A software abort, and the way back to the idle state. -/
def abortPath : List CoreIn := { abortI := true } :: List.replicate 18 pause

/-- A STOP command aborted in its last edge has made its STOP condition. -/
theorem core_abort_stops_stopping :
    Core.StopsBus {} ((core {}).after stopping) abortPath :=
  (core_abort_stops_iff {} stopping { abortI := true } (List.replicate 18 pause) (by decide +kernel)
    ⟨by decide +kernel, by decide +kernel⟩).mpr (by decide +kernel)

/-- Software aborts in the hold state: the core returns to the idle state without a STOP. -/
theorem core_abort_without_stop :
    ((core {}).after held).stateReg = .hold ∧
      ((core {}).after held).abortFire {} { abortI := true } = true ∧
      Core.ToIdle {} ((core {}).after held) abortPath ∧
      ¬ Core.StopsBus {} ((core {}).after held) abortPath := by
  refine ⟨by decide +kernel, by decide +kernel, ⟨by decide +kernel, by decide +kernel⟩, fun h => ?_⟩
  exact absurd h.stop (by decide +kernel)

end ModularControl.I2c
