import ModularControl.Spi.Starts

/-!
# Pending STARTs and ENABLE

Clearing ENABLE does not drop a START that still waits for the vendor core: it stays pending and is
launched after the next write that sets ENABLE. That happens only through a write that clears
ENABLE under a waiting START, or starts and clears ENABLE at once.
-/

namespace ModularControl.Spi
open Sync Axi

/-- Every START accepted so far was accepted before the last write that cleared ENABLE. -/
def Stale (os : List SpiObs) : Prop :=
  ∃ a d b, os = a ++ d :: b ∧ d.disable = true ∧ ∀ o ∈ d :: b, o.start = none

/-- No byte has been launched by a START accepted before the last write that cleared ENABLE. -/
def NoStaleLaunch (os : List SpiObs) : Prop :=
  ∀ pre o post, os = pre ++ o :: post → o.launch.isSome → ¬ Stale pre

/-- A pending START finds ENABLE set, and no stale START has been launched. -/
structure StopsAtDisable (s : SpiRegs) (os : List SpiObs) : Prop where
  pending : s.startPending = true → s.ctrlEnable = true
  launched : NoStaleLaunch os

/-- A write that clears ENABLE comes with the launch of the pending START, or finds none and accepts
    none. -/
def DropsNone (s : SpiRegs) (i : SpiIn) : Prop :=
  s.disables i = true →
    s.coreWvalid i.core = true ∨ s.startPending = false ∧ s.startAccepted i = false

/-- What runs that drop none establish: a pending START is younger than the last write that cleared
    ENABLE. -/
structure Young (s : SpiRegs) (os : List SpiObs) : Prop where
  pending : s.startPending = true → s.ctrlEnable = true ∧ ¬ Stale os
  launched : NoStaleLaunch os

lemma stale_snoc {os : List SpiObs} {o : SpiObs} (st : Stale (os ++ [o])) :
    o.start = none ∧ (o.disable = true ∨ Stale os) := by
  obtain ⟨a, d, b, e, dis, noStart⟩ := st
  cases b using List.reverseRecOn with
  | nil =>
    obtain ⟨-, same⟩ := List.append_inj' e rfl
    obtain rfl := List.singleton_inj.mp same
    exact ⟨noStart _ (by simp), .inl dis⟩
  | append_singleton b x =>
    rw [← List.cons_append, ← List.append_assoc] at e
    obtain ⟨rfl, same⟩ := List.append_inj' e rfl
    obtain rfl := List.singleton_inj.mp same
    refine ⟨noStart _ (by simp), .inr ⟨a, d, b, rfl, dis, fun y m => noStart y ?_⟩⟩
    rw [← List.cons_append]
    exact List.mem_append_left _ m

lemma NoStaleLaunch.snoc {os : List SpiObs} {o : SpiObs} (ns : NoStaleLaunch os)
    (now : o.launch.isSome → ¬ Stale os) : NoStaleLaunch (os ++ [o]) := by
  intro pre x post e launched
  cases post using List.reverseRecOn with
  | nil =>
    obtain ⟨rfl, same⟩ := List.append_inj' e rfl
    obtain rfl := List.singleton_inj.mp same
    exact now launched
  | append_singleton post y =>
    rw [← List.cons_append, ← List.append_assoc] at e
    obtain ⟨e, -⟩ := List.append_inj' e rfl
    exact ns pre x post e launched

/-- A write that clears ENABLE clears it. -/
lemma SpiRegs.ctrlEnable_of_disables {s : SpiRegs} {i : SpiIn} (dis : s.disables i = true) :
    (spiMachine.step s i).ctrlEnable = false := by
  simp only [disables, Bool.and_eq_true, Bool.not_eq_true'] at dis
  show (if s.wrCtrl i && !s.xferOpen then i.req.wdata.getLsbD CTRL_ENABLE_BIT else s.ctrlEnable) = _
  simp [dis]

/-- The step lemma: in a step that drops none, what is pending afterwards was accepted under ENABLE
    or was pending before, and ENABLE stays. -/
lemma Young.step {s : SpiRegs} {os : List SpiObs} (yo : Young s os) {i : SpiIn}
    (drops : DropsNone s i) : Young (spiMachine.step s i) (os ++ [spiMachine.out s i]) := by
  refine ⟨fun pending => ?_, yo.launched.snoc fun launched => ?_⟩
  · rw [SpiRegs.startPending_step, Bool.and_eq_true, Bool.not_eq_true', Bool.or_eq_true] at pending
    obtain ⟨still, source⟩ := pending
    have kept : s.disables i = false := by
      rw [Bool.eq_false_iff]
      intro dis
      obtain launched | ⟨none, refused⟩ := drops dis
      · rw [still] at launched
        cases launched
      · rw [none, refused] at source
        obtain h | h := source <;> cases h
    have on : s.ctrlEnable = true :=
      source.elim (fun accepted => (SpiRegs.startAccepted_iff.mp accepted).2.1)
        fun pending => (yo.pending pending).1
    refine ⟨by rw [SpiRegs.ctrlEnable_step on, kept]; rfl, fun st => ?_⟩
    obtain ⟨noStart, dis | old⟩ := stale_snoc st
    · rw [show s.disables i = true from dis] at kept
      cases kept
    · obtain accepted | pending := source
      · have some : (s.observe i).start = some (s.txdataReg, s.xferEndNow i) := by
          rw [SpiRegs.observe, accepted]
          rfl
        rw [show (s.observe i).start = none from noStart] at some
        cases some
      · exact (yo.pending pending).2 old
  · have fire : s.coreWvalid i.core = true := by
      by_contra still
      rw [show (spiMachine.out s i).launch = none by
        rw [show (spiMachine.out s i).launch = (s.observe i).launch from rfl,
          SpiRegs.observe_launch, if_neg still]] at launched
      cases launched
    exact (yo.pending (SpiRegs.pending_of_launch fire).1).2

lemma Young.stops {s : SpiRegs} {os : List SpiObs} (yo : Young s os) : StopsAtDisable s os :=
  ⟨fun pending => (yo.pending pending).1, yo.launched⟩

/-- A write that leaves a START pending under a cleared ENABLE is the step that breaks it. -/
lemma dropsNone_of_stops {s : SpiRegs} {os : List SpiObs} {i : SpiIn}
    (st : StopsAtDisable (spiMachine.step s i) os) : DropsNone s i := by
  intro dis
  by_contra left
  rw [not_or, not_and_or, Bool.not_eq_true, Bool.not_eq_false, Bool.not_eq_false] at left
  obtain ⟨still, source⟩ := left
  have pending : (spiMachine.step s i).startPending = true := by
    rw [SpiRegs.startPending_step, still]
    obtain h | h := source <;> simp [h]
  have on := st.pending pending
  rw [SpiRegs.ctrlEnable_of_disables dis] at on
  cases on

/-- In every state a pending START finds ENABLE set, and no START is launched across a disable,
    exactly if no write that clears ENABLE leaves a START pending. -/
theorem spiMachine_stops_at_disable (is : List SpiIn) :
    spiMachine.Along DropsNone is ↔
      ∀ js, js <+: is → StopsAtDisable (spiMachine.after js) (spiMachine.trace js) := by
  have none : Young spiMachine.init [] := ⟨nofun, by simp [NoStaleLaunch]⟩
  exact spiMachine.along_iff_prefixes none none.stops (fun _ _ _ yo drops => yo.step drops)
    (fun _ _ _ yo => ⟨fun drops => (yo.step drops).stops, dropsNone_of_stops⟩) is

/-- START is written, then ENABLE is cleared and set again before the core is ready. -/
def staleStart : List SpiIn :=
  [writing REG_CTRL 0b101, {}, writing REG_CTRL 0b111, {}, writing REG_CTRL 0b100, {},
    writing REG_CTRL 0b101, {}, offering]

/-- The START survives the disable, and is launched after the next enable. -/
theorem spiMachine_stale_start :
    (¬ ∀ is, ∀ js, js <+: is → StopsAtDisable (spiMachine.after js) (spiMachine.trace js)) ∧
      ¬ NoStaleLaunch (spiMachine.trace staleStart) := by
  refine ⟨fun h => ?_, fun h => ?_⟩
  · exact absurd ((h staleStart (staleStart.take 5) (List.take_prefix 5 _)).pending (by decide))
      (by decide)
  · refine h (spiMachine.trace (staleStart.take 8)) (spiMachine.trace staleStart)[8] [] ?_ ?_ ?_
    · decide
    · decide
    · exact ⟨spiMachine.trace (staleStart.take 4), (spiMachine.trace staleStart)[4],
        ((spiMachine.trace staleStart).drop 5).take 3, by decide, by decide, by decide⟩

end ModularControl.Spi
