import ModularControl.Spi.Starts

/-!
# The vendor core and the open transaction

`spi_regs` with a vendor core that is ready when it likes and returns one word, strictly later, for
each word it takes. ENABLE cannot be written while the transaction is open, so an open transaction
with ENABLE cleared could never be closed; there is one way into it, a launch that opens the
transaction in the cycle of a write that clears ENABLE.
-/

namespace ModularControl.Spi
open Sync Axi

/-- `spi_regs` and the number of words its vendor core has taken and not yet returned. -/
structure SpiSystem where
  regs : SpiRegs
  inFlight : Nat
deriving DecidableEq

namespace SpiSystem

variable (s : SpiSystem) (i : SpiIn)

/-- The inputs of the registers: the core returns a word only if it has one. -/
def seen : SpiIn := { i with core.rvalid := i.core.rvalid && decide (0 < s.inFlight) }

def step : SpiSystem where
  regs := spiMachine.step s.regs (s.seen i)
  inFlight :=
    s.inFlight + (if s.regs.coreWvalid i.core then 1 else 0) -
      (if (s.seen i).core.rvalid then 1 else 0)

end SpiSystem

/-- The registers and their vendor core as one machine. -/
def spiSystem : Machine SpiSystem SpiIn SpiObs where
  init := ⟨.reset, 0⟩
  step s i := s.step i
  out s i := s.regs.observe (s.seen i)

/-- The write ENABLE|XFER_END|START. -/
def closeWrite (core : CoreIn) : SpiIn := { writing REG_CTRL 0b111 with core }

/-- Nothing is requested. -/
def idling (core : CoreIn) : SpiIn := { core }

/-- The transaction can be closed: between two bytes, while the request port is free, a write of
    ENABLE|XFER_END|START launches a final byte as soon as the core is ready. -/
def Closable (s : SpiSystem) : Prop :=
  s.regs.busy = false → s.regs.xferOpen = true → s.regs.rspValid = false →
    ∀ (c : CoreIn) (waits : List CoreIn) (ready : CoreIn),
      (∀ w ∈ waits, w.wready = false) → ready.wready = true →
        launches (spiSystem.traceFrom s (closeWrite c :: (waits ++ [ready]).map idling)) =
          [(s.regs.txdataReg, true)]

/-- An open transaction finds ENABLE set and can be closed. -/
structure NoLock (s : SpiSystem) : Prop where
  enabled : s.regs.xferOpen = true → s.regs.ctrlEnable = true
  closable : Closable s

/-- A launch that opens a transaction does not come with a write that clears ENABLE. -/
def OpensEnabled (s : SpiSystem) (i : SpiIn) : Prop :=
  s.regs.coreWvalid i.core = true → s.regs.disables i = false

instance : DecidableRel OpensEnabled := fun _ _ => inferInstanceAs (Decidable (_ → _))

/-- A word in flight keeps BUSY set and the transaction open. -/
structure Sound (s : SpiSystem) : Prop where
  flight : s.inFlight = if s.regs.busy then 1 else 0
  opened : s.regs.busy = true → s.regs.xferOpen = true

variable {s : SpiSystem} {i : SpiIn}

lemma SpiSystem.busy_step : (s.step i).regs.busy =
    if (s.seen i).core.rvalid then false
    else if s.regs.coreWvalid i.core then true else s.regs.busy := rfl

lemma SpiSystem.xferOpen_step : (s.step i).regs.xferOpen =
    if (s.seen i).core.rvalid then !s.regs.launchedXferEnd
    else if s.regs.coreWvalid i.core then true else s.regs.xferOpen := rfl

/-- While no byte is in flight none is returned. -/
lemma Sound.quiet (so : Sound s) (idle : s.regs.busy = false) : (s.seen i).core.rvalid = false := by
  simp [SpiSystem.seen, so.flight, idle]

lemma Sound.step (so : Sound s) : Sound (s.step i) := by
  cases idle : s.regs.busy with
  | false =>
    have quiet := so.quiet (i := i) idle
    refine ⟨?_, ?_⟩
    · rw [SpiSystem.busy_step, SpiSystem.step, quiet, so.flight, idle]
      cases s.regs.coreWvalid i.core <;> rfl
    · rw [SpiSystem.busy_step, SpiSystem.xferOpen_step, quiet, idle]
      cases s.regs.coreWvalid i.core <;> simp
  | true =>
    have still : s.regs.coreWvalid i.core = false := by
      simp [SpiRegs.coreWvalid, SpiRegs.txFire, SpiRegs.startFire, idle]
    refine ⟨?_, ?_⟩
    · rw [SpiSystem.busy_step, SpiSystem.step, so.flight, idle, still]
      cases (s.seen i).core.rvalid <;> rfl
    · rw [SpiSystem.busy_step, SpiSystem.xferOpen_step, idle, still, so.opened idle]
      cases (s.seen i).core.rvalid <;> simp

/-! ## Closing an open transaction -/

lemma launches_traceFrom_cons (s : SpiSystem) (i : SpiIn) (is : List SpiIn) :
    launches (spiSystem.traceFrom s (i :: is)) =
      (if s.regs.coreWvalid i.core then [(s.regs.txdataReg, s.regs.xferEndNow (s.seen i))] else []) ++
        launches (spiSystem.traceFrom (s.step i) is) := by
  have launch : (spiSystem.out s i).launch =
      if s.regs.coreWvalid i.core then some (s.regs.txdataReg, s.regs.xferEndNow (s.seen i))
      else none := SpiRegs.observe_launch
  rw [Machine.traceFrom_cons, launches, List.filterMap_cons, launch]
  cases s.regs.coreWvalid i.core <;> rfl

/-- Without a pending START nothing is launched until one is written. -/
lemma no_launch (none : s.regs.startPending = false) (cs : List CoreIn) :
    launches (spiSystem.traceFrom s (cs.map idling)) = [] := by
  induction cs generalizing s with
  | nil => rfl
  | cons c cs ih =>
    have still : s.regs.coreWvalid (idling c).core = false := by
      simp [SpiRegs.coreWvalid, SpiRegs.txFire, SpiRegs.startFire, none]
    have next : (s.step (idling c)).regs.startPending = false := by
      rw [SpiSystem.step, SpiRegs.startPending_step, none]
      simp [SpiRegs.startAccepted, SpiRegs.startCmdFire, SpiRegs.wrCtrlFire, SpiRegs.wrFire,
        SpiRegs.reqFire, SpiSystem.seen, idling]
    rw [List.map_cons, launches_traceFrom_cons, still]
    exact ih next

/-- A final byte waits for the core. -/
structure Final (s : SpiSystem) (b : BitVec 8) : Prop where
  sound : Sound s
  pending : s.regs.startPending = true
  enabled : s.regs.ctrlEnable = true
  idle : s.regs.busy = false
  flag : s.regs.ctrlXferEnd = true
  byte : s.regs.txdataReg = b

/-- A final byte is launched in the first cycle in which the core is ready. -/
lemma Final.launched {b : BitVec 8} (fi : Final s b) {waits : List CoreIn} {ready : CoreIn}
    (wait : ∀ w ∈ waits, w.wready = false) (takes : ready.wready = true) :
    launches (spiSystem.traceFrom s ((waits ++ [ready]).map idling)) = [(b, true)] := by
  induction waits generalizing s with
  | nil =>
    have offers : (s.seen (idling ready)).Offers := ⟨rfl, takes⟩
    have launch : (spiSystem.out s (idling ready)).launch = some (b, true) := by
      have at_ready := SpiRegs.launch_of_offers (s := s.regs) offers
      rw [fi.pending, fi.enabled, fi.idle, fi.flag, fi.byte] at at_ready
      exact at_ready
    exact List.filterMap_cons_some launch
  | cons w waits ih =>
    rw [List.forall_mem_cons] at wait
    have still : s.regs.coreWvalid (idling w).core = false := by
      have low : (idling w).core.wready = false := wait.1
      simp [SpiRegs.coreWvalid, SpiRegs.txFire, SpiRegs.startFire, low]
    have noReq : (s.seen (idling w)).reqValid = false := rfl
    have noWrite : s.regs.wrCtrl (s.seen (idling w)) = false := by
      simp [SpiRegs.wrCtrl, SpiRegs.wrCtrlFire, SpiRegs.wrFire, SpiRegs.reqFire, noReq]
    have next : Final (s.step (idling w)) b := by
      refine ⟨fi.sound.step, ?_, ?_, ?_, ?_, ?_⟩
      · show (spiMachine.step s.regs (s.seen (idling w))).startPending = true
        rw [SpiRegs.startPending_step, show s.regs.coreWvalid (s.seen (idling w)).core = false from
          still, fi.pending]
        simp
      · rw [SpiSystem.step, SpiRegs.ctrlEnable_step fi.enabled, SpiRegs.disables, noWrite]
        rfl
      · exact SpiRegs.busy_step fi.idle still
      · rw [SpiSystem.step, SpiRegs.ctrlXferEnd_step, ← fi.flag, SpiRegs.xferEndNow_eq, noWrite]
        simp
      · rw [SpiSystem.step, ← fi.byte, SpiRegs.txdataReg_step]
        simp [SpiRegs.wrTxdataFire, SpiRegs.wrFire, SpiRegs.reqFire, noReq]
    rw [List.cons_append, List.map_cons, launches_traceFrom_cons, still]
    exact ih next wait.2

/-- An open transaction with ENABLE set can be closed. -/
lemma closable_of_enabled (so : Sound s)
    (enabled : s.regs.xferOpen = true → s.regs.ctrlEnable = true) : Closable s := by
  intro idle opened free c waits ready wait takes
  have on := enabled opened
  have cmd : s.regs.startCmdFire true (closeWrite c).req = true := by
    simp [SpiRegs.startCmdFire, SpiRegs.wrCtrlFire, SpiRegs.wrFire, SpiRegs.reqFire,
      SpiRegs.reqReady, free, closeWrite, writing, CTRL_START_BIT]
  have accepted : s.regs.startAccepted (s.seen (closeWrite c)) = true :=
    SpiRegs.startAccepted_iff.mpr ⟨cmd, on, idle⟩
  have write : s.regs.wrCtrl (s.seen (closeWrite c)) = true := by
    simp only [SpiRegs.startCmdFire, Bool.and_eq_true] at cmd
    simp only [SpiRegs.wrCtrl, Bool.and_eq_true]
    exact cmd.1
  have flag : s.regs.xferEndNow (s.seen (closeWrite c)) = true := by
    show (if s.regs.wrCtrl (s.seen (closeWrite c)) then
      (0b111#32).getLsbD CTRL_XFER_END_BIT else s.regs.ctrlXferEnd) = true
    rw [write, if_pos rfl]
    decide
  rw [launches_traceFrom_cons, flag]
  cases launched : s.regs.coreWvalid (closeWrite c).core with
  | true =>
    -- an older START is launched by the write's own cycle, as a final byte
    have none : (s.step (closeWrite c)).regs.startPending = false := by
      show (spiMachine.step s.regs (s.seen (closeWrite c))).startPending = false
      rw [SpiRegs.startPending_step,
        show s.regs.coreWvalid (s.seen (closeWrite c)).core = true from launched]
      rfl
    rw [no_launch none]
    rfl
  | false =>
    have still : s.regs.coreWvalid (s.seen (closeWrite c)).core = false := launched
    have next : Final (s.step (closeWrite c)) s.regs.txdataReg := by
      refine ⟨so.step, ?_, ?_, SpiRegs.busy_step idle still, flag,
        SpiRegs.txdataReg_of_start accepted⟩
      · show (spiMachine.step s.regs (s.seen (closeWrite c))).startPending = true
        rw [SpiRegs.startPending_step, still, accepted]
        rfl
      · show (spiMachine.step s.regs (s.seen (closeWrite c))).ctrlEnable = true
        rw [SpiRegs.ctrlEnable_step on, SpiRegs.disables, opened]
        simp
    exact next.launched wait takes

/-! ## Locking up -/

/-- The step lemma: a transaction opens, or stays open, under ENABLE. -/
lemma enabled_step (so : Sound s) (enabled : s.regs.xferOpen = true → s.regs.ctrlEnable = true)
    (opens : OpensEnabled s i) (opened : (s.step i).regs.xferOpen = true) :
    (s.step i).regs.ctrlEnable = true := by
  have keeps (on : s.regs.ctrlEnable = true) (kept : s.regs.disables (s.seen i) = false) :
      (s.step i).regs.ctrlEnable = true := by
    show (spiMachine.step s.regs (s.seen i)).ctrlEnable = true
    rw [SpiRegs.ctrlEnable_step on, kept]
    rfl
  have locked (opened : s.regs.xferOpen = true) : s.regs.disables (s.seen i) = false := by
    simp [SpiRegs.disables, opened]
  cases back : (s.seen i).core.rvalid with
  | true =>
    have busy : s.regs.busy = true := by
      by_contra idle
      rw [so.quiet (Bool.not_eq_true _ ▸ idle)] at back
      cases back
    exact keeps (enabled (so.opened busy)) (locked (so.opened busy))
  | false =>
    rw [SpiSystem.xferOpen_step, back] at opened
    cases launched : s.regs.coreWvalid i.core with
    | true => exact keeps (SpiRegs.pending_of_launch launched).2.1 (opens launched)
    | false =>
      rw [launched] at opened
      exact keeps (enabled opened) (locked opened)

/-- A launch that opens a transaction while ENABLE is cleared is the step that locks it. -/
lemma opensEnabled_of_noLock (so : Sound s) (nl : NoLock (s.step i)) : OpensEnabled s i := by
  intro launched
  by_contra dis
  rw [Bool.not_eq_false] at dis
  have idle := (SpiRegs.pending_of_launch launched).2.2.1
  have opened : (s.step i).regs.xferOpen = true := by
    rw [SpiSystem.xferOpen_step, so.quiet idle, launched]
    rfl
  have on := nl.enabled opened
  simp only [SpiRegs.disables, Bool.and_eq_true, Bool.not_eq_true'] at dis
  have off : (s.step i).regs.ctrlEnable = false := by
    show (if s.regs.wrCtrl (s.seen i) && !s.regs.xferOpen then
      (s.seen i).req.wdata.getLsbD CTRL_ENABLE_BIT else s.regs.ctrlEnable) = false
    rw [show s.regs.wrCtrl (s.seen i) = true from dis.1.1, dis.1.2]
    exact dis.2
  rw [off] at on
  cases on

/-- An open transaction finds ENABLE set and can be closed, in every state of a run, exactly if no
    launch of the run opens a transaction under a write that clears ENABLE. -/
theorem spiSystem_no_lock (is : List SpiIn) :
    spiSystem.Along OpensEnabled is ↔ ∀ js, js <+: is → NoLock (spiSystem.after js) := by
  have reset : Sound spiSystem.init := ⟨rfl, nofun⟩
  apply spiSystem.along_iff_prefixes (Q := fun s _ => NoLock s)
    (P := fun s _ => Sound s ∧ (s.regs.xferOpen = true → s.regs.ctrlEnable = true))
  · exact ⟨reset, nofun⟩
  · exact ⟨nofun, closable_of_enabled reset nofun⟩
  · rintro s - i ⟨so, enabled⟩ opens
    exact ⟨so.step, enabled_step so enabled opens⟩
  · rintro s - i ⟨so, enabled⟩
    refine ⟨fun opens => ?_, opensEnabled_of_noLock so⟩
    have next := enabled_step so enabled opens
    exact ⟨next, closable_of_enabled so.step next⟩

/-- START is written, and ENABLE and XFER_END are cleared in the cycle the core becomes ready; the
    core then returns its word. -/
def lockUp : List SpiIn :=
  [writing REG_CTRL 0b001, {}, writing REG_CTRL 0b011, {},
    { writing REG_CTRL 0b000 with core := { wready := true } }, { core := { rvalid := true } }]

/-- No step leaves the locked state: the transaction is open between two bytes, with ENABLE
    cleared. -/
lemma locked_step (so : Sound s) (idle : s.regs.busy = false) (opened : s.regs.xferOpen = true)
    (off : s.regs.ctrlEnable = false) :
    (s.step i).regs.busy = false ∧ (s.step i).regs.xferOpen = true ∧
      (s.step i).regs.ctrlEnable = false := by
  have still : s.regs.coreWvalid i.core = false := by
    simp [SpiRegs.coreWvalid, SpiRegs.txFire, SpiRegs.startFire, off]
  refine ⟨?_, ?_, ?_⟩
  · rw [SpiSystem.busy_step, so.quiet idle, still, idle]
    rfl
  · rw [SpiSystem.xferOpen_step, so.quiet idle, still, opened]
    rfl
  · show (if s.regs.wrCtrl (s.seen i) && !s.regs.xferOpen then
      (s.seen i).req.wdata.getLsbD CTRL_ENABLE_BIT else s.regs.ctrlEnable) = false
    rw [opened, off, Bool.not_true, Bool.and_false]
    rfl

/-- After that run the transaction is open with ENABLE cleared, and no further run closes it. -/
theorem spiSystem_lock_up :
    (¬ ∀ is, ∀ js, js <+: is → NoLock (spiSystem.after js)) ∧
      ∀ is, (spiSystem.after (lockUp ++ is)).regs.xferOpen = true := by
  refine ⟨fun h => ?_, fun is => ?_⟩
  · exact absurd ((h lockUp lockUp (List.prefix_refl _)).enabled (by decide)) (by decide)
  · rw [Machine.after_append]
    have stuck := spiSystem.invariant_runFrom (C := fun _ _ => True)
      (P := fun s => Sound s ∧ s.regs.busy = false ∧ s.regs.xferOpen = true ∧
        s.regs.ctrlEnable = false)
    refine (stuck ?_ ?_ (spiSystem.alongFrom_of_forall (fun _ _ => trivial) _ is)).2.2.1
    · rintro s i ⟨so, idle, opened, off⟩ -
      obtain ⟨idle', opened', off'⟩ := locked_step (i := i) so idle opened off
      exact ⟨so.step, idle', opened', off'⟩
    · exact ⟨⟨by decide, by decide⟩, by decide, by decide, by decide⟩

end ModularControl.Spi
