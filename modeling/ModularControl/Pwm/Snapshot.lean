import ModularControl.Pwm.Commit

/-!
# What an APPLY commits

A deferred commit copies the shadow registers of the commit cycle, not those of the APPLY that
asked for it. The two are the same exactly if the writes accepted in between, run on the shadow set
of the APPLY, give that set back (`Undisturbed`); otherwise the writes leak into the active set, and
of a frame of writes that straddles the end of the period, only the first part does.
-/

namespace ModularControl.Pwm
open Sync Axi

variable {w n : Nat}

/-- A complete set of settings: the common registers and the H-bridge masks. -/
structure Settings (w n : Nat) where
  config : Config w n
  masks : Masks n
deriving DecidableEq

/-- A write as the owner of its address performs it on a set of settings. -/
def Settings.write (st : Settings w n) (q : MmioReq) : Settings w n :=
  if Motor.routeToExt q then { st with masks := RegsHbridge.written st.masks q }
  else { st with config := RegsCommon.written st.config q }

namespace Motor

variable (s : Motor w n) (m : Mmio)

def shadow : Settings w n := ⟨s.timed.regs.shadow, s.ext.shadow⟩
def active : Settings w n := ⟨s.timed.regs.active, s.ext.active⟩

/-- The write accepted in a cycle. -/
def acceptedWrite : Option MmioReq :=
  if s.reqFire m.valid m.req m.rspReady && m.req.write then some m.req else none

/-- `apply_pulse` of the common block. -/
def applyPulse : Bool :=
  s.timed.regs.applyPulse (s.commonReqValid m.valid m.req) m.req (s.commonRspReady m.rspReady)

/-- The motor subsystem after a clock edge, with deferred commits. -/
def after (m : Mmio) : Motor w n := s.step true m.valid m.req m.rspReady

end Motor

/-- What a cycle of the motor subsystem does to its settings. -/
structure ApplyCycle (w n : Nat) where
  write : Option MmioReq
  apply : Bool
  shadowAfter : Settings w n
  commit : Bool
  active : Settings w n
  activeAfter : Settings w n
deriving DecidableEq

/-- The settings observed in a cycle. -/
def Motor.observe (s : Motor w n) (m : Mmio) : ApplyCycle w n where
  write := s.acceptedWrite m
  apply := s.applyPulse m
  shadowAfter := (s.after m).shadow
  commit := s.applyCommit true m.valid m.req m.rspReady
  active := s.active
  activeAfter := (s.after m).active

/-- `pwm_subsystem_motor` with the settings observed. -/
def motorSettings (w n : Nat) : Machine (Motor w n) Mmio (ApplyCycle w n) where
  init := .reset w n
  step s m := s.after m
  out s m := s.observe m

/-- The shadow set right after the most recent APPLY. -/
def snapshot (os : List (ApplyCycle w n)) : Option (Settings w n) :=
  (os.filter (·.apply)).getLast?.map (·.shadowAfter)

/-- The writes accepted since the most recent APPLY. -/
def writesSince (os : List (ApplyCycle w n)) : List MmioReq :=
  os.foldl (fun qs o => if o.apply then [] else qs ++ o.write.toList) []

/-- Every commit takes the snapshot of the most recent APPLY, and nothing else changes the active
    set. -/
def AtomicApply (os : List (ApplyCycle w n)) : Prop :=
  ∀ pre o post, os = pre ++ o :: post →
    (o.commit = true → snapshot (pre ++ [o]) = some o.activeAfter) ∧
      (o.commit = false → o.activeAfter = o.active)

/-- At every commit that waited, the writes accepted since the most recent APPLY leave its shadow
    set as it was. -/
def Undisturbed (os : List (ApplyCycle w n)) : Prop :=
  ∀ pre o post, os = pre ++ o :: post → o.commit = true → o.apply = false →
    ∀ st ∈ snapshot pre, (writesSince pre).foldl Settings.write st = st

lemma snapshot_snoc (os : List (ApplyCycle w n)) (o : ApplyCycle w n) :
    snapshot (os ++ [o]) = if o.apply then some o.shadowAfter else snapshot os := by
  cases h : o.apply <;> simp [snapshot, h]

lemma writesSince_snoc (os : List (ApplyCycle w n)) (o : ApplyCycle w n) :
    writesSince (os ++ [o]) = if o.apply then [] else writesSince os ++ o.write.toList := by
  simp [writesSince]

/-- A request reaches the common block exactly if the subsystem accepts it for that block. -/
lemma Motor.Tracked.commonFire {s : Motor w n} (tr : s.Tracked) (m : Mmio) :
    s.timed.regs.reqFire (s.commonReqValid m.valid m.req) (s.commonRspReady m.rspReady) =
      (s.reqFire m.valid m.req m.rspReady && !Motor.routeToExt m.req) := by
  have common := tr.common
  cases hp : s.pendingCommon <;> cases he : s.extRspValidReg <;> cases hv : m.valid <;>
    cases hx : Motor.routeToExt m.req <;>
    simp [RegsCommon.reqFire, RegsCommon.reqReady, RegsCommon.rspFire, Motor.reqFire,
      Motor.reqReady, Motor.idle, Motor.commonReqValid, Motor.commonRspReady, common, hp, he, hx]

/-- What a cycle does to the shadow set: the write it accepts, performed by the owner of its
    address. -/
lemma Motor.Tracked.shadow_after {s : Motor w n} (tr : s.Tracked) (m : Mmio) :
    (s.after m).shadow = (s.acceptedWrite m).toList.foldl Settings.write s.shadow := by
  have fire := tr.commonFire m
  cases hf : s.reqFire m.valid m.req m.rspReady <;> cases hw : m.req.write <;>
    cases hx : Motor.routeToExt m.req <;> rw [hf, hx] at fire <;>
    simp [Motor.after, Motor.shadow, Motor.step, Timed.step, RegsCommon.step, RegsHbridge.step,
      Motor.extWrEn, Motor.acceptedWrite, Settings.write, fire, hf, hw, hx]
  all_goals
    simp [Motor.routeToExt] at hx
    simp [hx]

/-- What a cycle does to the active set: a commit copies the shadow set, as it is before the edge. -/
lemma Motor.active_after (s : Motor w n) (m : Mmio) :
    (s.after m).active =
      if s.applyCommit true m.valid m.req m.rspReady then s.shadow else s.active := by
  cases h : s.applyCommit true m.valid m.req m.rspReady with
  | true | false =>
    have h' : s.timed.regs.applyCommitNow true s.timed.periodEnd (s.commonReqValid m.valid m.req)
      m.req (s.commonRspReady m.rspReady) = _ := h
    simp [Motor.after, Motor.active, Motor.shadow, Motor.step, Timed.step, RegsCommon.step,
      RegsHbridge.step, h, h']

/-- A commit is asked for by an APPLY of its cycle or by a pending one. -/
lemma Motor.commit_asked {s : Motor w n} {m : Mmio}
    (commit : s.applyCommit true m.valid m.req m.rspReady = true) :
    s.applyPulse m = true ∨ s.timed.regs.applyPending = true :=
  ((s.timed.applyCommit_iff ⟨s.commonReqValid m.valid m.req, m.req,
    s.commonRspReady m.rspReady⟩).mp commit).1

/-- An APPLY is asked for by a write of its own, which changes no shadow register. -/
lemma Motor.Tracked.shadow_apply {s : Motor w n} (tr : s.Tracked) {m : Mmio}
    (pulse : s.applyPulse m = true) : (s.after m).shadow = s.shadow := by
  have addr : m.req.addr = REG_APPLY := by
    simp only [Motor.applyPulse, RegsCommon.applyPulse, Bool.and_eq_true, beq_iff_eq] at pulse
    exact pulse.1.2
  have hit : dutyHit n 0x08#12 = none := by
    simp [dutyHit, REG_DUTY_BASE]
  rw [tr.shadow_after m]
  cases hw : s.acceptedWrite m with
  | none => rfl
  | some q =>
    have same : m.req = q := by
      simp only [Motor.acceptedWrite, Option.ite_none_right_eq_some, Option.some.injEq] at hw
      exact hw.2
    subst same
    simp [Settings.write, Motor.routeToExt, RegsHbridge.regHit, RegsCommon.written, addr, hit,
      REG_APPLY, REG_DIR_MASK, REG_BRAKE_MASK, REG_COAST_MASK, REG_CTRL, REG_PERIOD, REG_CH_ENABLE]

/-- An APPLY stays pending from its own cycle on. -/
lemma Motor.pending_after {s : Motor w n} {m : Mmio}
    (pending : (s.after m).timed.regs.applyPending = true) :
    s.applyPulse m = true ∨ s.timed.regs.applyPending = true := by
  cases hp : s.applyPulse m with
  | true => exact .inl rfl
  | false =>
    have hp : s.timed.regs.applyPulse (s.commonReqValid m.valid m.req) m.req
      (s.commonRspReady m.rspReady) = false := hp
    right
    simp only [Motor.after, Motor.step, Timed.step, RegsCommon.step, hp, Bool.false_and,
      Bool.false_eq_true, if_false, Bool.if_false_left, Bool.and_eq_true] at pending
    exact pending.2

/-- The registers against the settings observed so far: the shadow set is that of the most recent
    APPLY with the writes accepted since, and a pending APPLY is among those observed. -/
structure Recorded (s : Motor w n) (os : List (ApplyCycle w n)) : Prop where
  tracked : s.Tracked
  shadow : ∀ st ∈ snapshot os, s.shadow = (writesSince os).foldl Settings.write st
  pending : s.timed.regs.applyPending = true → (snapshot os).isSome = true

lemma Recorded.step {s : Motor w n} {os : List (ApplyCycle w n)} (book : Recorded s os)
    (m : Mmio) : Recorded (s.after m) (os ++ [s.observe m]) := by
  refine ⟨book.tracked.step true m.valid m.req m.rspReady, ?_, ?_⟩
  · intro st mem
    rw [snapshot_snoc] at mem
    rw [writesSince_snoc]
    cases hp : s.applyPulse m with
    | true =>
      simp only [Motor.observe, hp, if_true, Option.mem_def, Option.some.injEq] at mem ⊢
      exact mem
    | false =>
      simp only [Motor.observe, hp, Bool.false_eq_true, if_false] at mem ⊢
      rw [List.foldl_append, ← book.shadow st mem]
      exact book.tracked.shadow_after m
  · intro pend
    rw [snapshot_snoc]
    cases hp : s.applyPulse m with
    | true => simp [Motor.observe, hp]
    | false =>
      obtain pulse | old := Motor.pending_after pend
      · rw [hp] at pulse
        cases pulse
      · simpa [Motor.observe, hp] using book.pending old

/-- A commit without an APPLY of its own takes the snapshot exactly if the writes accepted since
    leave it as it was. -/
lemma Recorded.commit_waited {s : Motor w n} {os : List (ApplyCycle w n)} (book : Recorded s os)
    {m : Mmio} (commit : s.applyCommit true m.valid m.req m.rspReady = true)
    (hp : s.applyPulse m = false) :
    snapshot os = some (s.after m).active ↔
      ∀ st ∈ snapshot os, (writesSince os).foldl Settings.write st = st := by
  have active := s.active_after m
  rw [commit, if_pos rfl] at active
  have pending : s.timed.regs.applyPending = true := by
    obtain pulse | pending := Motor.commit_asked commit
    · rw [hp] at pulse
      cases pulse
    · exact pending
  obtain ⟨st, mem⟩ := Option.isSome_iff_exists.mp (book.pending pending)
  have now := book.shadow st mem
  rw [active, now, mem]
  constructor
  · intro same st' mem'
    cases Option.mem_some_iff.mp mem'
    exact (Option.some.inj same).symm
  · intro kept
    rw [kept st rfl]

/-- A commit together with its APPLY always takes the snapshot. -/
lemma Recorded.commit_at_once {s : Motor w n} {os : List (ApplyCycle w n)} (book : Recorded s os)
    {m : Mmio} (commit : s.applyCommit true m.valid m.req m.rspReady = true)
    (hp : s.applyPulse m = true) : (s.after m).shadow = (s.after m).active := by
  rw [book.tracked.shadow_apply hp, s.active_after m, commit, if_pos rfl]

lemma recorded_along (w n : Nat) (is : List Mmio) :
    Recorded ((motorSettings w n).after is) ((motorSettings w n).trace is) := by
  refine (motorSettings w n).history_rule (P := Recorded) (C := fun _ _ => True) ?_ ?_
    ((motorSettings w n).along_true is)
  · refine ⟨(pwmSubsystemMotor_lawful true).init, ?_, ?_⟩
    · intro st mem
      cases mem
    · intro h
      cases h
  · intro s os m book _
    exact book.step m

/-- In every run of the motor subsystem, for every counter width and number of channels, APPLY is an
    atomic snapshot exactly if no commit was disturbed. -/
theorem motor_apply_atomic_iff (is : List Mmio) :
    AtomicApply ((motorSettings w n).trace is) ↔ Undisturbed ((motorSettings w n).trace is) := by
  constructor
  · intro atomic pre o post split commit noApply
    have taken := (atomic pre o post split).1 commit
    obtain ⟨is₁, m, is₂, -, rfl, rfl⟩ := (motorSettings w n).trace_split split
    have book := recorded_along w n is₁
    rw [snapshot_snoc, noApply, if_neg Bool.false_ne_true] at taken
    exact (book.commit_waited commit noApply).mp taken
  · intro undisturbed pre o post split
    have leave := undisturbed pre o post split
    obtain ⟨is₁, m, is₂, -, rfl, rfl⟩ := (motorSettings w n).trace_split split
    have book := recorded_along w n is₁
    refine ⟨?_, ?_⟩
    · intro commit
      rw [snapshot_snoc]
      cases hp : ((motorSettings w n).after is₁).applyPulse m with
      | true =>
        have apply : ((motorSettings w n).out ((motorSettings w n).after is₁) m).apply = true := hp
        rw [apply, if_pos rfl]
        exact congrArg some (book.commit_at_once commit hp)
      | false =>
        have apply : ((motorSettings w n).out ((motorSettings w n).after is₁) m).apply = false := hp
        rw [apply, if_neg Bool.false_ne_true]
        exact (book.commit_waited commit hp).mpr (leave commit hp)
    · intro commit
      have stay : ((motorSettings w n).after is₁).applyCommit true m.valid m.req m.rspReady =
        false := commit
      have active := ((motorSettings w n).after is₁).active_after m
      rw [stay, if_neg Bool.false_ne_true] at active
      exact active

/-- A cycle in which software asks for nothing. -/
def pause : Mmio := ⟨false, ⟨false, 0, 0, 0⟩, true⟩

/-- Enable with a period of 8, then a frame of two writes and an APPLY, then the first write of the
    next frame just before the period ends. -/
def tornFrame : List Mmio :=
  [write REG_CTRL 1, pause, write REG_PERIOD 8, pause, write REG_APPLY 1, pause,
    write REG_DUTY_BASE 5, pause, write REG_APPLY 1, pause, write REG_DIR_MASK 1, pause, pause]

/-- The direction of the next frame is committed with the duty of the frame before it. -/
theorem motor_apply_torn : ¬ AtomicApply ((motorSettings 32 4).trace tornFrame) := by
  intro atomic
  have last := atomic ((motorSettings 32 4).trace tornFrame.dropLast)
    ((motorSettings 32 4).out ((motorSettings 32 4).after tornFrame.dropLast) pause) []
    (by decide +kernel)
  exact absurd (last.1 (by decide +kernel)) (by decide +kernel)

end ModularControl.Pwm
