import ModularControl.Pwm.Commit

/-!
# A deferred APPLY

While an APPLY is pending the active registers stay as they are and keep the core counting, so that
the counter runs up to the last count of the running period; there the pending commit happens. The
only thing that ever takes an APPLY off is that commit.
-/

namespace ModularControl.Pwm
open Sync Axi

variable {w n : Nat}

namespace Timed

/-- The core counts towards the end of a period of the active configuration. -/
structure Running (s : Timed w n) : Prop where
  enabled : s.enable = true
  period : s.regs.active.period ≠ 0
  inPeriod : s.cnt ≤ lastCount s.regs.active.period

/-- The cycles up to the last count of the running period. -/
def left (s : Timed w n) : Nat := (lastCount s.regs.active.period).toNat - s.cnt.toNat

/-- A pending APPLY finds the core running. -/
def PendingRuns (s : Timed w n) : Prop := s.regs.applyPending = true → s.Running

variable {s : Timed w n} {m : Mmio}

/-- An APPLY is pending in the next cycle only if none was committed in this one, and it is kept or
    accepted while the commit may wait. -/
lemma pending_step (pending : (s.step true m.valid m.req m.rspReady).regs.applyPending = true) :
    s.applyCommit true m.valid m.req m.rspReady = false ∧
      (s.regs.applyPending = true ∨ s.regs.safeToDelayApply = true) := by
  obtain ⟨-, -, cleared⟩ | ⟨wait, -⟩ := s.step_active m
  · rw [cleared] at pending
    cases pending
  · refine ⟨wait, ?_⟩
    have wait' : s.regs.applyCommitNow true s.periodEnd m.valid m.req m.rspReady = false := wait
    cases old : s.regs.applyPending with
    | true => exact .inl rfl
    | false =>
      have new : s.regs.applyPulse m.valid m.req m.rspReady = true ∧
          s.regs.safeToDelayApply = true := by
        simpa [step, RegsCommon.step, wait', old] using pending
      exact .inr new.2

lemma safe_iff (s : Timed w n) : s.regs.safeToDelayApply = true ↔
    s.enable = true ∧ s.regs.active.period ≠ 0 := by
  simp [RegsCommon.safeToDelayApply, enable]

/-- Without a commit a core that may defer one runs in the next cycle. -/
lemma running_step (wait : s.applyCommit true m.valid m.req m.rspReady = false)
    (enabled : s.enable = true) (period : s.regs.active.period ≠ 0) :
    (s.step true m.valid m.req m.rspReady).Running := by
  obtain ⟨commit, -⟩ | ⟨-, kept⟩ := s.step_active m
  · rw [wait] at commit
    cases commit
  · refine ⟨?_, ?_, ?_⟩
    · rw [enable, kept]
      exact enabled
    · rw [kept]
      exact period
    · rw [kept]
      simp only [step, enabled]
      exact nextCnt_le _ _

lemma PendingRuns.step (pr : s.PendingRuns) (m : Mmio) :
    (s.step true m.valid m.req m.rspReady).PendingRuns := by
  intro pending
  obtain ⟨wait, old | safe⟩ := pending_step pending
  · exact running_step wait (pr old).enabled (pr old).period
  · have safe := s.safe_iff.mp safe
    exact running_step wait safe.1 safe.2

/-- In a running core the end of the period is its last count. -/
lemma Running.periodEnd_iff (run : s.Running) :
    s.periodEnd = true ↔ s.left = 0 := by
  have le : s.cnt.toNat ≤ (lastCount s.regs.active.period).toNat := run.inPeriod
  have last : s.cnt = lastCount s.regs.active.period ↔
      s.cnt.toNat = (lastCount s.regs.active.period).toNat := BitVec.toNat_inj.symm
  rw [periodEnd, Pwm.periodEnd, run.enabled, Bool.true_and, beq_iff_eq, last, left]
  omega

/-- A pending APPLY is committed in the last cycle of the running period, and in no other. -/
lemma Running.commit_iff (run : s.Running) (pending : s.regs.applyPending = true) (m : Mmio) :
    s.applyCommit true m.valid m.req m.rspReady = true ↔ s.left = 0 := by
  have safe := s.safe_iff.mpr ⟨run.enabled, run.period⟩
  rw [applyCommit_iff, safe, pending, run.periodEnd_iff]
  simp

/-- Before the last cycle of the period the APPLY stays pending and the counter counts on. -/
lemma Running.waits (run : s.Running) (pending : s.regs.applyPending = true) (m : Mmio)
    (more : 0 < s.left) :
    (s.step true m.valid m.req m.rspReady).Running ∧
      (s.step true m.valid m.req m.rspReady).regs.applyPending = true ∧
      (s.step true m.valid m.req m.rspReady).regs.active = s.regs.active ∧
      (s.step true m.valid m.req m.rspReady).cnt.toNat = s.cnt.toNat + 1 := by
  have wait : s.applyCommit true m.valid m.req m.rspReady = false := by
    rw [← Bool.not_eq_true, run.commit_iff pending]
    omega
  obtain ⟨commit, -⟩ | ⟨-, kept⟩ := s.step_active m
  · rw [wait] at commit
    cases commit
  · refine ⟨running_step wait run.enabled run.period, ?_, kept, ?_⟩
    · have wait' : s.regs.applyCommitNow true s.periodEnd m.valid m.req m.rspReady = false := wait
      simp [step, RegsCommon.step, wait', pending]
    · have lt : s.cnt < lastCount s.regs.active.period := by
        rw [BitVec.lt_def]
        rw [left] at more
        omega
      simp only [step, run.enabled]
      exact nextCnt_counts lt

/-- The same after any number of cycles up to the last of the period. -/
lemma Running.waits_along (run : s.Running) (pending : s.regs.applyPending = true)
    {ms : List Mmio} (le : ms.length ≤ s.left) :
    ((pwmTimed w n).runFrom s ms).Running ∧
      ((pwmTimed w n).runFrom s ms).regs.applyPending = true ∧
      ((pwmTimed w n).runFrom s ms).regs.active = s.regs.active ∧
      ((pwmTimed w n).runFrom s ms).cnt.toNat = s.cnt.toNat + ms.length := by
  induction ms generalizing s with
  | nil => exact ⟨run, pending, rfl, rfl⟩
  | cons m ms ih =>
    rw [List.length_cons] at le
    obtain ⟨run', pending', active, cnt⟩ := run.waits pending m (by omega)
    have le' : ms.length ≤ (s.step true m.valid m.req m.rspReady).left := by
      rw [left, active, cnt]
      rw [left] at le
      omega
    obtain ⟨run'', pending'', active', cnt'⟩ := ih run' pending' le'
    refine ⟨run'', pending'', active'.trans active, cnt'.trans ?_⟩
    rw [cnt, List.length_cons]
    omega

end Timed

lemma pendingRuns_reachable (is : List Mmio) : ((pwmTimed w n).after is).PendingRuns := by
  refine (pwmTimed w n).invariant_rule (P := Timed.PendingRuns) (C := fun _ _ => True) ?_ ?_
    ((pwmTimed w n).along_true is)
  · intro pending
    cases pending
  · intro s m pr _
    exact pr.step m

/-- The fate of an APPLY pending in `s`, whatever is written meanwhile: the core is running, the
    counter counts through the running period with the active registers as they are, the commit
    comes in its last cycle and in no earlier one, and nothing but a commit takes the APPLY off. -/
structure Timed.CommitsAtPeriodEnd (s : Timed w n) : Prop where
  running : s.Running
  counts : ∀ ms : List Mmio, ms.length ≤ s.left →
    ((pwmTimed w n).runFrom s ms).cnt.toNat = s.cnt.toNat + ms.length ∧
      ((pwmTimed w n).runFrom s ms).regs.active = s.regs.active
  commits : ∀ (ms : List Mmio) (m : Mmio), ms.length ≤ s.left →
    (((pwmTimed w n).runFrom s ms).applyCommit true m.valid m.req m.rspReady = true ↔
      ms.length = s.left)
  cleared : ∀ m : Mmio, (s.step true m.valid m.req m.rspReady).regs.applyPending = false →
    s.applyCommit true m.valid m.req m.rspReady = true

/-- For every counter width, number of channels and run: a pending APPLY is committed at the end of
    the running period. -/
theorem pwm_pending_apply_commits (is : List Mmio)
    (pending : ((pwmTimed w n).after is).regs.applyPending = true) :
    ((pwmTimed w n).after is).CommitsAtPeriodEnd := by
  have run := pendingRuns_reachable is pending
  refine ⟨run, fun ms le => ?_, fun ms m le => ?_, fun m gone => ?_⟩
  · obtain ⟨-, -, active, cnt⟩ := run.waits_along pending le
    exact ⟨cnt, active⟩
  · obtain ⟨run', pending', active, cnt⟩ := run.waits_along pending le
    rw [run'.commit_iff pending', Timed.left, active, cnt]
    rw [Timed.left] at le ⊢
    omega
  · rw [run.commit_iff pending]
    by_contra more
    obtain ⟨-, kept, -, -⟩ := run.waits pending m (by omega)
    rw [kept] at gone
    cases gone

/-- Enable is applied with a period of 8 and two further APPLYs are written, the second of them
    while the first is pending. -/
def deferredApply : List Mmio :=
  [write REG_CTRL 1, write REG_PERIOD 8, write REG_APPLY 1, write REG_APPLY 1, write REG_APPLY 1]

/-- The APPLY is pending at count 2 and has five cycles to wait. -/
theorem pwm_pending_apply_commits_deferred :
    ((pwmTimed 32 4).after deferredApply).left = 5 ∧
      ((pwmTimed 32 4).after deferredApply).CommitsAtPeriodEnd :=
  ⟨by decide +kernel, pwm_pending_apply_commits deferredApply (by decide +kernel)⟩

end ModularControl.Pwm
