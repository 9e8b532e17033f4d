import ModularControl.I2c.StuckLow

/-!
# The START of a transfer

The driver takes a ready core that is not idle for one that has made its START. On an idle core it
is right as far as the core goes: the START is accepted, and makes a condition on the bus unless the
slave holds a line low just then. On a bus that is held already the START is illegal, the core stays
where it is, and the driver cannot tell.
-/

namespace ModularControl.I2c
open Sync Axi

namespace I2cRegs

variable (s : I2cRegs) (i : Port Drive MmioReq)

/-- What the block drives into its core in the cycle `i`. -/
def coreAt : CoreIn := s.coreIn (s.pins i.env) i.valid i.req i.rspReady

/-- The block launches a START command. -/
def launchesStart : Bool :=
  s.launchCmdFire i.valid i.req i.rspReady && (merged i.req).setWidth 3 == START_CMD

/-- The core accepts the START as legal. -/
def acceptsStart : Bool :=
  s.core.idleStartFire (s.coreAt i) && !s.core.cmdIllegal (s.coreAt i)

end I2cRegs

section Began

variable (minDivisor : BitVec 16) (s : I2cRegs) (past : List (Port Drive MmioReq))

/-- No START command is launched in the cycles `past`. -/
def NoStart : Prop :=
  (wired minDivisor).machine.AlongFrom (fun s i => s.launchesStart i = false) s past

/-- The first START command of the cycles `past` from the registers `s` is launched in the cycle
    `i`, after `pre` and before `post`. -/
structure FirstStart (pre : List (Port Drive MmioReq)) (i : Port Drive MmioReq)
    (post : List (Port Drive MmioReq)) : Prop where
  past : past = pre ++ i :: post
  none : NoStart minDivisor s pre
  launch : ((wired minDivisor).machine.runFrom s pre).launchesStart i = true

/-- In the two cycles after its first START command the slave drives `d` and `d'`. -/
def SlaveAtStart (d d' : Drive) : Prop :=
  ∀ pre i j k post, FirstStart minDivisor s past pre i (j :: k :: post) → j.env = d ∧ k.env = d'

/-- Exactly one START command is launched in the cycles `past`; the core accepts it as legal, and a
    START condition follows on the bus. -/
def StartMade : Prop :=
  ∃ pre i j k post, FirstStart minDivisor s past pre i (j :: k :: post) ∧
    let now := (wired minDivisor).machine.runFrom s pre
    let launched := (wired minDivisor).machine.step now i
    now.acceptsStart i = true ∧
      BusStart launched j.env ((wired minDivisor).machine.step launched j) k.env ∧
      NoStart minDivisor launched (j :: k :: post)

/-- A call that returns its OK code has made the START it launched, if the slave drives `d` and `d'`
    when it goes out; one that has nothing to transfer launches none. -/
def Call.Honest (d d' : Drive) (call : Call) : Prop :=
  ∀ W : World Drive,
    let returned := (call.run (wiredMmio minDivisor W)).run ⟨s, []⟩
    returned.1 = true → SlaveAtStart minDivisor s returned.2.past d d' →
      if call.opens then StartMade minDivisor s returned.2.past
      else NoStart minDivisor s returned.2.past

variable {minDivisor s past} {pre pre' post post' : List (Port Drive MmioReq)}
  {i i' : Port Drive MmioReq} {d d' : Drive}

/-- The first START is but one. -/
lemma FirstStart.unique (fi : FirstStart minDivisor s past pre i post)
    (fi' : FirstStart minDivisor s past pre' i' post') : pre = pre' ∧ i = i' ∧ post = post' := by
  obtain ⟨rfl, same⟩ := Machine.first_unique (M := (wired minDivisor).machine)
    (C := fun s i => I2cRegs.launchesStart s i = false) (fi'.past.symm.trans fi.past) fi.none fi'.none
    (by rw [fi.launch]; exact Bool.noConfusion) (by rw [fi'.launch]; exact Bool.noConfusion)
  exact ⟨rfl, List.cons.inj same⟩

lemma FirstStart.snoc (fi : FirstStart minDivisor s past pre i post) (j : Port Drive MmioReq) :
    FirstStart minDivisor s (past ++ [j]) pre i (post ++ [j]) :=
  ⟨by rw [fi.past, List.append_assoc]; rfl, fi.none, fi.launch⟩

lemma NoStart.snoc (none : NoStart minDivisor s past)
    (quiet : ((wired minDivisor).machine.runFrom s past).launchesStart i = false) :
    NoStart minDivisor s (past ++ [i]) :=
  ((wired minDivisor).machine.alongFrom_append _ s past [i]).mpr ⟨none, quiet, trivial⟩

/-- One START command has been launched, at least `n` cycles ago, and the core has accepted it. -/
def StartOut (minDivisor : BitVec 16) (s : I2cRegs) (n : Nat) (past : List (Port Drive MmioReq)) :
    Prop :=
  ∃ pre i post, FirstStart minDivisor s past pre i post ∧ n ≤ post.length ∧
    ((wired minDivisor).machine.runFrom s pre).acceptsStart i = true ∧
    NoStart minDivisor ((wired minDivisor).machine.step
      ((wired minDivisor).machine.runFrom s pre) i) post

lemma StartOut.snoc {n : Nat} (out : StartOut minDivisor s n past)
    (quiet : ((wired minDivisor).machine.runFrom s past).launchesStart i = false) :
    StartOut minDivisor s (n + 1) (past ++ [i]) := by
  obtain ⟨pre, j, post, first, long, accept, rest⟩ := out
  refine ⟨pre, j, post ++ [i], first.snoc i, ?_, accept, rest.snoc ?_⟩
  · rw [List.length_append]
    exact Nat.succ_le_succ long
  · rw [first.past, Machine.runFrom_append] at quiet
    exact quiet

lemma StartOut.mono {m n : Nat} (out : StartOut minDivisor s n past) (le : m ≤ n) :
    StartOut minDivisor s m past := by
  obtain ⟨pre, i, post, first, long, rest⟩ := out
  exact ⟨pre, i, post, first, Nat.le_trans le long, rest⟩

/-- Two cycles after it there has been a START condition, if the slave has left the lines alone. -/
lemma StartOut.made (out : StartOut minDivisor s 2 past)
    (slave : SlaveAtStart minDivisor s past d d')
    (released : d.sda = true ∧ d.scl = true ∧ d'.scl = true) : StartMade minDivisor s past := by
  obtain ⟨pre, i, post, first, long, accept, rest⟩ := out
  obtain _ | ⟨j, _ | ⟨k, post⟩⟩ := post
  · cases long
  · exact absurd long (Nat.not_succ_le_self 1)
  · obtain ⟨rfl, rfl⟩ := slave pre i j k post first
    obtain ⟨sda, scl, scl'⟩ := released
    have fire := accept
    rw [I2cRegs.acceptsStart, Bool.and_eq_true] at fire
    obtain ⟨⟨out, high⟩, out', fallen⟩ := Core.start_of_accept (p := { minDivisor })
      (j := I2cRegs.coreAt ((wired minDivisor).machine.step
        ((wired minDivisor).machine.runFrom s pre) i) j) fire.1
    exact ⟨pre, i, j, k, post, first, accept, ⟨Bool.and_eq_true_iff.mpr ⟨out, scl⟩,
      Bool.and_eq_true_iff.mpr ⟨high, sda⟩, Bool.and_eq_true_iff.mpr ⟨out', scl'⟩,
      Bool.and_eq_false_iff.mpr (.inl fallen)⟩, rest⟩

/-- The first START command has been launched and accepted or not, and the slave has driven `d` and
    `d'` after it. -/
def StartSeen (minDivisor : BitVec 16) (s : I2cRegs) (d d' : Drive) (accepted : Bool)
    (past : List (Port Drive MmioReq)) : Prop :=
  ∃ pre i j k post, FirstStart minDivisor s past pre i (j :: k :: post) ∧ j.env = d ∧ k.env = d' ∧
    ((wired minDivisor).machine.runFrom s pre).acceptsStart i = accepted

lemma StartSeen.snoc {accepted : Bool} (seen : StartSeen minDivisor s d d' accepted past) :
    StartSeen minDivisor s d d' accepted (past ++ [i]) := by
  obtain ⟨pre, i', j, k, post, first, rest⟩ := seen
  exact ⟨pre, i', j, k, post ++ [i], first.snoc i, rest⟩

lemma StartSeen.slave {accepted : Bool} (seen : StartSeen minDivisor s d d' accepted past) :
    SlaveAtStart minDivisor s past d d' := by
  obtain ⟨pre, i, j, k, post, first, rfl, rfl, -⟩ := seen
  intro pre' i' j' k' post' first'
  obtain ⟨-, -, same⟩ := first.unique first'
  cases same
  exact ⟨rfl, rfl⟩

/-- If it has made its condition, it was accepted, and the slave had released the lines. -/
lemma StartSeen.released {accepted : Bool} (seen : StartSeen minDivisor s d d' accepted past)
    (made : StartMade minDivisor s past) :
    accepted = true ∧ d.sda = true ∧ d.scl = true ∧ d'.scl = true := by
  obtain ⟨pre, i, j, k, post, first, rfl, rfl, rfl⟩ := seen
  obtain ⟨pre', i', j', k', post', first', accept, ⟨scl, sda, scl', -⟩, -⟩ := made
  obtain ⟨rfl, rfl, same⟩ := first.unique first'
  cases same
  exact ⟨accept, (Bool.and_eq_true_iff.mp sda).2, (Bool.and_eq_true_iff.mp scl).2,
    (Bool.and_eq_true_iff.mp scl').2⟩

/-! ## What an access adds to the history -/

/-- A request that launches no START. -/
def Meek (q : MmioReq) : Prop :=
  (q.write && q.addr == REG_CMD) = false ∨ (I2cRegs.merged q).setWidth 3 ≠ START_CMD ∨
    (I2cRegs.merged q).getLsbD CMD_ABORT_BIT = true

lemma launchesStart_meek {s : I2cRegs} (meek : i.valid = false ∨ Meek i.req) :
    s.launchesStart i = false := by
  rw [I2cRegs.launchesStart, I2cRegs.launchCmdFire, I2cRegs.wrCmdFire, I2cRegs.wrFire,
    I2cRegs.reqFire]
  obtain idle | noCmd | other | abort := meek
  · simp [idle]
  · rw [Bool.and_assoc _ i.req.write, noCmd]
    simp
  · simp [other]
  · simp [abort]

lemma meek_read (offset : BitVec 32) : Meek (readReq offset) := .inl rfl

lemma meek_write {offset value : BitVec 32} (harmless : Harmless offset value) :
    Meek (writeReq offset value) := by
  by_cases cmd : offset.setWidth 12 = REG_CMD
  · rw [Meek, I2cRegs.merged_writeReq]
    exact .inr (harmless cmd)
  · exact .inl (by simpa [writeReq] using cmd)

/-- What has been seen since the call, and that nothing waits at the block. -/
def Traced (minDivisor : BitVec 16) (s : I2cRegs) (F : List (Port Drive MmioReq) → Prop)
    (t : Bench I2cRegs Drive MmioReq) : Prop :=
  t.Free (wired minDivisor) (fun _ => True) ∧ t.RunFrom (wired minDivisor) s ∧ F t.past

variable {W : World Drive} {F : List (Port Drive MmioReq) → Prop}

section Traced

variable (snoc : ∀ {past i}, F past →
  ((wired minDivisor).machine.runFrom s past).launchesStart i = false → F (past ++ [i]))
include snoc

lemma access_traced {q : MmioReq} (meek : Meek q) :
    Keeps (Traced minDivisor s F) (Bench.access (wired minDivisor) W q) := by
  refine Bench.access_keeps (wired_lawful minDivisor) (wired_steady minDivisor) fun t v r h => ?_
  exact ⟨h.1.cycle v q r, snoc h.2 (launchesStart_meek (.inr meek))⟩

lemma read_traced (offset : BitVec 32) :
    Keeps (Traced minDivisor s F) ((wiredMmio minDivisor W).read32 offset) :=
  (access_traced snoc (meek_read offset)).returns

lemma write_traced (offset value : BitVec 32) (harmless : Harmless offset value) :
    Keeps (Traced minDivisor s F) ((wiredMmio minDivisor W).write32 offset value) :=
  (access_traced snoc (meek_write harmless)).returns

end Traced

/-- The word that a START is written with. -/
def startReq : MmioReq := writeReq I2C_REG_CMD_OFFSET (i2cPackCmd I2C_CMD_START false false)

/-- A START written to a ready core is launched, and accepted if the core is idle. -/
lemma start_launched {s : I2cRegs} {e : Drive} (free : s.rspValid = false)
    (ready : s.core.cmdReady = true) : s.launchesStart ⟨e, true, startReq, false⟩ = true ∧
      s.acceptsStart ⟨e, true, startReq, false⟩ = decide (s.core.stateReg = .idle) := by
  obtain ⟨valid, -⟩ := I2cRegs.coreIn_cmd (e := s.pins e) (r := false) free
    (i2cPackCmd I2C_CMD_START false false)
  rw [ready, Bool.and_true] at valid
  have code : I2cRegs.merged startReq = i2cPackCmd I2C_CMD_START false false :=
    I2cRegs.merged_writeReq _ _
  have launch : s.launchCmdFire true startReq false = true := valid
  have cmd : (s.coreIn (s.pins e) true startReq false).cmd = START_CMD := by
    show (I2cRegs.merged startReq).setWidth 3 = START_CMD
    rw [code]
    rfl
  refine ⟨?_, ?_⟩
  · rw [I2cRegs.launchesStart, launch, code]
    rfl
  · rw [I2cRegs.acceptsStart, I2cRegs.coreAt]
    have fires : (s.coreIn (s.pins e) true startReq false).cmdValidI = true := valid
    by_cases idle : s.core.stateReg = .idle
    · simp [Core.idleStartFire, Core.cmdIllegal, fires, cmd, idle]
    · simp [Core.idleStartFire, idle]

/-! ## A core that is idle -/

/-- The START of an idle core goes out. -/
lemma start_idle : Triple
    (fun t => Rests minDivisor .idle t ∧ Traced minDivisor s (NoStart minDivisor s) t)
    ((wiredMmio minDivisor W).write32 I2C_REG_CMD_OFFSET (i2cPackCmd I2C_CMD_START false false))
    fun _ => Traced minDivisor s (StartOut minDivisor s 1) := by
  let K := fun t : Bench I2cRegs Drive MmioReq =>
    t.regs.core.stateReg = .idle ∧ t.RunFrom (wired minDivisor) s ∧ NoStart minDivisor s t.past
  let T := fun (n : Nat) (t : Bench I2cRegs Drive MmioReq) =>
    t.RunFrom (wired minDivisor) s ∧ StartOut minDivisor s n t.past
  have later : ∀ t r, T 0 t → T 1 (t.cycle (wired minDivisor) W false startReq r) := by
    rintro t r ⟨run, out⟩
    have quiet : ((wired minDivisor).machine.runFrom s t.past).launchesStart
        ⟨W.env t.now, false, startReq, r⟩ = false := launchesStart_meek (.inl rfl)
    exact ⟨run.cycle _ _ _, out.snoc quiet⟩
  have access := Bench.access_triple (wired_lawful minDivisor) (wired_steady minDivisor)
    (W := W) (q := startReq) (K := K) (L := K) (T := fun _ => T 0) (Q := fun _ => T 1)
    (fun t k => Bench.waits_keeps (fun t k => ?_) _ k) (fun t free k => ?_)
    (fun _ t k => ⟨(later t false k).1, (later t false k).2.mono (Nat.zero_le 1)⟩)
    fun _ t k => later t true k
  · exact .conseq access.returns (fun t h => ⟨h.1.1, h.1.2, h.2.2⟩) fun _ t h => h
  · obtain ⟨idle, run, none⟩ := k
    refine ⟨I2cRegs.idle_quiet idle (.inl rfl), run.cycle _ _ _, none.snoc ?_⟩
    exact launchesStart_meek (.inl rfl)
  · obtain ⟨idle, run, none⟩ := k
    have launched := start_launched (e := W.env t.now) free.empty
      (I2cRegs.ends_ready (.inl rfl) idle)
    rw [decide_eq_true idle, run] at launched
    exact ⟨run.cycle _ _ _, t.past, _, [], ⟨rfl, none, launched.1⟩, Nat.le_refl 0, launched.2,
      trivial⟩

/-- A read adds a cycle to the history. -/
lemma read_out {n : Nat} (offset : BitVec 32) : Triple (Traced minDivisor s (StartOut minDivisor s n))
    ((wiredMmio minDivisor W).read32 offset) fun _ =>
      Traced minDivisor s (StartOut minDivisor s (n + 1)) := by
  let T := fun (n : Nat) (t : Bench I2cRegs Drive MmioReq) =>
    t.RunFrom (wired minDivisor) s ∧ StartOut minDivisor s n t.past
  have next : ∀ (n : Nat) (t : Bench I2cRegs Drive MmioReq) v r, T n t →
      T (n + 1) (t.cycle (wired minDivisor) W v (readReq offset) r) := by
    rintro n t v r ⟨run, out⟩
    have quiet : ((wired minDivisor).machine.runFrom s t.past).launchesStart
        ⟨W.env t.now, v, readReq offset, r⟩ = false := launchesStart_meek (.inr (meek_read offset))
    exact ⟨run.cycle _ _ _, out.snoc quiet⟩
  have stay : ∀ (n : Nat) (t : Bench I2cRegs Drive MmioReq) r, T n t →
      T n (t.cycle (wired minDivisor) W false (readReq offset) r) :=
    fun n t r k => ⟨(next n t false r k).1, (next n t false r k).2.mono (Nat.le_succ n)⟩
  exact Bench.access_reads (wired_lawful minDivisor) (wired_steady minDivisor) (K := T n) (L := T n)
    (T := fun _ => T (n + 1)) (fun t => Bench.waits_keeps (fun t => stay n t false) _)
    (fun t _ => next n t true false) fun _ => stay (n + 1)

/-- On an idle core the opening makes its START, or fails. -/
lemma opening_idle : Triple
    (fun t => Rests minDivisor .idle t ∧ Traced minDivisor s (NoStart minDivisor s) t)
    (i2cOpening (wiredMmio minDivisor W)) fun opened t =>
      opened = true → Traced minDivisor s (StartOut minDivisor s 2) t := by
  have read₀ : ∀ offset, Keeps (Traced minDivisor s (NoStart minDivisor s))
      ((wiredMmio minDivisor W).read32 offset) := read_traced NoStart.snoc
  have write₀ : ∀ offset value, Harmless offset value → Keeps (Traced minDivisor s
      (NoStart minDivisor s)) ((wiredMmio minDivisor W).write32 offset value) :=
    write_traced NoStart.snoc
  have read : ∀ offset, Keeps (Traced minDivisor s (StartOut minDivisor s 1))
      ((wiredMmio minDivisor W).read32 offset) :=
    read_traced fun out quiet => (out.snoc quiet).mono (Nat.le_succ 1)
  have start : Triple
      (fun t => Rests minDivisor .idle t ∧ Traced minDivisor s (NoStart minDivisor s) t)
      (i2cCmdStart (wiredMmio minDivisor W)) fun refused t =>
        refused = false ∧ Traced minDivisor s (StartOut minDivisor s 1) t :=
    .bind_known ((cmdReady_rests (.inl rfl)).known_both (keeps_cmdReady read₀))
      (.bind start_idle fun _ => .pure fun _ out => ⟨rfl, out⟩)
  have failed {P : Bench I2cRegs Drive MmioReq → Prop} : Triple P (do
      i2cPrivAbortToIdle (wiredMmio minDivisor W)
      return false) fun opened t =>
        opened = true → Traced minDivisor s (StartOut minDivisor s 2) t :=
    .bind (R := fun _ _ => True) (fun _ _ => trivial) fun _ =>
      .pure fun _ _ no => absurd no Bool.false_ne_true
  have idle : Triple (Traced minDivisor s (StartOut minDivisor s 1))
      (i2cBusIdle (wiredMmio minDivisor W)) fun _ =>
        Traced minDivisor s (StartOut minDivisor s 2) :=
    .returns (read_out _)
  refine .bind_true ((waitCmdReady_rests (.inl rfl)).known_both (keeps_waitCmdReady read₀)) ?_
  refine .bind ((clear_rests (.inl rfl)).both (keeps_clear write₀)) fun _ => ?_
  refine .bind_false start ?_
  refine .bind (keeps_waitCmdReady read) fun _ => .ite (fun _ => failed) fun _ => ?_
  exact .bind idle fun _ => .ite (fun _ => failed) fun _ => .pure fun _ out _ => out

/-- A transfer on an idle core that returns its OK code has made its START. -/
lemma run_idle {call : Call} (opens : call.opens = true) : Triple
    (fun t => Rests minDivisor .idle t ∧ Traced minDivisor s (NoStart minDivisor s) t)
    (call.run (wiredMmio minDivisor W)) fun ok t =>
      ok = true → Traced minDivisor s (StartOut minDivisor s 2) t := by
  have snoc {past : List (Port Drive MmioReq)} {i : Port Drive MmioReq}
      (out : StartOut minDivisor s 2 past)
      (quiet : ((wired minDivisor).machine.runFrom s past).launchesStart i = false) :
      StartOut minDivisor s 2 (past ++ [i]) := (out.snoc quiet).mono (Nat.le_succ 2)
  have rest : Keeps (Traced minDivisor s (StartOut minDivisor s 2))
      (call.rest (wiredMmio minDivisor W)) := keeps_rest (read_traced snoc) (write_traced snoc) call
  rw [call.run_of_opens _ opens]
  refine .bind opening_idle fun opened => .ite (fun yes => ?_) fun _ =>
    .pure fun _ _ no => absurd no Bool.false_ne_true
  exact (rest.pre fun t out => out yes).post fun _ _ out _ => out

/-! ## A core at rest, and a slave that drives its two levels and then SDA low -/

namespace I2cRegs

/-- A START is under way, or refused, and the watchdog has counted `n` cycles at most. -/
def Starting (n : Nat) (s : I2cRegs) : Prop :=
  (s.core.highWaitCntReg.toNat ≤ n ∧ Core.leads s.core.stateReg = some .hold) ∨
    s.core.stateReg = .hold

variable {minDivisor : BitVec 16} {s : I2cRegs} {e : Pins} {q : MmioReq} {r : Bool} {n : Nat}

lemma Starting.step (st : s.Starting n) (le : n ≤ 8) :
    (s.step minDivisor e false q r).Starting (n + 1) := by
  obtain ⟨count, on⟩ | held := st
  · have inTime : s.core.sclHighTimeoutEvent { minDivisor } = false :=
      Core.inTime_of_lt (Nat.lt_of_le_of_lt (Nat.le_trans count le) watchdog_limit)
    obtain there | ⟨on, -⟩ := Core.leads_step (p := { minDivisor }) (i := s.coreIn e false q r) on
      inTime (coreIn_quiet (.inl rfl)).2
    · exact .inr there
    · exact .inl ⟨Nat.le_trans Core.highWait_step (Nat.succ_le_succ count), on⟩
  · exact .inr (ends_stays (.inr rfl) held (.inl rfl))

/-- A START command on a core at rest. -/
lemma start_starting {goal : State} (ends : Ends goal) (there : s.core.stateReg = goal)
    (free : s.rspValid = false) : (s.step minDivisor e true startReq false).Starting 0 := by
  obtain ⟨cmd, abort⟩ := coreIn_cmd (e := e) (r := false) free (i2cPackCmd I2C_CMD_START false false)
  rw [ends_ready ends there] at cmd
  have code : (s.coreIn e true startReq false).cmd = START_CMD := by
    show (merged startReq).setWidth 3 = START_CMD
    rw [startReq, merged_writeReq]
    rfl
  obtain rfl | rfl := ends
  · have fire : s.core.idleStartFire (s.coreIn e true startReq false) = true := by
      rw [Core.idleStartFire, decide_eq_true_eq]
      exact ⟨there, cmd, code⟩
    have still : s.core.waitingForHighPhase = false := by
      simp [Core.waitingForHighPhase, State.waitsHigh, there]
    refine .inl ⟨?_, ?_⟩
    · show (s.core.step { minDivisor } _).highWaitCntReg.toNat ≤ 0
      rw [Core.highWait_cleared (.inl still)]
      exact Nat.le_refl 0
    · show Core.leads (s.core.step { minDivisor } _).stateReg = _
      rw [Core.step, Core.stateNext, there, fire]
      simp [Core.abortFire, there, Core.leads]
  · have takes := Core.hold_takes (p := { minDivisor }) there abort cmd
    rw [show (s.coreIn e true (writeReq I2C_REG_CMD_OFFSET _) false).cmd = START_CMD from code]
      at takes
    exact .inr takes

/-- A START well under way comes to its end. -/
lemma Starting.bound (st : s.Starting 2) : s.Bound .hold ∨ s.core.stateReg = .hold := by
  refine st.imp (fun st => ⟨?_, st.2⟩) id
  have six := Core.climb_le (s := s.core)
  have count := st.1
  rw [Core.Easy]
  omega

end I2cRegs

/-- SDA is held low but for two cycles: a call that makes its first three accesses before its START
    launches the START in cycle `4 * n + 9`. -/
def lowWorld (n : Nat) (d d' : Drive) : World Drive where
  env t := if t = 4 * n + 10 then d else if t = 4 * n + 11 then d' else low
  gap _ := n
  lag _ := 1

section LowWorld

variable {n k : Nat} {goal : State}

lemma lowWorld_dull (long : 37 * 2 ^ 17 ≤ n) : Dull (lowWorld n d d') (4 * n + 12) where
  env t late := by
    show (if t = 4 * n + 10 then d else if t = 4 * n + 11 then d' else low) = low
    rw [if_neg (by omega), if_neg (by omega)]
  gap _ _ := long

/-- The core is at rest as at the call, `k` cycles ago, and no START has been launched. -/
def Resting (minDivisor : BitVec 16) (s : I2cRegs) (goal : State) (k : Nat)
    (t : Bench I2cRegs Drive MmioReq) : Prop :=
  Rests minDivisor goal t ∧ Traced minDivisor s (NoStart minDivisor s) t ∧ t.now = k

/-- An access of the low world takes `n + 3` cycles. -/
lemma access_takes (q : MmioReq) : Triple (fun t => t.now = k)
    (Bench.access (wired minDivisor) (lowWorld n d d') q) fun _ t => t.now = k + (n + 3) := by
  rintro t rfl
  show ((Bench.access (wired minDivisor) (lowWorld n d d') q) t).2.now = _
  rw [Bench.now_access]
  show t.now + n + 1 + 1 + 1 = _
  omega

lemma status_resting (ends : I2cRegs.Ends goal) : Triple (Resting minDivisor s goal k)
    (i2cGetStatus (wiredMmio minDivisor (lowWorld n d d'))) fun x t =>
      x.getLsbD I2C_STATUS_CMD_READY_BIT = true ∧ Resting minDivisor s goal (k + (n + 3)) t := by
  have traced : Keeps (Traced minDivisor s (NoStart minDivisor s))
      (i2cGetStatus (wiredMmio minDivisor (lowWorld n d d'))) := read_traced NoStart.snoc _
  have takes : Triple (fun t => t.now = k) (i2cGetStatus (wiredMmio minDivisor (lowWorld n d d')))
      fun _ t => t.now = k + (n + 3) := (access_takes _).returns
  exact ((status_rests ends).both (traced.both takes)).post fun _ _ h => ⟨h.1.1.1, h.1.2, h.2⟩

lemma clear_resting (ends : I2cRegs.Ends goal) : Triple (Resting minDivisor s goal k)
    (i2cPrivClearStatusSticky (wiredMmio minDivisor (lowWorld n d d'))) fun _ =>
      Resting minDivisor s goal (k + (n + 3)) := by
  have traced : Keeps (Traced minDivisor s (NoStart minDivisor s))
      (i2cPrivClearStatusSticky (wiredMmio minDivisor (lowWorld n d d'))) :=
    keeps_clear (write_traced NoStart.snoc)
  exact (clear_rests ends).both (traced.both (access_takes _).returns)

lemma cmdReady_resting (ends : I2cRegs.Ends goal) : Triple (Resting minDivisor s goal k)
    (i2cStatusCmdReady (wiredMmio minDivisor (lowWorld n d d'))) fun ready t =>
      ready = true ∧ Resting minDivisor s goal (k + (n + 3)) t :=
  cmdReady_triple (status_resting ends)

lemma waitCmdReady_resting (ends : I2cRegs.Ends goal) : Triple (Resting minDivisor s goal k)
    (i2cPrivWaitCmdReady (wiredMmio minDivisor (lowWorld n d d'))) fun ready t =>
      ready = true ∧ Resting minDivisor s goal (k + (n + 3)) t := by
  refine pollUntil_answers (.bind_known (cmdReady_resting ends) ?_) 199999
  exact .pure fun _ h => ⟨true, rfl, rfl, h⟩

/-- The cycle in which the START is offered, the one in which the master has SDA high still, and the
    one in which it has it low. -/
lemma start_cycles (ends : I2cRegs.Ends goal) {t : Bench I2cRegs Drive MmioReq}
    (resting : Resting minDivisor s goal (4 * n + 9) t) :
    let t₁ := t.cycle (wired minDivisor) (lowWorld n d d') true startReq false
    let t₂ := t₁.cycle (wired minDivisor) (lowWorld n d d') false startReq false
    let t₃ := t₂.cycle (wired minDivisor) (lowWorld n d d') false startReq true
    Late minDivisor (4 * n + 12) (fun s => s.Bound .hold ∨ s.core.stateReg = .hold) t₃ ∧
      Traced minDivisor s (StartSeen minDivisor s d d' (decide (goal = .idle))) t₃ := by
  intro t₁ t₂ t₃
  have law := wired_lawful minDivisor
  obtain ⟨⟨free, there⟩, ⟨-, run, none⟩, now⟩ := resting
  have now₁ : t₁.now = 4 * n + 10 := by rw [Bench.now_cycle, now]
  have now₂ : t₂.now = 4 * n + 11 := by rw [Bench.now_cycle, now₁]
  have now₃ : t₃.now = 4 * n + 12 := by rw [Bench.now_cycle, now₂]
  have free₃ : t₃.Free (wired minDivisor) fun _ => True :=
    ((free.taken law startReq).waits law (wired_steady minDivisor) startReq).freed law startReq
  have first : t₁.regs.Starting 0 := I2cRegs.start_starting ends there free.empty
  have second : t₂.regs.Starting 1 := first.step (by decide)
  have third : t₃.regs.Starting 2 := second.step (by decide)
  have launched := start_launched (e := (lowWorld n d d').env t.now) free.empty
    (I2cRegs.ends_ready ends there)
  rw [there, run] at launched
  have levels : (lowWorld n d d').env t₁.now = d ∧ (lowWorld n d d').env t₂.now = d' := by
    refine ⟨if_pos now₁, ?_⟩
    show (if t₂.now = _ then d else if t₂.now = _ then d' else low) = d'
    rw [now₂, if_neg (by omega), if_pos rfl]
  refine ⟨⟨free₃, Nat.le_of_eq now₃.symm, third.bound⟩, free₃,
    ((run.cycle _ _ _).cycle _ _ _).cycle _ _ _, t.past, _,
    ⟨(lowWorld n d d').env t₁.now, false, startReq, false⟩,
    ⟨(lowWorld n d d').env t₂.now, false, startReq, true⟩, [], ⟨?_, none, launched.1⟩, levels.1,
    levels.2, launched.2⟩
  show t.past ++ [_] ++ [_] ++ [_] = _
  rw [List.append_assoc, List.append_assoc]
  rfl

/-- The START is launched, and the slave drives `d` and `d'` before the driver has its response. -/
lemma start_resting (ends : I2cRegs.Ends goal) :
    Triple (Resting minDivisor s goal (3 * (n + 3)))
      ((wiredMmio minDivisor (lowWorld n d d')).write32 I2C_REG_CMD_OFFSET
        (i2cPackCmd I2C_CMD_START false false)) fun _ t =>
          Late minDivisor (4 * n + 12) (fun s => s.Bound .hold ∨ s.core.stateReg = .hold) t ∧
            Traced minDivisor s (StartSeen minDivisor s d d' (decide (goal = .idle))) t := by
  rintro t ⟨rests, traced, time⟩
  refine start_cycles ends (t := t.waits (wired minDivisor) (lowWorld n d d') startReq n) ?_
  have stay : ∀ t, Rests minDivisor goal t ∧ Traced minDivisor s (NoStart minDivisor s) t →
      Rests minDivisor goal (t.cycle (wired minDivisor) (lowWorld n d d') false startReq false) ∧
        Traced minDivisor s (NoStart minDivisor s)
          (t.cycle (wired minDivisor) (lowWorld n d d') false startReq false) := by
    rintro t ⟨⟨free, there⟩, -, run, none⟩
    have free' := free.idle (W := lowWorld n d d') (wired_lawful minDivisor) startReq false
    refine ⟨⟨free', I2cRegs.ends_stays ends there (.inl rfl)⟩, free', run.cycle _ _ _, none.snoc ?_⟩
    exact launchesStart_meek (.inl rfl)
  obtain ⟨rests, traced⟩ := Bench.waits_keeps stay n ⟨rests, traced⟩
  refine ⟨rests, traced, ?_⟩
  rw [Bench.now_waits, time]
  omega

/-- From any core at rest the opening of a patient driver is told that its START is over. -/
lemma opening_low (long : 37 * 2 ^ 17 ≤ n) (ends : I2cRegs.Ends goal) :
    Triple (Resting minDivisor s goal 0) (i2cOpening (wiredMmio minDivisor (lowWorld n d d')))
      fun opened t => opened = true ∧ Held minDivisor (4 * n + 12) t ∧
        Traced minDivisor s (StartSeen minDivisor s d d' (decide (goal = .idle))) t := by
  have dull : Dull (lowWorld n d d') (4 * n + 12) := lowWorld_dull long
  have read : ∀ offset, Keeps (Traced minDivisor s (StartSeen minDivisor s d d'
      (decide (goal = .idle)))) ((wiredMmio minDivisor (lowWorld n d d')).read32 offset) :=
    read_traced fun seen _ => seen.snoc
  have two : 0 + (n + 3) + (n + 3) + (n + 3) = 3 * (n + 3) := by omega
  have start : Triple (Resting minDivisor s goal (0 + (n + 3) + (n + 3)))
      (i2cCmdStart (wiredMmio minDivisor (lowWorld n d d'))) fun refused t => refused = false ∧
        Late minDivisor (4 * n + 12) (fun s => s.Bound .hold ∨ s.core.stateReg = .hold) t ∧
          Traced minDivisor s (StartSeen minDivisor s d d' (decide (goal = .idle))) t := by
    refine .bind_known (cmdReady_resting ends) ?_
    rw [two]
    exact .bind (start_resting ends) fun _ => .pure fun _ h => ⟨rfl, h⟩
  refine .bind_true (waitCmdReady_resting ends) ?_
  refine .bind (clear_resting ends) fun _ => ?_
  refine .bind_false start ?_
  -- the core is ready and not idle, for whichever reason
  refine .bind_true ((waitCmdReady_bound dull).known_both (keeps_waitCmdReady read)) ?_
  refine .bind_false ((busIdle_bound dull (.inr rfl)).known_both (keeps_busIdle read)) ?_
  exact .pure fun _ h => ⟨rfl, h⟩

/-- A transfer of a patient driver returns its OK code. -/
lemma run_low {call : Call} (opens : call.opens = true) (long : 37 * 2 ^ 17 ≤ n)
    (ends : I2cRegs.Ends goal) : Triple (Resting minDivisor s goal 0)
      (call.run (wiredMmio minDivisor (lowWorld n d d'))) fun ok t =>
        ok = true ∧ StartSeen minDivisor s d d' (decide (goal = .idle)) t.past := by
  have snoc {past : List (Port Drive MmioReq)} {i : Port Drive MmioReq}
      (seen : StartSeen minDivisor s d d' (decide (goal = .idle)) past)
      (_ : ((wired minDivisor).machine.runFrom s past).launchesStart i = false) :
      StartSeen minDivisor s d d' (decide (goal = .idle)) (past ++ [i]) := seen.snoc
  have rest : Keeps (Traced minDivisor s (StartSeen minDivisor s d d' (decide (goal = .idle))))
      (call.rest (wiredMmio minDivisor (lowWorld n d d'))) :=
    keeps_rest (read_traced snoc) (write_traced snoc) call
  have ob : Obliging (wiredMmio minDivisor (lowWorld n d d')) (fun _ => Held minDivisor (4 * n + 12))
      fun _ _ => True := obliging_held (lowWorld_dull long)
  rw [call.run_of_opens _ opens]
  refine .bind_known (opening_low long ends) (.ite (fun _ => ?_) fun no => absurd rfl no)
  exact (Triple.both (ob.rest [] call) rest).post fun _ _ h => ⟨h.1, h.2.2.2⟩

end LowWorld

/-- So if the call is honest the core was idle and the slave had released the lines. -/
lemma released_of_honest {call : Call} (opens : call.opens = true) {goal : State}
    (free : s.rspValid = false) (ends : I2cRegs.Ends goal) (there : s.core.stateReg = goal)
    (honest : call.Honest minDivisor s d d') :
    goal = .idle ∧ d.sda = true ∧ d.scl = true ∧ d'.scl = true := by
  have start : Resting minDivisor s goal 0 ⟨s, []⟩ :=
    ⟨⟨⟨trivial, free⟩, there⟩, ⟨⟨trivial, free⟩, rfl, trivial⟩, rfl⟩
  let W := lowWorld (37 * 2 ^ 17) d d'
  obtain ⟨ok, seen⟩ : ((call.run (wiredMmio minDivisor W)).run ⟨s, []⟩).1 = true ∧
      StartSeen minDivisor s d d' (decide (goal = .idle))
        ((call.run (wiredMmio minDivisor W)).run ⟨s, []⟩).2.past :=
    run_low opens (Nat.le_refl _) ends ⟨s, []⟩ start
  have made := honest W ok seen.slave
  rw [if_pos opens] at made
  exact (seen.released made).imp_left of_decide_eq_true

end Began

/-- For every state of the register block in which its core is ready and no response waits, every
    two levels that the slave drives while the START goes out, and every call: whatever the slave
    drives otherwise and whatever time the accesses take, the call is honest about its START exactly
    if the core is idle and the slave leaves both lines released in the cycle after the START is
    taken and SCL in the next, or if the call does not get to a START. -/
theorem call_honest_iff (minDivisor : BitVec 16) (s : I2cRegs) (free : s.rspValid = false)
    (ready : s.core.cmdReady = true) (d d' : Drive) (call : Call) :
    call.Honest minDivisor s d d' ↔ (call.opens = true →
      s.core.stateReg = .idle ∧ d.sda = true ∧ d.scl = true ∧ d'.scl = true) := by
  constructor
  · intro honest opens
    rw [Core.cmdReady, decide_eq_true_eq] at ready
    exact released_of_honest opens free ready rfl honest
  · intro released W returned ok slave
    have start : Traced minDivisor s (NoStart minDivisor s) ⟨s, []⟩ :=
      ⟨⟨trivial, free⟩, rfl, trivial⟩
    cases opens : call.opens with
    | true =>
      obtain ⟨idle, lines⟩ := released opens
      have out := run_idle opens ⟨s, []⟩ ⟨⟨start.1, idle⟩, start⟩ ok
      exact out.2.2.made slave lines
    | false =>
      obtain ⟨result, e⟩ := call.run_of_not_opens (wiredMmio minDivisor W) opens
      show NoStart minDivisor s returned.2.past
      rw [show returned = (pure result : StateM (Bench I2cRegs Drive MmioReq) Bool).run ⟨s, []⟩ by
        rw [← e]]
      exact trivial

/-- After reset the core is idle. -/
theorem call_honest_reset :
    Call.Honest 1 (.reset 1) {} {} (.txBuf 0x50 (some fun i => i) 4) :=
  (call_honest_iff 1 (.reset 1) rfl rfl {} {} (.txBuf 0x50 (some fun i => i) 4)).mpr
    fun _ => ⟨rfl, rfl, rfl, rfl⟩

/-- A START on its own, up to the hold state. -/
def lostStart : List (Port Drive MmioReq) :=
  ⟨{}, true, startReq, false⟩ :: ⟨{}, false, startReq, true⟩ ::
    List.replicate 8 ⟨{}, false, startReq, false⟩

/-- On the bus that it leaves held, a probe of an address returns `I2C_TX_OK` without a START,
    though the slave releases both lines while the START would go out. After reset it does so if the
    slave holds SDA low just then. -/
theorem call_dishonest_after_start :
    ((wired 1).machine.after lostStart).core.stateReg = .hold ∧
      ¬ Call.Honest 1 ((wired 1).machine.after lostStart) {} {} (.txBuf 0x50 none 0) ∧
      ¬ Call.Honest 1 (.reset 1) low {} (.txBuf 0x50 none 0) := by
  have held : ((wired 1).machine.after lostStart).core.stateReg = .hold := by decide +kernel
  refine ⟨held, fun honest => ?_, fun honest => ?_⟩
  · have idle := (released_of_honest rfl (by decide +kernel) (.inr rfl) held honest).1
    cases idle
  · have sda := (released_of_honest rfl rfl (.inl rfl) rfl honest).2.1
    cases sda

end ModularControl.I2c
