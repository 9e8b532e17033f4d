import ModularControl.Axi.HoldFsm

/-!
# The holding state machine wrapper serves its master

A beat is accepted only into an empty holding register of an idle machine and leaves it when the
request it belongs to is performed, so the books of `Axi.Accounts` balance over every cycle. A write
goes first, but the next one is accepted only when it has been answered, and by then a read that is
held is served.
-/

namespace ModularControl.Axi
open Sync

variable {σ ε : Type*}

namespace HoldFsm

variable {R : Responder σ ε MmioReq MmioRsp} {I : σ → Prop} {s : HoldFsm σ}

/-- The wrapper's invariant: the register block presents a response exactly while one is waited for,
    a request state finds its request in the holding registers, and they are empty while it is
    answered. -/
structure Inv (R : Responder σ ε MmioReq MmioRsp) (I : σ → Prop) (s : HoldFsm σ) : Prop where
  regs : I s.regs
  valid : R.valid s.regs = s.mmioRspReady
  write : s.stateReg = .writeReq → s.awHoldValidReg = true ∧ s.wHoldValidReg = true
  read : s.stateReg = .readReq → s.arHoldValidReg = true
  written : s.stateReg = .writeWaitRsp ∨ s.stateReg = .writeB →
    s.awHoldValidReg = false ∧ s.wHoldValidReg = false
  done : s.stateReg = .readWaitRsp ∨ s.stateReg = .readR → s.arHoldValidReg = false

/-- A request is taken in the first cycle it is presented. -/
lemma Inv.mmioReqFire_eq (inv : Inv R I s) (law : R.Lawful I) :
    s.mmioReqFire R = s.mmioReqValid := by
  cases h : s.mmioReqValid with
  | false => simp [mmioReqFire, h]
  | true =>
    have issue : s.stateReg = .writeReq ∨ s.stateReg = .readReq := by
      simpa [mmioReqValid] using h
    have quiet : R.valid s.regs = false := by
      rw [inv.valid]
      obtain e | e := issue <;> simp [mmioRspReady, e]
    simp [mmioReqFire, h, law.ready _ _ inv.regs quiet]

/-- A response is taken in the first cycle it is waited for. -/
lemma Inv.mmioRspFire_eq (inv : Inv R I s) : s.mmioRspFire R = s.mmioRspReady := by
  simp [mmioRspFire, inv.valid]

lemma Inv.reset (law : R.Lawful I) : Inv R I (reset R) where
  regs := law.init
  valid := by rw [HoldFsm.reset, law.idle]; rfl
  write := nofun
  read := nofun
  written := by simp [HoldFsm.reset]
  done := by simp [HoldFsm.reset]

/-- The wait states are those after a request. -/
lemma Inv.waits (inv : Inv R I s) (law : R.Lawful I) (i : AxiIn) (e : ε) :
    (s.step R i e).mmioRspReady = s.mmioReqValid := by
  simp only [mmioRspReady, HoldFsm.step, stateNext, inv.mmioReqFire_eq law, inv.mmioRspFire_eq]
  cases h : s.stateReg <;> simp only [mmioReqValid, h]
  case idle => split_ifs <;> rfl
  case writeB => cases s.bFire i <;> rfl
  case readR => cases s.rFire i <;> rfl
  all_goals rfl

/-- A request state is entered from the idle one, which keeps what it holds. -/
lemma stateNext_req {i : AxiIn} (h : s.stateNext R i = .writeReq ∨ s.stateNext R i = .readReq)
    (taken : s.mmioReqFire R = s.mmioReqValid) :
    s.stateReg = .idle ∧
      (s.stateNext R i = .writeReq → s.awHoldValidReg = true ∧ s.wHoldValidReg = true) ∧
      (s.stateNext R i = .readReq → s.arHoldValidReg = true) := by
  rw [stateNext, taken] at h
  rw [stateNext, taken]
  cases e : s.stateReg with
  | idle =>
    cases s.awHoldValidReg <;> cases s.wHoldValidReg <;> cases s.arHoldValidReg <;> simp
  | writeReq | readReq => simp [e, mmioReqValid] at h
  | writeWaitRsp | readWaitRsp | writeB | readR => simp only [e] at h; split_ifs at h <;> simp at h

/-- The states in which a write is answered follow its request state, or one another. -/
lemma stateNext_write {i : AxiIn} (h : s.stateNext R i = .writeWaitRsp ∨ s.stateNext R i = .writeB) :
    s.stateReg = .writeReq ∨ s.stateReg = .writeWaitRsp ∨ s.stateReg = .writeB := by
  rw [stateNext] at h
  cases e : s.stateReg <;> simp only [e] at h ⊢ <;> split_ifs at h <;> simp at h ⊢

lemma stateNext_read {i : AxiIn} (h : s.stateNext R i = .readWaitRsp ∨ s.stateNext R i = .readR) :
    s.stateReg = .readReq ∨ s.stateReg = .readWaitRsp ∨ s.stateReg = .readR := by
  rw [stateNext] at h
  cases e : s.stateReg <;> simp only [e] at h ⊢ <;> split_ifs at h <;> simp at h ⊢

lemma Inv.step (inv : Inv R I s) (law : R.Lawful I) (i : AxiIn) (e : ε) :
    Inv R I (s.step R i e) := by
  have fire := inv.mmioReqFire_eq law
  refine ⟨law.next _ _ _ _ inv.regs, ?_, ?_, ?_, ?_, ?_⟩
  · have v := law.valid e s.mmioReqValid s.mmioReq s.mmioRspReady inv.regs
    have gone : (R.valid s.regs && !s.mmioRspReady) = false := by simp [inv.valid]
    have sent : (s.mmioReqValid && R.ready s.regs s.mmioReq s.mmioRspReady) = s.mmioReqValid := fire
    rw [gone, sent, Bool.or_false] at v
    rw [inv.waits law i e]
    exact v
  · intro h
    have h : s.stateNext R i = .writeReq := h
    obtain ⟨idle, write, -⟩ := stateNext_req (.inl h) fire
    obtain ⟨aw, w⟩ := write h
    simp [HoldFsm.step, idle, aw, w]
  · intro h
    have h : s.stateNext R i = .readReq := h
    obtain ⟨idle, -, read⟩ := stateNext_req (.inr h) fire
    simp [HoldFsm.step, idle, read h]
  · intro h
    have h : s.stateNext R i = .writeWaitRsp ∨ s.stateNext R i = .writeB := h
    obtain sends | answers := stateNext_write h
    · simp [HoldFsm.step, fire, mmioReqValid, sends]
    · obtain ⟨aw, w⟩ := inv.written answers
      obtain e | e := answers <;> simp [HoldFsm.step, awFire, wFire, awready, wready, e, aw, w]
  · intro h
    have h : s.stateNext R i = .readWaitRsp ∨ s.stateNext R i = .readR := h
    obtain sends | answers := stateNext_read h
    · simp [HoldFsm.step, fire, mmioReqValid, sends]
    · have ar := inv.done answers
      obtain e | e := answers <;> simp [HoldFsm.step, arFire, arready, e, ar]

/-! ## The books -/

def heldAw (s : HoldFsm σ) : List (BitVec 12) :=
  if s.awHoldValidReg then [s.awaddrHoldReg] else []

def heldW (s : HoldFsm σ) : List (BitVec 32 × BitVec 4) :=
  if s.wHoldValidReg then [(s.wdataHoldReg, s.wstrbHoldReg)] else []

def heldAr (s : HoldFsm σ) : List (BitVec 12) :=
  if s.arHoldValidReg then [s.araddrHoldReg] else []

/-- The write response owed: in flight or presented. -/
def owedB (R : Responder σ ε MmioReq MmioRsp) (s : HoldFsm σ) : List (BitVec 2) :=
  match s.stateReg with
  | .writeWaitRsp => [axiResp (R.rsp s.regs)]
  | .writeB => [s.brespReg]
  | _ => []

/-- The read response owed: in flight or presented. -/
def owedR (R : Responder σ ε MmioReq MmioRsp) (s : HoldFsm σ) : List (BitVec 32 × BitVec 2) :=
  match s.stateReg with
  | .readWaitRsp => [readRsp (R.rsp s.regs)]
  | .readR => [(s.rdataReg, s.rrespReg)]
  | _ => []

variable (i : AxiIn) (e : ε)

/-- The write performed in a cycle is the one presented. -/
lemma Inv.writeFire (inv : Inv R I s) (law : R.Lawful I) :
    (s.observe R i e).writeFire =
      if s.stateReg == .writeReq then some (s.mmioReq, R.answer s.regs e s.mmioReq) else none := by
  simp only [Cycle.writeFire, observe, inv.mmioReqFire_eq law]
  cases h : s.stateReg <;> simp [mmioReqValid, mmioReq, h]

/-- The read performed in a cycle is the one presented. -/
lemma Inv.readFire (inv : Inv R I s) (law : R.Lawful I) :
    (s.observe R i e).readFire =
      if s.stateReg == .readReq then some (s.mmioReq, R.answer s.regs e s.mmioReq) else none := by
  simp only [Cycle.readFire, observe, inv.mmioReqFire_eq law]
  cases h : s.stateReg <;> simp [mmioReqValid, mmioReq, h]

/-- Being in a request state is what releases its holding registers. -/
lemma Inv.released (inv : Inv R I s) (law : R.Lawful I) :
    (s.stateReg == .writeReq && s.mmioReqFire R) = (s.stateReg == .writeReq) ∧
      (s.stateReg == .readReq && s.mmioReqFire R) = (s.stateReg == .readReq) := by
  rw [inv.mmioReqFire_eq law, mmioReqValid]
  cases s.stateReg <;> exact ⟨rfl, rfl⟩

lemma Inv.balance_aw (inv : Inv R I s) (law : R.Lawful I) :
    s.heldAw ++ (s.observe R i e).aw.toList =
      (s.observe R i e).writeFire.toList.map (·.1.addr) ++ (s.step R i e).heldAw := by
  rw [inv.writeFire i e law]
  simp only [heldAw, observe, HoldFsm.step, (inv.released law).1, awFire, awready, ← Bool.and_assoc]
  refine balance_hold fun sent => ?_
  rw [beq_iff_eq] at sent
  exact ⟨(inv.write sent).1, by simp only [mmioReq, sent]⟩

lemma Inv.balance_w (inv : Inv R I s) (law : R.Lawful I) :
    s.heldW ++ (s.observe R i e).w.toList =
      (s.observe R i e).writeFire.toList.map (fun p => (p.1.wdata, p.1.wstrb)) ++
        (s.step R i e).heldW := by
  rw [inv.writeFire i e law]
  have pair : (if s.wFire i then (i.wdata, i.wstrb) else (s.wdataHoldReg, s.wstrbHoldReg)) =
      (if s.wFire i then i.wdata else s.wdataHoldReg,
        if s.wFire i then i.wstrb else s.wstrbHoldReg) := by
    split_ifs <;> rfl
  simp only [heldW, observe, HoldFsm.step, (inv.released law).1, ← pair]
  simp only [wFire, wready, ← Bool.and_assoc]
  refine balance_hold fun sent => ?_
  rw [beq_iff_eq] at sent
  exact ⟨(inv.write sent).2, by simp only [mmioReq, sent]⟩

lemma Inv.balance_ar (inv : Inv R I s) (law : R.Lawful I) :
    s.heldAr ++ (s.observe R i e).ar.toList =
      (s.observe R i e).readFire.toList.map (·.1.addr) ++ (s.step R i e).heldAr := by
  rw [inv.readFire i e law]
  simp only [heldAr, observe, HoldFsm.step, (inv.released law).2, arFire, arready, ← Bool.and_assoc]
  refine balance_hold fun sent => ?_
  rw [beq_iff_eq] at sent
  exact ⟨inv.read sent, by simp only [mmioReq, sent]⟩

/-- What is performed in a cycle is owed in the next, with its answer. -/
lemma Inv.owed_step (inv : Inv R I s) (law : R.Lawful I) :
    (s.stateReg = .writeReq →
        (s.step R i e).owedB R = [axiResp (R.answer s.regs e s.mmioReq)]) ∧
      (s.stateReg = .readReq →
        (s.step R i e).owedR R = [readRsp (R.answer s.regs e s.mmioReq)]) := by
  have fire := inv.mmioReqFire_eq law
  have rsp (sends : s.mmioReqValid = true) (quiet : s.mmioRspReady = false) :
      R.rsp (s.step R i e).regs = R.answer s.regs e s.mmioReq := by
    have r := law.rsp e s.mmioReq s.mmioRspReady inv.regs (inv.valid.trans quiet)
    simpa only [HoldFsm.step, sends] using r
  constructor
  · intro h
    have state : (s.step R i e).stateReg = .writeWaitRsp := by
      simp [HoldFsm.step, stateNext, fire, mmioReqValid, h]
    simp only [owedB, state, rsp (by simp [mmioReqValid, h]) (by simp [mmioRspReady, h])]
  · intro h
    have state : (s.step R i e).stateReg = .readWaitRsp := by
      simp [HoldFsm.step, stateNext, fire, mmioReqValid, h]
    simp only [owedR, state, rsp (by simp [mmioReqValid, h]) (by simp [mmioRspReady, h])]

/-- The write performed in a cycle becomes the response owed of the next. -/
lemma Inv.balance_b (inv : Inv R I s) (law : R.Lawful I) :
    s.owedB R ++ (s.observe R i e).writeFire.toList.map (axiResp ·.2) =
      (s.observe R i e).bFire.toList ++ (s.step R i e).owedB R := by
  rw [inv.writeFire i e law]
  cases h : s.stateReg with
  | writeReq =>
    rw [(inv.owed_step i e law).1 h]
    simp [owedB, observe, Cycle.bFire, presentedB, bvalid, h]
  | idle =>
    cases aw : s.awHoldValidReg <;> cases w : s.wHoldValidReg <;> cases ar : s.arHoldValidReg <;>
      simp [owedB, observe, Cycle.bFire, presentedB, bvalid, HoldFsm.step, stateNext, h, aw, w, ar]
  | writeB =>
    cases b : i.bready <;>
      simp [owedB, observe, Cycle.bFire, presentedB, bvalid, HoldFsm.step, stateNext,
        HoldFsm.bFire, h, b]
  | readR =>
    cases r : i.rready <;>
      simp [owedB, observe, Cycle.bFire, presentedB, bvalid, HoldFsm.step, stateNext,
        HoldFsm.rFire, rvalid, h, r]
  | writeWaitRsp | readWaitRsp | readReq =>
    simp [owedB, observe, Cycle.bFire, presentedB, bvalid, HoldFsm.step, stateNext,
      inv.mmioReqFire_eq law, inv.mmioRspFire_eq, mmioReqValid, mmioRspReady, h]

/-- The read performed in a cycle becomes the response owed of the next. -/
lemma Inv.balance_r (inv : Inv R I s) (law : R.Lawful I) :
    s.owedR R ++ (s.observe R i e).readFire.toList.map (readRsp ·.2) =
      (s.observe R i e).rFire.toList ++ (s.step R i e).owedR R := by
  rw [inv.readFire i e law]
  cases h : s.stateReg with
  | readReq =>
    rw [(inv.owed_step i e law).2 h]
    simp [owedR, observe, Cycle.rFire, presentedR, rvalid, h]
  | idle =>
    cases aw : s.awHoldValidReg <;> cases w : s.wHoldValidReg <;> cases ar : s.arHoldValidReg <;>
      simp [owedR, observe, Cycle.rFire, presentedR, rvalid, HoldFsm.step, stateNext, h, aw, w, ar]
  | writeB =>
    cases b : i.bready <;>
      simp [owedR, observe, Cycle.rFire, presentedR, rvalid, HoldFsm.step, stateNext,
        HoldFsm.bFire, bvalid, h, b]
  | readR =>
    cases r : i.rready <;>
      simp [owedR, observe, Cycle.rFire, presentedR, rvalid, HoldFsm.step, stateNext,
        HoldFsm.rFire, h, r]
  | writeWaitRsp | readWaitRsp | writeReq =>
    simp [owedR, observe, Cycle.rFire, presentedR, rvalid, HoldFsm.step, stateNext, readRsp,
      inv.mmioReqFire_eq law, inv.mmioRspFire_eq, mmioReqValid, mmioRspReady, h]

lemma Inv.blank (inv : Inv R I s) (law : R.Lawful I) :
    ∀ p ∈ (s.observe R i e).readFire, p.1 = readReq p.1.addr := by
  intro p m
  rw [inv.readFire i e law, Option.mem_def, Option.ite_none_right_eq_some] at m
  obtain ⟨h, same⟩ := m
  cases same
  rw [beq_iff_eq] at h
  simp only [mmioReq, h, readReq]

/-- A response that is presented and not taken is still presented after the clock edge. -/
lemma presentedB_kept (hb : s.presentedB.isSome) (hr : i.bready = false) :
    (s.step R i e).presentedB = s.presentedB := by
  have h : s.stateReg = .writeB := by
    simpa [presentedB, bvalid] using hb
  simp [presentedB, bvalid, HoldFsm.step, stateNext, HoldFsm.bFire, h, hr]

lemma presentedR_kept (hb : s.presentedR.isSome) (hr : i.rready = false) :
    (s.step R i e).presentedR = s.presentedR := by
  have h : s.stateReg = .readR := by
    simpa [presentedR, rvalid] using hb
  simp [presentedR, rvalid, HoldFsm.step, stateNext, HoldFsm.rFire, h, hr]

/-- The wrapper's registers against everything its master and its register block have seen. -/
structure Books (R : Responder σ ε MmioReq MmioRsp) (I : σ → Prop) (s : HoldFsm σ)
    (cs : List Cycle) : Prop where
  inv : Inv R I s
  accounts : Accounts cs s.heldAw s.heldW s.heldAr (s.owedB R) (s.owedR R)
  held : HeldBy cs s.presentedB s.presentedR

lemma Books.reset (law : R.Lawful I) : Books R I (reset R) [] where
  inv := .reset law
  accounts := ⟨rfl, rfl, rfl, rfl, rfl, by simp [reads]⟩
  held := ⟨.nil, by simp⟩

/-- The step lemma: the books stay in order over every cycle. -/
lemma Books.step {cs : List Cycle} (bk : Books R I s cs) (law : R.Lawful I) :
    Books R I (s.step R i e) (cs ++ [s.observe R i e]) where
  inv := bk.inv.step law i e
  accounts := bk.accounts.snoc (bk.inv.balance_aw i e law) (bk.inv.balance_w i e law)
    (bk.inv.balance_ar i e law) (bk.inv.balance_b i e law) (bk.inv.balance_r i e law)
    (bk.inv.blank i e law)
  held := bk.held.snoc (presentedB_kept i e) (presentedR_kept i e)

/-- The run lemma: the books are in order after every run. -/
theorem books_after (law : R.Lawful I) (is : List (AxiIn × ε)) :
    Books R I ((machine R).after is) ((machine R).trace is) :=
  (machine R).history_rule (P := Books R I) (C := fun _ _ => True) (.reset law)
    (fun _ _ i bk _ => bk.step i.1 i.2 law)
    ((machine R).along_true is)

/-! ## Service in time -/

/-- In how many cycles that leave no response waiting the write held or in service is answered. -/
def writeDue (s : HoldFsm σ) : Nat :=
  match s.stateReg with
  | .idle => 4
  | .writeReq => 3
  | .writeWaitRsp => 2
  | .writeB => 1
  | .readReq => 7
  | .readWaitRsp => 6
  | .readR => 5

/-- In how many the read is. -/
def readDue (s : HoldFsm σ) : Nat :=
  match s.stateReg with
  | .idle => if s.awHoldValidReg && s.wHoldValidReg then 8 else 4
  | .writeReq => 7
  | .writeWaitRsp => 6
  | .writeB => 5
  | .readReq => 3
  | .readWaitRsp => 2
  | .readR => 1

lemma due_bounds (s : HoldFsm σ) :
    0 < s.writeDue ∧ s.writeDue ≤ 8 ∧ 0 < s.readDue ∧ s.readDue ≤ 8 := by
  unfold writeDue readDue
  cases s.stateReg <;> cases s.awHoldValidReg && s.wHoldValidReg <;> decide

/-- Of the writes accepted at most one is not answered yet, and so of the reads. -/
lemma Books.owed {cs : List Cycle} (bk : Books R I s cs) :
    (writeBeats cs).length ≤ (bs cs).length + 1 ∧ (ars cs).length ≤ (rs cs).length + 1 := by
  obtain ⟨beats, addresses⟩ := bk.accounts.held_count
  obtain ⟨written, read⟩ := bk.accounts.owed_count
  rw [beats, addresses, written, read]
  cases h : s.stateReg with
  | writeWaitRsp | writeB =>
    obtain ⟨aw, w⟩ := bk.inv.written (by simp [h])
    cases ar : s.arHoldValidReg <;> simp [heldAw, heldW, heldAr, owedB, owedR, h, aw, w, ar]
  | readWaitRsp | readR =>
    have ar := bk.inv.done (by simp [h])
    cases aw : s.awHoldValidReg <;> cases w : s.wHoldValidReg <;>
      simp [heldAw, heldW, heldAr, owedB, owedR, h, aw, w, ar]
  | _ =>
    cases aw : s.awHoldValidReg <;> cases w : s.wHoldValidReg <;> cases ar : s.arHoldValidReg <;>
      simp [heldAw, heldW, heldAr, owedB, owedR, h, aw, w, ar]

/-- While a write is owed, every cycle that leaves no response waiting brings its response closer or
    hands it out. -/
lemma Books.write_turn {cs : List Cycle} (bk : Books R I s cs) (law : R.Lawful I) (i : AxiIn × ε)
    (owing : (bs cs).length < (writeBeats cs).length) : (s.observe R i.1 i.2).bFire.isSome ∨
      (s.step R i.1 i.2).writeDue + (s.observe R i.1 i.2).flows.toNat ≤ s.writeDue := by
  obtain ⟨beats, -⟩ := bk.accounts.held_count
  obtain ⟨written, -⟩ := bk.accounts.owed_count
  rw [beats, written] at owing
  have fire := bk.inv.mmioReqFire_eq law
  have taken := bk.inv.mmioRspFire_eq
  have one := Bool.toNat_le (s.observe R i.1 i.2).flows
  cases h : s.stateReg with
  | idle =>
    cases aw : s.awHoldValidReg <;> cases w : s.wHoldValidReg <;>
      simp [heldAw, heldW, owedB, h, aw, w] at owing
    simp [writeDue, HoldFsm.step, stateNext, h, aw, w]
    omega
  | writeReq | readReq =>
    simp [writeDue, HoldFsm.step, stateNext, fire, mmioReqValid, h]
    omega
  | writeWaitRsp | readWaitRsp =>
    simp [writeDue, HoldFsm.step, stateNext, taken, mmioRspReady, h]
    omega
  | writeB =>
    cases b : i.1.bready <;>
      simp [writeDue, observe, Cycle.bFire, presentedB, bvalid, HoldFsm.step, stateNext,
        HoldFsm.bFire, Cycle.flows, h, b]
  | readR =>
    cases r : i.1.rready <;>
      simp [writeDue, observe, presentedB, presentedR, bvalid, rvalid, HoldFsm.step, stateNext,
        HoldFsm.rFire, Cycle.flows, h, r]

/-- The same for a read: a write that goes first is the last one before it. -/
lemma Books.read_turn {cs : List Cycle} (bk : Books R I s cs) (law : R.Lawful I) (i : AxiIn × ε)
    (owing : (rs cs).length < (ars cs).length) : (s.observe R i.1 i.2).rFire.isSome ∨
      (s.step R i.1 i.2).readDue + (s.observe R i.1 i.2).flows.toNat ≤ s.readDue := by
  obtain ⟨-, addresses⟩ := bk.accounts.held_count
  obtain ⟨-, read⟩ := bk.accounts.owed_count
  rw [addresses, read] at owing
  have fire := bk.inv.mmioReqFire_eq law
  have taken := bk.inv.mmioRspFire_eq
  have one := Bool.toNat_le (s.observe R i.1 i.2).flows
  cases h : s.stateReg with
  | idle =>
    cases ar : s.arHoldValidReg with
    | false => simp [heldAr, owedR, h, ar] at owing
    | true =>
      cases both : s.awHoldValidReg && s.wHoldValidReg <;>
        simp [readDue, HoldFsm.step, stateNext, h, both, ar] <;> omega
  | writeReq | readReq =>
    simp [readDue, HoldFsm.step, stateNext, fire, mmioReqValid, h]
    omega
  | writeWaitRsp | readWaitRsp =>
    simp [readDue, HoldFsm.step, stateNext, taken, mmioRspReady, h]
    omega
  | writeB =>
    obtain ⟨aw, w⟩ := bk.inv.written (by simp [h])
    cases b : i.1.bready <;>
      simp [readDue, observe, presentedB, presentedR, bvalid, rvalid, HoldFsm.step, stateNext,
        HoldFsm.bFire, Cycle.flows, awFire, wFire, awready, wready, h, aw, w, b]
  | readR =>
    cases r : i.1.rready <;>
      simp [readDue, observe, Cycle.rFire, presentedR, rvalid, HoldFsm.step, stateNext,
        HoldFsm.rFire, Cycle.flows, h, r]

/-- A wrapper over a lawful register block serves every run, and answers what it has accepted within
    eight cycles that leave no response waiting. -/
theorem servesWell (law : R.Lawful I) (is : List (AxiIn × ε)) : 
    ServesWell 8 8 ((machine R).trace is) := by
  have bk := books_after law is
  have served := bk.accounts.served bk.held.1
  have keep : ∀ s cs (i : AxiIn × ε), Books R I s cs → True →
      Books R I ((machine R).step s i) (cs ++ [(machine R).out s i]) :=
    fun _ _ i bk _ => bk.step i.1 i.2 law
  refine ⟨served, ?_, ?_⟩
  · exact writesWithin_of_rank writeDue (.reset law) keep served (fun _ _ bk => bk.owed.1)
      (fun s => (due_bounds s).2.1) (fun s _ _ _ => (due_bounds s).1)
      (fun _ _ i bk owing => bk.write_turn law i owing) ((machine R).along_true is)
  · exact readsWithin_of_rank readDue (.reset law) keep served (fun _ _ bk => bk.owed.2)
      (fun s => (due_bounds s).2.2.2) (fun s _ _ _ => (due_bounds s).2.2.1)
      (fun _ _ i bk owing => bk.read_turn law i owing) ((machine R).along_true is)

end HoldFsm

end ModularControl.Axi
