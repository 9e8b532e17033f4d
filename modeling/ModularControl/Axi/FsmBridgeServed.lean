import ModularControl.Axi.FsmBridge

/-!
# The state machine wrapper serves its master

The state of the machine says what the holding registers stand for, so the books of `Axi.Accounts`
are read off it. They balance over every cycle but one kind: a read accepted in the idle state
together with an address or data beat of a write is forgotten (`Clear` excludes it). What is accepted
is served at once.
-/

namespace ModularControl.Axi
open Sync

variable {σ ε : Type*}

namespace FsmBridge

variable {R : Responder σ ε MmioReq MmioRsp} {I : σ → Prop} {s : FsmBridge σ}

/-- The wrapper's invariant: the subsystem presents a response exactly while one is waited for. -/
structure Inv (R : Responder σ ε MmioReq MmioRsp) (I : σ → Prop) (s : FsmBridge σ) : Prop where
  sub : I s.sub
  valid : R.valid s.sub = s.rspReady

/-- In the idle state, no read is offered together with a part of a write. -/
def Clear (s : FsmBridge σ) (i : AxiIn) : Prop :=
  s.currentState = .idle → i.arvalid = true → i.awvalid = false ∧ i.wvalid = false

instance (s : FsmBridge σ) (i : AxiIn) : Decidable (Clear s i) :=
  inferInstanceAs (Decidable (_ → _ → _))

/-- A request is taken in the first cycle it is issued. -/
lemma Inv.reqFire_eq (inv : Inv R I s) (law : R.Lawful I) : s.reqFire R = s.reqValid := by
  cases h : s.reqValid with
  | false => simp [reqFire, h]
  | true =>
    have issue : s.currentState = .wrIssue ∨ s.currentState = .rdIssue := by
      simpa [reqValid] using h
    have quiet : R.valid s.sub = false := by
      rw [inv.valid]
      obtain e | e := issue <;> simp [rspReady, e]
    simp [reqFire, h, law.ready _ _ inv.sub quiet]

/-- A response is taken in the first cycle it is waited for. -/
lemma Inv.rspFire_eq (inv : Inv R I s) : s.rspFire R = s.rspReady := by
  simp [rspFire, inv.valid]

lemma Inv.reset (law : R.Lawful I) : Inv R I (reset R) where
  sub := law.init
  valid := by rw [FsmBridge.reset, law.idle]; rfl

lemma Inv.step (inv : Inv R I s) (law : R.Lawful I) (i : AxiIn) (e : ε) :
    Inv R I (s.step R i e) := by
  have fire := inv.reqFire_eq law
  have taken := inv.rspFire_eq
  refine ⟨law.next _ _ _ _ inv.sub, ?_⟩
  have v := law.valid e s.reqValid s.req s.rspReady inv.sub
  have gone : (R.valid s.sub && !s.rspReady) = false := by simp [inv.valid]
  have sent : (s.reqValid && R.ready s.sub s.req s.rspReady) = s.reqValid := fire
  rw [gone, sent, Bool.or_false] at v
  have keep : (s.step R i e).rspReady = s.reqValid := by
    simp only [rspReady, FsmBridge.step, nextState, fire, taken]
    cases h : s.currentState <;>
      simp only [reqValid, awFire, wFire, arFire, bFire, rFire, awready, wready, arready,
        bvalid, rvalid, h] <;>
      cases i.awvalid <;> cases i.wvalid <;> cases i.arvalid <;> cases i.bready <;>
      cases i.rready <;> rfl
  rw [keep]
  exact v

/-! ## The books -/

def heldAw (s : FsmBridge σ) : List (BitVec 12) :=
  match s.currentState with
  | .wrWaitData | .wrIssue => [s.awaddrReg]
  | _ => []

def heldW (s : FsmBridge σ) : List (BitVec 32 × BitVec 4) :=
  match s.currentState with
  | .wrWaitAddr | .wrIssue => [(s.wdataReg, s.wstrbReg)]
  | _ => []

def heldAr (s : FsmBridge σ) : List (BitVec 12) :=
  match s.currentState with
  | .rdIssue => [s.araddrReg]
  | _ => []

def owedB (R : Responder σ ε MmioReq MmioRsp) (s : FsmBridge σ) : List (BitVec 2) :=
  match s.currentState with
  | .wrWaitRsp => [axiResp (R.rsp s.sub)]
  | .wrSendB => [s.brespReg]
  | _ => []

def owedR (R : Responder σ ε MmioReq MmioRsp) (s : FsmBridge σ) :
    List (BitVec 32 × BitVec 2) :=
  match s.currentState with
  | .rdWaitRsp => [readRsp (R.rsp s.sub)]
  | .rdSendR => [(s.rdataReg, s.rrespReg)]
  | _ => []

variable (i : AxiIn) (e : ε)

/-- The write performed in a cycle is the one issued. -/
lemma Inv.writeFire (inv : Inv R I s) (law : R.Lawful I) :
    (s.observe R i e).writeFire =
      if s.currentState = .wrIssue then some (s.req, R.answer s.sub e s.req) else none := by
  simp only [Cycle.writeFire, observe, inv.reqFire_eq law]
  cases h : s.currentState <;> simp [reqValid, req, h]

/-- The read performed in a cycle is the one issued. -/
lemma Inv.readFire (inv : Inv R I s) (law : R.Lawful I) :
    (s.observe R i e).readFire =
      if s.currentState = .rdIssue then some (s.req, R.answer s.sub e s.req) else none := by
  simp only [Cycle.readFire, observe, inv.reqFire_eq law]
  cases h : s.currentState <;> simp [reqValid, req, h]

/-- In each channel, what is held or owed and what comes in is what goes out and what is held or
    owed afterwards. A read accepted is the next to be issued, unless a write came with it. -/
lemma Inv.balance (inv : Inv R I s) (law : R.Lawful I) (clear : Clear s i) :
    s.heldAw ++ (s.observe R i e).aw.toList =
        (s.observe R i e).writeFire.toList.map (·.1.addr) ++ (s.step R i e).heldAw ∧
      s.heldW ++ (s.observe R i e).w.toList =
        (s.observe R i e).writeFire.toList.map (fun p => (p.1.wdata, p.1.wstrb)) ++
          (s.step R i e).heldW ∧
      s.heldAr ++ (s.observe R i e).ar.toList =
        (s.observe R i e).readFire.toList.map (·.1.addr) ++ (s.step R i e).heldAr ∧
      s.owedB R ++ (s.observe R i e).writeFire.toList.map (axiResp ·.2) =
        (s.observe R i e).bFire.toList ++ (s.step R i e).owedB R ∧
      s.owedR R ++ (s.observe R i e).readFire.toList.map (readRsp ·.2) =
        (s.observe R i e).rFire.toList ++ (s.step R i e).owedR R := by
  have fire := inv.reqFire_eq law
  have taken := inv.rspFire_eq
  have rsp := law.rsp e s.req s.rspReady inv.sub
  rw [inv.valid] at rsp
  rw [inv.writeFire i e law, inv.readFire i e law]
  simp only [heldAw, heldW, heldAr, owedB, owedR, FsmBridge.step, nextState, observe, Cycle.bFire,
    Cycle.rFire, presentedB, presentedR, fire, taken]
  obtain ⟨state, aw, wd, ws, ar, br, rd, rr, sub⟩ := s
  cases state with
  | idle =>
    cases hr : i.arvalid with
    | true =>
      obtain ⟨ha, hw⟩ := clear rfl hr
      simp [awFire, wFire, arFire, awready, wready, arready, bvalid, rvalid, ha, hw, hr]
    | false =>
      cases ha : i.awvalid <;> cases hw : i.wvalid <;>
        simp [awFire, wFire, arFire, awready, wready, arready, bvalid, rvalid, ha, hw, hr]
  | wrWaitData =>
    cases hw : i.wvalid <;>
      simp [awFire, wFire, arFire, awready, wready, arready, bvalid, rvalid, hw]
  | wrWaitAddr =>
    cases ha : i.awvalid <;>
      simp [awFire, wFire, arFire, awready, wready, arready, bvalid, rvalid, ha]
  | wrIssue | rdIssue =>
    have same := rsp rfl
    simp [rspReady, req] at same
    simp [awFire, wFire, arFire, awready, wready, arready, bvalid, rvalid, reqValid, rspReady, req,
      same]
  | wrWaitRsp | rdWaitRsp =>
    simp [awFire, wFire, arFire, awready, wready, arready, bvalid, rvalid, rspReady, readRsp]
  | wrSendB =>
    cases hb : i.bready <;>
      simp [awFire, wFire, arFire, FsmBridge.bFire, awready, wready, arready, bvalid, rvalid, hb]
  | rdSendR =>
    cases hr : i.rready <;>
      simp [awFire, wFire, arFire, FsmBridge.rFire, awready, wready, arready, bvalid, rvalid, hr]

lemma Inv.blank (inv : Inv R I s) (law : R.Lawful I) :
    ∀ p ∈ (s.observe R i e).readFire, p.1 = readReq p.1.addr := by
  intro p m
  rw [inv.readFire i e law, Option.mem_def, Option.ite_none_right_eq_some] at m
  obtain ⟨h, same⟩ := m
  cases same
  simp only [req, h, readReq]

/-- A response that is presented and not taken is still presented after the clock edge. -/
lemma presentedB_kept (hb : s.presentedB.isSome) (hr : i.bready = false) :
    (s.step R i e).presentedB = s.presentedB := by
  have h : s.currentState = .wrSendB := by
    simpa [presentedB, bvalid] using hb
  simp [presentedB, bvalid, FsmBridge.step, nextState, FsmBridge.bFire, h, hr]

lemma presentedR_kept (hb : s.presentedR.isSome) (hr : i.rready = false) :
    (s.step R i e).presentedR = s.presentedR := by
  have h : s.currentState = .rdSendR := by
    simpa [presentedR, rvalid] using hb
  simp [presentedR, rvalid, FsmBridge.step, nextState, FsmBridge.rFire, h, hr]

/-- The wrapper's registers against everything its master and its subsystem have seen. -/
structure Books (R : Responder σ ε MmioReq MmioRsp) (I : σ → Prop) (s : FsmBridge σ)
    (cs : List Cycle) : Prop where
  inv : Inv R I s
  accounts : Accounts cs s.heldAw s.heldW s.heldAr (s.owedB R) (s.owedR R)
  held : HeldBy cs s.presentedB s.presentedR

lemma Books.reset (law : R.Lawful I) : Books R I (reset R) [] where
  inv := .reset law
  accounts := ⟨rfl, rfl, rfl, rfl, rfl, by simp [reads]⟩
  held := ⟨.nil, by simp⟩

/-- The step lemma: the books stay in order over a clear cycle. -/
lemma Books.step {cs : List Cycle} (bk : Books R I s cs) (law : R.Lawful I) (clear : Clear s i) :
    Books R I (s.step R i e) (cs ++ [s.observe R i e]) where
  inv := bk.inv.step law i e
  accounts := by
    obtain ⟨aw, w, ar, b, r⟩ := bk.inv.balance i e law clear
    exact bk.accounts.snoc aw w ar b r (bk.inv.blank i e law)
  held := bk.held.snoc (presentedB_kept i e) (presentedR_kept i e)

/-- The run lemma: the books are in order after every run of clear cycles. -/
theorem books_along (law : R.Lawful I) {is : List (AxiIn × ε)}
    (al : (machine R).Along (fun s i => Clear s i.1) is) :
    Books R I ((machine R).after is) ((machine R).trace is) :=
  (machine R).history_rule (P := Books R I) (.reset law)
    (fun _ _ i bk clear => bk.step i.1 i.2 law clear) al

/-! ## Service in time -/

/-- The cycles of work left on the transaction being served. -/
def work (s : FsmBridge σ) : Nat :=
  match s.currentState with
  | .idle | .wrWaitData | .wrWaitAddr => 0
  | .wrIssue | .rdIssue => 3
  | .wrWaitRsp | .rdWaitRsp => 2
  | .wrSendB | .rdSendR => 1

lemma work_le (s : FsmBridge σ) : s.work ≤ 3 := by
  unfold work
  cases s.currentState <;> decide

/-- Of a write or a read accepted at most one is not answered yet. -/
lemma Books.owed {cs : List Cycle} (bk : Books R I s cs) :
    (writeBeats cs).length ≤ (bs cs).length + 1 ∧ (ars cs).length ≤ (rs cs).length + 1 := by
  obtain ⟨beats, addresses⟩ := bk.accounts.held_count
  obtain ⟨written, read⟩ := bk.accounts.owed_count
  rw [beats, addresses, written, read]
  cases h : s.currentState <;> simp [heldAw, heldW, heldAr, owedB, owedR, h]

/-- While a write is owed the machine is at work on it, and so for a read. -/
lemma Books.serving {cs : List Cycle} (bk : Books R I s cs) :
    ((bs cs).length < (writeBeats cs).length →
        s.currentState = .wrIssue ∨ s.currentState = .wrWaitRsp ∨ s.currentState = .wrSendB) ∧
      ((rs cs).length < (ars cs).length →
        s.currentState = .rdIssue ∨ s.currentState = .rdWaitRsp ∨ s.currentState = .rdSendR) := by
  obtain ⟨beats, addresses⟩ := bk.accounts.held_count
  obtain ⟨written, read⟩ := bk.accounts.owed_count
  rw [beats, addresses, written, read]
  cases h : s.currentState <;> simp [heldAw, heldW, heldAr, owedB, owedR, h]

/-- A cycle that leaves no response waiting does a cycle of the work on a write, or hands out its
    response. -/
lemma Inv.write_turn (inv : Inv R I s) (law : R.Lawful I) (i : AxiIn × ε)
    (serving : s.currentState = .wrIssue ∨ s.currentState = .wrWaitRsp ∨ s.currentState = .wrSendB) :
    (s.observe R i.1 i.2).bFire.isSome ∨
      (s.step R i.1 i.2).work + (s.observe R i.1 i.2).flows.toNat ≤ s.work := by
  have fire := inv.reqFire_eq law
  have taken := inv.rspFire_eq
  have one := Bool.toNat_le (s.observe R i.1 i.2).flows
  obtain h | h | h := serving
  · simp [work, FsmBridge.step, nextState, fire, reqValid, h]
    omega
  · simp [work, FsmBridge.step, nextState, taken, rspReady, h]
    omega
  · cases hb : i.1.bready <;>
      simp [work, observe, Cycle.bFire, presentedB, bvalid, FsmBridge.step, nextState,
        FsmBridge.bFire, Cycle.flows, h, hb]

/-- The same for a read. -/
lemma Inv.read_turn (inv : Inv R I s) (law : R.Lawful I) (i : AxiIn × ε)
    (serving : s.currentState = .rdIssue ∨ s.currentState = .rdWaitRsp ∨ s.currentState = .rdSendR) :
    (s.observe R i.1 i.2).rFire.isSome ∨
      (s.step R i.1 i.2).work + (s.observe R i.1 i.2).flows.toNat ≤ s.work := by
  have fire := inv.reqFire_eq law
  have taken := inv.rspFire_eq
  have one := Bool.toNat_le (s.observe R i.1 i.2).flows
  obtain h | h | h := serving
  · simp [work, FsmBridge.step, nextState, fire, reqValid, h]
    omega
  · simp [work, FsmBridge.step, nextState, taken, rspReady, h]
    omega
  · cases hr : i.1.rready <;>
      simp [work, observe, Cycle.rFire, presentedR, rvalid, FsmBridge.step, nextState,
        FsmBridge.rFire, Cycle.flows, h, hr]

/-- A wrapper over a lawful subsystem serves every run of clear cycles, and answers what it has
    accepted within three cycles that leave no response waiting. -/
theorem servesWell_along (law : R.Lawful I) {is : List (AxiIn × ε)}
    (al : (machine R).Along (fun s i => Clear s i.1) is) :
    ServesWell 3 3 ((machine R).trace is) := by
  have bk := books_along law al
  have served := bk.accounts.served bk.held.1
  have keep : ∀ s cs (i : AxiIn × ε), Books R I s cs → Clear s i.1 →
      Books R I ((machine R).step s i) (cs ++ [(machine R).out s i]) :=
    fun _ _ i bk clear => bk.step i.1 i.2 law clear
  refine ⟨served, ?_, ?_⟩
  · refine writesWithin_of_rank work (.reset law) keep served (fun _ _ bk => bk.owed.1)
      work_le (fun s _ bk owing => ?_)
      (fun _ _ i bk owing => bk.inv.write_turn law i (bk.serving.1 owing)) al
    obtain h | h | h := bk.serving.1 owing <;> simp [work, h]
  · refine readsWithin_of_rank work (.reset law) keep served (fun _ _ bk => bk.owed.2)
      work_le (fun s _ bk owing => ?_)
      (fun _ _ i bk owing => bk.inv.read_turn law i (bk.serving.2 owing)) al
    obtain h | h | h := bk.serving.2 owing <;> simp [work, h]

end FsmBridge

end ModularControl.Axi
