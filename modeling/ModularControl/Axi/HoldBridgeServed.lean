import ModularControl.Axi.HoldBridge

/-!
# The holding-register wrapper serves its master

The invariant of `HoldBridge` ties the staged request to the holding registers it came from and the
busy flag to the register block's response. Under it the books of `Axi.Accounts` balance over every
cycle in which no response is delivered into an occupied output register (`Clear`), a request held
is performed as soon as the launch decision falls to it, and what is performed is answered. Writes
go first: a read waits for as many of them as complete in time (`PassedAtMost`).
-/

namespace ModularControl.Axi
open Sync

variable {σ ε : Type*}

namespace HoldBridge

variable {gated : Bool} {R : Responder σ ε MmioReq MmioRsp} {I : σ → Prop} {s : HoldBridge σ}

/-- The wrapper's invariant. -/
structure Inv (R : Responder σ ε MmioReq MmioRsp) (I : σ → Prop) (s : HoldBridge σ) : Prop where
  regs : I s.regs
  busy : s.mmioBusy = R.valid s.regs
  one : s.reqPendingValid = true → s.mmioBusy = false
  pendingWrite : s.reqPendingValid = true → s.reqPendingWrite = true →
    s.awHoldValid = true ∧ s.wHoldValid = true ∧
      s.req = writeReq s.awHoldAddr (s.wHoldData, s.wHoldStrb)
  pendingRead : s.reqPendingValid = true → s.reqPendingWrite = false →
    s.arHoldValid = true ∧ s.req = readReq s.arHoldAddr

/-- No response arrives for an output register whose response has not been taken. -/
def Clear (R : Responder σ ε MmioReq MmioRsp) (s : HoldBridge σ) : Prop :=
  s.rspFire R = true →
    (s.mmioActiveWrite = true → s.bvalid = false) ∧ (s.mmioActiveWrite = false → s.rvalid = false)

instance : Decidable (Clear R s) := inferInstanceAs (Decidable (_ → _))

/-- The staged request is taken at once: the register block has no response waiting. -/
lemma Inv.reqFire_eq (inv : Inv R I s) (law : R.Lawful I) :
    s.reqFire R = s.reqPendingValid := by
  cases h : s.reqPendingValid with
  | false => simp [reqFire, h]
  | true =>
    have quiet : R.valid s.regs = false := by rw [← inv.busy]; exact inv.one h
    simp [reqFire, h, law.ready _ _ inv.regs quiet]

/-- A response is taken in the first cycle it is presented. -/
lemma Inv.rspFire_eq (inv : Inv R I s) : s.rspFire R = s.mmioBusy := by
  simp [rspFire, ← inv.busy]

/-- Nothing is staged while the register block is busy. -/
lemma Inv.stage_empty (inv : Inv R I s) (h : s.mmioBusy = true) : s.reqPendingValid = false := by
  cases hp : s.reqPendingValid with
  | false => rfl
  | true =>
    rw [inv.one hp] at h
    cases h

/-- A launch needs an empty stage and an idle register block. -/
lemma mayLaunch_idle (h : s.mayLaunch gated = true) :
    s.reqPendingValid = false ∧ s.mmioBusy = false := by
  simp only [mayLaunch, Bool.and_eq_true, Bool.not_eq_true'] at h
  exact h.1

lemma launchWriteReq_idle (h : s.launchWriteReq gated = true) :
    s.reqPendingValid = false ∧ s.mmioBusy = false ∧ s.awHoldValid = true ∧ s.wHoldValid = true := by
  simp only [launchWriteReq, Bool.and_eq_true] at h
  exact ⟨(mayLaunch_idle h.1).1, (mayLaunch_idle h.1).2, h.2⟩

lemma launchReadReq_idle (h : s.launchReadReq gated = true) :
    s.reqPendingValid = false ∧ s.mmioBusy = false ∧ s.arHoldValid = true ∧
      s.launchWriteReq gated = false := by
  simp only [launchReadReq, Bool.and_eq_true, Bool.not_eq_true'] at h
  exact ⟨(mayLaunch_idle h.1.1).1, (mayLaunch_idle h.1.1).2, h.2,
    by simp only [launchWriteReq, h.1.2, Bool.and_false]⟩

lemma Inv.reset (law : R.Lawful I) : Inv R I (reset R) where
  regs := law.init
  busy := by rw [HoldBridge.reset, law.idle]
  one := by simp [HoldBridge.reset]
  pendingWrite := by simp [HoldBridge.reset]
  pendingRead := by simp [HoldBridge.reset]

/-- What a clock edge does to the stage: it empties, keeps its request, or takes over the write or
    the read assembled in the holding registers. -/
lemma step_stage (inv : Inv R I s) (law : R.Lawful I) (i : AxiIn) (e : ε)
    (h : (s.step gated R i e).reqPendingValid = true) :
    s.reqPendingValid = false ∧ s.mmioBusy = false ∧
      ((s.launchWriteReq gated = true ∧ s.launchReadReq gated = false ∧ s.awHoldValid = true ∧
          s.wHoldValid = true ∧
          (s.step gated R i e).req = writeReq s.awHoldAddr (s.wHoldData, s.wHoldStrb)) ∨
        (s.launchReadReq gated = true ∧ s.arHoldValid = true ∧
          (s.step gated R i e).req = readReq s.arHoldAddr)) := by
  have fire := inv.reqFire_eq law
  cases hp : s.reqPendingValid with
  | true => simp [step, fire, hp] at h
  | false =>
    cases hr : s.launchReadReq gated with
    | true =>
      obtain ⟨-, busy, ar, -⟩ := launchReadReq_idle hr
      exact ⟨rfl, busy, .inr ⟨rfl, ar, by simp [step, req, hr, readReq]⟩⟩
    | false =>
      cases hw : s.launchWriteReq gated with
      | true =>
        obtain ⟨-, busy, aw, w⟩ := launchWriteReq_idle hw
        exact ⟨rfl, busy, .inl ⟨rfl, rfl, aw, w, by simp [step, req, hr, hw, writeReq]⟩⟩
      | false => simp [step, hp, hr, hw] at h

lemma Inv.step (inv : Inv R I s) (law : R.Lawful I) (i : AxiIn) (e : ε) :
    Inv R I (s.step gated R i e) := by
  have fire := inv.reqFire_eq law
  have taken := inv.rspFire_eq
  refine ⟨law.next _ _ _ _ inv.regs, ?_, ?_, ?_, ?_⟩
  · -- busy follows the response: set with the request, cleared when the response is taken
    have v := law.valid e s.reqPendingValid s.req s.mmioBusy inv.regs
    simp only [HoldBridge.step, taken, fire, v, ← inv.busy]
    cases hp : s.reqPendingValid with
    | false => cases s.mmioBusy <;> simp
    | true =>
      have quiet := inv.one hp
      have ready := law.ready s.req s.mmioBusy inv.regs (by rw [← inv.busy]; exact quiet)
      simpa [quiet] using ready
  · intro h
    obtain ⟨pend, busy, -⟩ := step_stage inv law i e h
    simp [HoldBridge.step, taken, fire, pend, busy]
  · intro h hw
    obtain ⟨pend, -, ⟨-, -, aw, w, eq⟩ | ⟨launch, -, -⟩⟩ := step_stage inv law i e h
    · rw [eq]
      simp [HoldBridge.step, fire, pend, aw, w, awFire, wFire]
    · simp [HoldBridge.step, launch] at hw
  · intro h hw
    obtain ⟨pend, -, ⟨launch, noRead, -⟩ | ⟨-, ar, eq⟩⟩ := step_stage inv law i e h
    · simp [HoldBridge.step, launch, noRead] at hw
    · rw [eq]
      simp [HoldBridge.step, fire, pend, ar, arFire]

/-! ## The books -/

def heldAw (s : HoldBridge σ) : List (BitVec 12) := if s.awHoldValid then [s.awHoldAddr] else []

def heldW (s : HoldBridge σ) : List (BitVec 32 × BitVec 4) :=
  if s.wHoldValid then [(s.wHoldData, s.wHoldStrb)] else []

def heldAr (s : HoldBridge σ) : List (BitVec 12) := if s.arHoldValid then [s.arHoldAddr] else []

/-- The write responses owed: the one presented, then the one in flight. -/
def owedB (R : Responder σ ε MmioReq MmioRsp) (s : HoldBridge σ) : List (BitVec 2) :=
  s.presentedB.toList ++
    if s.mmioBusy && s.mmioActiveWrite then [axiResp (R.rsp s.regs)] else []

/-- The read responses owed: the one presented, then the one in flight. -/
def owedR (R : Responder σ ε MmioReq MmioRsp) (s : HoldBridge σ) :
    List (BitVec 32 × BitVec 2) :=
  s.presentedR.toList ++
    if s.mmioBusy && !s.mmioActiveWrite then [readRsp (R.rsp s.regs)] else []

variable (i : AxiIn) (e : ε)

/-- The write performed in a cycle is the staged one. -/
lemma Inv.writeFire (inv : Inv R I s) (law : R.Lawful I) :
    (s.observe R i e).writeFire =
      if s.reqPendingValid && s.reqPendingWrite then some (s.req, R.answer s.regs e s.req)
      else none := by
  simp only [Cycle.writeFire, observe, inv.reqFire_eq law]
  cases s.reqPendingValid <;> cases h : s.reqPendingWrite <;> simp [req, h]

/-- The read performed in a cycle is the staged one. -/
lemma Inv.readFire (inv : Inv R I s) (law : R.Lawful I) :
    (s.observe R i e).readFire =
      if s.reqPendingValid && !s.reqPendingWrite then some (s.req, R.answer s.regs e s.req)
      else none := by
  simp only [Cycle.readFire, observe, inv.reqFire_eq law]
  cases s.reqPendingValid <;> cases h : s.reqPendingWrite <;> simp [req, h]

/-- An output register takes a response while it is free (`move`) and lets go of it when it is
    taken; behind it comes the response of what is performed (`sent`). -/
lemma balance_out {α β : Type*} {valid ready move sent : Bool} {x y : α} {f : β → α} {z : β}
    (free : move = true → valid = false) :
    (if valid then some x else none).toList ++ (if move then [y] else []) ++
        (if sent then some z else none).toList.map f =
      (if ready then if valid then some x else none else none).toList ++
        ((if (if valid && ready then false else if move then true else valid) then
            some (if move then y else x) else none).toList ++ if sent then [f z] else []) := by
  have performed : (if sent then some z else none).toList.map f = if sent then [f z] else [] := by
    cases sent <;> rfl
  rw [performed, ← List.append_assoc]
  congr 1
  cases hm : move with
  | true => simp [free hm]
  | false => cases valid <;> cases ready <;> simp

lemma Inv.balance_aw (inv : Inv R I s) (law : R.Lawful I) :
    s.heldAw ++ (s.observe R i e).aw.toList =
      (s.observe R i e).writeFire.toList.map (·.1.addr) ++ (s.step gated R i e).heldAw := by
  rw [inv.writeFire i e law]
  simp only [heldAw, observe, HoldBridge.step, inv.reqFire_eq law]
  refine balance_hold fun sent => ?_
  rw [Bool.and_eq_true] at sent
  obtain ⟨aw, -, eq⟩ := inv.pendingWrite sent.1 sent.2
  exact ⟨aw, by rw [eq, writeReq]⟩

lemma Inv.balance_w (inv : Inv R I s) (law : R.Lawful I) :
    s.heldW ++ (s.observe R i e).w.toList =
      (s.observe R i e).writeFire.toList.map (fun p => (p.1.wdata, p.1.wstrb)) ++
        (s.step gated R i e).heldW := by
  rw [inv.writeFire i e law]
  have pair : (if s.wFire i then (i.wdata, i.wstrb) else (s.wHoldData, s.wHoldStrb)) =
      (if s.wFire i then i.wdata else s.wHoldData, if s.wFire i then i.wstrb else s.wHoldStrb) := by
    split_ifs <;> rfl
  simp only [heldW, observe, HoldBridge.step, inv.reqFire_eq law, ← pair]
  refine balance_hold fun sent => ?_
  rw [Bool.and_eq_true] at sent
  obtain ⟨-, w, eq⟩ := inv.pendingWrite sent.1 sent.2
  exact ⟨w, by rw [eq, writeReq]⟩

lemma Inv.balance_ar (inv : Inv R I s) (law : R.Lawful I) :
    s.heldAr ++ (s.observe R i e).ar.toList =
      (s.observe R i e).readFire.toList.map (·.1.addr) ++ (s.step gated R i e).heldAr := by
  rw [inv.readFire i e law]
  simp only [heldAr, observe, HoldBridge.step, inv.reqFire_eq law]
  refine balance_hold fun sent => ?_
  rw [Bool.and_eq_true, Bool.not_eq_true'] at sent
  obtain ⟨ar, eq⟩ := inv.pendingRead sent.1 sent.2
  exact ⟨ar, by rw [eq, readReq]⟩

/-- What is performed in a cycle is in flight in the next, with its answer. -/
lemma Inv.flight_step (inv : Inv R I s) (law : R.Lawful I) (gated : Bool) :
    (s.step gated R i e).mmioBusy = s.reqPendingValid ∧
      (s.reqPendingValid = true → (s.step gated R i e).mmioActiveWrite = s.reqPendingWrite ∧
        R.rsp (s.step gated R i e).regs = R.answer s.regs e s.req) := by
  have fire := inv.reqFire_eq law
  refine ⟨?_, fun pend => ⟨by simp [HoldBridge.step, fire, pend], ?_⟩⟩
  · cases hb : s.mmioBusy with
    | true => simp [HoldBridge.step, inv.rspFire_eq, hb, inv.stage_empty hb]
    | false => simp [HoldBridge.step, inv.rspFire_eq, fire, hb]
  · have rsp := law.rsp e s.req s.mmioBusy inv.regs (by rw [← inv.busy, inv.one pend])
    simpa only [HoldBridge.step, pend] using rsp

/-- A request performed in a cycle is the one in flight in the next. -/
lemma Inv.in_flight (inv : Inv R I s) (law : R.Lawful I) (gated : Bool) {β : Type*}
    (f : MmioRsp → β) (kind : Bool → Bool) :
    (if (s.step gated R i e).mmioBusy && kind (s.step gated R i e).mmioActiveWrite then
      [f (R.rsp (s.step gated R i e).regs)] else []) =
      if s.reqPendingValid && kind s.reqPendingWrite then [f (R.answer s.regs e s.req)] else [] := by
  obtain ⟨busy, sent⟩ := inv.flight_step i e law gated
  rw [busy]
  cases hp : s.reqPendingValid with
  | false => rfl
  | true => rw [(sent hp).1, (sent hp).2]

/-- The write performed in a cycle becomes the response in flight of the next. -/
lemma Inv.balance_b (inv : Inv R I s) (law : R.Lawful I) (clear : Clear R s) :
    s.owedB R ++ (s.observe R i e).writeFire.toList.map (axiResp ·.2) =
      (s.observe R i e).bFire.toList ++ (s.step gated R i e).owedB R := by
  have flight := inv.in_flight i e law gated axiResp id
  simp only [id_eq] at flight
  rw [inv.writeFire i e law, owedB, owedB, flight]
  simp only [presentedB, observe, Cycle.bFire, HoldBridge.step, HoldBridge.bFire, inv.rspFire_eq]
  refine balance_out fun move => ?_
  rw [Bool.and_eq_true] at move
  exact (clear (by rw [inv.rspFire_eq, move.1])).1 move.2

/-- The read performed in a cycle becomes the response in flight of the next. -/
lemma Inv.balance_r (inv : Inv R I s) (law : R.Lawful I) (clear : Clear R s) :
    s.owedR R ++ (s.observe R i e).readFire.toList.map (readRsp ·.2) =
      (s.observe R i e).rFire.toList ++ (s.step gated R i e).owedR R := by
  have flight := inv.in_flight i e law gated readRsp not
  have pair (c : Bool) : (if c then readRsp (R.rsp s.regs) else (s.rdata, s.rresp)) =
      (if c then (R.rsp s.regs).rdata else s.rdata,
        if c then axiResp (R.rsp s.regs) else s.rresp) := by
    cases c <;> rfl
  rw [inv.readFire i e law, owedR, owedR, flight]
  simp only [presentedR, observe, Cycle.rFire, HoldBridge.step, HoldBridge.rFire, inv.rspFire_eq,
    ← pair]
  refine balance_out fun move => ?_
  rw [Bool.and_eq_true, Bool.not_eq_true'] at move
  exact (clear (by rw [inv.rspFire_eq, move.1])).2 move.2

lemma Inv.blank (inv : Inv R I s) (law : R.Lawful I) :
    ∀ p ∈ (s.observe R i e).readFire, p.1 = readReq p.1.addr := by
  intro p m
  rw [inv.readFire i e law, Option.mem_def, Option.ite_none_right_eq_some] at m
  obtain ⟨hf, same⟩ := m
  cases same
  rw [Bool.and_eq_true, Bool.not_eq_true'] at hf
  obtain ⟨-, eq⟩ := inv.pendingRead hf.1 hf.2
  simp only [eq, readReq]

/-- A response that is presented and not taken is still presented after the clock edge. -/
lemma Inv.presentedB_kept (inv : Inv R I s) (clear : Clear R s) (hb : s.presentedB.isSome)
    (hr : i.bready = false) : (s.step gated R i e).presentedB = s.presentedB := by
  have v : s.bvalid = true := by
    cases h : s.bvalid with
    | true => rfl
    | false => simp [presentedB, h] at hb
  have free : (s.mmioBusy && s.mmioActiveWrite) = false := by
    rw [Bool.eq_false_iff]
    intro h
    rw [Bool.and_eq_true] at h
    have := (clear (by rw [inv.rspFire_eq, h.1])).1 h.2
    rw [v] at this
    cases this
  simp [presentedB, HoldBridge.step, HoldBridge.bFire, hr, v, inv.rspFire_eq, free]

lemma Inv.presentedR_kept (inv : Inv R I s) (clear : Clear R s) (hb : s.presentedR.isSome)
    (hr : i.rready = false) : (s.step gated R i e).presentedR = s.presentedR := by
  have v : s.rvalid = true := by
    cases h : s.rvalid with
    | true => rfl
    | false => simp [presentedR, h] at hb
  have free : (s.mmioBusy && !s.mmioActiveWrite) = false := by
    rw [Bool.eq_false_iff]
    intro h
    rw [Bool.and_eq_true, Bool.not_eq_true'] at h
    have := (clear (by rw [inv.rspFire_eq, h.1])).2 h.2
    rw [v] at this
    cases this
  simp [presentedR, HoldBridge.step, HoldBridge.rFire, hr, v, inv.rspFire_eq, free]

/-- The wrapper's registers against everything its master and its register block have seen. -/
structure Books (R : Responder σ ε MmioReq MmioRsp) (I : σ → Prop) (s : HoldBridge σ)
    (cs : List Cycle) : Prop where
  inv : Inv R I s
  accounts : Accounts cs s.heldAw s.heldW s.heldAr (s.owedB R) (s.owedR R)
  held : HeldBy cs s.presentedB s.presentedR

lemma Books.reset (law : R.Lawful I) : Books R I (reset R) [] where
  inv := .reset law
  accounts := ⟨rfl, rfl, rfl, rfl, rfl, by simp [reads]⟩
  held := ⟨.nil, by simp⟩

/-- The step lemma: the books stay in order over a clear cycle. -/
lemma Books.step {cs : List Cycle} (bk : Books R I s cs) (law : R.Lawful I) (clear : Clear R s) :
    Books R I (s.step gated R i e) (cs ++ [s.observe R i e]) where
  inv := bk.inv.step law i e
  accounts := bk.accounts.snoc (bk.inv.balance_aw i e law) (bk.inv.balance_w i e law)
    (bk.inv.balance_ar i e law) (bk.inv.balance_b i e law clear) (bk.inv.balance_r i e law clear)
    (bk.inv.blank i e law)
  held := bk.held.snoc (bk.inv.presentedB_kept i e clear) (bk.inv.presentedR_kept i e clear)

/-- The run lemma: the books are in order after every run of clear cycles. -/
theorem books_along (law : R.Lawful I) {is : List (AxiIn × ε)}
    (al : (machine gated R).Along (fun s _ => Clear R s) is) :
    Books R I ((machine gated R).after is) ((machine gated R).trace is) :=
  (machine gated R).history_rule (P := Books R I) (.reset law)
    (fun _ _ i bk clear => bk.step i.1 i.2 law clear) al

/-! ## Service in time -/

/-- No read address held is passed over by more than `n` writes: so many launch decisions, at most,
    find a complete write while it waits. -/
def PassedAtMost (gated : Bool) (R : Responder σ ε MmioReq MmioRsp) (n : Nat)
    (is : List (AxiIn × ε)) : Prop :=
  ∀ k ≤ is.length, (machine gated R).AtMostWhile (·.arHoldValid) (·.launchWriteReq gated) n
    ((machine gated R).after (is.take k)) (is.drop k)

instance (gated : Bool) (R : Responder σ ε MmioReq MmioRsp) (n : Nat) (is : List (AxiIn × ε)) :
    Decidable (PassedAtMost gated R n is) :=
  inferInstanceAs (Decidable (∀ k ≤ is.length, _))

lemma PassedAtMost.split {n : Nat} {js ds : List (AxiIn × ε)}
    (few : PassedAtMost gated R n (js ++ ds)) :
    (machine gated R).AtMostWhile (·.arHoldValid) (·.launchWriteReq gated) n
      ((machine gated R).after js) ds := by
  have at_ := few js.length (by simp)
  rwa [List.take_left, List.drop_left] at at_

/-- In how many cycles that leave no response waiting a request held is performed, if the launch
    decision falls to it: what is staged or in flight goes first, and then, behind the gate, what is
    presented. -/
def due (gated write : Bool) (s : HoldBridge σ) : Nat :=
  if s.reqPendingValid then if s.reqPendingWrite == write then 1 else 5
  else if s.mmioBusy then 4
  else if gated && s.axiRespBusy then 3
  else 2

lemma due_bounds (gated write : Bool) (s : HoldBridge σ) :
    0 < s.due gated write ∧ s.due gated write ≤ 5 := by
  unfold due
  split_ifs <;> decide

/-- A launch decision stages a request, a write if it finds one. -/
lemma step_launch (may : s.mayLaunch gated = true) (i : AxiIn) (e : ε)
    (some_ : (s.awHoldValid && s.wHoldValid) = true ∨ s.arHoldValid = true) :
    (s.step gated R i e).reqPendingValid = true ∧
      (s.step gated R i e).reqPendingWrite = (s.awHoldValid && s.wHoldValid) := by
  have pend := (mayLaunch_idle may).1
  cases both : s.awHoldValid && s.wHoldValid with
  | true => simp [HoldBridge.step, reqFire, launchReadReq, launchWriteReq, pend, may, both]
  | false =>
    rw [both] at some_
    have ar := some_.resolve_left Bool.false_ne_true
    simp [HoldBridge.step, reqFire, launchReadReq, pend, may, both, ar]

/-- With nothing in flight, a cycle that leaves no response waiting frees both output registers. -/
lemma Inv.freed (inv : Inv R I s) (gated : Bool) (i : AxiIn) (e : ε) (idle : s.mmioBusy = false)
    (flows : (s.observe R i e).flows = true) : (s.step gated R i e).axiRespBusy = false := by
  rw [Cycle.flows, Bool.and_eq_true] at flows
  obtain ⟨b, r⟩ := flows
  cases hb : s.bvalid <;> cases hr : s.rvalid <;>
    simp_all [axiRespBusy, HoldBridge.step, inv.rspFire_eq, HoldBridge.bFire, HoldBridge.rFire,
      observe, presentedB, presentedR]

/-- A cycle that leaves no response waiting brings a held request, if it is not the one performed,
    closer to its turn; only a write launched before a read throws the read back. -/
lemma Inv.due_turn (inv : Inv R I s) (law : R.Lawful I) (i : AxiIn × ε) (write : Bool)
    (held : if write then (s.awHoldValid && s.wHoldValid) = true else s.arHoldValid = true)
    (waits : (s.reqPendingValid && s.reqPendingWrite == write) = false) :
    (s.step gated R i.1 i.2).due gated write + (s.observe R i.1 i.2).flows.toNat ≤
      s.due gated write + 4 * (!write && s.launchWriteReq gated).toNat := by
  have one := Bool.toNat_le (s.observe R i.1 i.2).flows
  have busy' := (inv.flight_step i.1 i.2 law gated).1
  cases hp : s.reqPendingValid with
  | true =>
    -- the request staged is accepted
    have other : (s.reqPendingWrite == write) = false := by rwa [hp, Bool.true_and] at waits
    have pend' : (s.step gated R i.1 i.2).reqPendingValid = false := by
      simp [HoldBridge.step, inv.reqFire_eq law, hp]
    simp [due, pend', busy', hp, other]
    omega
  | false =>
    rw [hp] at busy'
    cases may : s.mayLaunch gated with
    | true =>
      have some_ : (s.awHoldValid && s.wHoldValid) = true ∨ s.arHoldValid = true := by
        cases write with
        | true => exact .inl held
        | false => exact .inr held
      have idle := (mayLaunch_idle may).2
      obtain ⟨pend', write'⟩ := step_launch (R := R) may i.1 i.2 some_
      have free : (gated && s.axiRespBusy) = false := by
        simpa only [mayLaunch, hp, idle, Bool.not_false, Bool.true_and, Bool.not_eq_true'] using may
      cases write with
      | true =>
        rw [if_pos rfl] at held
        simp [due, pend', write', hp, idle, free, held]
        omega
      | false =>
        cases both : s.awHoldValid && s.wHoldValid <;>
          simp [due, pend', write', hp, idle, free, launchWriteReq, may, both] <;> omega
    | false =>
      -- nothing is launched: a response moves out, or is taken
      have pend' : (s.step gated R i.1 i.2).reqPendingValid = false := by
        simp [HoldBridge.step, hp, launchReadReq, launchWriteReq, may]
      cases hb : s.mmioBusy with
      | true =>
        simp only [due, pend', busy', hp, hb, Bool.false_eq_true, if_false, if_true]
        split_ifs <;> omega
      | false =>
        have full : (gated && s.axiRespBusy) = true := by
          simpa [mayLaunch, hp, hb] using may
        cases hT : (s.observe R i.1 i.2).flows with
        | false =>
          simp only [due, pend', busy', hp, hb, full, Bool.false_eq_true, if_false, if_true,
            Bool.toNat_false]
          split_ifs <;> omega
        | true =>
          have free' := inv.freed gated i.1 i.2 hb hT
          simp [due, pend', busy', hp, hb, full, free']

/-- In how many cycles that leave no response waiting a response owed is taken, once it is presented
    (`valid`) or before. -/
def rspDue (valid : Bool) : Nat := if valid then 1 else 2

lemma rspDue_bounds (valid : Bool) : 0 < rspDue valid ∧ rspDue valid ≤ 2 := by
  cases valid <;> decide

/-- A write response in flight is presented, and one presented is handed out when it is taken. -/
lemma Inv.b_turn (inv : Inv R I s) (i : AxiIn × ε) (owing : s.owedB R ≠ []) :
    (s.observe R i.1 i.2).bFire.isSome ∨
      rspDue (s.step gated R i.1 i.2).bvalid + (s.observe R i.1 i.2).flows.toNat ≤
        rspDue s.bvalid := by
  cases hv : s.bvalid with
  | true =>
    cases hb : i.1.bready with
    | true => exact .inl (by simp [observe, Cycle.bFire, presentedB, hv, hb])
    | false =>
      refine .inr ?_
      simp [rspDue, observe, presentedB, Cycle.flows, HoldBridge.step, HoldBridge.bFire, hv, hb]
  | false =>
    have flight : (s.mmioBusy && s.mmioActiveWrite) = true := by
      simpa [owedB, presentedB, hv] using owing
    have one := Bool.toNat_le (s.observe R i.1 i.2).flows
    refine .inr ?_
    simp [rspDue, HoldBridge.step, HoldBridge.bFire, hv, inv.rspFire_eq, flight]
    omega

/-- The same for a read response. -/
lemma Inv.r_turn (inv : Inv R I s) (i : AxiIn × ε) (owing : s.owedR R ≠ []) :
    (s.observe R i.1 i.2).rFire.isSome ∨
      rspDue (s.step gated R i.1 i.2).rvalid + (s.observe R i.1 i.2).flows.toNat ≤
        rspDue s.rvalid := by
  cases hv : s.rvalid with
  | true =>
    cases hb : i.1.rready with
    | true => exact .inl (by simp [observe, Cycle.rFire, presentedR, hv, hb])
    | false =>
      refine .inr ?_
      simp [rspDue, observe, presentedR, Cycle.flows, HoldBridge.step, HoldBridge.rFire, hv, hb]
  | false =>
    have flight : (s.mmioBusy && !s.mmioActiveWrite) = true := by
      simpa [owedR, presentedR, hv] using owing
    have one := Bool.toNat_le (s.observe R i.1 i.2).flows
    refine .inr ?_
    simp [rspDue, HoldBridge.step, HoldBridge.rFire, hv, inv.rspFire_eq, flight]
    omega

/-- A request handshaken and not performed is held. -/
lemma Books.holding {cs : List Cycle} (bk : Books R I s cs) :
    ((writes cs).length < (writeBeats cs).length → (s.awHoldValid && s.wHoldValid) = true) ∧
      ((reads cs).length < (ars cs).length → s.arHoldValid = true) := by
  obtain ⟨beats, addresses⟩ := bk.accounts.held_count
  rw [beats, addresses]
  cases aw : s.awHoldValid <;> cases w : s.wHoldValid <;> cases ar : s.arHoldValid <;>
    simp [heldAw, heldW, heldAr, aw, w, ar]

/-- At most one request of a kind is held, and at most two of its responses are owed. -/
lemma Books.owed {cs : List Cycle} (bk : Books R I s cs) :
    ((writeBeats cs).length ≤ (writes cs).length + 1 ∧
        (ars cs).length ≤ (reads cs).length + 1) ∧
      (writes cs).length ≤ (bs cs).length + 2 ∧ (reads cs).length ≤ (rs cs).length + 2 := by
  obtain ⟨beats, addresses⟩ := bk.accounts.held_count
  obtain ⟨written, read⟩ := bk.accounts.owed_count
  refine ⟨?_, ?_⟩
  · rw [beats, addresses]
    cases aw : s.awHoldValid <;> cases w : s.wHoldValid <;> cases ar : s.arHoldValid <;>
      simp [heldAw, heldW, heldAr, aw, w, ar]
  · rw [written, read]
    cases b : s.bvalid <;> cases r : s.rvalid <;> cases busy : s.mmioBusy <;>
      cases act : s.mmioActiveWrite <;>
      simp [owedB, owedR, presentedB, presentedR, b, r, busy, act]

/-- A request staged is performed in the same cycle. -/
lemma Inv.performs (inv : Inv R I s) (law : R.Lawful I) (i : AxiIn) (e : ε) {cs : List Cycle} :
    ((s.reqPendingValid && s.reqPendingWrite) = true →
        (writes cs).length < (writes (cs ++ [s.observe R i e])).length) ∧
      ((s.reqPendingValid && !s.reqPendingWrite) = true →
        (reads cs).length < (reads (cs ++ [s.observe R i e])).length) := by
  constructor
  · intro pend
    simp [inv.writeFire i e law, pend]
  · intro pend
    simp [inv.readFire i e law, pend]

section Along

variable {js ds is : List (AxiIn × ε)}

/-- A write held is performed within five cycles that leave no response waiting. -/
lemma writes_performed (law : R.Lawful I)
    (al : (machine gated R).Along (fun s _ => Clear R s) (js ++ ds)) 
    (long : 5 ≤ ((machine gated R).traceFrom ((machine gated R).after js) ds).countP Cycle.flows) :
    (writeBeats ((machine gated R).trace js)).length ≤
      (writes ((machine gated R).trace (js ++ ds))).length := by
  refine Machine.keeps_up (P := Books R I) (fun cs => (writeBeats cs).length)
    (fun cs => (writes cs).length) (due gated true) (.reset law)
    (fun _ _ i bk clear => bk.step i.1 i.2 law clear) (fun cs c => (logs_grow cs c).1)
    (fun cs c => (logs_grow cs c).2.1) (fun s _ _ => (due_bounds gated true s).2)
    (fun s _ _ _ => (due_bounds gated true s).1) (fun s cs i bk _ owing => ?_)
    (fun _ _ bk => bk.owed.1.1) al long
  cases now : s.reqPendingValid && s.reqPendingWrite with
  | true => exact .inl ((bk.inv.performs law i.1 i.2).1 now)
  | false =>
    exact .inr (bk.inv.due_turn law i true (bk.holding.1 owing) (by simpa using now))

/-- A read held is too, and four cycles later for every write that passes it. -/
lemma reads_performed (law : R.Lawful I) {n : Nat}
    (al : (machine gated R).Along (fun s _ => Clear R s) (js ++ ds))
    (few : (machine gated R).AtMostWhile (·.arHoldValid) (·.launchWriteReq gated) n
      ((machine gated R).after js) ds)
    (long : 5 + 4 * n ≤
      ((machine gated R).traceFrom ((machine gated R).after js) ds).countP Cycle.flows) :
    (ars ((machine gated R).trace js)).length ≤
      (reads ((machine gated R).trace (js ++ ds))).length := by
  obtain ⟨before, after⟩ := ((machine gated R).along_append _ js ds).mp al
  have bk := books_along law before
  rw [Machine.trace_append]
  refine Machine.catches_up (P := Books R I) (k := 1) (fun cs => (ars cs).length)
    (fun cs => (reads cs).length) (due gated false)
    (fun _ _ i bk clear => bk.step i.1 i.2 law clear) (fun cs c => (logs_grow cs c).2.2.2.1)
    (fun cs c => (logs_grow cs c).2.2.2.2.1) (fun s _ _ => (due_bounds gated false s).2)
    (fun s _ bk owing => ⟨bk.holding.2 owing, (due_bounds gated false s).1⟩)
    (fun s cs i bk _ owing => ?_) bk bk.owed.1.2 after few long
  cases now : s.reqPendingValid && !s.reqPendingWrite with
  | true => exact .inl ((bk.inv.performs law i.1 i.2).2 now)
  | false => exact .inr (bk.inv.due_turn law i false (bk.holding.2 owing) (by simpa using now))

/-- What has been performed is answered within four such cycles. -/
lemma responses_taken (law : R.Lawful I)
    (al : (machine gated R).Along (fun s _ => Clear R s) (js ++ ds)) 
    (long : 4 ≤ ((machine gated R).traceFrom ((machine gated R).after js) ds).countP Cycle.flows) :
    (writes ((machine gated R).trace js)).length ≤
        (bs ((machine gated R).trace (js ++ ds))).length ∧
      (reads ((machine gated R).trace js)).length ≤
        (rs ((machine gated R).trace (js ++ ds))).length := by
  have keep : ∀ s cs (i : AxiIn × ε), Books R I s cs → Clear R s →
      Books R I ((machine gated R).step s i) (cs ++ [(machine gated R).out s i]) :=
    fun _ _ i bk clear => bk.step i.1 i.2 law clear
  constructor
  · refine Machine.keeps_up (k := 2) (fun cs => (writes cs).length) (fun cs => (bs cs).length)
      (rspDue ·.bvalid) (.reset law) keep (fun cs c => (logs_grow cs c).2.1)
      (fun cs c => (logs_grow cs c).2.2.1) (fun s _ _ => (rspDue_bounds s.bvalid).2)
      (fun s _ _ _ => (rspDue_bounds s.bvalid).1) (fun s cs i bk _ owing => ?_)
      (fun _ _ bk => bk.owed.2.1) al long
    have owes : s.owedB R ≠ [] := by
      rintro none_
      rw [bk.accounts.owed_count.1, none_] at owing
      exact Nat.lt_irrefl _ owing
    exact (bk.inv.b_turn i owes).imp_left bs_grow
  · refine Machine.keeps_up (k := 2) (fun cs => (reads cs).length) (fun cs => (rs cs).length)
      (rspDue ·.rvalid) (.reset law) keep (fun cs c => (logs_grow cs c).2.2.2.2.1)
      (fun cs c => (logs_grow cs c).2.2.2.2.2) (fun s _ _ => (rspDue_bounds s.rvalid).2)
      (fun s _ _ _ => (rspDue_bounds s.rvalid).1) (fun s cs i bk _ owing => ?_)
      (fun _ _ bk => bk.owed.2.2) al long
    have owes : s.owedR R ≠ [] := by
      rintro none_
      rw [bk.accounts.owed_count.2, none_] at owing
      exact Nat.lt_irrefl _ owing
    exact (bk.inv.r_turn i owes).imp_left rs_grow

lemma served_along (law : R.Lawful I) (al : (machine gated R).Along (fun s _ => Clear R s) is) :
    Served ((machine gated R).trace is) := by
  have bk := books_along law al
  exact bk.accounts.served bk.held.1

/-- Over a lawful register block, writes are served within nine cycles that leave no response
    waiting. -/
theorem writesWithin_along (law : R.Lawful I)
    (al : (machine gated R).Along (fun s _ => Clear R s) is) :
    WritesWithin 9 ((machine gated R).trace is) := by
  refine writesWithin_of_count (served_along law al) ?_
  rintro js ds rfl long
  obtain ⟨ds, es, rfl, first, rest⟩ :=
    Machine.exists_countP_split (Nat.le_trans (by decide : 5 ≤ 9) long)
  rw [← List.append_assoc] at al ⊢
  have sent := writes_performed law (((machine gated R).along_append _ _ es).mp al).1 first.ge
  rw [← Machine.after_append] at rest
  exact Nat.le_trans sent (responses_taken law al (by rw [rest]; omega)).1

/-- Reads take four cycles more for every write that passes them. -/
theorem readsWithin_along (law : R.Lawful I) {n : Nat}
    (al : (machine gated R).Along (fun s _ => Clear R s) is) (few : PassedAtMost gated R n is) :
    ReadsWithin (9 + 4 * n) ((machine gated R).trace is) := by
  refine readsWithin_of_count (served_along law al) ?_
  rintro js ds rfl long
  obtain ⟨ds, es, rfl, first, rest⟩ :=
    Machine.exists_countP_split (Nat.le_trans (by omega : 5 + 4 * n ≤ 9 + 4 * n) long)
  have passed := few.split.init
  rw [← List.append_assoc] at al ⊢
  have sent := reads_performed law (((machine gated R).along_append _ _ es).mp al).1 passed first.ge
  rw [← Machine.after_append] at rest
  exact Nat.le_trans sent (responses_taken law al (by rw [rest]; omega)).2

end Along

/-! ## Starvation -/

/-- A read waits, a write is at work, and the next launch decision finds a complete write again. -/
structure Starving (s : HoldBridge σ) : Prop where
  waits : s.arHoldValid = true
  blank : s.rvalid = false
  staged : s.reqPendingValid = true → s.reqPendingWrite = true
  flight : s.mmioBusy = true → s.mmioActiveWrite = true
  next : s.mmioBusy = false → s.awHoldValid = true ∧ s.wHoldValid = true

/-- It goes on for as long as the master has a write to offer. -/
lemma Starving.step (st : Starving s) (inv : Inv R I s) (law : R.Lawful I) {i : AxiIn} (e : ε)
    (offers : i.awvalid = true ∧ i.wvalid = true) : Starving (s.step gated R i e) := by
  have fire := inv.reqFire_eq law
  have taken := inv.rspFire_eq
  obtain ⟨busy', act'⟩ := inv.flight_step i e law gated
  have noRead : s.launchReadReq gated = false := by
    cases launch : s.launchReadReq gated with
    | false => rfl
    | true =>
      obtain ⟨-, idle, -⟩ := launchReadReq_idle launch
      obtain ⟨aw, w⟩ := st.next idle
      simp [launchReadReq, aw, w] at launch
  refine ⟨?_, ?_, ?_, ?_, ?_⟩
  · cases hp : s.reqPendingValid with
    | false => simp [HoldBridge.step, fire, hp, st.waits]
    | true => simp [HoldBridge.step, fire, hp, st.staged hp, st.waits]
  · cases hb : s.mmioBusy with
    | false => simp [HoldBridge.step, taken, hb, st.blank]
    | true => simp [HoldBridge.step, taken, hb, st.flight hb, st.blank]
  · intro pend
    obtain ⟨-, -, ⟨launch, -⟩ | ⟨launch, -⟩⟩ := step_stage inv law i e pend
    · simp [HoldBridge.step, noRead, launch]
    · rw [noRead] at launch
      cases launch
  · intro busy
    rw [busy'] at busy
    rw [(act' busy).1, st.staged busy]
  · intro idle
    rw [busy'] at idle
    cases hb : s.mmioBusy with
    | false =>
      obtain ⟨aw, w⟩ := st.next hb
      simp [HoldBridge.step, fire, idle, aw, w]
    | true =>
      cases aw : s.awHoldValid <;> cases w : s.wHoldValid <;>
        simp [HoldBridge.step, fire, idle, awFire, wFire, aw, w, offers]

/-- A cycle of it hands out no read, and takes none in. -/
lemma Starving.silent (st : Starving s) (inv : Inv R I s) (law : R.Lawful I) (i : AxiIn) (e : ε) :
    (s.observe R i e).ar = none ∧ (s.observe R i e).readFire = none ∧
      (s.observe R i e).rFire = none := by
  refine ⟨by simp [observe, arFire, st.waits], ?_,
    by simp [observe, Cycle.rFire, presentedR, st.blank]⟩
  rw [inv.readFire i e law]
  cases hp : s.reqPendingValid with
  | false => rfl
  | true => simp [st.staged hp]

/-- A read that comes with a write waits for as long as the writes go on. -/
theorem starves (law : R.Lawful I) {j : AxiIn × ε} {is : List (AxiIn × ε)}
    (first : j.1.awvalid = true ∧ j.1.wvalid = true ∧ j.1.arvalid = true)
    (offers : ∀ i ∈ is, i.1.awvalid = true ∧ i.1.wvalid = true) :
    ars ((machine gated R).trace (j :: is)) = [j.1.araddr] ∧
      reads ((machine gated R).trace (j :: is)) = [] ∧
      rs ((machine gated R).trace (j :: is)) = [] := by
  have first_inv : Inv R I ((reset R).step gated R j.1 j.2) := (Inv.reset law).step law j.1 j.2
  have first_starving : Starving ((reset R).step gated R j.1 j.2) := by
    constructor <;>
      simp [HoldBridge.step, HoldBridge.reset, reqFire, rspFire, launchReadReq, launchWriteReq,
        arFire, awFire, wFire, first]
  suffices all : Inv R I ((machine gated R).after (j :: is)) ∧
      Starving ((machine gated R).after (j :: is)) ∧
      ars ((machine gated R).trace (j :: is)) = [j.1.araddr] ∧
      reads ((machine gated R).trace (j :: is)) = [] ∧
      rs ((machine gated R).trace (j :: is)) = [] from all.2.2
  induction is using List.reverseRecOn with
  | nil =>
    refine ⟨first_inv, first_starving, ?_, ?_, ?_⟩
    · simp [ars, Machine.trace, machine, observe, arFire, HoldBridge.reset, first]
    · simp [reads, Machine.trace, machine, Cycle.readFire, observe, reqFire, HoldBridge.reset]
    · simp [rs, Machine.trace, machine, Cycle.rFire, observe, presentedR, HoldBridge.reset]
  | append_singleton is i ih =>
    rw [List.forall_mem_append, List.forall_mem_singleton] at offers
    obtain ⟨inv, st, asked, read, answered⟩ := ih offers.1
    obtain ⟨none_, noRead, noR⟩ := st.silent inv law i.1 i.2
    rw [← List.cons_append, Machine.after_snoc, Machine.trace_snoc]
    refine ⟨inv.step law i.1 i.2, st.step inv law i.2 offers.2, ?_, ?_, ?_⟩
    · rw [ars_snoc, asked, show ((machine gated R).out _ i).ar = none from none_]
      rfl
    · rw [reads_snoc, read, show ((machine gated R).out _ i).readFire = none from noRead]
      rfl
    · rw [rs_snoc, answered, show ((machine gated R).out _ i).rFire = none from noR]
      rfl

/-! ## The gate -/

/-- While a request is staged or in flight, no response is presented. -/
def Gate (s : HoldBridge σ) : Prop :=
  s.reqPendingValid = true ∨ s.mmioBusy = true → s.bvalid = false ∧ s.rvalid = false

/-- Behind the gate both output registers are free when a response arrives. -/
lemma Gate.clear (gate : Gate s) : Clear R s := by
  intro fire
  rw [rspFire, Bool.and_eq_true] at fire
  obtain ⟨b, r⟩ := gate (.inr fire.2)
  exact ⟨fun _ => b, fun _ => r⟩

/-- A gated launch finds both output registers free. -/
lemma mayLaunch_free (h : s.mayLaunch true = true) : s.bvalid = false ∧ s.rvalid = false := by
  simp only [mayLaunch, axiRespBusy, Bool.true_and, Bool.and_eq_true, Bool.not_eq_true',
    Bool.or_eq_false_iff] at h
  exact h.2

/-- The gated wrapper launches only while no response is presented, and presents none before the
    request it launched is done. -/
lemma Gate.step (gate : Gate s) (inv : Inv R I s) (law : R.Lawful I) (i : AxiIn) (e : ε) :
    Gate (s.step true R i e) := by
  intro h
  have free : (s.bvalid = false ∧ s.rvalid = false) ∧ s.mmioBusy = false := by
    obtain pend | busy := h
    · obtain ⟨-, idle, ⟨launch, -⟩ | ⟨launch, -⟩⟩ := step_stage inv law i e pend
      · rw [launchWriteReq, Bool.and_eq_true] at launch
        exact ⟨mayLaunch_free launch.1, idle⟩
      · rw [launchReadReq, Bool.and_eq_true, Bool.and_eq_true] at launch
        exact ⟨mayLaunch_free launch.1.1, idle⟩
    · rw [(inv.flight_step i e law true).1] at busy
      exact ⟨gate (.inl busy), inv.one busy⟩
  obtain ⟨⟨b, r⟩, idle⟩ := free
  simp [HoldBridge.step, HoldBridge.bFire, HoldBridge.rFire, inv.rspFire_eq, b, r, idle]

/-- Every cycle of the gated wrapper is clear. -/
lemma clear_along_gated (law : R.Lawful I) (is : List (AxiIn × ε)) :
    (machine true R).Along (fun s _ => Clear R s) is := by
  apply (machine true R).along_of_invariant (P := fun s => Inv R I s ∧ Gate s)
  · exact ⟨.reset law, by simp [Gate, machine, HoldBridge.reset]⟩
  · intro s i h
    exact ⟨h.1.step law i.1 i.2, h.2.step h.1 law i.1 i.2⟩
  · intro s i h
    exact h.2.clear

end HoldBridge

end ModularControl.Axi
