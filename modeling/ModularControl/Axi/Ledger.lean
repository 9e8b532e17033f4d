import Mathlib.Data.List.Chain
import ModularControl.Axi.Mmio
import ModularControl.Sync.Progress
import ModularControl.Sync.Responder

/-!
# The AXI4-Lite ledger

What the AXI4-Lite wrappers of the repository owe their master, stated on what can be observed of
them: the handshakes of the five channels and the accesses accepted by the register block behind
the wrapper. `Served` is the safety half (every access belongs to one request, every response to
one access, in order, and a presented response stays put). `WritesWithin` and `ReadsWithin` are the
other one: what has been accepted is performed and answered within so many cycles in which the
master leaves no response waiting, whatever it asks for in the meantime. `Accounts` is the book a
wrapper keeps with its own buffers, from which both follow.
-/

namespace ModularControl.Axi
open Sync

/-- The signals the AXI4-Lite master drives in a cycle. -/
structure AxiIn where
  awvalid : Bool := false
  awaddr : BitVec 12 := 0
  wvalid : Bool := false
  wdata : BitVec 32 := 0
  wstrb : BitVec 4 := 0
  bready : Bool := false
  arvalid : Bool := false
  araddr : BitVec 12 := 0
  rready : Bool := false
deriving DecidableEq, Repr

namespace AxiIn

/-- The master takes every response it is offered. -/
def takes (i : AxiIn) : Bool := i.bready && i.rready

/-- Nothing is offered and no response is taken. -/
def stall : AxiIn := {}

/-- Nothing is offered and every response is taken. -/
def idle : AxiIn := { bready := true, rready := true }

/-- A whole write is offered. -/
def offerWrite (addr : BitVec 12) (data : BitVec 32) : AxiIn :=
  { awvalid := true, awaddr := addr, wvalid := true, wdata := data, wstrb := 0b1111#4 }

/-- A read is offered. -/
def offerRead (addr : BitVec 12) : AxiIn := { arvalid := true, araddr := addr }

/-- A whole write and a read are offered. -/
def offerBoth (waddr : BitVec 12) (data : BitVec 32) (raddr : BitVec 12) : AxiIn :=
  { offerWrite waddr data with arvalid := true, araddr := raddr }

end AxiIn

/-- `AXI_RESP_OKAY`. -/
def axiRespOkay : BitVec 2 := 0b00#2

/-- `AXI_RESP_SLVERR`. -/
def axiRespSlverr : BitVec 2 := 0b10#2

/-- The AXI response code of a register block's answer. -/
def axiResp (rsp : MmioRsp) : BitVec 2 := if rsp.err then axiRespSlverr else axiRespOkay

/-- The MMIO write that a write address and a write data beat stand for. -/
def writeReq (aw : BitVec 12) (w : BitVec 32 × BitVec 4) : MmioReq := ⟨true, aw, w.1, w.2⟩

/-- The MMIO read that a read address stands for. -/
def readReq (ar : BitVec 12) : MmioReq := ⟨false, ar, 0, 0⟩

/-- One cycle of a wrapper as its master and its register block see it: the request beats that
    handshake, the access the register block accepts with its answer, and the responses presented
    (`some` while VALID) with the master's READY. -/
structure Cycle where
  aw : Option (BitVec 12)
  w : Option (BitVec 32 × BitVec 4)
  ar : Option (BitVec 12)
  mmio : Option (MmioReq × MmioRsp)
  b : Option (BitVec 2)
  bready : Bool
  r : Option (BitVec 32 × BitVec 2)
  rready : Bool
deriving DecidableEq, Repr

/-- The write response that handshakes in a cycle. -/
def Cycle.bFire (c : Cycle) : Option (BitVec 2) := if c.bready then c.b else none

/-- The read response that handshakes in a cycle. -/
def Cycle.rFire (c : Cycle) : Option (BitVec 32 × BitVec 2) := if c.rready then c.r else none

/-- The master leaves no response waiting in a cycle: it takes what is presented, if anything is. -/
def Cycle.flows (c : Cycle) : Bool := (c.b.isNone || c.bready) && (c.r.isNone || c.rready)

/-- The write accepted by the register block in a cycle. -/
def Cycle.writeFire (c : Cycle) : Option (MmioReq × MmioRsp) := c.mmio.filter (·.1.write)

/-- The read accepted by the register block in a cycle. -/
def Cycle.readFire (c : Cycle) : Option (MmioReq × MmioRsp) := c.mmio.filter (!·.1.write)

/-- A cycle in which nothing handshakes. -/
def Cycle.Silent (c : Cycle) : Prop :=
  c.aw = none ∧ c.w = none ∧ c.ar = none ∧ c.mmio = none ∧ c.bFire = none ∧ c.rFire = none

instance : DecidablePred Cycle.Silent := fun _ => inferInstanceAs (Decidable (_ ∧ _))

/-- The write addresses handshaken so far. -/
def aws (cs : List Cycle) : List (BitVec 12) := cs.filterMap Cycle.aw

/-- The write data beats handshaken so far. -/
def ws (cs : List Cycle) : List (BitVec 32 × BitVec 4) := cs.filterMap Cycle.w

/-- The read addresses handshaken so far. -/
def ars (cs : List Cycle) : List (BitVec 12) := cs.filterMap Cycle.ar

/-- The complete write requests handshaken so far, an address and a data beat for each. -/
def writeBeats (cs : List Cycle) : List MmioReq := List.zipWith writeReq (aws cs) (ws cs)

/-- The writes accepted by the register block so far, with their answers. -/
def writes (cs : List Cycle) : List (MmioReq × MmioRsp) := cs.filterMap Cycle.writeFire

/-- The reads accepted by the register block so far, with their answers. -/
def reads (cs : List Cycle) : List (MmioReq × MmioRsp) := cs.filterMap Cycle.readFire

/-- The write responses handshaken so far. -/
def bs (cs : List Cycle) : List (BitVec 2) := cs.filterMap Cycle.bFire

/-- The read responses handshaken so far. -/
def rs (cs : List Cycle) : List (BitVec 32 × BitVec 2) := cs.filterMap Cycle.rFire

/-- The read response that a read's answer stands for. -/
def readRsp (rsp : MmioRsp) : BitVec 32 × BitVec 2 := (rsp.rdata, axiResp rsp)

/-- A response presented and not taken is still presented, unchanged, in the next cycle. -/
def Held (c c' : Cycle) : Prop :=
  (c.b.isSome → c.bready = false → c'.b = c.b) ∧ (c.r.isSome → c.rready = false → c'.r = c.r)

instance : DecidableRel Held := fun _ _ => inferInstanceAs (Decidable (_ ∧ _))

/-- Exactly once, in order, per channel: the writes (reads) performed are those of the first
    request beats, the responses handed out are those of the first accesses, and a presented
    response is held until it is taken. -/
structure Served (cs : List Cycle) : Prop where
  write_order : (writes cs).map Prod.fst <+: writeBeats cs
  write_answer : bs cs <+: (writes cs).map (axiResp ·.2)
  read_order : (reads cs).map Prod.fst <+: (ars cs).map readReq
  read_answer : rs cs <+: (reads cs).map (readRsp ·.2)
  held : cs.IsChain Held

/-- Nothing is owed: every complete write request and every read request has been performed and
    answered. -/
structure Settled (cs : List Cycle) : Prop where
  write_done : (writes cs).map Prod.fst = writeBeats cs
  write_answered : bs cs = (writes cs).map (axiResp ·.2)
  read_done : (reads cs).map Prod.fst = (ars cs).map readReq
  read_answered : rs cs = (reads cs).map (readRsp ·.2)

/-- The complete write requests of the cycles `cs` have been performed, and answered, by the end of
    the cycles `cs'`. -/
structure WritesAnswered (cs cs' : List Cycle) : Prop where
  performed : writeBeats cs <+: (writes cs').map Prod.fst
  answered : (writeBeats cs).length ≤ (bs cs').length

/-- The same for the read requests. -/
structure ReadsAnswered (cs cs' : List Cycle) : Prop where
  performed : (ars cs).map readReq <+: (reads cs').map Prod.fst
  answered : (ars cs).length ≤ (rs cs').length

/-- At every moment the write requests accepted so far are answered once `k` more cycles have left
    no response waiting, whatever else is asked for in them and in between. -/
def WritesWithin (k : Nat) (cs : List Cycle) : Prop :=
  ∀ before after, cs = before ++ after → k ≤ after.countP Cycle.flows → WritesAnswered before cs

/-- And the read requests. -/
def ReadsWithin (k : Nat) (cs : List Cycle) : Prop :=
  ∀ before after, cs = before ++ after → k ≤ after.countP Cycle.flows → ReadsAnswered before cs

/-- What the master of a wrapper is owed: service so far, and service of every write accepted within
    `k` cycles that leave no response waiting, and of every read within `l`. -/
structure ServesWell (k l : Nat) (cs : List Cycle) : Prop where
  served : Served cs
  writes : WritesWithin k cs
  reads : ReadsWithin l cs

/-- Every beat the master offers is accepted in the cycle it is offered, so that no VALID has to be
    held. -/
def AtOnce {τ ε : Type*} (M : Machine τ (AxiIn × ε) Cycle) (s : τ) (i : AxiIn × ε) : Prop :=
  (M.out s i).aw.isSome = i.1.awvalid ∧ (M.out s i).w.isSome = i.1.wvalid ∧
    (M.out s i).ar.isSome = i.1.arvalid

instance {τ ε : Type*} (M : Machine τ (AxiIn × ε) Cycle) : DecidableRel (AtOnce M) :=
  fun _ _ => inferInstanceAs (Decidable (_ ∧ _))

/-- The wrapper's books: what is handshaken and not yet performed is in its request buffers, what
    is performed and not yet answered is in its response buffers. -/
structure Accounts (cs : List Cycle) (heldAw : List (BitVec 12))
    (heldW : List (BitVec 32 × BitVec 4)) (heldAr : List (BitVec 12)) (owedB : List (BitVec 2))
    (owedR : List (BitVec 32 × BitVec 2)) : Prop where
  aw : aws cs = (writes cs).map (·.1.addr) ++ heldAw
  w : ws cs = (writes cs).map (fun p => (p.1.wdata, p.1.wstrb)) ++ heldW
  ar : ars cs = (reads cs).map (·.1.addr) ++ heldAr
  b : (writes cs).map (axiResp ·.2) = bs cs ++ owedB
  r : (reads cs).map (readRsp ·.2) = rs cs ++ owedR
  /-- A read access carries no data. -/
  blank : ∀ p ∈ reads cs, p.1 = readReq p.1.addr

/-- Responses have been held so far, and a response left untaken in the last cycle is the one now
    presented (`b`, `r`). -/
def HeldBy (cs : List Cycle) (b : Option (BitVec 2)) (r : Option (BitVec 32 × BitVec 2)) : Prop :=
  cs.IsChain Held ∧ ∀ c ∈ cs.getLast?,
    (c.b.isSome → c.bready = false → b = c.b) ∧ (c.r.isSome → c.rready = false → r = c.r)

/-! ## Logs grow by one cycle at a time -/

@[simp] lemma aws_snoc (cs : List Cycle) (c : Cycle) : aws (cs ++ [c]) = aws cs ++ c.aw.toList :=
  filterMap_snoc _ _ _

@[simp] lemma ws_snoc (cs : List Cycle) (c : Cycle) : ws (cs ++ [c]) = ws cs ++ c.w.toList :=
  filterMap_snoc _ _ _

@[simp] lemma ars_snoc (cs : List Cycle) (c : Cycle) : ars (cs ++ [c]) = ars cs ++ c.ar.toList :=
  filterMap_snoc _ _ _

@[simp] lemma writes_snoc (cs : List Cycle) (c : Cycle) :
    writes (cs ++ [c]) = writes cs ++ c.writeFire.toList :=
  filterMap_snoc _ _ _

@[simp] lemma reads_snoc (cs : List Cycle) (c : Cycle) :
    reads (cs ++ [c]) = reads cs ++ c.readFire.toList :=
  filterMap_snoc _ _ _

@[simp] lemma bs_snoc (cs : List Cycle) (c : Cycle) : bs (cs ++ [c]) = bs cs ++ c.bFire.toList :=
  filterMap_snoc _ _ _

@[simp] lemma rs_snoc (cs : List Cycle) (c : Cycle) : rs (cs ++ [c]) = rs cs ++ c.rFire.toList :=
  filterMap_snoc _ _ _

/-! ## Requests are never taken back -/

section Growth

variable (cs more : List Cycle)

lemma writeBeats_append : writeBeats cs <+: writeBeats (cs ++ more) := by
  have aw : aws (cs ++ more) = aws cs ++ aws more := List.filterMap_append
  have w : ws (cs ++ more) = ws cs ++ ws more := List.filterMap_append
  rw [writeBeats, writeBeats, aw, w]
  generalize aws cs = xs, ws cs = ys, aws more = xs', ws more = ys'
  induction xs generalizing ys with
  | nil => exact List.nil_prefix
  | cons x xs ih =>
    cases ys with
    | nil => exact List.nil_prefix
    | cons y ys => exact (List.prefix_cons_inj _).mpr (ih ys)

lemma ars_append : ars (cs ++ more) = ars cs ++ ars more := List.filterMap_append

end Growth

namespace Served

variable {cs more : List Cycle}

/-- Under service in order, as many answers as requests are the answers of those requests. -/
lemma writesAnswered (served : Served (cs ++ more))
    (count : (writeBeats cs).length ≤ (bs (cs ++ more)).length) :
    WritesAnswered cs (cs ++ more) := by
  refine ⟨List.prefix_of_prefix_length_le (writeBeats_append cs more) served.write_order ?_, count⟩
  have answers := served.write_answer.length_le
  rw [List.length_map] at answers ⊢
  exact Nat.le_trans count answers

lemma readsAnswered (served : Served (cs ++ more))
    (count : (ars cs).length ≤ (rs (cs ++ more)).length) : ReadsAnswered cs (cs ++ more) := by
  have grows : (ars cs).map readReq <+: (ars (cs ++ more)).map readReq := by
    rw [ars_append, List.map_append]
    exact List.prefix_append _ _
  refine ⟨List.prefix_of_prefix_length_le grows served.read_order ?_, count⟩
  have answers := served.read_answer.length_le
  rw [List.length_map] at answers
  rw [List.length_map, List.length_map]
  exact Nat.le_trans count answers

end Served

/-- Cycles in which nothing handshakes settle nothing. -/
lemma Settled.of_silent {cs : List Cycle} {c : Cycle} (silent : c.Silent) {k : Nat}
    (st : Settled (cs ++ List.replicate k c)) : Settled cs := by
  obtain ⟨aw, w, ar, mmio, b, r⟩ := silent
  have wf : c.writeFire = none := by simp [Cycle.writeFire, mmio]
  have rf : c.readFire = none := by simp [Cycle.readFire, mmio]
  induction k with
  | zero => simpa using st
  | succ k ih =>
    rw [List.replicate_succ', ← List.append_assoc] at st
    obtain ⟨wd, wa, rd, ra⟩ := st
    simp only [writeBeats, aws_snoc, ws_snoc, ars_snoc, writes_snoc, reads_snoc, bs_snoc, rs_snoc,
      aw, w, ar, b, r, wf, rf, Option.toList_none, List.append_nil] at wd wa rd ra
    exact ih ⟨wd, wa, rd, ra⟩

/-- Responses stay held over one more cycle that keeps what is presented and not taken. -/
lemma HeldBy.snoc {cs : List Cycle} {c : Cycle} {b : Option (BitVec 2)}
    {r : Option (BitVec 32 × BitVec 2)} (hl : HeldBy cs c.b c.r)
    (hb : c.b.isSome → c.bready = false → b = c.b) (hr : c.r.isSome → c.rready = false → r = c.r) :
    HeldBy (cs ++ [c]) b r := by
  refine ⟨List.isChain_append.mpr ⟨hl.1, by simp, ?_⟩, ?_⟩
  · intro x hx y hy
    cases Option.mem_some_iff.mp hy
    exact hl.2 x hx
  · intro x hx
    rw [List.getLast?_concat] at hx
    cases Option.mem_some_iff.mp hx
    exact ⟨hb, hr⟩

/-- Every access logged as a write is one. -/
lemma write_of_mem_writes {cs : List Cycle} {p : MmioReq × MmioRsp} (m : p ∈ writes cs) :
    p.1.write = true := by
  obtain ⟨c, -, e⟩ := List.mem_filterMap.mp m
  exact (Option.filter_eq_some_iff.mp e).2

/-- The writes performed, read off as request beats. -/
lemma writes_zip (cs : List Cycle) :
    List.zipWith writeReq ((writes cs).map (·.1.addr))
      ((writes cs).map fun p => (p.1.wdata, p.1.wstrb)) = (writes cs).map Prod.fst := by
  rw [List.zipWith_map, List.zipWith_self]
  apply List.map_congr_left
  intro p m
  have e := write_of_mem_writes m
  simp [writeReq, ← e]

/-- A holding register takes a beat while it is empty (`fire`) and lets go of it when it is
    performed (`sent`). -/
lemma balance_hold {α β : Type*} {valid offered sent : Bool} {x y : α} {f : β → α} {z : β}
    (full : sent = true → valid = true ∧ f z = x) :
    (if valid then [x] else []) ++ (if offered && !valid then some y else none).toList =
      (if sent then some z else none).toList.map f ++
        if (if sent then false else if offered && !valid then true else valid) then
          [if offered && !valid then y else x]
        else [] := by
  cases hs : sent with
  | true =>
    obtain ⟨holds, same⟩ := full hs
    simp [holds, same]
  | false => cases valid <;> cases offered <;> simp

namespace Accounts

variable {cs : List Cycle} {heldAw : List (BitVec 12)} {heldW : List (BitVec 32 × BitVec 4)}
  {heldAr : List (BitVec 12)} {owedB : List (BitVec 2)} {owedR : List (BitVec 32 × BitVec 2)}

/-- The complete write requests are the writes performed followed by those still buffered. -/
lemma zip_beats (ac : Accounts cs heldAw heldW heldAr owedB owedR) :
    writeBeats cs = (writes cs).map Prod.fst ++ List.zipWith writeReq heldAw heldW := by
  rw [writeBeats, ac.aw, ac.w, List.zipWith_append (by simp), writes_zip]

/-- The read requests are the reads performed followed by those still buffered. -/
lemma read_beats (ac : Accounts cs heldAw heldW heldAr owedB owedR) :
    (ars cs).map readReq = (reads cs).map Prod.fst ++ heldAr.map readReq := by
  rw [ac.ar, List.map_append, List.map_map]
  congr 1
  exact List.map_congr_left fun p m => (ac.blank p m).symm

/-- Balancing the books over one cycle: in each channel, what was held plus what comes in is what
    goes out plus what is held afterwards. -/
lemma snoc {c : Cycle} {heldAw' : List (BitVec 12)} {heldW' : List (BitVec 32 × BitVec 4)}
    {heldAr' : List (BitVec 12)} {owedB' : List (BitVec 2)} {owedR' : List (BitVec 32 × BitVec 2)}
    (ac : Accounts cs heldAw heldW heldAr owedB owedR)
    (aw : heldAw ++ c.aw.toList = c.writeFire.toList.map (·.1.addr) ++ heldAw')
    (w : heldW ++ c.w.toList =
      c.writeFire.toList.map (fun p => (p.1.wdata, p.1.wstrb)) ++ heldW')
    (ar : heldAr ++ c.ar.toList = c.readFire.toList.map (·.1.addr) ++ heldAr')
    (b : owedB ++ c.writeFire.toList.map (axiResp ·.2) = c.bFire.toList ++ owedB')
    (r : owedR ++ c.readFire.toList.map (readRsp ·.2) = c.rFire.toList ++ owedR')
    (blank : ∀ p ∈ c.readFire, p.1 = readReq p.1.addr) :
    Accounts (cs ++ [c]) heldAw' heldW' heldAr' owedB' owedR' where
  aw := by simp only [aws_snoc, writes_snoc, List.map_append, List.append_assoc, ac.aw, aw]
  w := by simp only [ws_snoc, writes_snoc, List.map_append, List.append_assoc, ac.w, w]
  ar := by simp only [ars_snoc, reads_snoc, List.map_append, List.append_assoc, ac.ar, ar]
  b := by simp only [bs_snoc, writes_snoc, List.map_append, List.append_assoc, ac.b, b]
  r := by simp only [rs_snoc, reads_snoc, List.map_append, List.append_assoc, ac.r, r]
  blank := by
    intro p m
    rw [reads_snoc, List.mem_append, Option.mem_toList] at m
    exact m.elim (ac.blank p) (blank p)

/-- A wrapper whose books are in order has served its master, if it also holds its responses. -/
theorem served (ac : Accounts cs heldAw heldW heldAr owedB owedR) (hl : cs.IsChain Held) :
    Served cs where
  write_order := ⟨_, ac.zip_beats.symm⟩
  write_answer := ⟨_, ac.b.symm⟩
  read_order := ⟨_, ac.read_beats.symm⟩
  read_answer := ⟨_, ac.r.symm⟩
  held := hl

/-- What is asked of the register block and not yet performed is held. -/
lemma held_count (ac : Accounts cs heldAw heldW heldAr owedB owedR) :
    (writeBeats cs).length = (writes cs).length + min heldAw.length heldW.length ∧
      (ars cs).length = (reads cs).length + heldAr.length := by
  constructor
  · rw [ac.zip_beats, List.length_append, List.length_map, List.length_zipWith]
  · rw [ac.ar, List.length_append, List.length_map]

/-- What is performed and not yet answered is owed. -/
lemma owed_count (ac : Accounts cs heldAw heldW heldAr owedB owedR) :
    (writes cs).length = (bs cs).length + owedB.length ∧
      (reads cs).length = (rs cs).length + owedR.length := by
  constructor
  · rw [← List.length_map (f := (axiResp ·.2)), ac.b, List.length_append]
  · rw [← List.length_map (f := (readRsp ·.2)), ac.r, List.length_append]

end Accounts

section Service

variable {τ ε : Type*} {M : Machine τ (AxiIn × ε) Cycle} {is : List (AxiIn × ε)} {k : Nat}

/-- Under service in order it is enough to count, over the beginnings of a run. -/
lemma writesWithin_of_count (served : Served (M.trace is))
    (count : ∀ js ds, is = js ++ ds → k ≤ (M.traceFrom (M.after js) ds).countP Cycle.flows →
      (writeBeats (M.trace js)).length ≤ (bs (M.trace is)).length) :
    WritesWithin k (M.trace is) := by
  rintro before after eq long
  obtain ⟨js, ds, split, rfl, rfl⟩ := M.exists_of_trace_eq eq
  have le := count js ds split long
  rw [eq] at served le ⊢
  exact served.writesAnswered le

lemma readsWithin_of_count (served : Served (M.trace is))
    (count : ∀ js ds, is = js ++ ds → k ≤ (M.traceFrom (M.after js) ds).countP Cycle.flows →
      (ars (M.trace js)).length ≤ (rs (M.trace is)).length) :
    ReadsWithin k (M.trace is) := by
  rintro before after eq long
  obtain ⟨js, ds, split, rfl, rfl⟩ := M.exists_of_trace_eq eq
  have le := count js ds split long
  rw [eq] at served le ⊢
  exact served.readsAnswered le

/-- The logs only grow. -/
lemma logs_grow (cs : List Cycle) (c : Cycle) :
    (writeBeats cs).length ≤ (writeBeats (cs ++ [c])).length ∧
      (writes cs).length ≤ (writes (cs ++ [c])).length ∧
      (bs cs).length ≤ (bs (cs ++ [c])).length ∧ (ars cs).length ≤ (ars (cs ++ [c])).length ∧
      (reads cs).length ≤ (reads (cs ++ [c])).length ∧ (rs cs).length ≤ (rs (cs ++ [c])).length := by
  refine ⟨(writeBeats_append cs [c]).length_le, ?_, ?_, ?_, ?_, ?_⟩ <;>
    simp only [writes_snoc, bs_snoc, ars_snoc, reads_snoc, rs_snoc, List.length_append] <;>
    exact Nat.le_add_right _ _

lemma bs_grow {cs : List Cycle} {c : Cycle} (fire : c.bFire.isSome) :
    (bs cs).length < (bs (cs ++ [c])).length := by
  obtain ⟨b, shown⟩ := Option.isSome_iff_exists.mp fire
  simp [shown]

lemma rs_grow {cs : List Cycle} {c : Cycle} (fire : c.rFire.isSome) :
    (rs cs).length < (rs (cs ++ [c])).length := by
  obtain ⟨r, shown⟩ := Option.isSome_iff_exists.mp fire
  simp [shown]

section Rank

variable {P : τ → List Cycle → Prop} {C : τ → AxiIn × ε → Prop} (μ : τ → Nat)

/-- A wrapper that leaves at most one write unanswered serves every write within `k` cycles, if each
    of them lowers a rank of at most `k` or hands out a response. -/
theorem writesWithin_of_rank (init : P M.init [])
    (keep : ∀ s cs i, P s cs → C s i → P (M.step s i) (cs ++ [M.out s i]))
    (served : Served (M.trace is))
    (owed : ∀ s cs, P s cs → (writeBeats cs).length ≤ (bs cs).length + 1)
    (rank : ∀ s, μ s ≤ k)
    (owes : ∀ s cs, P s cs → (bs cs).length < (writeBeats cs).length → 0 < μ s)
    (turn : ∀ s cs i, P s cs → (bs cs).length < (writeBeats cs).length →
      (M.out s i).bFire.isSome ∨ μ (M.step s i) + (M.out s i).flows.toNat ≤ μ s)
    (al : M.Along C is) : WritesWithin k (M.trace is) := by
  refine writesWithin_of_count served ?_
  rintro js ds rfl long
  rw [← Nat.one_mul k] at long
  exact Machine.keeps_up (fun cs => (writeBeats cs).length) (fun cs => (bs cs).length) μ init keep
    (fun cs c => (logs_grow cs c).1) (fun cs c => (logs_grow cs c).2.2.1) (fun s _ _ => rank s) owes
    (fun s cs i p _ owing => (turn s cs i p owing).imp_left bs_grow) owed al long

/-- And so for the reads. -/
theorem readsWithin_of_rank (init : P M.init [])
    (keep : ∀ s cs i, P s cs → C s i → P (M.step s i) (cs ++ [M.out s i]))
    (served : Served (M.trace is)) (owed : ∀ s cs, P s cs → (ars cs).length ≤ (rs cs).length + 1)
    (rank : ∀ s, μ s ≤ k) (owes : ∀ s cs, P s cs → (rs cs).length < (ars cs).length → 0 < μ s)
    (turn : ∀ s cs i, P s cs → (rs cs).length < (ars cs).length →
      (M.out s i).rFire.isSome ∨ μ (M.step s i) + (M.out s i).flows.toNat ≤ μ s)
    (al : M.Along C is) : ReadsWithin k (M.trace is) := by
  refine readsWithin_of_count served ?_
  rintro js ds rfl long
  rw [← Nat.one_mul k] at long
  exact Machine.keeps_up (fun cs => (ars cs).length) (fun cs => (rs cs).length) μ init keep
    (fun cs c => (logs_grow cs c).2.2.2.1) (fun cs c => (logs_grow cs c).2.2.2.2.2)
    (fun s _ _ => rank s) owes (fun s cs i p _ owing => (turn s cs i p owing).imp_left rs_grow) owed
    al long

end Rank

end Service

end ModularControl.Axi
