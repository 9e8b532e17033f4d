import ModularControl.Axi.Ledger
import ModularControl.Gpio.Edges
import ModularControl.Sync.Host

/-!
# Acknowledging edges

`read_edge` and `clear_edge` of `gpio_regs.c`: two reads and two writes, with any time between them
in which the pins go on changing. The mask does not say which of the two registers a pin was pending
in, and `clear_edge` writes it to both. So it also clears an edge of the other kind, if that has come
since its register was read.
-/

namespace ModularControl.Gpio
open Sync Axi

/-- The register block with all it has seen. -/
abbrev GpioBench (w : Nat) := Bench (GpioRegs w) (BitVec w) MmioReq

section Driver

variable {w : Nat} (W : World (BitVec w))

/-- A whole word is written. -/
def storeReq (offset : BitVec 12) (value : BitVec 32) : MmioReq := writeReq offset (value, 0b1111)

def gpioReadReg (offset : BitVec 12) : StateM (GpioBench w) (BitVec 32) := do
  let rsp ← Bench.access (gpioRegs w) W (readReq offset)
  return rsp.rdata

def gpioWriteReg (offset : BitVec 12) (value : BitVec 32) : StateM (GpioBench w) Unit := do
  let _ ← Bench.access (gpioRegs w) W (storeReq offset value)

def readEdge : StateM (GpioBench w) (BitVec 32) := do
  let riseBits ← gpioReadReg W REG_RISE_IP
  let fallBits ← gpioReadReg W REG_FALL_IP
  return riseBits ||| fallBits

def clearEdge (edgeMask : BitVec 32) : StateM (GpioBench w) Unit := do
  gpioWriteReg W REG_RISE_IP edgeMask
  gpioWriteReg W REG_FALL_IP edgeMask

/-- `m = read_edge(base)` followed by `clear_edge(base, m)`. -/
def acknowledge : StateM (GpioBench w) (BitVec 32) := do
  let m ← readEdge W
  clearEdge W m
  return m

end Driver

section Pending

variable {w : Nat} (past : List (Port (BitVec w) MmioReq))

/-- The registers after the first `u` cycles. -/
def regsAt (u : Nat) : GpioRegs w := (gpioRegs w).machine.after (past.take u)

def pendingAt (u : Nat) (k : Edge) (j : Nat) : Bool := ((regsAt past u).pending k).getLsbD j

/-- An acknowledge that has led from `t` to `t'` and returned the mask `m`: it has read the pending
    registers in the cycles `rd` and cleared the bits of the mask in the cycles `wr`. -/
structure Acknowledged (t t' : GpioBench w) (m : BitVec 32) (rd wr : Edge → Nat) : Prop where
  ext : t.past <+: t'.past
  from_ : t.now ≤ rd .rise
  order : rd .rise < rd .fall ∧ rd .fall < wr .rise ∧ wr .rise < wr .fall
  until_ : wr .fall < t'.now
  offered : offers t'.past = offers t.past ++
    [(rd .rise, readReq REG_RISE_IP), (rd .fall, readReq REG_FALL_IP),
      (wr .rise, storeReq REG_RISE_IP m), (wr .fall, storeReq REG_FALL_IP m)]
  mask : ∀ j, m.getLsbD j = (pendingAt t'.past (rd .rise) .rise j ||
    pendingAt t'.past (rd .fall) .fall j)
  cleared : ∀ (k : Edge) (j : Fin 32), m.getLsbD j = true →
    pendingAt t'.past (wr k + 1) k j = false

/-- Every pending bit that is low when its register is read, in cycle `rd`, and is set afterwards is
    still set at the end. -/
def KeepsUnseen (rd : Edge → Nat) : Prop :=
  ∀ (k : Edge) (j : Fin 32), pendingAt past (rd k) k j = false →
    (∃ v, rd k < v ∧ v ≤ past.length ∧ pendingAt past v k j = true) →
      pendingAt past past.length k j = true

/-- Such a bit is still set at the end exactly if the mask leaves its pin out or it is set after the
    write of its register. -/
def KeepsLater (m : BitVec 32) (rd wr : Edge → Nat) : Prop :=
  ∀ (k : Edge) (j : Fin 32), pendingAt past (rd k) k j = false →
    (∃ v, rd k < v ∧ v ≤ past.length ∧ pendingAt past v k j = true) →
      (pendingAt past past.length k j = true ↔
        m.getLsbD j = false ∨
          ∃ v, wr k < v ∧ v ≤ past.length ∧ pendingAt past v k j = true)

variable {past} {p : Port (BitVec w) MmioReq} {u v e j : Nat} {k : Edge}

lemma regsAt_ext {past' : List (Port (BitVec w) MmioReq)} (ext : past <+: past')
    (le : u ≤ past.length) : regsAt past' u = regsAt past u := by
  obtain ⟨more, rfl⟩ := ext
  rw [regsAt, regsAt, List.take_append_of_le_length le]

lemma regsAt_succ (at_u : past[u]? = some p) :
    regsAt past (u + 1) = (regsAt past u).step p.env p.valid p.req p.rspReady := by
  rw [regsAt, List.take_add_one, at_u, Option.toList_some, Machine.after_snoc]
  rfl

/-- A cycle as the block sees it. -/
def portIn (p : Port (BitVec w) MmioReq) : GpioIn w := ⟨p.env, p.valid, p.req, p.rspReady⟩

lemma pendingAt_succ (lt : j < 32) (at_u : past[u]? = some p) : pendingAt past (u + 1) k j =
    ((pendingAt past u k j || (!(regsAt past u).polarityWrite (portIn p) &&
      ((regsAt past u).evt k).getLsbD j)) && !(regsAt past u).clears k (portIn p) j) := by
  rw [pendingAt, regsAt_succ at_u]
  exact Watched.pending_step (s := ⟨regsAt past u, 0⟩) (i := portIn p) lt

/-- A bit is cleared by a write to its register that has it set. -/
lemma offered_of_clears (at_u : past[u]? = some p)
    (clears : (regsAt past u).clears k (portIn p) j = true) :
    ∃ q, (u, q) ∈ offers past ∧ q.write = true ∧ q.addr = k.reg ∧
      (GpioRegs.reqWmask q).getLsbD j = true := by
  simp only [GpioRegs.clears, GpioRegs.wrHit, GpioRegs.reqFire, portIn, Bool.and_eq_true,
    beq_iff_eq] at clears
  obtain ⟨⟨⟨⟨valid, -⟩, write⟩, addr⟩, bit⟩ := clears
  exact ⟨p.req, mem_offers.mpr ⟨p, at_u, valid, rfl⟩, write, addr, bit⟩

/-- A pending bit stays until it is cleared. -/
lemma pendingAt_stays (lt : j < 32) (set : pendingAt past v k j = true)
    (quiet : ∀ u, v ≤ u → u < e → ∀ p, past[u]? = some p →
      (regsAt past u).clears k (portIn p) j = false)
    (ge : v ≤ e) (le : e ≤ past.length) : pendingAt past e k j = true := by
  induction ge with
  | refl => exact set
  | @step u ge ih =>
    have at_u : past[u]? = some past[u] := List.getElem?_eq_getElem le
    have before := ih (fun v ge lt => quiet v ge (Nat.lt_succ_of_lt lt)) (Nat.le_of_succ_le le)
    rw [pendingAt_succ lt at_u, before, quiet u ge (Nat.lt_succ_self u) _ at_u]
    rfl

end Pending

section Run

variable {w : Nat} {W : World (BitVec w)} {t t' : GpioBench w} {m b : BitVec 32} {rsp : MmioRsp}
  {u v j : Nat} {k : Edge} {rd wr : Edge → Nat}

lemma gpioRegs_steady (w : Nat) : (gpioRegs w).Steady := fun _ _ _ _ => rfl

/-- One value for each kind of edge. -/
def each {α : Type} (rise fall : α) : Edge → α
  | .rise => rise
  | .fall => fall

/-- A read of a pending register returns it. -/
lemma read_pending
    (ac : Bench.Accessed (gpioRegs w) .reset t (readReq k.reg) u rsp t') :
    rsp.rdata = (regsAt t'.past u).pending k := by
  obtain ⟨e, -, answer⟩ := ac.taken
  rw [answer]
  cases k <;> rfl

lemma reqWmask_storeReq (offset : BitVec 12) (value : BitVec 32) :
    GpioRegs.reqWmask (storeReq offset value) = value :=
  mergeWstrb_full 0 value

/-- A write of a pending register clears the bits that it has set. -/
lemma write_pending (ac : Bench.Accessed (gpioRegs w) .reset t (storeReq k.reg m) u rsp t')
    (lt : j < 32) (bit : m.getLsbD j = true) : pendingAt t'.past (u + 1) k j = false := by
  obtain ⟨e, at_u, -⟩ := ac.taken
  have empty : (regsAt t'.past u).rspValid = false := ac.empty
  have clears : (regsAt t'.past u).clears k (portIn ⟨e, true, storeReq k.reg m, false⟩) j = true := by
    rw [GpioRegs.clears, portIn, reqWmask_storeReq, bit]
    simp [GpioRegs.wrHit, GpioRegs.reqFire, GpioRegs.reqReady, storeReq, writeReq, empty]
  rw [pendingAt_succ lt at_u, clears]
  exact Bool.and_false _

lemma pendingAt_ext {past past' : List (Port (BitVec w) MmioReq)} (ext : past <+: past')
    (le : u ≤ past.length) : pendingAt past' u k j = pendingAt past u k j := by
  rw [pendingAt, regsAt_ext ext le, pendingAt]

/-- Two reads and two writes, of the bits read, are an acknowledge. -/
lemma acknowledged_of {t₁ t₂ t₃ : GpioBench w} {u₁ u₂ u₃ u₄ : Nat} {r₁ r₂ r₃ r₄ : MmioRsp}
    (ac₁ : Bench.Accessed (gpioRegs w) .reset t (readReq Edge.rise.reg) u₁ r₁ t₁)
    (ac₂ : Bench.Accessed (gpioRegs w) .reset t₁ (readReq Edge.fall.reg) u₂ r₂ t₂)
    (ac₃ : Bench.Accessed (gpioRegs w) .reset t₂
      (storeReq Edge.rise.reg (r₁.rdata ||| r₂.rdata)) u₃ r₃ t₃)
    (ac₄ : Bench.Accessed (gpioRegs w) .reset t₃
      (storeReq Edge.fall.reg (r₁.rdata ||| r₂.rdata)) u₄ r₄ t') :
    Acknowledged t t' (r₁.rdata ||| r₂.rdata) (each u₁ u₂) (each u₃ u₄) := by
  have in₁ : u₁ < t₁.past.length := ac₁.until_
  have in₂ : u₂ < t₂.past.length := ac₂.until_
  have in₃ : u₃ < t₃.past.length := ac₃.until_
  have ext₃ : t₃.past <+: t'.past := ac₄.ext
  have ext₂ : t₂.past <+: t'.past := ac₃.ext.trans ext₃
  have ext₁ : t₁.past <+: t'.past := ac₂.ext.trans ext₂
  refine ⟨ac₁.ext.trans ext₁, ac₁.from_, ⟨?_, ?_, ?_⟩, ac₄.until_, ?_, fun j => ?_, fun k j bit => ?_⟩
  · exact Nat.lt_of_lt_of_le ac₁.until_ ac₂.from_
  · exact Nat.lt_of_lt_of_le ac₂.until_ ac₃.from_
  · exact Nat.lt_of_lt_of_le ac₃.until_ ac₄.from_
  · rw [ac₄.offered, ac₃.offered, ac₂.offered, ac₁.offered]
    simp only [List.append_assoc, List.cons_append, List.nil_append]
    rfl
  · have rise := read_pending ac₁
    have fall := read_pending ac₂
    rw [BitVec.getLsbD_or, rise, fall]
    change _ = (pendingAt t'.past u₁ .rise j || pendingAt t'.past u₂ .fall j)
    rw [pendingAt_ext ext₁ (Nat.le_of_lt in₁), pendingAt_ext ext₂ (Nat.le_of_lt in₂)]
    rfl
  · cases k with
    | rise => exact (pendingAt_ext ext₃ in₃).trans (write_pending ac₃ j.isLt bit)
    | fall => exact write_pending ac₄ j.isLt bit

/-- What the driver does to the block. -/
lemma acknowledge_run (run : t.RunFrom (gpioRegs w) .reset)
    (free : t.Free (gpioRegs w) fun _ => True) :
    ∃ rd wr, Acknowledged t (acknowledge W t).2 (acknowledge W t).1 rd wr := by
  have law := gpioRegs_lawful w
  have steady := gpioRegs_steady w
  obtain ⟨free₁, u₁, ac₁⟩ := Bench.accessed (W := W) law steady free run (readReq Edge.rise.reg)
  obtain ⟨free₂, u₂, ac₂⟩ := Bench.accessed (W := W) law steady free₁ ac₁.run (readReq Edge.fall.reg)
  obtain ⟨free₃, u₃, ac₃⟩ := Bench.accessed (W := W) law steady free₂ ac₂.run
    (storeReq Edge.rise.reg (acknowledge W t).1)
  obtain ⟨-, u₄, ac₄⟩ := Bench.accessed (W := W) law steady free₃ ac₃.run
    (storeReq Edge.fall.reg (acknowledge W t).1)
  exact ⟨_, _, acknowledged_of ac₁ ac₂ ac₃ ac₄⟩

/-- From its read on a pending bit is cleared by the write of its register only. -/
lemma Acknowledged.clears (ac : Acknowledged t t' m rd wr) (ge : rd k ≤ u)
    {p : Port (BitVec w) MmioReq} (at_u : t'.past[u]? = some p)
    (clears : (regsAt t'.past u).clears k (portIn p) j = true) :
    u = wr k ∧ m.getLsbD j = true := by
  obtain ⟨q, offered, write, addr, bit⟩ := offered_of_clears at_u clears
  rw [ac.offered, List.mem_append] at offered
  obtain before | now := offered
  · -- a request from before the acknowledge
    obtain ⟨p', at_u', -⟩ := mem_offers.mp before
    have lt : u < t.past.length := (List.getElem?_eq_some_iff.mp at_u').1
    have from_ : t.past.length ≤ rd .rise := ac.from_
    have order := ac.order.1
    have first : rd .rise ≤ rd k := by
      cases k with
      | rise => exact Nat.le_refl _
      | fall => exact Nat.le_of_lt order
    omega
  · simp only [List.mem_cons, Prod.mk.injEq, List.not_mem_nil, or_false] at now
    obtain ⟨rfl, rfl⟩ | ⟨rfl, rfl⟩ | ⟨rfl, rfl⟩ | ⟨rfl, rfl⟩ := now
    · cases write
    · cases write
    · rw [reqWmask_storeReq] at bit
      cases k with
      | rise => exact ⟨rfl, bit⟩
      | fall =>
        have same : REG_RISE_IP = REG_FALL_IP := addr
        exact absurd same (by decide)
    · rw [reqWmask_storeReq] at bit
      cases k with
      | rise =>
        have same : REG_FALL_IP = REG_RISE_IP := addr
        exact absurd same (by decide)
      | fall => exact ⟨rfl, bit⟩

lemma Acknowledged.keepsLater (ac : Acknowledged t t' m rd wr) : KeepsLater t'.past m rd wr := by
  intro k j unseen set
  have written : wr k < t'.past.length := by
    have order := ac.order
    have until_ : wr .fall < t'.past.length := ac.until_
    cases k with
    | rise => exact Nat.lt_trans order.2.2 until_
    | fall => exact until_
  have after : rd k < wr k := by
    have order := ac.order
    cases k with
    | rise => exact Nat.lt_trans order.1 order.2.1
    | fall => exact Nat.lt_trans order.2.1 order.2.2
  constructor
  · intro kept
    exact .inr ⟨t'.past.length, written, Nat.le_refl _, kept⟩
  · rintro (apart | ⟨v, later, le, set⟩)
    · obtain ⟨v, later, le, set⟩ := set
      refine pendingAt_stays j.isLt set (fun u ge lt p at_u => ?_) le (Nat.le_refl _)
      rw [← Bool.not_eq_true]
      intro clears
      obtain ⟨-, bit⟩ := ac.clears (by omega) at_u clears
      rw [apart] at bit
      cases bit
    · refine pendingAt_stays j.isLt set (fun u ge lt p at_u => ?_) le (Nat.le_refl _)
      rw [← Bool.not_eq_true]
      intro clears
      obtain ⟨now, -⟩ := ac.clears (by omega) at_u clears
      omega

end Run

/-- For every number of pins, in every run, whatever the pins do and however long the accesses of the
    driver take: an acknowledge returns and clears the bits that it has read as pending in one of the
    registers, and a bit that is set after its register has been read is kept exactly if its pin is
    not among them or it is set after the write of its register. -/
theorem gpio_acknowledge_keeps (w : Nat) (W : World (BitVec w)) (t : GpioBench w)
    (run : t.RunFrom (gpioRegs w) .reset) (free : t.Free (gpioRegs w) fun _ => True) :
    ∃ rd wr, Acknowledged t (acknowledge W t).2 (acknowledge W t).1 rd wr ∧
      KeepsLater (acknowledge W t).2.past (acknowledge W t).1 rd wr := by
  obtain ⟨rd, wr, ac⟩ := acknowledge_run (W := W) run free
  exact ⟨rd, wr, ac, ac.keepsLater⟩

/-- The block after reset. -/
def gpioStart (w : Nat) : GpioBench w := ⟨.reset, []⟩

/-- Pin 0 is high for five cycles; the driver begins in the fifth. -/
def pinFalls : World (BitVec 1) :=
  ⟨fun t => if t < 5 then 1 else 0, fun t => if t = 0 then 4 else 0, fun _ => 0⟩

theorem gpio_acknowledge_keeps_falls :
    ∃ rd wr, Acknowledged (gpioStart 1) (acknowledge pinFalls (gpioStart 1)).2
        (acknowledge pinFalls (gpioStart 1)).1 rd wr ∧
      KeepsLater (acknowledge pinFalls (gpioStart 1)).2.past
        (acknowledge pinFalls (gpioStart 1)).1 rd wr :=
  gpio_acknowledge_keeps 1 pinFalls (gpioStart 1) rfl ⟨trivial, rfl⟩

/-- The rise of pin 0 is read as pending; its fall comes between the read and the write of the other
    register, and is cleared with it. -/
theorem gpio_acknowledge_drops :
    Acknowledged (gpioStart 1) (acknowledge pinFalls (gpioStart 1)).2
        (acknowledge pinFalls (gpioStart 1)).1 (each 4 6) (each 8 10) ∧
      ¬ KeepsUnseen (acknowledge pinFalls (gpioStart 1)).2.past (each 4 6) := by
  constructor
  · obtain ⟨rd, wr, ac⟩ := acknowledge_run (W := pinFalls) (t := gpioStart 1) rfl ⟨trivial, rfl⟩
    have offered : offers (acknowledge pinFalls (gpioStart 1)).2.past =
        [(4, readReq REG_RISE_IP), (6, readReq REG_FALL_IP),
          (8, storeReq REG_RISE_IP 1), (10, storeReq REG_FALL_IP 1)] := by decide +kernel
    have same := ac.offered.symm.trans offered
    have reads : rd = each 4 6 := by
      funext k
      cases k <;> simp_all [gpioStart, offers, each]
    have writes : wr = each 8 10 := by
      funext k
      cases k <;> simp_all [gpioStart, offers, each]
    rw [← reads, ← writes]
    exact ac
  · intro keeps
    have unseen : pendingAt (acknowledge pinFalls (gpioStart 1)).2.past 6 .fall 0 = false := by
      decide +kernel
    have set : pendingAt (acknowledge pinFalls (gpioStart 1)).2.past 8 .fall 0 = true := by
      decide +kernel
    have kept := keeps .fall 0 unseen ⟨8, by decide, by decide +kernel, set⟩
    exact absurd kept (by decide +kernel)

end ModularControl.Gpio
