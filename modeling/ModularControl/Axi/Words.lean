import ModularControl.Axi.Ledger
import ModularControl.Sync.Shared

/-!
# The words of the address space

What a driver sees of the register blocks: `volatile` words that it loads and stores by their address,
whole words at a time. A driver runs on any words; on a block alone (`deviceWords`) what is proved of
it holds on the bus that the block shares with others (`busWords`).
-/

namespace ModularControl.Axi
open Sync

/-- The `volatile` words that a program accesses, by their address. -/
structure Words (σ : Type) where
  load : BitVec 32 → StateM σ (BitVec 32)
  store : BitVec 32 → BitVec 32 → StateM σ Unit

/-- The request of a load; a block is given the low bits of the address. -/
def loadReq (addr : BitVec 32) : MmioReq := readReq (addr.setWidth 12)

/-- The request of a store, of all four bytes. -/
def storeReq (addr value : BitVec 32) : MmioReq := writeReq (addr.setWidth 12) (value, 0b1111)

section Requests

variable (addr value : BitVec 32)

@[simp]
lemma storeReq_write : (storeReq addr value).write = true := rfl

@[simp]
lemma storeReq_addr : (storeReq addr value).addr = addr.setWidth 12 := rfl

/-- A store replaces the whole word. -/
@[simp]
lemma mergeWstrb_storeReq (old : BitVec 32) :
    mergeWstrb old (storeReq addr value).wdata (storeReq addr value).wstrb = value :=
  mergeWstrb_full old value

@[simp]
lemma loadReq_write : (loadReq addr).write = false := rfl

@[simp]
lemma loadReq_addr : (loadReq addr).addr = addr.setWidth 12 := rfl

end Requests

/-- The words of a register block. -/
def deviceWords {σ ε : Type} (R : Responder σ ε MmioReq MmioRsp) (W : World ε) :
    Words (Bench σ ε MmioReq) where
  load addr := do
    let rsp ← Bench.access R W (loadReq addr)
    return rsp.rdata
  store addr value := do
    let _ ← Bench.access R W (storeReq addr value)

section Device

variable {σ ε : Type} {R : Responder σ ε MmioReq MmioRsp} {W : World ε} {I : σ → Prop}
  {K : Bench σ ε MmioReq → Prop} {addr value : BitVec 32}

/-- The rule of a load: what waiting keeps, and what the cycle in which the word is read makes of
    it. -/
lemma load_triple (law : R.Lawful I) (steady : R.Steady) {T : BitVec 32 → Bench σ ε MmioReq → Prop}
    (wait : ∀ t, K t → K (t.cycle R W false (loadReq addr) false))
    (take : ∀ t, t.Free R I → K t → T (R.answer t.regs (W.env t.now) (loadReq addr)).rdata
      (t.cycle R W true (loadReq addr) false))
    (hold : ∀ x t r, T x t → T x (t.cycle R W false (loadReq addr) r)) :
    Triple (fun t => t.Free R I ∧ K t) ((deviceWords R W).load addr) fun x t =>
      t.Free R I ∧ T x t :=
  Bench.access_reads (f := MmioRsp.rdata) law steady (L := K)
    (fun _ k => Bench.waits_keeps wait _ k) take hold

/-- The rule of a store. -/
lemma store_triple (law : R.Lawful I) (steady : R.Steady) {T : Bench σ ε MmioReq → Prop}
    (wait : ∀ t, K t → K (t.cycle R W false (storeReq addr value) false))
    (take : ∀ t, t.Free R I → K t → T (t.cycle R W true (storeReq addr value) false))
    (hold : ∀ t r, T t → T (t.cycle R W false (storeReq addr value) r)) :
    Triple (fun t => t.Free R I ∧ K t) ((deviceWords R W).store addr value) fun _ t =>
      t.Free R I ∧ T t :=
  Bench.access_writes law steady (L := K) (fun _ k => Bench.waits_keeps wait _ k) take hold

end Device

section Bus

variable {ι : Type} {σ ε : ι → Type} [DecidableEq ι] [Inhabited ι]

/-- The words of the devices on a bus; an address is decoded to the device whose word it is. Nothing
    is known here of addresses that no device decodes. -/
def busWords (R : ∀ i, Responder (σ i) (ε i) MmioReq MmioRsp) (W : World (∀ i, ε i))
    (decode : BitVec 32 → Option ι) : Words (Bench (Shared σ) (∀ i, ε i) (ι × MmioReq)) where
  load addr := match decode addr with
    | some i => do
      let rsp ← Bench.access (.shared R) W (i, loadReq addr)
      return rsp.rdata
    | none => return 0
  store addr value := match decode addr with
    | some i => do
      let _ ← Bench.access (.shared R) W (i, storeReq addr value)
    | none => return

variable {R : ∀ i, Responder (σ i) (ε i) MmioReq MmioRsp} {W : World (∀ i, ε i)}
  {I : ∀ i, σ i → Prop} {decode : BitVec 32 → Option ι} {i : ι} {addr value : BitVec 32}

lemma lifts_load (law : ∀ i, (R i).Lawful (I i)) (steady : ∀ i, (R i).Steady)
    (own : decode addr = some i) : Lifts R I W i ((deviceWords (R i) (W.part i)).load addr)
      ((busWords R W decode).load addr) := by
  simp only [busWords, own]
  exact (Lifts.access law steady _).bind fun rsp => .pure _

lemma lifts_store (law : ∀ i, (R i).Lawful (I i)) (steady : ∀ i, (R i).Steady)
    (own : decode addr = some i) : Lifts R I W i ((deviceWords (R i) (W.part i)).store addr value)
      ((busWords R W decode).store addr value) := by
  simp only [busWords, own]
  exact (Lifts.access law steady _).bind fun rsp => .pure _

end Bus

end ModularControl.Axi
