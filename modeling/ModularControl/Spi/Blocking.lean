import ModularControl.Spi.Driver
import ModularControl.Spi.Exchange
import ModularControl.Sync.Host

/-!
# Blocking transfers

The SPI driver's accesses carried out by `spi_regs` with its vendor core, cycle by cycle, however
long an access takes and however long the core takes with a word, if only it takes and returns every
word some time. Between two calls no word is pending or in flight, so that RX_VALID, once cleared,
speaks of the word launched since; BUSY does not, as it reads 0 while the word still waits.
-/

namespace ModularControl.Spi
open Sync Axi

/-- `spi_regs` with its vendor core behind the MMIO channels. -/
def spiBlock : Responder SpiSystem CoreIn MmioReq MmioRsp where
  init := spiSystem.init
  ready s _ _ := s.regs.reqReady
  valid s := s.regs.rspValid
  rsp s := s.regs.rsp
  answer s e q := s.regs.answer e q
  next s e v q r := s.step ⟨e, v, q, r⟩

/-- Its registers and everything it has seen. -/
abbrev SpiBench := Bench SpiSystem CoreIn MmioReq

def loadReq (offset : BitVec 32) : MmioReq := readReq (offset.setWidth 12)

/-- A whole word is written. -/
def storeReq (offset value : BitVec 32) : MmioReq := writeReq (offset.setWidth 12) (value, 0b1111)

/-- The driver's accesses. -/
def spiVolatile (W : World CoreIn) : Volatile SpiBench where
  load offset := do
    return (← Bench.access spiBlock W (loadReq offset)).rdata
  store offset value := do
    let _ ← Bench.access spiBlock W (storeReq offset value)

/-- The vendor core gets ready, and returns the word it has, some time. What it shows as returned
    while it has none is not seen. -/
structure Fair (W : World CoreIn) : Prop where
  ready : ∀ n, ∃ m ≥ n, (W.env m).wready = true
  returns : ∀ n, ∃ m ≥ n, (W.env m).rvalid = true

/-- What the vendor core takes and returns, cycle by cycle. -/
def spiEvents : Machine SpiSystem (Port CoreIn MmioReq) (List Event) where
  init := spiSystem.init
  step s i := s.step ⟨i.env, i.valid, i.req, i.rspReady⟩
  out s i := s.events ⟨i.env, i.valid, i.req, i.rspReady⟩

/-- Everything the vendor core has taken and returned so far. -/
def shown (t : SpiBench) : List Event := (spiEvents.trace t.past).flatten

/-- What a call that returned `word` has done: exactly one word was launched, the call's with the
    call's final flag, the word returned is the one received for it, and XFER_OPEN is what the final
    flag asks for. -/
structure Transferred (call : Word) (word : BitVec 8) (t t' : SpiBench) : Prop where
  shown : shown t' = shown t ++ [.launch call.1 call.2, .word word]
  opened : t'.regs.regs.xferOpen = !call.2

/-- Every call of the list returns within `fuel` turns of each of its loops, and has then done its
    transfer. -/
def Transfers (W : World CoreIn) (fuel : Nat) : SpiBench → List Word → Prop
  | _, [] => True
  | t, call :: calls => ∃ word t',
      (spiTransferByteBlocking (spiVolatile W) fuel call.1 call.2).run.run t = (some word, t') ∧
        Transferred call word t t' ∧ Transfers W fuel t' calls

lemma spiBlock_lawful : spiBlock.Lawful fun _ => True :=
  { init := trivial
    next := fun _ _ _ _ _ => trivial
    idle := rfl
    ready := fun {s} a r _ empty => spiRegs_lawful.ready (s := s.regs) a r trivial empty
    valid := fun {s} e v q r _ =>
      spiRegs_lawful.valid (s := s.regs) (s.seen ⟨e, v, q, r⟩).core v q r trivial
    rsp := fun {s} e q r _ empty =>
      spiRegs_lawful.rsp (s := s.regs) (s.seen ⟨e, true, q, r⟩).core q r trivial empty }

lemma spiBlock_steady : spiBlock.Steady := by
  intro s e q full
  have kept : (spiBlock.next s e false q false).regs.rsp =
      if !s.regs.rspValid && s.regs.reqFire false then s.regs.answer e q else s.regs.rsp := rfl
  exact kept.trans (if_neg (by simp [SpiRegs.reqFire]))

/-- No response waits. -/
def Vacant (t : SpiBench) : Prop := t.Free spiBlock fun _ => True

/-- The registers are those of the run so far, and the vendor core has taken and returned `os`. -/
structure Recorded (os : List Event) (t : SpiBench) : Prop where
  synced : t.regs = spiEvents.after t.past
  history : shown t = os

/-- Between two calls no word is pending or in flight, and ENABLE is set. -/
structure Ready (os : List Event) (t : SpiBench) : Prop where
  recorded : Recorded os t
  rests : t.regs.Rests
  enabled : t.regs.regs.ctrlEnable = true

/-- A call's word has been returned. -/
structure Done (call : Word) (os : List Event) (word : BitVec 8) (t : SpiBench) : Prop where
  recorded : Recorded (os ++ [.launch call.1 call.2, .word word]) t
  returned : t.regs.Returned call.2 word

/-- A call's word is on its way, and has been returned by the time `D`. -/
inductive Underway (W : World CoreIn) (call : Word) (os : List Event) (D : Nat) (t : SpiBench) : Prop
  | waits (recorded : Recorded os t) (waits : t.regs.Waits call.1 call.2)
      (due : ∃ m j, t.now ≤ m ∧ (W.env m).wready = true ∧ m < j ∧ (W.env j).rvalid = true ∧ j < D)
  | flies (recorded : Recorded (os ++ [.launch call.1 call.2]) t) (flies : t.regs.Flies call.2)
      (due : ∃ j, t.now ≤ j ∧ (W.env j).rvalid = true ∧ j < D)
  | returned (word : BitVec 8) (done : Done call os word t)

/-- Neither a START nor a write that clears ENABLE. -/
def Gentle (q : MmioReq) : Prop := q.write = true → q.addr = REG_CTRL →
  q.wdata.getLsbD CTRL_START_BIT = false ∧ q.wdata.getLsbD CTRL_ENABLE_BIT = true

lemma gentle_of_read {q : MmioReq} (read : q.write = false) : Gentle q :=
  fun write => absurd (read.symm.trans write) Bool.noConfusion

variable {W : World CoreIn} {os : List Event} {call : Word} {D : Nat} {t : SpiBench} {v : Bool}
  {q : MmioReq} {r : Bool}

lemma Recorded.cycle {es : List Event} (re : Recorded os t)
    (events : t.regs.events ⟨W.env t.now, v, q, r⟩ = es) :
    Recorded (os ++ es) (t.cycle spiBlock W v q r) := by
  obtain ⟨synced, seen⟩ := re
  refine ⟨?_, ?_⟩
  · rw [Bench.cycle, Machine.after_snoc, ← synced]
    rfl
  · have out : spiEvents.out (spiEvents.after t.past) ⟨W.env t.now, v, q, r⟩ = es := by
      rw [← synced]
      exact events
    have grown : shown (t.cycle spiBlock W v q r) =
        (spiEvents.trace (t.past ++ [⟨W.env t.now, v, q, r⟩])).flatten := rfl
    rw [grown, Machine.trace_snoc, List.flatten_append, out, ← seen]
    simp [shown]

lemma noWrite (reading : v = false ∨ q.write = false) :
    t.regs.Reads ⟨W.env t.now, v, q, r⟩ := by
  obtain rfl | write := reading
  · rfl
  · rw [SpiSystem.Reads, SpiRegs.wrFire, write, Bool.and_false]

/-- Between calls nothing happens by itself. -/
lemma Ready.cycle (re : Ready os t) (gentle : v = false ∨ Gentle q) :
    Ready os (t.cycle spiBlock W v q r) := by
  have quiet : t.regs.regs.startCmdFire v q = false ∧
      t.regs.regs.disables ⟨W.env t.now, v, q, r⟩ = false := by
    by_cases fire : t.regs.regs.wrCtrlFire v q = true
    · obtain rfl | gentle := gentle
      · simp [SpiRegs.wrCtrlFire, SpiRegs.wrFire, SpiRegs.reqFire] at fire
      · simp only [SpiRegs.wrCtrlFire, SpiRegs.wrFire, Bool.and_eq_true, beq_iff_eq] at fire
        obtain ⟨start, enable⟩ := gentle fire.1.2 fire.2
        simp [SpiRegs.startCmdFire, SpiRegs.disables, start, enable]
    · rw [Bool.not_eq_true] at fire
      simp [SpiRegs.startCmdFire, SpiRegs.disables, SpiRegs.wrCtrl, fire]
  obtain ⟨rests, nothing⟩ := re.rests.step (i := ⟨W.env t.now, v, q, r⟩) quiet.1
  have recorded := re.recorded.cycle nothing
  rw [List.append_nil] at recorded
  exact ⟨recorded, rests, SpiSystem.enabled_step re.enabled quiet.2⟩

/-- A returned word stays. -/
lemma Done.cycle {word : BitVec 8} (done : Done call os word t)
    (reading : v = false ∨ q.write = false) : Done call os word (t.cycle spiBlock W v q r) := by
  obtain ⟨returned, nothing⟩ := done.returned.step (noWrite (W := W) (r := r) reading)
  have recorded := done.recorded.cycle nothing
  rw [List.append_nil] at recorded
  exact ⟨recorded, returned⟩

/-- A word under way goes on. -/
lemma Underway.cycle (un : Underway W call os D t) (reading : v = false ∨ q.write = false) :
    Underway W call os D (t.cycle spiBlock W v q r) := by
  have reads := noWrite (W := W) (t := t) (r := r) reading
  have now : (t.cycle spiBlock W v q r).now = t.now + 1 := Bench.now_cycle
  cases un with
  | waits recorded waits due =>
    obtain ⟨m, j, le, ready, later, back, soon⟩ := due
    have turn := waits.step reads
    split_ifs at turn with taken
    -- the core may be ready before the time `m`; the word is then back by the same time `j`
    · refine .flies (recorded.cycle turn.2) turn.1 ⟨j, ?_, back, soon⟩
      omega
    · have recorded := recorded.cycle turn.2
      rw [List.append_nil] at recorded
      have ne : t.now ≠ m := fun e => taken (e ▸ ready)
      exact .waits recorded turn.1 ⟨m, j, by omega, ready, later, back, soon⟩
  | flies recorded flies due =>
    obtain ⟨j, le, back, soon⟩ := due
    have turn := flies.step reads
    split_ifs at turn with returned
    · have recorded := recorded.cycle turn.2
      rw [List.append_assoc] at recorded
      exact .returned _ ⟨recorded, turn.1⟩
    · have recorded := recorded.cycle turn.2
      rw [List.append_nil] at recorded
      have ne : t.now ≠ j := fun e => returned (e ▸ back)
      exact .flies recorded turn.1 ⟨j, by omega, back, soon⟩
  | returned word done => exact .returned word (done.cycle reading)

section Driver

/-- A read gives what the registers hold in the cycle in which it is taken. -/
lemma load_triple {K : SpiBench → Prop} {T : BitVec 32 → SpiBench → Prop} {offset : BitVec 32}
    (wait : ∀ t, K t → K (t.cycle spiBlock W false (loadReq offset) false))
    (take : ∀ t, K t → T (t.regs.regs.answer (W.env t.now) (loadReq offset)).rdata
      (t.cycle spiBlock W true (loadReq offset) false))
    (hold : ∀ x t r, T x t → T x (t.cycle spiBlock W false (loadReq offset) r)) :
    Triple (fun t => Vacant t ∧ K t) ((spiVolatile W).load offset) fun x t => Vacant t ∧ T x t :=
  Bench.access_reads spiBlock_lawful spiBlock_steady (fun _ => Bench.waits_keeps wait _)
    (fun t _ => take t) hold

/-- A write takes effect in the cycle in which it is taken. -/
lemma store_triple {K L : SpiBench → Prop} {offset value : BitVec 32}
    (wait : ∀ t, K t →
      K (t.cycle spiBlock W false (storeReq offset value) false))
    (take : ∀ t, Vacant t → K t →
      L (t.cycle spiBlock W true (storeReq offset value) false))
    (hold : ∀ t r, L t →
      L (t.cycle spiBlock W false (storeReq offset value) r)) :
    Triple (fun t => Vacant t ∧ K t) ((spiVolatile W).store offset value) fun _ t =>
      Vacant t ∧ L t :=
  Bench.access_writes spiBlock_lawful spiBlock_steady (fun _ => Bench.waits_keeps wait _) take hold

/-- Between calls RX_VALID has been cleared. -/
def Cleared (os : List Event) (t : SpiBench) : Prop := Ready os t ∧ t.regs.regs.rxValid = false

/-- And the call's byte has been staged. -/
def Loaded (byte : BitVec 8) (os : List Event) (t : SpiBench) : Prop :=
  Cleared os t ∧ t.regs.regs.txdataReg = byte

lemma wrFire_taken (vacant : Vacant t) (offset value : BitVec 32) :
    t.regs.regs.wrFire true (storeReq offset value) = true := by
  have empty : t.regs.regs.rspValid = false := vacant.empty
  rw [SpiRegs.wrFire, SpiRegs.reqFire, SpiRegs.reqReady, empty]
  rfl

/-- The low byte is strobed. -/
lemma lane_storeReq (offset value : BitVec 32) :
    (storeReq offset value).wstrb.getLsbD 0 = true := by
  show (0b1111#4).getLsbD 0 = true
  decide

lemma wrCtrl_taken (vacant : Vacant t) (value : BitVec 32) :
    (t.regs.regs.wrCtrlFire true (storeReq SPI_REG_CTRL_OFFSET value) &&
      (storeReq SPI_REG_CTRL_OFFSET value).wstrb.getLsbD 0) = true := by
  have addr : (storeReq SPI_REG_CTRL_OFFSET value).addr = REG_CTRL := by
    show SPI_REG_CTRL_OFFSET.setWidth 12 = REG_CTRL
    decide
  rw [SpiRegs.wrCtrlFire, wrFire_taken vacant, lane_storeReq, addr]
  rfl

lemma Cleared.cycle (cl : Cleared os t) (reading : v = false ∨ q.write = false) :
    Cleared os (t.cycle spiBlock W v q r) := by
  refine ⟨cl.1.cycle (reading.imp_right gentle_of_read), ?_⟩
  have kept := (noWrite (W := W) (t := t) (r := r) reading).rxValid
  rw [cl.1.rests.sound.quiet cl.1.rests.idle, cl.2] at kept
  exact kept

lemma Loaded.idle {byte : BitVec 8} (lo : Loaded byte os t) :
    Loaded byte os (t.cycle spiBlock W false q r) := by
  have reads := noWrite (W := W) (t := t) (q := q) (r := r) (.inl rfl)
  exact ⟨lo.1.cycle (.inl rfl), reads.kept.1.trans lo.2⟩

/-- What CTRL reads as: ENABLE is set, and START reads 0. -/
lemma ctrlRead_ready : Triple (fun t => Vacant t ∧ Ready os t) (spiCtrlRead (spiVolatile W))
    fun x t => Vacant t ∧ (x.getLsbD CTRL_ENABLE_BIT = true ∧ x.getLsbD CTRL_START_BIT = false) ∧
      Ready os t := by
  refine load_triple (fun t re => re.cycle (.inl rfl)) (fun t re => ⟨?_, re.cycle (.inr (gentle_of_read rfl))⟩)
    fun x t r h => ⟨h.1, h.2.cycle (.inl rfl)⟩
  · have told : (t.regs.regs.answer (W.env t.now) (loadReq SPI_REG_CTRL_OFFSET)).rdata =
        bitAt CTRL_ENABLE_BIT t.regs.regs.ctrlEnable |||
          bitAt CTRL_XFER_END_BIT t.regs.regs.ctrlXferEnd := rfl
    rw [told, re.enabled]
    refine ⟨?_, ?_⟩ <;> cases t.regs.regs.ctrlXferEnd <;> decide

/-- The stale flags are cleared. -/
lemma clear_ready : Triple (fun t => Vacant t ∧ Ready os t) (spiClearStatusFlags (spiVolatile W))
    fun _ t => Vacant t ∧ Cleared os t := by
  refine .bind ctrlRead_ready fun x => .assume (fun _ h => h.2.1) fun bits => ?_
  refine (store_triple (fun t re => re.cycle (.inl rfl)) (fun t vacant re => ⟨re.cycle (.inr ?_), ?_⟩)
    fun t r cl => cl.cycle (.inl rfl)).pre fun t h => ⟨h.1, h.2.2⟩
  · intro _ _
    show (x ||| SPI_CTRL_CLR_DONE ||| SPI_CTRL_CLR_RX_VALID).getLsbD CTRL_START_BIT = false ∧
      (x ||| SPI_CTRL_CLR_DONE ||| SPI_CTRL_CLR_RX_VALID).getLsbD CTRL_ENABLE_BIT = true
    rw [BitVec.getLsbD_or, BitVec.getLsbD_or, BitVec.getLsbD_or, BitVec.getLsbD_or, bits.1, bits.2]
    decide
  · have clear : t.regs.regs.clrRxValidCmdFire true
        (storeReq SPI_REG_CTRL_OFFSET (x ||| SPI_CTRL_CLR_DONE ||| SPI_CTRL_CLR_RX_VALID)) = true := by
      have bit : (x ||| SPI_CTRL_CLR_DONE ||| SPI_CTRL_CLR_RX_VALID).getLsbD
          CTRL_CLR_RX_VALID_BIT = true := by
        rw [BitVec.getLsbD_or]
        exact Bool.or_true _
      rw [SpiRegs.clrRxValidCmdFire, wrCtrl_taken vacant, Bool.true_and]
      exact bit
    exact if_pos clear

/-- The driver stages its byte. -/
lemma txdata_cleared (byte : BitVec 8) : Triple (fun t => Vacant t ∧ Cleared os t)
    (spiWriteTxdata (spiVolatile W) byte) fun _ t => Vacant t ∧ Loaded byte os t := by
  refine store_triple (fun t cl => cl.cycle (.inl rfl)) (fun t vacant cl => ⟨⟨cl.1.cycle (.inr ?_), ?_⟩, ?_⟩)
    fun t r lo => lo.idle
  · have other : SPI_REG_TXDATA_OFFSET.setWidth 12 ≠ REG_CTRL := by decide
    exact fun _ addr => absurd addr other
  · have kept := SpiSystem.rxValid_step (s := t.regs)
      (i := ⟨W.env t.now, true, storeReq SPI_REG_TXDATA_OFFSET (byte.setWidth 32), false⟩)
    rw [cl.1.rests.sound.quiet cl.1.rests.idle, cl.2] at kept
    exact kept.trans (Bool.and_false _)
  · have fire : (t.regs.regs.wrTxdataFire true (storeReq SPI_REG_TXDATA_OFFSET (byte.setWidth 32)) &&
        (storeReq SPI_REG_TXDATA_OFFSET (byte.setWidth 32)).wstrb.getLsbD 0) = true := by
      have addr : (storeReq SPI_REG_TXDATA_OFFSET (byte.setWidth 32)).addr = REG_TXDATA := by
        show SPI_REG_TXDATA_OFFSET.setWidth 12 = REG_TXDATA
        decide
      rw [SpiRegs.wrTxdataFire, wrFire_taken vacant, lane_storeReq, addr]
      rfl
    refine (if_pos fire).trans ?_
    show (byte.setWidth 32).setWidth 8 = byte
    rw [BitVec.setWidth_setWidth_of_le _ (by decide), BitVec.setWidth_eq]

/-- The START of a staged byte sends it on its way. -/
lemma start_loaded (fair : Fair W) (byte : BitVec 8) (finalByte : Bool) :
    Triple (fun t => Vacant t ∧ Loaded byte os t) (spiStartByte (spiVolatile W) finalByte)
      fun _ t => Vacant t ∧ ∃ D, Underway W (byte, finalByte) os D t := by
  refine store_triple (fun t lo => lo.idle) (fun t vacant lo => ?_) fun t r un => ?_
  -- the time by which the word is back is fixed as it starts
  · obtain ⟨m, le, ready⟩ := fair.ready (t.now + 1)
    obtain ⟨j, later, back⟩ := fair.returns (m + 1)
    let value := SPI_CTRL_ENABLE ||| (if finalByte then SPI_CTRL_XFER_END else 0) ||| SPI_CTRL_START
    have bits : value.getLsbD CTRL_ENABLE_BIT = true ∧ value.getLsbD CTRL_START_BIT = true ∧
        value.getLsbD CTRL_XFER_END_BIT = finalByte := by
      cases finalByte <;> decide
    have taken := wrCtrl_taken vacant value
    have cmd : t.regs.regs.startCmdFire true (storeReq SPI_REG_CTRL_OFFSET value) = true := by
      rw [SpiRegs.startCmdFire, taken, Bool.true_and]
      exact bits.2.1
    have kept : t.regs.regs.disables ⟨W.env t.now, true, storeReq SPI_REG_CTRL_OFFSET value, false⟩ = false := by
      have enable : (storeReq SPI_REG_CTRL_OFFSET value).wdata.getLsbD CTRL_ENABLE_BIT = true := bits.1
      rw [SpiRegs.disables, enable, Bool.not_true, Bool.and_false]
    have flag : t.regs.regs.xferEndNow ⟨W.env t.now, true, storeReq SPI_REG_CTRL_OFFSET value, false⟩ = finalByte :=
      (if_pos taken).trans bits.2.2
    obtain ⟨waits, nothing⟩ := lo.1.1.rests.start (i := ⟨W.env t.now, true, storeReq SPI_REG_CTRL_OFFSET value, false⟩)
      lo.1.1.enabled lo.1.2 cmd kept
    rw [lo.2, flag] at waits
    have recorded := lo.1.1.recorded.cycle nothing
    rw [List.append_nil] at recorded
    refine ⟨j + 1, .waits recorded waits ⟨m, j, ?_, ready, by omega, back, by omega⟩⟩
    rw [Bench.now_cycle]
    exact le
  · obtain ⟨D, un⟩ := un
    exact ⟨D, un.cycle (.inl rfl)⟩

/-- What the polled bits of STATUS say. -/
lemma status_bits (s : SpiRegs) (e : CoreIn) :
    ((s.answer e (loadReq SPI_REG_STATUS_OFFSET)).rdata &&& SPI_STATUS_BUSY != 0) = s.busy ∧
      ((s.answer e (loadReq SPI_REG_STATUS_OFFSET)).rdata &&& SPI_STATUS_RX_VALID != 0) =
        s.rxValid := by
  have told : (s.answer e (loadReq SPI_REG_STATUS_OFFSET)).rdata =
      (bitAt STATUS_BUSY_BIT s.busy ||| bitAt STATUS_DONE_BIT s.done |||
        bitAt STATUS_RX_VALID_BIT s.rxValid ||| bitAt STATUS_TX_READY_BIT e.wready |||
        bitAt STATUS_ENABLED_BIT s.ctrlEnable ||| bitAt STATUS_CS_ACTIVE_BIT (!e.csN) |||
        bitAt STATUS_XFER_OPEN_BIT s.xferOpen) := rfl
  have bit : ∀ k < 32, (s.answer e (loadReq SPI_REG_STATUS_OFFSET)).rdata.getLsbD k =
      (s.busy && 0 == k || s.done && 1 == k || s.rxValid && 2 == k || e.wready && 3 == k ||
        s.ctrlEnable && 4 == k || !e.csN && 5 == k || s.xferOpen && 6 == k) := by
    intro k lt
    simp only [told, BitVec.getLsbD_or, getLsbD_bitAt _ _ lt]
    rfl
  refine ⟨?_, ?_⟩
  · rw [SPI_STATUS_BUSY, and_shift _ (by decide), bit 0 (by decide)]
    simp
  · rw [SPI_STATUS_RX_VALID, and_shift _ (by decide), bit 2 (by decide)]
    simp

section Polls

variable {K : SpiBench → Prop} {T : Bool → SpiBench → Prop}
  (wait : ∀ t, K t → K (t.cycle spiBlock W false (loadReq SPI_REG_STATUS_OFFSET) false))
  (hold : ∀ b t r, T b t → T b (t.cycle spiBlock W false (loadReq SPI_REG_STATUS_OFFSET) r))
include wait hold

lemma isBusy_triple (take : ∀ t, K t → T t.regs.regs.busy
      (t.cycle spiBlock W true (loadReq SPI_REG_STATUS_OFFSET) false)) :
    Triple (fun t => Vacant t ∧ K t) (spiIsBusy (spiVolatile W)) fun busy t =>
      Vacant t ∧ T busy t := by
  refine .bind (load_triple (T := fun x => T (x &&& SPI_STATUS_BUSY != 0)) wait (fun t k => ?_)
    fun x => hold _) fun x => .pure fun _ h => h
  rw [(status_bits t.regs.regs (W.env t.now)).1]
  exact take t k

lemma rxValid_triple (take : ∀ t, K t → T t.regs.regs.rxValid
      (t.cycle spiBlock W true (loadReq SPI_REG_STATUS_OFFSET) false)) :
    Triple (fun t => Vacant t ∧ K t) (spiRxValid (spiVolatile W)) fun valid t =>
      Vacant t ∧ T valid t := by
  refine .bind (load_triple (T := fun x => T (x &&& SPI_STATUS_RX_VALID != 0)) wait (fun t k => ?_)
    fun x => hold _) fun x => .pure fun _ h => h
  rw [(status_bits t.regs.regs (W.env t.now)).2]
  exact take t k

end Polls

/-- Until its time is over a word may be on its way; then it has been returned. -/
lemma Underway.over (un : Underway W call os D t) :
    t.now < D ∧ t.regs.regs.rxValid = false ∨
      t.regs.regs.busy = false ∧ t.regs.regs.rxValid = true ∧ ∃ word, Done call os word t := by
  cases un with
  | waits _ waits due =>
    obtain ⟨m, j, le, -, later, -, soon⟩ := due
    exact .inl ⟨by omega, waits.fresh⟩
  | flies _ flies due =>
    obtain ⟨j, le, -, soon⟩ := due
    exact .inl ⟨by omega, flies.fresh⟩
  | returned word done =>
    exact .inr ⟨done.returned.rests.idle, done.returned.valid, word, done⟩

/-- Before a call BUSY reads 0. -/
lemma waitNotBusy_cleared : Terminates (fun t => Vacant t ∧ Cleared os t)
    (spiWaitNotBusy (spiVolatile W)) fun _ t => Vacant t ∧ Cleared os t := by
  refine .spin (I := fun _ t => Vacant t ∧ Cleared os t) (k := 0) fun k => ?_
  have busy := isBusy_triple (W := W) (K := Cleared os) (T := fun busy t => busy = false ∧ Cleared os t)
    (fun t cl => cl.cycle (.inl rfl)) (fun _ t r h => ⟨h.1, h.2.cycle (.inl rfl)⟩)
    fun t cl => ⟨cl.1.rests.idle, cl.cycle (.inr rfl)⟩
  refine busy.post fun goes t h => ?_
  rw [h.2.1]
  exact ⟨h.1, h.2.2⟩

/-- A word under way, with at most `k` cycles to its time. -/
def Closing (W : World CoreIn) (call : Word) (os : List Event) (D k : Nat) (t : SpiBench) : Prop :=
  Underway W call os D t ∧ D ≤ t.now + k

lemma Closing.cycle {k : Nat} (cl : Closing W call os D k t) (reading : v = false ∨ q.write = false) :
    Closing W call os D k (t.cycle spiBlock W v q r) := by
  refine ⟨cl.1.cycle reading, ?_⟩
  rw [Bench.now_cycle]
  have le := cl.2
  omega

/-- A cycle of a word that has not been returned brings its time closer. -/
lemma Closing.closer {k : Nat} (cl : Closing W call os D k t) (early : t.now < D)
    (reading : v = false ∨ q.write = false) :
    ∃ j < k, Closing W call os D j (t.cycle spiBlock W v q r) := by
  have le := cl.2
  refine ⟨k - 1, by omega, cl.1.cycle reading, ?_⟩
  rw [Bench.now_cycle]
  omega

/-- The driver waits while its word is in flight, and goes on if it still waits for the core. -/
lemma waitNotBusy_underway : Terminates (fun t => Vacant t ∧ ∃ D, Underway W call os D t)
    (spiWaitNotBusy (spiVolatile W)) fun _ t => Vacant t ∧ ∃ D, Underway W call os D t := by
  rintro t ⟨vacant, D, un⟩
  refine Terminates.spin (I := fun k t => Vacant t ∧ Closing W call os D k t) (k := D) (fun k => ?_) t
    ⟨vacant, un, Nat.le_add_left _ _⟩
  have busy := isBusy_triple (W := W) (K := Closing W call os D k)
    (T := fun busy t => if busy then ∃ j < k, Closing W call os D j t else Underway W call os D t)
    (fun t cl => cl.cycle (.inl rfl)) (fun busy t r h => ?_) fun t cl => ?_
  · refine busy.post fun goes t h => ?_
    cases goes with
    | true =>
      obtain ⟨vacant, j, lt, cl⟩ := h
      exact ⟨j, lt, vacant, cl⟩
    | false => exact ⟨h.1, D, h.2⟩
  · cases busy with
    | true =>
      obtain ⟨j, lt, cl⟩ := h
      exact ⟨j, lt, cl.cycle (.inl rfl)⟩
    | false => exact Underway.cycle h (.inl rfl)
  · split_ifs with busy
    -- BUSY reads 1 only while the word is in flight
    · obtain ⟨early, -⟩ | ⟨idle, -⟩ := cl.1.over
      · exact cl.closer early (.inr rfl)
      · exact absurd (busy.symm.trans idle) Bool.noConfusion
    · exact cl.1.cycle (.inr rfl)

/-- RX_VALID tells of the call's own word. -/
lemma waitRxValid_underway : Terminates (fun t => Vacant t ∧ ∃ D, Underway W call os D t)
    (spiWaitRxValid (spiVolatile W)) fun _ t => Vacant t ∧ ∃ word, Done call os word t := by
  rintro t ⟨vacant, D, un⟩
  refine Terminates.spin (I := fun k t => Vacant t ∧ Closing W call os D k t) (k := D) (fun k => ?_) t
    ⟨vacant, un, Nat.le_add_left _ _⟩
  have valid := rxValid_triple (W := W) (K := Closing W call os D k)
    (T := fun valid t => if valid then ∃ word, Done call os word t
      else ∃ j < k, Closing W call os D j t)
    (fun t cl => cl.cycle (.inl rfl)) (fun valid t r h => ?_) fun t cl => ?_
  · refine .bind valid fun valid => .pure fun t h => ?_
    cases valid with
    | true => exact h
    | false =>
      obtain ⟨vacant, j, lt, cl⟩ := h
      exact ⟨j, lt, vacant, cl⟩
  · cases valid with
    | true =>
      obtain ⟨word, done⟩ := h
      exact ⟨word, done.cycle (.inl rfl)⟩
    | false =>
      obtain ⟨j, lt, cl⟩ := h
      exact ⟨j, lt, cl.cycle (.inl rfl)⟩
  · obtain ⟨early, fresh⟩ | ⟨-, valid, word, done⟩ := cl.1.over
    · rw [fresh]
      exact cl.closer early (.inr rfl)
    · rw [valid]
      exact ⟨word, done.cycle (.inr rfl)⟩

/-- The driver returns the word. -/
lemma rxdata_done : Triple (fun t => Vacant t ∧ ∃ word, Done call os word t)
    (spiReadRxdata (spiVolatile W)) fun word t => Vacant t ∧ Done call os word t := by
  refine .bind (load_triple (T := fun x => Done call os ((x &&& 0xFF).setWidth 8))
    (fun t h => ?_) (fun t h => ?_) fun x t r done => done.cycle (.inl rfl)) fun x => .pure fun _ h => h
  · obtain ⟨word, done⟩ := h
    exact ⟨word, done.cycle (.inl rfl)⟩
  · obtain ⟨word, done⟩ := h
    have told : (t.regs.regs.answer (W.env t.now) (loadReq SPI_REG_RXDATA_OFFSET)).rdata =
        word.setWidth 32 := congrArg (BitVec.setWidth 32) done.returned.word
    rw [told, and_byte]
    exact done.cycle (.inr rfl)

/-- A call launches its word, waits for it and returns it. -/
lemma transfer_terminates (fair : Fair W) (call : Word) :
    Terminates (fun t => Vacant t ∧ Ready os t)
      (fun fuel => spiTransferByteBlocking (spiVolatile W) fuel call.1 call.2)
      fun word t => Vacant t ∧ Done call os word t := by
  refine .bind (.lift clear_ready) fun _ => .bind ?_ fun _ => .bind waitNotBusy_underway fun _ =>
    .bind waitRxValid_underway fun _ => .lift rxdata_done
  exact .bind waitNotBusy_cleared fun _ => .bind (.lift (txdata_cleared _)) fun _ =>
    .lift (start_loaded fair _ _)

/-- A returned word leaves the registers ready for the next call. -/
lemma Done.ready {word : BitVec 8} (done : Done call os word t) :
    Ready (os ++ [.launch call.1 call.2, .word word]) t :=
  ⟨done.recorded, done.returned.rests, done.returned.enabled⟩

/-- One number of turns is enough for all calls. -/
lemma transfers_of_ready (fair : Fair W) (calls : List Word) (vacant : Vacant t)
    (ready : Ready os t) : ∃ N, ∀ fuel ≥ N, Transfers W fuel t calls := by
  induction calls generalizing t os with
  | nil => exact ⟨0, fun _ _ => trivial⟩
  | cons call calls ih =>
    obtain ⟨N, word, t', ⟨vacant', done⟩, run⟩ := transfer_terminates fair call t ⟨vacant, ready⟩
    -- the later calls start where this one ends, however many turns it may take
    obtain ⟨M, rest⟩ := ih vacant' done.ready
    refine ⟨max N M, fun fuel enough => ⟨word, t', run fuel (by omega), ⟨?_, ?_⟩, ?_⟩⟩
    · rw [done.recorded.history, ready.recorded.history]
    · exact done.returned.opened
    · exact rest fuel (by omega)

/-- Before the first write nothing is open. -/
structure Closed (t : SpiBench) : Prop where
  recorded : Recorded [] t
  rests : t.regs.Rests
  shut : t.regs.regs.xferOpen = false

lemma Closed.idle (cl : Closed t) : Closed (t.cycle spiBlock W false q r) := by
  obtain ⟨rests, nothing⟩ := cl.rests.step (i := ⟨W.env t.now, false, q, r⟩) rfl
  refine ⟨cl.recorded.cycle nothing, rests, ?_⟩
  have kept := SpiSystem.xferOpen_step (s := t.regs) (i := ⟨W.env t.now, false, q, r⟩)
  rw [cl.rests.sound.quiet cl.rests.idle, SpiSystem.still_of_none cl.rests.none, cl.shut] at kept
  exact kept

/-- The first write sets ENABLE. -/
lemma enable_closed : Triple (fun t => Vacant t ∧ Closed t)
    ((spiVolatile W).store SPI_REG_CTRL_OFFSET (SPI_CTRL_ENABLE ||| SPI_CTRL_XFER_END))
    fun _ t => Vacant t ∧ Ready [] t := by
  refine store_triple (fun t cl => cl.idle) (fun t vacant cl => ?_) fun t r re => re.cycle (.inl rfl)
  have noStart : (SPI_CTRL_ENABLE ||| SPI_CTRL_XFER_END).getLsbD CTRL_START_BIT = false := by decide
  have enable : (SPI_CTRL_ENABLE ||| SPI_CTRL_XFER_END).getLsbD CTRL_ENABLE_BIT = true := by decide
  have taken := wrCtrl_taken vacant (SPI_CTRL_ENABLE ||| SPI_CTRL_XFER_END)
  have quiet : t.regs.regs.startCmdFire true
      (storeReq SPI_REG_CTRL_OFFSET (SPI_CTRL_ENABLE ||| SPI_CTRL_XFER_END)) = false := by
    rw [SpiRegs.startCmdFire, taken, Bool.true_and]
    exact noStart
  obtain ⟨rests, nothing⟩ := cl.rests.step (i := ⟨W.env t.now, true,
    storeReq SPI_REG_CTRL_OFFSET (SPI_CTRL_ENABLE ||| SPI_CTRL_XFER_END), false⟩) quiet
  refine ⟨cl.recorded.cycle nothing, rests, ?_⟩
  -- ENABLE may be written, as nothing is open
  have written : (t.regs.regs.wrCtrlFire true
      (storeReq SPI_REG_CTRL_OFFSET (SPI_CTRL_ENABLE ||| SPI_CTRL_XFER_END)) &&
        (storeReq SPI_REG_CTRL_OFFSET (SPI_CTRL_ENABLE ||| SPI_CTRL_XFER_END)).wstrb.getLsbD 0 &&
          !t.regs.regs.xferOpen) = true := by
    rw [taken, cl.shut]
    rfl
  exact (if_pos written).trans enable

/-- Writes of other registers change nothing of it. -/
lemma store_ready {offset value : BitVec 32} (other : offset.setWidth 12 ≠ REG_CTRL) :
    Triple (fun t => Vacant t ∧ Ready os t) ((spiVolatile W).store offset value)
      fun _ t => Vacant t ∧ Ready os t := by
  have gentle : Gentle (storeReq offset value) := fun _ addr => absurd addr other
  exact store_triple (fun t re => re.cycle (.inl rfl)) (fun t _ re => re.cycle (.inr gentle))
    fun t r re => re.cycle (.inl rfl)

lemma init_ready : Triple (fun t => Vacant t ∧ Closed t) (spiInit (spiVolatile W))
    fun _ t => Vacant t ∧ Ready [] t :=
  .bind enable_closed fun _ => .bind clear_ready fun _ =>
    .bind ((store_ready (by decide)).pre fun _ h => ⟨h.1, h.2.1⟩) fun _ => store_ready (by decide)

end Driver

/-- For every world in which the vendor core takes and returns every word some time, whatever the
    delays of the core and of the accesses, and for every list of calls after reset and `spi_init`:
    with enough turns every call returns, has launched exactly one word, with its byte and its final
    flag, returns the word received for that launch, and leaves XFER_OPEN as its final flag asks. -/
theorem spi_transfers (W : World CoreIn) (fair : Fair W) (calls : List Word) :
    ∃ N, ∀ fuel ≥ N,
      Transfers W fuel ((spiInit (spiVolatile W)).run ⟨spiSystem.init, []⟩).2 calls := by
  have start : Closed ⟨spiSystem.init, []⟩ := ⟨⟨rfl, rfl⟩, ⟨⟨rfl, nofun⟩, rfl, rfl⟩, rfl⟩
  obtain ⟨vacant, ready⟩ := init_ready (W := W) ⟨spiSystem.init, []⟩ ⟨⟨trivial, rfl⟩, start⟩
  exact transfers_of_ready fair calls vacant ready

/-- A core that is ready in every third cycle and may return its word in every fifth. -/
def dawdling : World CoreIn where
  env n := { wready := n % 3 == 0, rvalid := n % 5 == 0, rdata := BitVec.ofNat 8 n }
  gap n := n % 2
  lag _ := 1

/-- Two bytes of one transaction. -/
theorem spi_transfers_dawdling : ∃ N, ∀ fuel ≥ N, Transfers dawdling fuel
    ((spiInit (spiVolatile dawdling)).run ⟨spiSystem.init, []⟩).2 [(0x9F, false), (0x00, true)] := by
  have fair : Fair dawdling := by
    refine ⟨fun n => ⟨3 * n, by omega, ?_⟩, fun n => ⟨5 * n, by omega, ?_⟩⟩
    · show (3 * n % 3 == 0) = true
      rw [Nat.mul_mod_right]
      rfl
    · show (5 * n % 5 == 0) = true
      rw [Nat.mul_mod_right]
      rfl
  exact spi_transfers dawdling fair [(0x9F, false), (0x00, true)]

end ModularControl.Spi
