import ModularControl.I2c.Commands

/-!
# The commands of `i2c_rx_pkg` and `i2c_txrx_buf`

The command-level core with what a slave sends: a record is kept of the words written to the command
register, and each RD brings the slave's next byte into RXDATA. To a slave that acknowledges every
byte the two functions issue the commands of one combined transfer, and store what it sends.
-/

namespace ModularControl.I2c
open Sync

/-- The byte that an RD brings. -/
def Command.brought : Command → Option (BitVec 8)
  | .rd _ data => some data
  | _ => none

/-- The core with its RXDATA register and the record of its commands. -/
structure Recorder where
  device : Device
  rxdata : BitVec 8
  log : List Command

namespace Recorder

variable (sl : Slave) (reply : Nat → BitVec 8) (d : Recorder)

/-- How many bytes the slave has been asked for. -/
def asked : Nat := (d.log.filterMap Command.brought).length

/-- The command that a word written to the command register stands for. -/
def issue (v : BitVec 32) : Command :=
  if v.getLsbD CMD_ABORT_BIT then .abort
  else if v.setWidth 3 = START_CMD then .start
  else if v.setWidth 3 = WR_CMD then .wr d.device.txdata
  else if v.setWidth 3 = RD_CMD then .rd (v.getLsbD CMD_RD_LAST_BIT) (reply d.asked)
  else if v.setWidth 3 = STOP_CMD then .stop
  else if v.setWidth 3 = RESTART_CMD then .restart
  else .reserved

/-- Time passes; at the end of an RD its byte is in RXDATA. -/
def tick : Recorder where
  device := d.device.tick sl
  rxdata :=
    match d.device.running with
    | some (.rd, 0) => reply (d.asked - 1)
    | _ => d.rxdata
  log := d.log

end Recorder

/-- The registers of the recorder that the driver reads and writes; `reply` is what the slave
    sends. -/
def Slave.recorded (sl : Slave) (reply : Nat → BitVec 8) : Mmio Recorder where
  read32 offset d :=
    if offset = I2C_REG_RXDATA_OFFSET then (d.rxdata.setWidth 32, d)
    else if offset = I2C_REG_STATUS_OFFSET then (d.device.status, d.tick sl reply)
    else (0, d)
  write32 offset v d :=
    ((), { device := ((sl.mmio.write32 offset v).run d.device).2
           rxdata := d.rxdata
           log := if offset = I2C_REG_CMD_OFFSET then d.log ++ [d.issue reply v] else d.log })

namespace Recorder

variable {sl : Slave} {reply : Nat → BitVec 8} {d : Recorder}

/-- No command is under way; the commands were `log`, and its RDs brought what the slave sent. -/
structure Rests (reply : Nat → BitVec 8) (idle : Bool) (log : List Command) (d : Recorder) :
    Prop where
  ready : d.device.running = none
  idle : d.device.idle = idle
  record : d.log = log
  replied : log.filterMap Command.brought = (List.range d.asked).map reply

/-- The commands that leave the bus idle. -/
def closes : Op → Bool
  | .stop | .abort => true
  | _ => false

/-- A command is under way and completes after `k` more reads. -/
structure Busy (sl : Slave) (reply : Nat → BitVec 8) (op : Op) (log : List Command) (k : Nat)
    (d : Recorder) : Prop where
  running : d.device.running = some (op, k)
  fresh : d.device.done = false ∧ d.device.cmdIllegal = false
  bus : (d.device.complete sl op).idle = closes op
  record : d.log = log
  replied : log.filterMap Command.brought = (List.range d.asked).map reply

/-- The command has completed, and its result can be read. -/
structure Over (reply : Nat → BitVec 8) (op : Op) (log : List Command) (d : Recorder) : Prop where
  rests : d.Rests reply (closes op) log
  legal : d.device.cmdIllegal = false
  wr : op = .wr → d.device.done = true ∧ d.device.ackValid = true ∧ d.device.ack = false
  rd : op = .rd → d.device.done = true ∧ d.device.rdDataValid = true ∧
    d.rxdata = reply (d.asked - 1)

/-- A read of the status. -/
lemma status_triple {P : Recorder → Prop} {Q : BitVec 32 → Recorder → Prop}
    (h : ∀ d, P d → Q d.device.status (d.tick sl reply)) :
    Triple P (i2cGetStatus (sl.recorded reply)) Q := h

lemma Busy.tick_succ {op : Op} {log : List Command} {k : Nat}
    (b : d.Busy sl reply op log (k + 1)) : (d.tick sl reply).Busy sl reply op log k := by
  have device : (d.tick sl reply).device = { d.device with running := some (op, k) } := by
    rw [Recorder.tick, Device.tick, b.running]
  refine ⟨by rw [device], by rw [device]; exact b.fresh, ?_, b.record, b.replied⟩
  rw [device, ← b.bus]
  cases op <;> rfl

lemma Busy.tick_zero {op : Op} {log : List Command} (acks : ∀ k, sl.nack k = false)
    (b : d.Busy sl reply op log 0) : (d.tick sl reply).Over reply op log := by
  have device : (d.tick sl reply).device = d.device.complete sl op := by
    rw [Recorder.tick, Device.tick, b.running]
  refine ⟨⟨?_, ?_, b.record, b.replied⟩, ?_, ?_, ?_⟩
  · rw [device]
    exact Device.complete_running
  · rw [device, b.bus]
  · rw [device]
    cases op <;> exact b.fresh.2
  · rintro rfl
    rw [device]
    exact ⟨rfl, rfl, acks _⟩
  · rintro rfl
    rw [device]
    refine ⟨rfl, rfl, ?_⟩
    rw [Recorder.tick, b.running]
    rfl

/-- What the status shows of the device. -/
lemma status_bits (d : Device) :
    d.status.getLsbD I2C_STATUS_CMD_READY_BIT = d.running.isNone ∧
      d.status.getLsbD I2C_STATUS_BUS_IDLE_BIT = (d.running.isNone && d.idle) ∧
      d.status.getLsbD I2C_STATUS_DONE_BIT = d.done ∧
      d.status.getLsbD I2C_STATUS_ACK_VALID_BIT = d.ackValid ∧
      d.status.getLsbD I2C_STATUS_ACK_BIT = d.ack ∧
      d.status.getLsbD I2C_STATUS_RD_DATA_VALID_BIT = d.rdDataValid ∧
      d.status.getLsbD I2C_STATUS_CMD_ILLEGAL_BIT = d.cmdIllegal := by
  refine ⟨?_, ?_, ?_, ?_, ?_, ?_, ?_⟩ <;> rw [Device.getLsbD_status (by decide)] <;>
    simp [I2C_STATUS_CMD_READY_BIT, I2C_STATUS_BUS_IDLE_BIT, I2C_STATUS_DONE_BIT,
      I2C_STATUS_ACK_VALID_BIT, I2C_STATUS_ACK_BIT, I2C_STATUS_RD_DATA_VALID_BIT,
      I2C_STATUS_CMD_ILLEGAL_BIT]

section Polls

variable {op : Op} {log : List Command} {idle : Bool}

variable {P : Recorder → Prop}

/-- With no command under way a read of the status changes nothing. -/
lemma status_still (still : ∀ d, P d → d.device.running = none) :
    Triple P (i2cGetStatus (sl.recorded reply)) fun x d => x = d.device.status ∧ P d := by
  refine status_triple fun d p => ?_
  have same : d.tick sl reply = d := by
    rw [Recorder.tick, Device.tick_ready (still d p), still d p]
  rw [same]
  exact ⟨rfl, p⟩

lemma cmdReady_still (still : ∀ d, P d → d.device.running = none) :
    Triple P (i2cStatusCmdReady (sl.recorded reply)) fun ready d => ready = true ∧ P d := by
  refine cmdReady_triple ((status_still still).post fun x d h => ?_)
  rw [h.1, (status_bits d.device).1, still d h.2]
  exact ⟨rfl, h.2⟩

lemma busIdle_still (still : ∀ d, P d → d.device.running = none ∧ d.device.idle = idle) :
    Triple P (i2cBusIdle (sl.recorded reply)) fun bus d => bus = idle ∧ P d := by
  refine busIdle_triple ((status_still fun d p => (still d p).1).post fun x d h => ?_)
  rw [h.1, (status_bits d.device).2.1, (still d h.2).1, (still d h.2).2]
  exact ⟨rfl, h.2⟩

lemma waitCmdReady_still (still : ∀ d, P d → d.device.running = none) :
    Triple P (i2cPrivWaitCmdReady (sl.recorded reply)) fun ready d => ready = true ∧ P d := by
  refine pollUntil_answers (.bind_known (cmdReady_still still) ?_) 199999
  exact .pure fun _ p => ⟨true, rfl, rfl, p⟩

/-- A command under way shows nothing yet. -/
lemma status_busy {k : Nat}
    (tick : ∀ d : Recorder, d.Busy sl reply op log k → P (d.tick sl reply)) :
    Triple (Busy sl reply op log k) (i2cGetStatus (sl.recorded reply)) fun x d =>
      (x.getLsbD I2C_STATUS_CMD_READY_BIT = false ∧ x.getLsbD I2C_STATUS_DONE_BIT = false ∧
        x.getLsbD I2C_STATUS_CMD_ILLEGAL_BIT = false) ∧ P d := by
  refine status_triple fun d b => ⟨?_, tick d b⟩
  obtain ⟨ready, -, done, -, -, -, illegal⟩ := status_bits d.device
  rw [ready, done, illegal, b.running, b.fresh.1, b.fresh.2]
  exact ⟨rfl, rfl, rfl⟩

lemma Over.still (o : d.Over reply op log) : d.device.running = none := o.rests.ready

lemma cmdReady_busy {k : Nat}
    (tick : ∀ d : Recorder, d.Busy sl reply op log k → P (d.tick sl reply)) :
    Triple (Busy sl reply op log k) (i2cStatusCmdReady (sl.recorded reply)) fun ready d =>
      ready = false ∧ P d :=
  cmdReady_triple ((status_busy tick).post fun _ _ h => ⟨h.1.1, h.2⟩)

/-- The driver polls until its command is over: the probe does not answer while the command is under
    way, and does afterwards. -/
lemma poll_busy (acks : ∀ k, sl.nack k = false) {probe : StateM Recorder (Option Bool)}
    (silent : ∀ {k : Nat} {P : Recorder → Prop},
      (∀ d : Recorder, d.Busy sl reply op log k → P (d.tick sl reply)) →
        Triple (Busy sl reply op log k) probe fun answer d => answer = none ∧ P d)
    (answers : Triple (Over reply op log) probe fun answer d =>
      answer = some true ∧ d.Over reply op log) {k : Nat} (lt : k + 1 < I2C_TIMEOUT_LOOPS) :
    Triple (Busy sl reply op log k) (pollUntil probe I2C_TIMEOUT_LOOPS) fun done d =>
      done = true ∧ d.Over reply op log :=
  pollUntil_outlasts (B := Busy sl reply op log) (fun _ => silent fun _ b => b.tick_succ)
    (silent fun _ b => b.tick_zero acks) answers lt

/-- The driver waits for the end of a command. -/
lemma waitCmdReady_busy (acks : ∀ k, sl.nack k = false) {k : Nat} (lt : k + 1 < I2C_TIMEOUT_LOOPS) :
    Triple (Busy sl reply op log k) (i2cPrivWaitCmdReady (sl.recorded reply)) fun ready d =>
      ready = true ∧ d.Over reply op log := by
  refine poll_busy acks (fun tick => .bind_known (cmdReady_busy tick) ?_) ?_ lt
  · exact .pure fun _ p => ⟨rfl, p⟩
  · exact .bind_known (cmdReady_still fun _ o => o.still) (.pure fun _ o => ⟨rfl, o⟩)

/-- The driver waits for the idle bus after a STOP. -/
lemma waitIdleReady_busy (acks : ∀ k, sl.nack k = false) {k : Nat}
    (lt : k + 1 < I2C_TIMEOUT_LOOPS) :
    Triple (Busy sl reply .stop log k) (i2cPrivWaitIdleReady (sl.recorded reply)) fun back d =>
      back = true ∧ d.Over reply .stop log := by
  have busIdle : Triple (Over reply .stop log) (i2cBusIdle (sl.recorded reply)) fun bus d =>
      bus = true ∧ d.Over reply .stop log :=
    busIdle_still fun _ o => ⟨o.still, o.rests.idle⟩
  refine poll_busy acks (fun tick => .bind_known (cmdReady_busy tick) ?_) ?_ lt
  · exact .pure fun _ p => ⟨rfl, p⟩
  · refine .bind_known (cmdReady_still fun _ o => o.still) (.bind_known busIdle ?_)
    exact .pure fun _ o => ⟨rfl, o⟩

/-- The driver waits for the end of a byte. -/
lemma waitCmdCycle_busy (acks : ∀ k, sl.nack k = false) (byte : op = .wr ∨ op = .rd) {k : Nat}
    (lt : k + 1 < I2C_TIMEOUT_LOOPS) :
    Triple (Busy sl reply op log k) (i2cPrivWaitCmdCycle (sl.recorded reply)) fun done d =>
      done = true ∧ d.Over reply op log := by
  refine poll_busy acks (fun tick => .bind (status_busy tick) fun x => ?_)
    (.bind (status_still fun _ o => o.still) fun x => ?_) lt
  · rw [and_mask x (by decide), and_mask x (by decide)]
    refine .assume (fun _ h => h.1) fun bits => ?_
    rw [bits.2.1, bits.2.2]
    exact .pure fun _ h => ⟨rfl, h.2⟩
  · have shows : ∀ d : Recorder, x = d.device.status ∧ d.Over reply op log →
        x.getLsbD I2C_STATUS_CMD_ILLEGAL_BIT = false ∧ x.getLsbD I2C_STATUS_DONE_BIT = true := by
      rintro d ⟨rfl, o⟩
      obtain ⟨-, -, done, -, -, -, illegal⟩ := status_bits d.device
      rw [done, illegal, o.legal]
      obtain e | e := byte
      · exact ⟨rfl, (o.wr e).1⟩
      · exact ⟨rfl, (o.rd e).1⟩
    refine .assume shows fun bits => ?_
    rw [and_mask x (by decide), and_mask x (by decide), bits.1, bits.2]
    exact .pure fun _ h => ⟨rfl, h.2⟩

end Polls

section Writes

variable {op : Op} {log : List Command} {idle : Bool}

/-- A command under way, to be over within the driver's patience. -/
def Launched (sl : Slave) (reply : Nat → BitVec 8) (op : Op) (log : List Command) (d : Recorder) :
    Prop :=
  ∃ k, k + 1 < I2C_TIMEOUT_LOOPS ∧ d.Busy sl reply op log k

/-- What holds however long the command takes. -/
lemma launched_triple {α : Type} {x : StateM Recorder α} {Q : α → Recorder → Prop}
    (wait : ∀ {k : Nat}, k + 1 < I2C_TIMEOUT_LOOPS → Triple (Busy sl reply op log k) x Q) :
    Triple (Launched sl reply op log) x Q := by
  rintro d ⟨k, lt, b⟩
  exact wait lt d b

lemma clear_rests : Keeps (Rests reply idle log) (i2cPrivClearStatusSticky (sl.recorded reply)) :=
  fun _ r => ⟨r.ready, r.idle, r.record, r.replied⟩

lemma txdata_rests (data : BitVec 8) : Triple (Rests reply idle log)
    (i2cWriteTxdata (sl.recorded reply) data) fun _ d =>
      d.Rests reply idle log ∧ d.device.txdata = data := by
  intro d r
  refine ⟨⟨r.ready, r.idle, r.record, r.replied⟩, ?_⟩
  show (data.setWidth 32).setWidth 8 = data
  simp

/-- The record of a command that brings nothing, or the slave's next byte. -/
lemma replied_snoc (d' : Recorder) {c : Command}
    (replied : d.log.filterMap Command.brought = (List.range d.asked).map reply)
    (brought : ∀ byte ∈ c.brought, byte = reply d.asked) (record : d'.log = d.log ++ [c]) :
    d'.log.filterMap Command.brought = (List.range d'.asked).map reply := by
  have count : d'.asked = ((d.log ++ [c]).filterMap Command.brought).length := by
    rw [asked, record]
  rw [record, count, filterMap_snoc]
  cases hb : c.brought with
  | none => rw [Option.toList_none, List.append_nil, replied, List.length_map, List.length_range]
  | some byte =>
    rw [brought byte hb, Option.toList_some, replied, List.length_append, List.length_map,
      List.length_range, List.length_singleton, List.range_succ, List.map_append, List.map_singleton]

/-- A legal command is launched and recorded. -/
lemma write_launches (budget : ∀ k, sl.delay k + 1 < I2C_TIMEOUT_LOOPS) {v : BitVec 32}
    (noAbort : v.getLsbD CMD_ABORT_BIT = false) {c : Command} {P : Recorder → Prop}
    (rests : ∀ d, P d → d.Rests reply idle log)
    (legal : ∀ d : Recorder, d.device.idle = idle → d.device.legal (v.setWidth 3) = some op)
    (held : op = .wr ∨ op = .rd → idle = false) (issued : ∀ d, P d → d.issue reply v = c)
    (brought : ∀ d, P d → ∀ byte ∈ c.brought, byte = reply d.asked) :
    Triple P ((sl.recorded reply).write32 I2C_REG_CMD_OFFSET v) fun _ =>
      Launched sl reply op (log ++ [c]) := by
  intro d p
  have r := rests d p
  have device : ((sl.mmio.write32 I2C_REG_CMD_OFFSET v).run d.device).2 =
      d.device.clear.launch sl op :=
    Device.writeCmd_legal noAbort r.ready (legal d r.idle)
  have record : d.log ++ [d.issue reply v] = log ++ [c] := by rw [r.record, issued d p]
  refine ⟨sl.delay d.device.launched, budget _, ?_, ?_, ?_, record, ?_⟩
  · show ((sl.mmio.write32 I2C_REG_CMD_OFFSET v).run d.device).2.running = _
    rw [device]
    rfl
  · show ((sl.mmio.write32 I2C_REG_CMD_OFFSET v).run d.device).2.done = _ ∧
      ((sl.mmio.write32 I2C_REG_CMD_OFFSET v).run d.device).2.cmdIllegal = _
    rw [device]
    exact ⟨rfl, rfl⟩
  · show (((sl.mmio.write32 I2C_REG_CMD_OFFSET v).run d.device).2.complete sl op).idle = _
    rw [device]
    cases op with
    | wr => exact r.idle.trans (held (.inl rfl))
    | rd => exact r.idle.trans (held (.inr rfl))
    | _ => rfl
  -- the bytes brought so far, this command's included
  · have before : d.log.filterMap Command.brought = (List.range d.asked).map reply := by
      rw [r.record, r.replied]
    rw [← record]
    exact replied_snoc ((sl.recorded reply).write32 I2C_REG_CMD_OFFSET v d).2 before (brought d p)
      (congrArg (fun c => d.log ++ [c]) (issued d p))

/-- A command without operands. -/
lemma cmd_launches (budget : ∀ k, sl.delay k + 1 < I2C_TIMEOUT_LOOPS) {c : BitVec 8}
    {command : Command} {P : Recorder → Prop} (rests : ∀ d, P d → d.Rests reply idle log)
    (noAbort : (i2cPackCmd c false false).getLsbD CMD_ABORT_BIT = false)
    (legal : ∀ d : Recorder, d.device.idle = idle →
      d.device.legal ((i2cPackCmd c false false).setWidth 3) = some op)
    (held : op = .wr ∨ op = .rd → idle = false)
    (issued : ∀ d, P d → d.issue reply (i2cPackCmd c false false) = command)
    (nothing : command.brought = none) :
    Triple P (i2cCmd (sl.recorded reply) c) fun refused d =>
      refused = false ∧ d.Launched sl reply op (log ++ [command]) := by
  refine .bind_known (cmdReady_still fun d p => (rests d p).ready) ?_
  refine .bind (write_launches budget noAbort rests legal held issued ?_) fun _ => ?_
  · rw [nothing]
    exact fun _ _ byte none => absurd none (Option.not_mem_none byte)
  · exact .pure fun _ l => ⟨rfl, l⟩

end Writes

section Functions

variable {log : List Command} (acks : ∀ k, sl.nack k = false)
  (budget : ∀ k, sl.delay k + 1 < I2C_TIMEOUT_LOOPS)
include acks budget

lemma writePhaseByte_rests (data nackCode : BitVec 8) : Triple (Rests reply false log)
    (i2cPrivWritePhaseByte (sl.recorded reply) data nackCode) fun status d =>
      status = I2C_TX_OK ∧ d.Rests reply false (log ++ [.wr data]) := by
  have cmd : Triple (fun d => d.Rests reply false log ∧ d.device.txdata = data)
      (i2cCmdWr (sl.recorded reply)) fun refused d =>
        refused = false ∧ d.Launched sl reply .wr (log ++ [.wr data]) := by
    refine cmd_launches budget (fun _ h => h.1) rfl (fun d held => ?_) (fun _ => rfl)
      (fun d h => ?_) rfl
    · rw [Device.legal, held]
      rfl
    · rw [← h.2]
      rfl
  have wait : Triple (Launched sl reply .wr (log ++ [.wr data]))
      (i2cPrivWaitCmdCycle (sl.recorded reply)) fun done d =>
        done = true ∧ d.Over reply .wr (log ++ [.wr data]) :=
    launched_triple (waitCmdCycle_busy acks (.inl rfl))
  refine .bind_true (waitCmdReady_still fun _ r => r.ready) ?_
  refine .bind clear_rests fun _ => .bind (txdata_rests data) fun _ => ?_
  refine .bind_false cmd ?_
  refine .bind_true wait ?_
  rw [i2cAck, bind_assoc]
  refine .bind (status_still fun _ o => o.still) fun x => ?_
  have shows : ∀ d : Recorder, x = d.device.status ∧ d.Over reply .wr (log ++ [.wr data]) →
      x.getLsbD I2C_STATUS_ACK_VALID_BIT = true ∧ x.getLsbD I2C_STATUS_ACK_BIT = false := by
    rintro d ⟨rfl, o⟩
    obtain ⟨-, -, -, valid, ack, -⟩ := status_bits d.device
    rw [valid, ack]
    exact (o.wr rfl).2
  refine .assume shows fun bits => ?_
  obtain ⟨valid, level⟩ := Device.ack_packs x
  rw [bits.1] at valid
  rw [bits.2] at level
  rw [pure_bind]
  refine .ite (fun no => absurd (valid.symm.trans no) Bool.noConfusion) fun _ =>
    .ite (fun no => absurd (level.symm.trans no) Bool.noConfusion) fun _ => ?_
  exact .pure fun d h => ⟨rfl, h.2.rests⟩

/-- The slave's next byte. -/
def nextByte (reply : Nat → BitVec 8) (log : List Command) : BitVec 8 :=
  reply (log.filterMap Command.brought).length

omit acks in
/-- The driver asks for the slave's next byte. -/
lemma cmdRd_launches (rdLast : Bool) : Triple (Rests reply false log)
    (i2cCmdRd (sl.recorded reply) rdLast) fun refused d =>
      refused = false ∧ d.Launched sl reply .rd (log ++ [.rd rdLast (nextByte reply log)]) := by
  have asked : ∀ d : Recorder, d.Rests reply false log → reply d.asked = nextByte reply log := by
    intro d r
    rw [Recorder.asked, r.record, nextByte]
  refine .bind_known (cmdReady_still fun _ r => r.ready) (.bind ?_ fun _ => .pure fun _ l => ⟨rfl, l⟩)
  refine write_launches budget ?_ (fun _ r => r) (fun d held => ?_) (fun _ => rfl) (fun d r => ?_)
    fun d r => ?_
  · cases rdLast <;> rfl
  · rw [Device.legal, held]
    cases rdLast <;> rfl
  · rw [← asked d r]
    cases rdLast <;> rfl
  · rw [asked d r]
    exact fun _ e => (Option.some.inj e).symm

omit acks budget in
lemma rdDataValid_over : Triple (Over reply .rd log) (i2cRdDataValid (sl.recorded reply))
    fun valid d => valid = true ∧ d.Over reply .rd log := by
  refine .bind (status_still fun _ o => o.still) fun x => .pure fun d h => ⟨?_, h.2⟩
  obtain ⟨-, -, -, -, -, shown, -⟩ := status_bits d.device
  rw [and_mask x (by decide), h.1, shown]
  exact (h.2.rd rfl).2.1

omit acks budget in
/-- RXDATA holds the byte that was asked for. -/
lemma rxdata_over {rdLast : Bool} :
    Triple (Over reply .rd (log ++ [.rd rdLast (nextByte reply log)]))
      (i2cReadRxdata (sl.recorded reply)) fun x d => x = nextByte reply log ∧
        d.Rests reply false (log ++ [.rd rdLast (nextByte reply log)]) := by
  intro d o
  have size : d.asked = (log.filterMap Command.brought).length + 1 := by
    rw [Recorder.asked, o.rests.record, filterMap_snoc, List.length_append]
    rfl
  have held : d.rxdata = nextByte reply log := by
    rw [(o.rd rfl).2.2, size, Nat.add_sub_cancel, nextByte]
  refine ⟨?_, o.rests⟩
  exact (Axi.and_byte d.rxdata).trans held

lemma readPhaseByte_rests (rdLast : Bool) (index : BitVec 8) (buffer : Memory) :
    Triple (Rests reply false log)
      (i2cPrivReadPhaseByte (sl.recorded reply) rdLast (some index) buffer) fun result d =>
        ∃ byte, result = (true, Function.update buffer index byte) ∧
          d.Rests reply false (log ++ [.rd rdLast byte]) := by
  have wait : Triple (Launched sl reply .rd (log ++ [.rd rdLast (nextByte reply log)]))
      (i2cPrivWaitCmdCycle (sl.recorded reply)) fun done d =>
        done = true ∧ d.Over reply .rd (log ++ [.rd rdLast (nextByte reply log)]) :=
    launched_triple (waitCmdCycle_busy acks (.inr rfl))
  refine .bind_true (waitCmdReady_still fun _ r => r.ready) ?_
  refine .bind clear_rests fun _ => ?_
  refine .bind_false (cmdRd_launches budget rdLast) ?_
  refine .bind_true wait ?_
  refine .bind_true rdDataValid_over ?_
  refine .bind_known rxdata_over ?_
  exact .pure fun _ r => ⟨nextByte reply log, rfl, r⟩

lemma turn_rests : Triple (Rests reply false log) (i2cTurn (sl.recorded reply)) fun held d =>
    held = true ∧ d.Rests reply false (log ++ [.restart]) := by
  have cmd : Triple (Rests reply false log) (i2cCmdRestart (sl.recorded reply)) fun refused d =>
      refused = false ∧ d.Launched sl reply .restart (log ++ [.restart]) := by
    refine cmd_launches budget (fun _ r => r) rfl (fun d held => ?_) (fun _ => rfl) (fun _ _ => rfl)
      rfl
    rw [Device.legal, held]
    rfl
  have wait : Triple (Launched sl reply .restart (log ++ [.restart]))
      (i2cPrivWaitCmdReady (sl.recorded reply)) fun ready d =>
        ready = true ∧ d.Over reply .restart (log ++ [.restart]) :=
    launched_triple (waitCmdReady_busy acks)
  refine .bind_true (waitCmdReady_still fun _ r => r.ready) ?_
  refine .bind clear_rests fun _ => ?_
  refine .bind_false cmd ?_
  refine .bind_true wait ?_
  refine .bind_false (busIdle_still fun _ o => ⟨o.still, o.rests.idle⟩) ?_
  exact .pure fun _ o => ⟨rfl, o.rests⟩

lemma stop_rests : Triple (Rests reply false log) (i2cTxBufStop (sl.recorded reply)) fun code d =>
    code = I2C_TX_OK ∧ d.Rests reply true (log ++ [.stop]) := by
  have cmd : Triple (Rests reply false log) (i2cCmdStop (sl.recorded reply)) fun refused d =>
      refused = false ∧ d.Launched sl reply .stop (log ++ [.stop]) := by
    refine cmd_launches budget (fun _ r => r) rfl (fun d held => ?_) (fun _ => rfl) (fun _ _ => rfl)
      rfl
    rw [Device.legal, held]
    rfl
  have wait : Triple (Launched sl reply .stop (log ++ [.stop]))
      (i2cPrivWaitIdleReady (sl.recorded reply)) fun back d =>
        back = true ∧ d.Over reply .stop (log ++ [.stop]) :=
    launched_triple (waitIdleReady_busy acks)
  refine .bind_true (waitCmdReady_still fun _ r => r.ready) ?_
  refine .bind clear_rests fun _ => ?_
  refine .bind_false cmd ?_
  refine .bind_true wait ?_
  exact .pure fun _ o => ⟨rfl, o.rests⟩

/-- The opening issues START. -/
lemma opening_rests : Triple (Rests reply true log) (i2cOpening (sl.recorded reply)) fun opened d =>
    opened = true ∧ d.Rests reply false (log ++ [.start]) := by
  have cmd : Triple (Rests reply true log) (i2cCmdStart (sl.recorded reply)) fun refused d =>
      refused = false ∧ d.Launched sl reply .start (log ++ [.start]) := by
    refine cmd_launches budget (fun _ r => r) rfl (fun d idle => ?_) ?_ (fun _ _ => rfl) rfl
    · rw [Device.legal, idle]
      rfl
    · rintro (h | h) <;> cases h
  have wait : Triple (Launched sl reply .start (log ++ [.start]))
      (i2cPrivWaitCmdReady (sl.recorded reply)) fun ready d =>
        ready = true ∧ d.Over reply .start (log ++ [.start]) :=
    launched_triple (waitCmdReady_busy acks)
  refine .bind_true (waitCmdReady_still fun _ r => r.ready) ?_
  refine .bind clear_rests fun _ => ?_
  refine .bind_false cmd ?_
  refine .bind_true wait ?_
  refine .bind_false (busIdle_still fun _ o => ⟨o.still, o.rests.idle⟩) ?_
  exact .pure fun _ o => ⟨rfl, o.rests⟩

/-- To a slave that acknowledges, the recorder does as the driver tells it. -/
lemma obliging : Obliging (sl.recorded reply) (Rests reply false) (Rests reply true) where
  wr _ := writePhaseByte_rests acks budget
  rd _ := readPhaseByte_rests acks budget
  restart _ := turn_rests acks budget
  stop _ := stop_rests acks budget

end Functions

end Recorder

/-- The bytes of an address with its direction. -/
lemma addrWr_eq (slaveAddress : BitVec 7) :
    i2cPrivAddrWr (slaveAddress.setWidth 8) = slaveAddress.concat false := by
  revert slaveAddress
  decide

lemma addrRd_eq (slaveAddress : BitVec 7) :
    i2cPrivAddrRd (slaveAddress.setWidth 8) = slaveAddress.concat true := by
  revert slaveAddress
  decide

lemma reads_brought (bytes : List (BitVec 8)) : (reads bytes).filterMap Command.brought = bytes := by
  induction bytes with
  | nil => rfl
  | cons byte bytes ih =>
    rw [reads_cons, List.filterMap_cons, ih]
    rfl

lemma writes_brought (data : BitVec 8 → BitVec 8) (length : BitVec 8) :
    (writes data length).filterMap Command.brought = [] := by
  rw [List.filterMap_eq_nil_iff]
  intro c mem
  obtain ⟨i, -, rfl⟩ := List.mem_map.mp mem
  rfl

/-- The bytes brought are what the slave sent. -/
lemma Recorder.Rests.sent {reply : Nat → BitVec 8} {idle : Bool} {log : List Command} {d : Recorder}
    {bytes : List (BitVec 8)} (r : d.Rests reply idle log)
    (brought : log.filterMap Command.brought = bytes) :
    bytes = (List.range bytes.length).map reply := by
  have count : d.asked = bytes.length := by rw [Recorder.asked, r.record, brought]
  rw [← count, ← r.replied, brought]

/-- A pointer is refused only if it is null and there is something behind it to access. -/
lemma not_refused {α : Type} {pointer : Option α} {length : BitVec 8}
    (valid : pointer = none → length = 0) : ¬ (pointer.isNone && length != 0) = true := by
  cases pointer with
  | none => simp [valid rfl]
  | some _ => simp

section Transfers

variable {sl : Slave} {reply : Nat → BitVec 8} (acks : ∀ k, sl.nack k = false)
  (budget : ∀ k, sl.delay k + 1 < I2C_TIMEOUT_LOOPS) (slaveAddress : BitVec 7)
  {rxData : Option Memory} {rxLen : BitVec 8} (valid : rxData = none → rxLen = 0)
include acks budget valid

lemma txrxBuf_commands {txData : Option (BitVec 8 → BitVec 8)} {txLen : BitVec 8}
    (validTx : txData = none → txLen = 0) : Triple (Recorder.Rests reply true [])
    (i2cTxrxBuf (sl.recorded reply) (slaveAddress.setWidth 8) txData txLen rxData rxLen)
    fun result d =>
      result = (true, rxData.map fun buffer => buffer.received ((List.range rxLen.toNat).map reply)) ∧
        d.Rests reply true (.start :: .wr (slaveAddress.concat false) ::
          writes (txData.getD fun _ => 0) txLen ++
            (if rxLen = 0 then []
              else .restart :: .wr (slaveAddress.concat true) ::
                reads ((List.range rxLen.toNat).map reply)) ++ [.stop]) := by
  have ob : Obliging (sl.recorded reply) (Recorder.Rests reply false) (Recorder.Rests reply true) :=
    Recorder.obliging acks budget
  have data := ob.txrxData [.start]
    (slaveAddress.setWidth 8) (txData.getD fun _ => 0) txLen rxData rxLen
  refine .ite (fun no => absurd no (not_refused validTx)) fun _ =>
    .ite (fun no => absurd no (not_refused valid)) fun _ => ?_
  refine .bind_true (Recorder.opening_rests acks budget) (data.post fun result d h => ?_)
  obtain ⟨bytes, e, count, ended⟩ := h
  rw [addrWr_eq, addrRd_eq] at ended
  -- what was received is what the slave sent, as the record has it
  have brought : bytes = (List.range rxLen.toNat).map reply := by
    rw [← count]
    refine ended.sent ?_
    by_cases zero : rxLen = 0
    · have none_ : bytes = [] := List.eq_nil_of_length_eq_zero (by rw [count, zero]; rfl)
      rw [if_pos zero, none_, List.append_nil]
      simp only [List.filterMap_append, List.filterMap_cons, List.filterMap_nil, writes_brought,
        Command.brought, List.append_nil]
    · rw [if_neg zero]
      simp only [List.filterMap_append, List.filterMap_cons, List.filterMap_nil, writes_brought,
        reads_brought, Command.brought, List.append_nil, List.nil_append]
  rw [brought] at e ended
  exact ⟨e, ended⟩

lemma rxPkg_commands : Triple (Recorder.Rests reply true [])
    (i2cRxPkg (sl.recorded reply) (slaveAddress.setWidth 8) rxData rxLen) fun result d =>
      result = (true, rxData.map fun buffer => buffer.received ((List.range rxLen.toNat).map reply)) ∧
        d.Rests reply true (if rxLen = 0 then []
          else .start :: .wr (slaveAddress.concat true) ::
            reads ((List.range rxLen.toNat).map reply) ++ [.stop]) := by
  by_cases zero : rxLen = 0
  · subst zero
    cases rxData <;> exact .pure fun _ r => ⟨rfl, r⟩
  · cases rxData with
    | none => exact absurd (valid rfl) zero
    | some buffer =>
      have ob : Obliging (sl.recorded reply) (Recorder.Rests reply false)
          (Recorder.Rests reply true) := Recorder.obliging acks budget
      have receive := ob.receive [.start]
        (slaveAddress.setWidth 8) buffer rxLen
      refine .ite (fun no => absurd (beq_iff_eq.mp no) zero) fun _ => ?_
      refine .bind_true (Recorder.opening_rests acks budget) ?_
      refine .bind_form receive fun bytes => .pure fun d h => ?_
      obtain ⟨count, ended⟩ := h
      rw [addrRd_eq] at ended
      have brought : bytes = (List.range rxLen.toNat).map reply := by
        rw [← count]
        refine ended.sent ?_
        simp only [List.filterMap_append, List.filterMap_cons, List.filterMap_nil, reads_brought,
          Command.brought, List.append_nil, List.nil_append]
      rw [brought] at ended ⊢
      rw [if_neg zero]
      exact ⟨rfl, ended⟩

end Transfers

/-- For every address, buffers and lengths, whatever the slave sends and whatever time the commands
    take within the driver's patience: on an idle core and with every byte ACKed `i2c_txrx_buf` and
    `i2c_rx_pkg` issue the commands of their transfer and no others, store the bytes that the slave
    sends in the order of the buffer and nothing else, return true and leave the core idle. -/
theorem driver_commands (sl : Slave) (reply : Nat → BitVec 8) (acks : ∀ k, sl.nack k = false)
    (budget : ∀ k, sl.delay k + 1 < I2C_TIMEOUT_LOOPS) (device : Device)
    (ready : device.running = none) (idle : device.idle = true) (rxdata : BitVec 8)
    (slaveAddress : BitVec 7) (rxData : Option Memory) (rxLen : BitVec 8)
    (valid : rxData = none → rxLen = 0) :
    let sent := (List.range rxLen.toNat).map reply
    let stored := rxData.map fun buffer => buffer.received sent
    (∀ (txData : Option (BitVec 8 → BitVec 8)) (txLen : BitVec 8), (txData = none → txLen = 0) →
      let after := (i2cTxrxBuf (sl.recorded reply) (slaveAddress.setWidth 8) txData txLen rxData
        rxLen).run ⟨device, rxdata, []⟩
      after.1 = (true, stored) ∧ after.2.log =
        .start :: .wr (slaveAddress.concat false) :: writes (txData.getD fun _ => 0) txLen ++
          (if rxLen = 0 then [] else .restart :: .wr (slaveAddress.concat true) :: reads sent) ++
            [.stop] ∧ after.2.device.running = none ∧ after.2.device.idle = true) ∧
    let after := (i2cRxPkg (sl.recorded reply) (slaveAddress.setWidth 8) rxData rxLen).run
      ⟨device, rxdata, []⟩
    after.1 = (true, stored) ∧ after.2.log =
      (if rxLen = 0 then []
        else .start :: .wr (slaveAddress.concat true) :: reads sent ++ [.stop]) ∧
        after.2.device.running = none ∧ after.2.device.idle = true := by
  have start : Recorder.Rests reply true [] ⟨device, rxdata, []⟩ := ⟨ready, idle, rfl, rfl⟩
  refine ⟨fun txData txLen validTx => ?_, ?_⟩
  · obtain ⟨result, rests⟩ := txrxBuf_commands acks budget slaveAddress valid validTx _ start
    exact ⟨result, rests.record, rests.ready, rests.idle⟩
  · obtain ⟨result, rests⟩ := rxPkg_commands acks budget slaveAddress valid _ start
    exact ⟨result, rests.record, rests.ready, rests.idle⟩

/-- A register read: two bytes are written, and three read back. -/
theorem driver_commands_register :
    let sl : Slave := { nack := fun _ => false, delay := fun _ => 40 }
    let sends : Nat → BitVec 8 := fun k => BitVec.ofNat 8 (7 + k)
    ((i2cTxrxBuf (sl.recorded sends) ((0x50#7).setWidth 8) (some fun i => i) 2 (some fun _ => 0) 3).run
      ⟨.fresh, 0, []⟩).2.log =
        [.start, .wr 0xA0, .wr 0, .wr 1, .restart, .wr 0xA1, .rd false 7, .rd false 8, .rd true 9,
          .stop] := by
  intro sl sends
  have budget : ∀ k, sl.delay k + 1 < I2C_TIMEOUT_LOOPS :=
    fun _ => (by decide : 40 + 1 < I2C_TIMEOUT_LOOPS)
  have commands := driver_commands sl sends (fun _ => rfl) budget .fresh rfl rfl 0 0x50
    (some fun _ => 0) 3 (fun none => by cases none)
  exact (commands.1 (some fun i => i) 2 (fun none => by cases none)).2.1

end ModularControl.I2c
