import ModularControl.I2c.Driver
import ModularControl.I2c.Regs

/-!
# The I2C core as its driver sees it

A command-level model of the core and its registers: a command launched from the right place takes
some time, which passes with the reads of the status, and then completes; the slave answers each byte
with its ACK or NACK. There are no faults.
-/

namespace ModularControl.I2c
open Axi

/-- What the commands lead to: whether the slave NACKs the `k`-th byte of a transaction, the address
    being the first, and how many reads of the status pass before the `k`-th command completes. -/
structure Slave where
  nack : Nat → Bool
  delay : Nat → Nat

/-- What the core can be doing. -/
inductive Op where
  | start
  | wr
  | rd
  | stop
  | restart
  | abort

structure Device where
  /-- The operation under way, and how many reads of the status it still takes. -/
  running : Option (Op × Nat)
  /-- The bus is idle, not held. -/
  idle : Bool
  txdata : BitVec 8
  done : Bool
  ackValid : Bool
  ack : Bool
  rdDataValid : Bool
  cmdIllegal : Bool
  /-- How many operations have been launched. -/
  launched : Nat
  /-- The bytes written since the last START. -/
  sent : List (BitVec 8)

namespace Device

variable (sl : Slave) (d : Device)

def status : BitVec 32 :=
  bitAt STATUS_CMD_READY d.running.isNone ||| bitAt STATUS_BUS_IDLE (d.running.isNone && d.idle) |||
    bitAt STATUS_DONE d.done ||| bitAt STATUS_ACK_VALID d.ackValid ||| bitAt STATUS_ACK d.ack |||
    bitAt STATUS_RD_DATA_VALID d.rdDataValid ||| bitAt STATUS_CMD_ILLEGAL d.cmdIllegal

/-- The end of an operation. -/
def complete : Op → Device
  | .start => { d with running := none, idle := false, sent := [] }
  | .restart => { d with running := none, idle := false }
  | .wr =>
    { d with running := none, done := true, ackValid := true, ack := sl.nack d.sent.length,
             sent := d.sent ++ [d.txdata] }
  | .rd => { d with running := none, done := true, rdDataValid := true }
  | .stop | .abort => { d with running := none, idle := true }

/-- Time passes. -/
def tick : Device :=
  match d.running with
  | none => d
  | some (op, 0) => d.complete sl op
  | some (op, n + 1) => { d with running := some (op, n) }

def clear : Device :=
  { d with done := false, ackValid := false, ack := false, rdDataValid := false,
           cmdIllegal := false }

/-- The commands the core takes where it is. -/
def legal (cmd : BitVec 3) : Option Op :=
  if d.idle then if cmd = START_CMD then some .start else none
  else if cmd = WR_CMD then some .wr
  else if cmd = RD_CMD then some .rd
  else if cmd = STOP_CMD then some .stop
  else if cmd = RESTART_CMD then some .restart
  else none

def launch (op : Op) : Device :=
  { d with running := some (op, sl.delay d.launched), launched := d.launched + 1 }

/-- An abort is taken at any time off the idle bus, a command when the core is ready. -/
def writeCmd (v : BitVec 32) : Device :=
  if v.getLsbD CMD_ABORT_BIT then
    if d.running.isNone && d.idle then d else d.launch sl .abort
  else if d.running.isSome then d
  else
    match d.legal (v.setWidth 3) with
    | some op => d.clear.launch sl op
    | none => { d.clear with cmdIllegal := true }

/-- The sticky bits are cleared by writing ones, the two of the acknowledge together. -/
def writeStatus (v : BitVec 32) : Device :=
  let ackClear := v.getLsbD STATUS_ACK_VALID || v.getLsbD STATUS_ACK
  { d with done := d.done && !v.getLsbD STATUS_DONE
           ackValid := d.ackValid && !ackClear
           ack := d.ack && !ackClear
           rdDataValid := d.rdDataValid && !v.getLsbD STATUS_RD_DATA_VALID
           cmdIllegal := d.cmdIllegal && !v.getLsbD STATUS_CMD_ILLEGAL }

def writeTxdata (v : BitVec 32) : Device := { d with txdata := v.setWidth 8 }

end Device

/-- The registers of the device that the driver reads and writes. -/
def Slave.mmio (sl : Slave) : Mmio Device where
  read32 offset d := if offset = I2C_REG_STATUS_OFFSET then (d.status, d.tick sl) else (0, d)
  write32 offset v d :=
    ((), if offset = I2C_REG_STATUS_OFFSET then d.writeStatus v
      else if offset = I2C_REG_TXDATA_OFFSET then d.writeTxdata v
      else if offset = I2C_REG_CMD_OFFSET then d.writeCmd sl v
      else d)

/-- A step of the driver whose result is known. -/
lemma bind_run {σ α β : Type} {x : StateM σ α} {f : α → StateM σ β} {s s' : σ} {a : α}
    (h : x.run s = (a, s')) : (x >>= f).run s = (f a).run s' := by
  rw [StateT.run_bind, h]
  rfl

/-- A test against a mask reads the bit. -/
lemma and_mask (x : BitVec 32) {k : Nat} (lt : k < 32) : (x &&& mask k != 0) = x.getLsbD k :=
  and_shift x lt

namespace Device

variable {sl : Slave} {d : Device} {op : Op}

lemma getLsbD_status {k : Nat} (lt : k < 32) : d.status.getLsbD k =
    (d.running.isNone && 0 == k || d.running.isNone && d.idle && 1 == k || d.done && 2 == k ||
      d.ackValid && 3 == k || d.ack && 4 == k || d.rdDataValid && 5 == k ||
      d.cmdIllegal && 6 == k) := by
  simp only [status, BitVec.getLsbD_or, getLsbD_bitAt _ _ lt]
  rfl

lemma cmdReady_run : (i2cStatusCmdReady sl.mmio).run d = (d.running.isNone, d.tick sl) := by
  have bit : (d.status &&& mask I2C_STATUS_CMD_READY_BIT != 0) = d.running.isNone := by
    rw [and_mask _ (by decide), getLsbD_status (by decide)]
    simp [I2C_STATUS_CMD_READY_BIT]
  rw [← bit]
  rfl

lemma busIdle_run :
    (i2cBusIdle sl.mmio).run d = (d.running.isNone && d.idle, d.tick sl) := by
  have bit : (d.status &&& mask I2C_STATUS_BUS_IDLE_BIT != 0) = (d.running.isNone && d.idle) := by
    rw [and_mask _ (by decide), getLsbD_status (by decide)]
    simp [I2C_STATUS_BUS_IDLE_BIT]
  rw [← bit]
  rfl

lemma clear_run : (i2cPrivClearStatusSticky sl.mmio).run d = ((), d.clear) := by
  have ones : ∀ v : BitVec 32, v.getLsbD STATUS_DONE = true → v.getLsbD STATUS_ACK_VALID = true →
      v.getLsbD STATUS_RD_DATA_VALID = true → v.getLsbD STATUS_CMD_ILLEGAL = true →
      d.writeStatus v = d.clear := by
    intro v done ack rd illegal
    rw [writeStatus, done, ack, rd, illegal]
    simp [clear]
  exact congrArg (Prod.mk ()) (ones _ rfl rfl rfl rfl)

lemma cmd_run (c : BitVec 8) (ready : d.running = none) : (i2cCmd sl.mmio c).run d =
    (false, d.writeCmd sl (i2cPackCmd c false false)) := by
  have now : d.tick sl = d := by rw [tick, ready]
  rw [i2cCmd, bind_run cmdReady_run, ready, now]
  rfl

/-- A command that is legal where the core is gets launched. -/
lemma writeCmd_legal {v : BitVec 32} (noAbort : v.getLsbD CMD_ABORT_BIT = false)
    (ready : d.running = none) (legal : d.legal (v.setWidth 3) = some op) :
    d.writeCmd sl v = d.clear.launch sl op := by
  rw [writeCmd, noAbort, ready, legal]
  rfl

lemma start_run (ready : d.running = none) (idle : d.idle = true) :
    (i2cCmdStart sl.mmio).run d = (false, d.clear.launch sl .start) := by
  rw [i2cCmdStart, cmd_run _ ready, writeCmd_legal rfl ready]
  rw [legal, idle]
  rfl

lemma wr_run (ready : d.running = none) (held : d.idle = false) :
    (i2cCmdWr sl.mmio).run d = (false, d.clear.launch sl .wr) := by
  rw [i2cCmdWr, cmd_run _ ready, writeCmd_legal rfl ready]
  rw [legal, held]
  rfl

lemma stop_run (ready : d.running = none) (held : d.idle = false) :
    (i2cCmdStop sl.mmio).run d = (false, d.clear.launch sl .stop) := by
  rw [i2cCmdStop, cmd_run _ ready, writeCmd_legal rfl ready]
  rw [legal, held]
  rfl

/-- A polling loop that gets an answer at once. -/
lemma pollUntil_now {probe : StateM Device (Option Bool)} {answer : Bool}
    (answers : probe.run d = (some answer, d)) (fuel : Nat) :
    (pollUntil probe (fuel + 1)).run d = (answer, d) := by
  rw [pollUntil, bind_run answers]
  rfl

/-- A polling loop outlasts the operation under way. -/
lemma pollUntil_run {probe : StateM Device (Option Bool)} {answer : Bool}
    (busy : ∀ n, probe.run { d with running := some (op, n) } =
      (none, Device.tick sl { d with running := some (op, n) }))
    (answers : probe.run (d.complete sl op) = (some answer, d.complete sl op)) {n fuel : Nat}
    (lt : n + 1 < fuel) :
    (pollUntil probe fuel).run { d with running := some (op, n) } =
      (answer, d.complete sl op) := by
  induction n generalizing fuel with
  | zero =>
    obtain ⟨fuel, rfl⟩ : ∃ f, fuel = f + 2 := ⟨fuel - 2, by omega⟩
    have last : Device.tick sl { d with running := some (op, 0) } = d.complete sl op := by
      cases op <;> rfl
    rw [pollUntil, bind_run (busy 0), last]
    exact pollUntil_now answers fuel
  | succ n ih =>
    obtain ⟨fuel, rfl⟩ : ∃ f, fuel = f + 1 := ⟨fuel - 1, by omega⟩
    rw [pollUntil, bind_run (busy _)]
    exact ih (by omega)

lemma complete_running : (d.complete sl op).running = none := by
  cases op <;> rfl

lemma tick_ready (ready : d.running = none) : d.tick sl = d := by
  rw [tick, ready]

lemma waitCmdReady_run (ready : d.running = none) :
    (i2cPrivWaitCmdReady sl.mmio).run d = (true, d) := by
  refine pollUntil_now ?_ 199999
  rw [bind_run cmdReady_run, tick_ready ready, ready]
  rfl

/-- The driver waits for the end of an operation. -/
lemma waitCmdReady_busy {n : Nat} (lt : n + 1 < I2C_TIMEOUT_LOOPS) :
    (i2cPrivWaitCmdReady sl.mmio).run { d with running := some (op, n) } =
      (true, d.complete sl op) := by
  refine pollUntil_run (fun n => ?_) ?_ lt
  · rw [bind_run cmdReady_run]
    rfl
  · rw [bind_run cmdReady_run, tick_ready complete_running, complete_running]
    rfl

lemma waitIdleReady_busy {n : Nat} (lt : n + 1 < I2C_TIMEOUT_LOOPS)
    (idle : (d.complete sl op).idle = true) :
    (i2cPrivWaitIdleReady sl.mmio).run { d with running := some (op, n) } =
      (true, d.complete sl op) := by
  refine pollUntil_run (fun n => ?_) ?_ lt
  · rw [bind_run cmdReady_run]
    rfl
  · rw [bind_run cmdReady_run, tick_ready complete_running, complete_running, Option.isNone_none,
      if_pos rfl, bind_run busIdle_run, tick_ready complete_running, complete_running, idle]
    rfl

/-- An abort off the idle bus writes nothing. -/
lemma abortToIdle_run (held : d.running = none ∧ d.idle = false)
    (budget : ∀ k, sl.delay k + 1 < I2C_TIMEOUT_LOOPS) :
    ∃ d', (i2cPrivAbortToIdle sl.mmio).run d = ((), d') ∧ d'.sent = d.sent := by
  have abort : (i2cCmdAbort sl.mmio).run d = (false, d.launch sl .abort) := by
    have written : d.writeCmd sl (i2cPackCmd I2C_CMD_START true false) = d.launch sl .abort := by
      have bit : (i2cPackCmd I2C_CMD_START true false).getLsbD CMD_ABORT_BIT = true := rfl
      rw [writeCmd, bit, if_pos rfl, held.1, held.2]
      rfl
    rw [← written]
    rfl
  have wait : (pollUntil (do
      if ← i2cBusIdle sl.mmio then
        if ← i2cStatusCmdReady sl.mmio then return some true else return none
      else return none) I2C_TIMEOUT_LOOPS).run (d.launch sl .abort) =
        (true, Device.complete sl { d with launched := d.launched + 1 } .abort) := by
    refine pollUntil_run (d := { d with launched := d.launched + 1 }) (fun n => ?_) ?_
      (budget d.launched)
    · rw [bind_run busIdle_run]
      rfl
    · rw [bind_run busIdle_run, tick_ready complete_running, complete_running]
      exact (bind_run cmdReady_run).trans rfl
  rw [i2cPrivAbortToIdle, bind_run abort, bind_run wait]
  exact ⟨_, rfl, rfl⟩

lemma waitCmdCycle_busy {n : Nat} (lt : n + 1 < I2C_TIMEOUT_LOOPS)
    (fresh : d.done = false ∧ d.cmdIllegal = false) :
    (i2cPrivWaitCmdCycle sl.mmio).run { d with running := some (.wr, n) } =
      (true, d.complete sl .wr) := by
  have read : ∀ d : Device, (i2cGetStatus sl.mmio).run d = (d.status, d.tick sl) := fun _ => rfl
  have illegal : ∀ d : Device,
      (d.status &&& mask I2C_STATUS_CMD_ILLEGAL_BIT != 0) = d.cmdIllegal := by
    intro d
    rw [and_mask _ (by decide), getLsbD_status (by decide)]
    simp [I2C_STATUS_CMD_ILLEGAL_BIT]
  have done : ∀ d : Device, (d.status &&& mask I2C_STATUS_DONE_BIT != 0) = d.done := by
    intro d
    rw [and_mask _ (by decide), getLsbD_status (by decide)]
    simp [I2C_STATUS_DONE_BIT]
  refine pollUntil_run (fun n => ?_) ?_ lt
  · rw [bind_run (read _), illegal, done, fresh.1, fresh.2]
    rfl
  · rw [bind_run (read _), illegal, done, tick_ready complete_running]
    simp only [complete, fresh.2]
    rfl

/-- The device after a byte has been written. -/
def written (sl : Slave) (d : Device) (data : BitVec 8) : Device :=
  { d with running := none, txdata := data, done := true, ackValid := true,
           ack := sl.nack d.sent.length, rdDataValid := false, cmdIllegal := false,
           launched := d.launched + 1, sent := d.sent ++ [data] }

/-- `i2c_ack` packs the two bits it reads. -/
lemma ack_packs (x : BitVec 32) :
    let info := ((x >>> I2C_STATUS_ACK_VALID_BIT) &&& 1).setWidth 8 <<< 1 |||
      ((x >>> I2C_STATUS_ACK_BIT) &&& 1).setWidth 8
    (info &&& 0x2#8 == 0) = !x.getLsbD I2C_STATUS_ACK_VALID_BIT ∧
      (info &&& 0x1#8 != 0) = x.getLsbD I2C_STATUS_ACK_BIT := by
  have bit : ∀ k, (x >>> k) &&& 1#32 = (BitVec.ofBool (x.getLsbD k)).setWidth 32 := by
    intro k
    rw [BitVec.and_one_eq_setWidth_ofBool_getLsbD, BitVec.getLsbD_ushiftRight, Nat.add_zero]
  have cases_ : ∀ valid level : Bool,
      let info := ((BitVec.ofBool valid).setWidth 32).setWidth 8 <<< 1 |||
        ((BitVec.ofBool level).setWidth 32).setWidth 8
      (info &&& 0x2#8 == 0) = !valid ∧ (info &&& 0x1#8 != 0) = level := by
    decide
  simp only [show (1 : BitVec 32) = 1#32 from rfl, bit]
  exact cases_ _ _

lemma ack_run (sl : Slave) (ready : d.running = none) (valid : d.ackValid = true) :
    ∃ info : BitVec 8, (i2cAck sl.mmio).run d = (info, d) ∧ (info &&& 0x2 == 0) = false ∧
      (info &&& 0x1 != 0) = d.ack := by
  have read : (i2cGetStatus sl.mmio).run d = (d.status, d) := by
    rw [show (i2cGetStatus sl.mmio).run d = (d.status, d.tick sl) from rfl, tick_ready ready]
  obtain ⟨valid_bit, ack_bit⟩ := ack_packs d.status
  refine ⟨_, bind_run read, ?_, ?_⟩
  · refine valid_bit.trans ?_
    rw [getLsbD_status (by decide), valid]
    simp [I2C_STATUS_ACK_VALID_BIT]
  · refine ack_bit.trans ?_
    rw [getLsbD_status (by decide)]
    simp [I2C_STATUS_ACK_BIT]

lemma writePhaseByte_run (held : d.running = none ∧ d.idle = false)
    (budget : ∀ k, sl.delay k + 1 < I2C_TIMEOUT_LOOPS) (data nackCode : BitVec 8) :
    (i2cPrivWritePhaseByte sl.mmio data nackCode).run d =
      (if sl.nack d.sent.length then nackCode else I2C_TX_OK, d.written sl data) := by
  obtain ⟨ready, held⟩ := held
  have tx : (i2cWriteTxdata sl.mmio data).run d.clear =
      ((), d.clear.writeTxdata (data.setWidth 32)) := rfl
  have wr : (i2cCmdWr sl.mmio).run (d.clear.writeTxdata (data.setWidth 32)) =
      (false, (d.clear.writeTxdata (data.setWidth 32)).clear.launch sl .wr) := wr_run ready held
  have narrow : (data.setWidth 32).setWidth 8 = data := by simp
  have cycle : (i2cPrivWaitCmdCycle sl.mmio).run
      ((d.clear.writeTxdata (data.setWidth 32)).clear.launch sl .wr) =
        (true, d.written sl data) := by
    rw [writeTxdata, narrow]
    exact waitCmdCycle_busy (d := { d.clear with txdata := data, launched := d.launched + 1 })
      (budget d.launched) ⟨rfl, rfl⟩
  have same : (d.written sl data).running = none := rfl
  obtain ⟨info, ack, valid, level⟩ := ack_run sl same rfl
  rw [i2cPrivWritePhaseByte, bind_run (waitCmdReady_run ready), Bool.not_true,
    if_neg Bool.false_ne_true, bind_run clear_run, bind_run tx, bind_run wr,
    if_neg Bool.false_ne_true, bind_run cycle, Bool.not_true, if_neg Bool.false_ne_true,
    bind_run ack, valid, if_neg Bool.false_ne_true, level, written]
  split_ifs <;> rfl

end Device

end ModularControl.I2c
