import ModularControl.I2c.Device
import ModularControl.Sync.Hoare

/-!
# The ways the I2C driver returns

What a transfer keeps once its START is out, and where it leaves the bus: whichever command fails,
the driver aborts before it returns. Both are proved for any registers behind `mmio_read32` and
`mmio_write32`, from what these do to a single access.
-/

namespace ModularControl.I2c
open Sync

/-- A call of one of the transfers that take a buffer. -/
inductive Call where
  | txBuf (slaveAddress : BitVec 8) (data : Option (BitVec 8 → BitVec 8)) (length : BitVec 8)
  | rxPkg (slaveAddress : BitVec 8) (buffer : Option Memory) (length : BitVec 8)
  | txrxBuf (slaveAddress : BitVec 8) (txData : Option (BitVec 8 → BitVec 8)) (txLen : BitVec 8)
      (rxData : Option Memory) (rxLen : BitVec 8)

variable {σ : Type} (m : Mmio σ)

/-- Whether the call returns its OK code. -/
def Call.run : Call → StateM σ Bool
  | txBuf slaveAddress data length => do
    return (← i2cTxBuf m slaveAddress data length) == I2C_TX_OK
  | rxPkg slaveAddress buffer length => do
    return (← i2cRxPkg m slaveAddress buffer length).1
  | txrxBuf slaveAddress txData txLen rxData rxLen => do
    return (← i2cTxrxBuf m slaveAddress txData txLen rxData rxLen).1

/-- The arguments are such that the call does not return before its START. -/
def Call.opens : Call → Bool
  | txBuf _ data length => data.isSome || length == 0
  | rxPkg _ buffer length => buffer.isSome && length != 0
  | txrxBuf _ txData txLen rxData rxLen =>
    (txData.isSome || txLen == 0) && (rxData.isSome || rxLen == 0)

/-- A transfer after its opening. -/
def Call.rest : Call → StateM σ Bool
  | txBuf slaveAddress data length => do
    return (← i2cTxBufSend m slaveAddress (data.getD fun _ => 0) length) == I2C_TX_OK
  | rxPkg slaveAddress buffer length => do
    return (← i2cReceive m slaveAddress (buffer.getD fun _ => 0) length).1
  | txrxBuf slaveAddress txData txLen rxData rxLen => do
    return (← i2cTxrxData m slaveAddress (txData.getD fun _ => 0) txLen rxData rxLen).1

/-- A transfer that is not refused for its arguments opens and goes on. -/
lemma Call.run_of_opens {call : Call} (opens : call.opens = true) :
    call.run m = i2cOpening m >>= fun opened => if opened then call.rest m else pure false := by
  cases call with
  | txBuf slaveAddress data length =>
    have taken : (data.isNone && length != 0) = false := by
      cases data <;> simp [Call.opens] at opens ⊢; exact opens
    rw [run, i2cTxBuf_eq, taken, if_neg Bool.false_ne_true, bind_assoc]
    refine bind_congr fun opened => ?_
    cases opened <;> rfl
  | rxPkg slaveAddress buffer length =>
    cases buffer with
    | none => cases opens
    | some buffer =>
      have some_ : (length == 0) = false := by simpa [Call.opens] using opens
      simp only [run, i2cRxPkg, some_, Bool.false_eq_true, if_false, bind_assoc]
      refine bind_congr fun opened => ?_
      cases opened with
      | false => rfl
      | true => simp only [Bool.not_true, Bool.false_eq_true, if_false, bind_assoc]; rfl
  | txrxBuf slaveAddress txData txLen rxData rxLen =>
    have taken : (txData.isNone && txLen != 0) = false ∧ (rxData.isNone && rxLen != 0) = false := by
      cases txData <;> cases rxData <;> simp [Call.opens] at opens <;> simp [opens]
    simp only [run, i2cTxrxBuf, taken, Bool.false_eq_true, if_false, bind_assoc]
    refine bind_congr fun opened => ?_
    cases opened <;> rfl

/-- A transfer that is refused for its arguments, or has nothing to receive, accesses nothing. -/
lemma Call.run_of_not_opens {call : Call} (closed : call.opens = false) :
    ∃ ok, call.run m = pure ok := by
  cases call with
  | txBuf slaveAddress data length =>
    have refused : (data.isNone && length != 0) = true := by
      cases data <;> simp [Call.opens] at closed
      simp [closed]
    rw [run, i2cTxBuf_eq, refused, if_pos rfl]
    exact ⟨_, rfl⟩
  | rxPkg slaveAddress buffer length =>
    cases buffer with
    | none => exact ⟨_, rfl⟩
    | some buffer =>
      have empty : (length == 0) = true := by simpa [Call.opens] using closed
      rw [run, i2cRxPkg, empty, if_pos rfl]
      exact ⟨_, rfl⟩
  | txrxBuf slaveAddress txData txLen rxData rxLen =>
    cases no : txData.isNone && txLen != 0 with
    | true =>
      rw [run, i2cTxrxBuf, no, if_pos rfl]
      exact ⟨_, rfl⟩
    | false =>
      have sent : (txData.isSome || txLen == 0) = true := by cases txData <;> simp at no ⊢; exact no
      have refused : (rxData.isNone && rxLen != 0) = true := by
        rw [Call.opens, sent, Bool.true_and] at closed
        cases rxData <;> simp at closed ⊢; exact closed
      rw [run, i2cTxrxBuf, no, if_neg Bool.false_ne_true, refused, if_pos rfl]
      exact ⟨_, rfl⟩

/-! ### Polling -/

section Polling

variable {m} {P : σ → Prop} {Q : Bool → σ → Prop} {probe : StateM σ (Option Bool)}

/-- A polling loop with a bound on the turns it takes: each turn that does not answer has one less to
    go. -/
lemma pollUntil_counted {P : Nat → σ → Prop}
    (turn : ∀ n, Triple (P (n + 1)) probe fun answer s =>
      match answer with
      | some b => Q b s
      | none => P n s)
    (out : ∀ s, P 0 s → Q false s) (n : Nat) : Triple (P n) (pollUntil probe n) Q := by
  induction n with
  | zero => exact .pure out
  | succ n ih =>
    refine .bind (turn n) fun answer => ?_
    cases answer with
    | none => exact ih
    | some b => exact .pure fun _ q => q

/-- A polling loop whose first probe answers. -/
lemma pollUntil_answers (answers : Triple P probe fun answer s => ∃ b, answer = some b ∧ Q b s)
    (n : Nat) : Triple P (pollUntil probe (n + 1)) Q := by
  refine .bind answers fun answer => ?_
  cases answer with
  | none =>
    rintro s ⟨b, e, -⟩
    cases e
  | some answer =>
    refine .pure ?_
    rintro s ⟨b, e, q⟩
    exact Option.some.inj e ▸ q

/-- A polling loop outlasts what takes less turns than it: `B k` with `k` turns to go before the
    last. -/
lemma pollUntil_outlasts {B : Nat → σ → Prop} {Over : σ → Prop} {result : Bool}
    (busy : ∀ k, Triple (B (k + 1)) probe fun answer s => answer = none ∧ B k s)
    (last : Triple (B 0) probe fun answer s => answer = none ∧ Over s)
    (answers : Triple Over probe fun answer s => answer = some result ∧ Over s) {k n : Nat}
    (lt : k + 1 < n) :
    Triple (B k) (pollUntil probe n) fun answer s => answer = result ∧ Over s := by
  induction k generalizing n with
  | zero =>
    obtain ⟨n, rfl⟩ : ∃ j, n = j + 2 := ⟨n - 2, by omega⟩
    refine .bind_known last (pollUntil_answers (answers.post fun answer s h => ?_) n)
    exact ⟨result, h.1, rfl, h.2⟩
  | succ k ih =>
    obtain ⟨n, rfl⟩ : ∃ j, n = j + 1 := ⟨n - 1, by omega⟩
    exact .bind_known (busy k) (ih (by omega))

/-- What a read of the status tells of a bit. -/
lemma cmdReady_triple {Q : Bool → σ → Prop}
    (status : Triple P (i2cGetStatus m) fun x => Q (x.getLsbD I2C_STATUS_CMD_READY_BIT)) :
    Triple P (i2cStatusCmdReady m) Q := by
  refine .bind status fun x => .pure fun s h => ?_
  rw [and_mask x (by decide)]
  exact h

lemma busIdle_triple {Q : Bool → σ → Prop}
    (status : Triple P (i2cGetStatus m) fun x => Q (x.getLsbD I2C_STATUS_BUS_IDLE_BIT)) :
    Triple P (i2cBusIdle m) Q := by
  refine .bind status fun x => .pure fun s h => ?_
  rw [and_mask x (by decide)]
  exact h

end Polling

/-! ### What a transfer keeps -/

/-- A write that does not launch a START. -/
def Harmless (offset value : BitVec 32) : Prop :=
  offset.setWidth 12 = REG_CMD → value.setWidth 3 ≠ START_CMD ∨ value.getLsbD CMD_ABORT_BIT = true

variable {m} {P : σ → Prop}

/-- A polling loop keeps what its probe keeps. -/
lemma keeps_pollUntil {probe : StateM σ (Option Bool)} (keeps : Keeps P probe) (n : Nat) :
    Keeps P (pollUntil probe n) := by
  induction n with
  | zero => exact .pure
  | succ n ih =>
    refine .bind keeps fun answer => ?_
    cases answer with
    | none => exact ih
    | some answer => exact .pure

section Keeps

variable (read : ∀ offset, Keeps P (m.read32 offset))
  (write : ∀ offset value, Harmless offset value → Keeps P (m.write32 offset value))
include read

lemma keeps_cmdReady : Keeps P (i2cStatusCmdReady m) := .bind (read _) fun _ => .pure

lemma keeps_busIdle : Keeps P (i2cBusIdle m) := .bind (read _) fun _ => .pure

lemma keeps_waitCmdReady : Keeps P (i2cPrivWaitCmdReady m) :=
  keeps_pollUntil (.bind (keeps_cmdReady read) fun _ => .ite .pure .pure) _

lemma keeps_waitIdleReady : Keeps P (i2cPrivWaitIdleReady m) := by
  refine keeps_pollUntil (.bind (keeps_cmdReady read) fun _ => .ite ?_ .pure) _
  exact .bind (keeps_busIdle read) fun _ => .ite .pure .pure

lemma keeps_waitCmdCycle : Keeps P (i2cPrivWaitCmdCycle m) :=
  keeps_pollUntil (.bind (read _) fun _ => .ite .pure (.ite .pure .pure)) _

include write

lemma keeps_abortToIdle : Keeps P (i2cPrivAbortToIdle m) := by
  refine .bind (.bind (write _ _ fun _ => .inr rfl) fun _ => .pure) fun _ => ?_
  refine .bind (keeps_pollUntil (.bind (keeps_busIdle read) fun _ => .ite ?_ .pure) _) fun _ => .pure
  exact .bind (keeps_cmdReady read) fun _ => .ite .pure .pure

/-- A command other than START. -/
lemma keeps_cmd {c : BitVec 8} (other : (i2cPackCmd c false false).setWidth 3 ≠ START_CMD) :
    Keeps P (i2cCmd m c) := by
  refine .bind (keeps_cmdReady read) fun _ => .ite .pure ?_
  exact .bind (write _ _ fun _ => .inl other) fun _ => .pure

lemma keeps_cmdRd (rdLast : Bool) : Keeps P (i2cCmdRd m rdLast) := by
  have other : (i2cPackCmd I2C_CMD_RD false rdLast).setWidth 3 ≠ START_CMD := by
    cases rdLast <;> decide
  refine .bind (keeps_cmdReady read) fun _ => .ite .pure ?_
  exact .bind (write _ _ fun _ => .inl other) fun _ => .pure

omit read in
lemma keeps_clear : Keeps P (i2cPrivClearStatusSticky m) :=
  write _ _ fun cmd => absurd cmd (by decide)

lemma keeps_writePhaseByte (data nackCode : BitVec 8) :
    Keeps P (i2cPrivWritePhaseByte m data nackCode) := by
  have txdata : Keeps P (i2cWriteTxdata m data) := write _ _ fun cmd => absurd cmd (by decide)
  have ack : Keeps P (i2cAck m) := .bind (read _) fun _ => .pure
  refine .bind (keeps_waitCmdReady read) fun _ => .ite .pure ?_
  refine .bind (keeps_clear write) fun _ => .bind txdata fun _ => ?_
  refine .bind (keeps_cmd read write (by decide)) fun _ => .ite .pure ?_
  refine .bind (keeps_waitCmdCycle read) fun _ => .ite .pure ?_
  exact .bind ack fun _ => .ite .pure (.ite .pure .pure)

lemma keeps_readPhaseByte (rdLast : Bool) (data : Option (BitVec 8)) (buffer : Memory) :
    Keeps P (i2cPrivReadPhaseByte m rdLast data buffer) := by
  cases data with
  | none => exact .pure
  | some index =>
    refine .bind (keeps_waitCmdReady read) fun _ => .ite .pure ?_
    refine .bind (keeps_clear write) fun _ => ?_
    refine .bind (keeps_cmdRd read write rdLast) fun _ => .ite .pure ?_
    refine .bind (keeps_waitCmdCycle read) fun _ => .ite .pure ?_
    refine .bind (.bind (read _) fun _ => .pure) fun _ => .ite .pure ?_
    exact .bind (.bind (read _) fun _ => .pure) fun _ => .pure

lemma keeps_txBufLoop (data : BitVec 8 → BitVec 8) (length : BitVec 8) (n : Nat)
    (index : BitVec 8) : Keeps P (i2cTxBufLoop m data length n index) := by
  induction n generalizing index with
  | zero => exact .pure
  | succ n ih =>
    refine .ite (.bind (keeps_writePhaseByte read write _ _) fun _ => .ite ?_ (ih _)) .pure
    exact .bind (keeps_abortToIdle read write) fun _ => .pure

lemma keeps_rxLoop (length : BitVec 8) (n : Nat) (index : BitVec 8) (buffer : Memory) :
    Keeps P (i2cRxLoop m length n index buffer) := by
  induction n generalizing index buffer with
  | zero => exact .pure
  | succ n ih =>
    refine .ite (.bind (keeps_readPhaseByte read write _ _ _) fun _ => .ite ?_ (ih _ _)) .pure
    exact .bind (keeps_abortToIdle read write) fun _ => .pure

lemma keeps_txBufStop : Keeps P (i2cTxBufStop m) := by
  have failed : Keeps P (do i2cPrivAbortToIdle m; return I2C_TX_ERR_CMD) :=
    .bind (keeps_abortToIdle read write) fun _ => .pure
  refine .bind (keeps_waitCmdReady read) fun _ => .ite failed ?_
  refine .bind (keeps_clear write) fun _ => ?_
  refine .bind (keeps_cmd read write (by decide)) fun _ => .ite failed ?_
  exact .bind (keeps_waitIdleReady read) fun _ => .ite failed .pure

lemma keeps_address (byte : BitVec 8) : Keeps P (i2cAddress m byte) := by
  refine .bind (keeps_writePhaseByte read write _ _) fun _ => .ite ?_ .pure
  exact .bind (keeps_abortToIdle read write) fun _ => .pure

lemma keeps_closing : Keeps P (i2cClosing m) :=
  .bind (keeps_txBufStop read write) fun _ => .pure

lemma keeps_receive (slaveAddress : BitVec 8) (buffer : Memory) (length : BitVec 8) :
    Keeps P (i2cReceive m slaveAddress buffer length) := by
  refine .bind (keeps_address read write _) fun _ => .ite .pure ?_
  refine .bind (keeps_rxLoop read write _ _ _ _) fun _ => .ite .pure ?_
  exact .bind (keeps_closing read write) fun _ => .pure

lemma keeps_turn : Keeps P (i2cTurn m) := by
  have failed : Keeps P (do i2cPrivAbortToIdle m; return false) :=
    .bind (keeps_abortToIdle read write) fun _ => .pure
  refine .bind (keeps_waitCmdReady read) fun _ => .ite failed ?_
  refine .bind (keeps_clear write) fun _ => ?_
  refine .bind (keeps_cmd read write (by decide)) fun _ => .ite failed ?_
  refine .bind (keeps_waitCmdReady read) fun _ => .ite failed ?_
  exact .bind (keeps_busIdle read) fun _ => .ite failed .pure

lemma keeps_txBufSend (slaveAddress : BitVec 8) (data : BitVec 8 → BitVec 8) (length : BitVec 8) :
    Keeps P (i2cTxBufSend m slaveAddress data length) := by
  refine .bind (keeps_writePhaseByte read write _ _) fun _ => .ite ?_ ?_
  · exact .bind (keeps_abortToIdle read write) fun _ => .pure
  refine .bind (keeps_txBufLoop read write _ _ _ _) fun status => ?_
  cases status with
  | none => exact keeps_txBufStop read write
  | some status => exact .pure

lemma keeps_txrxData (slaveAddress : BitVec 8) (txData : BitVec 8 → BitVec 8) (txLen : BitVec 8)
    (rxData : Option Memory) (rxLen : BitVec 8) :
    Keeps P (i2cTxrxData m slaveAddress txData txLen rxData rxLen) := by
  refine .bind (keeps_address read write _) fun _ => .ite .pure ?_
  refine .bind (keeps_txBufLoop read write _ _ _ _) fun status => ?_
  cases status with
  | some status => exact .pure
  | none =>
    refine .ite (.bind (keeps_turn read write) fun _ => .ite .pure ?_) ?_
    · exact .bind (keeps_receive read write _ _ _) fun _ => .pure
    · exact .bind (keeps_closing read write) fun _ => .pure

/-- Once its START is out, a transfer launches no other. -/
lemma keeps_rest (call : Call) : Keeps P (call.rest m) := by
  cases call with
  | txBuf => exact .bind (keeps_txBufSend read write _ _ _) fun _ => .pure
  | rxPkg => exact .bind (keeps_receive read write _ _ _) fun _ => .pure
  | txrxBuf => exact .bind (keeps_txrxData read write _ _ _ _ _) fun _ => .pure

end Keeps

/-! ### Where a transfer leaves the bus -/

/-- What the driver needs of its registers to come back to the idle bus: `Vacant` is what every access
    leaves, and `Idle` that the core is idle. -/
structure Settles (m : Mmio σ) (Vacant Idle : σ → Prop) : Prop where
  vacant : ∀ s, Idle s → Vacant s
  read : ∀ offset, Keeps Vacant (m.read32 offset)
  write : ∀ offset value, Keeps Vacant (m.write32 offset value)
  /-- Of the idle core the status says so, and stays so. -/
  status : Triple Idle (i2cGetStatus m) fun status s =>
    (status.getLsbD I2C_STATUS_CMD_READY_BIT = true ∧
      status.getLsbD I2C_STATUS_BUS_IDLE_BIT = true) ∧ Idle s
  clear : Keeps Idle (i2cPrivClearStatusSticky m)
  /-- The status calls no other core idle. -/
  told : Triple Vacant (i2cGetStatus m) fun status s =>
    Vacant s ∧ (status.getLsbD I2C_STATUS_BUS_IDLE_BIT = true → Idle s)
  /-- The recovery ends within the driver's patience. -/
  abort : Triple Vacant (i2cPrivAbortToIdle m) fun _ => Idle

namespace Settles

variable {Vacant Idle : σ → Prop} (st : Settles m Vacant Idle)
include st

lemma cmdReady : Triple Idle (i2cStatusCmdReady m) fun ready s => ready = true ∧ Idle s :=
  cmdReady_triple (st.status.post fun _ _ h => ⟨h.1.1, h.2⟩)

lemma busIdle : Triple Vacant (i2cBusIdle m) fun idle s => Vacant s ∧ (idle = true → Idle s) :=
  busIdle_triple st.told

lemma waitCmdReady : Triple Idle (i2cPrivWaitCmdReady m) fun ready s => ready = true ∧ Idle s := by
  refine pollUntil_answers (.bind_known st.cmdReady ?_) 199999
  exact .pure fun _ idle => ⟨true, rfl, rfl, idle⟩

/-- After an abort the driver returns to the idle bus, whatever its result. -/
lemma aborted {α : Type} (result : α) :
    Triple Vacant (do i2cPrivAbortToIdle m; return result) fun _ => Idle :=
  st.abort.returns

/-- A part that gives up comes back idle. -/
lemma givesUp : Triple Vacant (do i2cPrivAbortToIdle m; return false) fun ok s =>
    Vacant s ∧ (ok = false → Idle s) :=
  (st.aborted false).post fun _ s idle => ⟨st.vacant s idle, fun _ => idle⟩

lemma waitIdleReady :
    Triple Vacant (i2cPrivWaitIdleReady m) fun back s => Vacant s ∧ (back = true → Idle s) := by
  refine pollUntil_counted (P := fun _ => Vacant) (fun _ => ?_)
    (fun _ vacant => ⟨vacant, fun back => Bool.noConfusion back⟩) _
  refine .bind (keeps_cmdReady st.read) fun ready => .ite (fun _ => .bind st.busIdle fun idle => ?_)
    fun _ => .pure fun _ vacant => vacant
  cases idle with
  | true => exact .pure fun _ h => ⟨h.1, fun _ => h.2 rfl⟩
  | false => exact .pure fun _ h => h.1

lemma opening : Triple Idle (i2cOpening m) fun opened s => Vacant s ∧ (opened = false → Idle s) := by
  have start : Triple Idle (i2cCmdStart m) fun refused s => refused = false ∧ Vacant s := by
    refine .bind_known st.cmdReady (.bind ((st.write _ _).pre st.vacant) fun _ => ?_)
    exact .pure fun _ vacant => ⟨rfl, vacant⟩
  refine .bind_known st.waitCmdReady (.bind st.clear fun _ => .bind_known start ?_)
  refine .bind (keeps_waitCmdReady st.read) fun ready => .ite (fun _ => st.givesUp) fun _ => ?_
  refine .bind (keeps_busIdle st.read) fun idle => .ite (fun _ => st.givesUp) fun _ => ?_
  exact .pure fun _ vacant => ⟨vacant, fun closed => Bool.noConfusion closed⟩

lemma txBufStop : Triple Vacant (i2cTxBufStop m) fun _ => Idle := by
  have failed := st.aborted I2C_TX_ERR_CMD
  have stop : Keeps Vacant (i2cCmdStop m) :=
    keeps_cmd st.read (fun _ _ _ => st.write _ _) (by decide)
  refine .bind (keeps_waitCmdReady st.read) fun _ => .ite (fun _ => failed) fun _ => ?_
  refine .bind (st.write _ _) fun _ => .bind stop fun _ => .ite (fun _ => failed) fun _ => ?_
  refine .bind st.waitIdleReady fun back => ?_
  cases back with
  | false => exact failed.pre fun _ h => h.1
  | true => exact .pure fun _ h => h.2 rfl

omit st in
/-- A part that comes back idle when it fails, and the rest. -/
lemma bind_or_return {α : Type} {x : StateM σ Bool} {y : StateM σ α} {r : α}
    (first : Triple Vacant x fun ok s => Vacant s ∧ (ok = false → Idle s))
    (rest : Triple Vacant y fun _ => Idle) :
    Triple Vacant (do if !(← x) then return r else y) fun _ => Idle := by
  refine .bind first fun ok => ?_
  cases ok with
  | false => exact .pure fun _ h => h.2 rfl
  | true => exact rest.pre fun _ h => h.1

lemma writePhaseByte (data nackCode : BitVec 8) :
    Keeps Vacant (i2cPrivWritePhaseByte m data nackCode) :=
  keeps_writePhaseByte st.read (fun _ _ _ => st.write _ _) data nackCode

lemma txBufLoop (data : BitVec 8 → BitVec 8) (length : BitVec 8) (n : Nat) (index : BitVec 8) :
    Triple Vacant (i2cTxBufLoop m data length n index) fun status s =>
      Vacant s ∧ (status ≠ none → Idle s) := by
  induction n generalizing index with
  | zero => exact .pure fun _ vacant => ⟨vacant, fun some_ => absurd rfl some_⟩
  | succ n ih =>
    refine .ite (fun _ => .bind (st.writePhaseByte _ _) fun status => ?_)
      fun _ => .pure fun _ vacant => ⟨vacant, fun some_ => absurd rfl some_⟩
    refine .ite (fun _ => .bind st.abort fun _ => ?_) fun _ => ih _
    exact .pure fun s idle => ⟨st.vacant s idle, fun _ => idle⟩

lemma rxLoop (length : BitVec 8) (n : Nat) (index : BitVec 8) (buffer : Memory) :
    Triple Vacant (i2cRxLoop m length n index buffer) fun result s =>
      Vacant s ∧ (result.1 = false → Idle s) := by
  have keeps := keeps_readPhaseByte st.read fun _ _ _ => st.write _ _
  induction n generalizing index buffer with
  | zero => exact .pure fun _ vacant => ⟨vacant, fun failed => Bool.noConfusion failed⟩
  | succ n ih =>
    refine .ite (fun _ => .bind (keeps _ _ _) fun result => ?_)
      fun _ => .pure fun _ vacant => ⟨vacant, fun failed => Bool.noConfusion failed⟩
    refine .ite (fun _ => .bind st.abort fun _ => ?_) fun _ => ih _ _
    exact .pure fun s idle => ⟨st.vacant s idle, fun _ => idle⟩

lemma address (byte : BitVec 8) : Triple Vacant (i2cAddress m byte) fun ok s =>
    Vacant s ∧ (ok = false → Idle s) := by
  refine .bind (st.writePhaseByte _ _) fun status => .ite (fun _ => st.givesUp) fun _ => ?_
  exact .pure fun _ vacant => ⟨vacant, fun failed => Bool.noConfusion failed⟩

lemma receive (slaveAddress : BitVec 8) (buffer : Memory) (length : BitVec 8) :
    Triple Vacant (i2cReceive m slaveAddress buffer length) fun _ => Idle := by
  refine bind_or_return (st.address _) (.bind (st.rxLoop _ _ _ _) fun result => ?_)
  obtain ⟨read, buffer⟩ := result
  cases read with
  | false => exact .pure fun _ h => h.2 rfl
  | true =>
    have closing : Triple Vacant (i2cClosing m) fun _ => Idle := st.txBufStop.returns
    exact (closing.pre fun _ h => h.1).returns

lemma turn : Triple Vacant (i2cTurn m) fun ok s => Vacant s ∧ (ok = false → Idle s) := by
  have restart : Keeps Vacant (i2cCmdRestart m) :=
    keeps_cmd st.read (fun _ _ _ => st.write _ _) (by decide)
  refine .bind (keeps_waitCmdReady st.read) fun _ => .ite (fun _ => st.givesUp) fun _ => ?_
  refine .bind (st.write _ _) fun _ => .bind restart fun _ => .ite (fun _ => st.givesUp) fun _ => ?_
  refine .bind (keeps_waitCmdReady st.read) fun _ => .ite (fun _ => st.givesUp) fun _ => ?_
  refine .bind (keeps_busIdle st.read) fun _ => .ite (fun _ => st.givesUp) fun _ => ?_
  exact .pure fun _ vacant => ⟨vacant, fun closed => Bool.noConfusion closed⟩

/-- A code of the loop over the data comes from an abort. -/
lemma txBufSend (slaveAddress : BitVec 8) (data : BitVec 8 → BitVec 8) (length : BitVec 8) :
    Triple Vacant (i2cTxBufSend m slaveAddress data length) fun _ => Idle := by
  refine .bind (st.writePhaseByte _ _) fun status => .ite (fun _ => st.aborted _) fun _ => ?_
  refine .bind (st.txBufLoop _ _ _ _) fun status => ?_
  cases status with
  | none => exact st.txBufStop.pre fun _ h => h.1
  | some status => exact .pure fun _ h => h.2 (Option.some_ne_none _)

lemma txrxData (slaveAddress : BitVec 8) (txData : BitVec 8 → BitVec 8) (txLen : BitVec 8)
    (rxData : Option Memory) (rxLen : BitVec 8) :
    Triple Vacant (i2cTxrxData m slaveAddress txData txLen rxData rxLen) fun _ => Idle := by
  refine bind_or_return (st.address _) (.bind (st.txBufLoop _ _ _ _) fun status => ?_)
  cases status with
  | some status => exact .pure fun _ h => h.2 (Option.some_ne_none _)
  | none =>
    refine .pre (.ite (fun _ => bind_or_return st.turn ?_) fun _ => ?_) fun _ h => h.1
    · exact (st.receive _ _ _).returns
    · have closing : Triple Vacant (i2cClosing m) fun _ => Idle := st.txBufStop.returns
      exact closing.returns

/-- Every transfer comes back to the idle bus. -/
lemma run (call : Call) : Triple Idle (call.run m) fun _ => Idle := by
  cases opens : call.opens with
  | false =>
    obtain ⟨ok, e⟩ := call.run_of_not_opens m opens
    rw [e]
    exact .pure fun _ idle => idle
  | true =>
    rw [call.run_of_opens m opens]
    refine .bind st.opening fun opened => ?_
    cases opened with
    | false => exact .pure fun _ h => h.2 rfl
    | true =>
      refine .pre ?_ fun _ h => h.1
      cases call with
      | txBuf => exact (st.txBufSend _ _ _).returns
      | rxPkg => exact (st.receive _ _ _).returns
      | txrxBuf => exact (st.txrxData _ _ _ _ _).returns

lemma txPkgLoop (msg : BitVec 8 → BitVec 8) (fuel : Nat) (index : BitVec 8) :
    Triple Vacant (i2cTxPkgLoop m msg fuel index) fun status s =>
      Vacant s ∧ (∀ code, status = some (some code) → Idle s) := by
  induction fuel generalizing index with
  | zero => exact .pure fun _ vacant => ⟨vacant, fun code e => by cases e⟩
  | succ fuel ih =>
    refine .ite (fun _ => ?_) fun _ => .bind (st.writePhaseByte _ _) fun status => ?_
    · exact .pure fun _ vacant => ⟨vacant, fun code e => by cases e⟩
    refine .ite (fun _ => .bind st.abort fun _ => ?_) fun _ => ih _
    exact .pure fun s idle => ⟨st.vacant s idle, fun _ _ => idle⟩

/-- `i2c_tx_pkg` comes back to the idle bus, if it comes back. -/
lemma txPkg (fuel : Nat) (slaveAddress : BitVec 8) (msg : Option (BitVec 8 → BitVec 8)) :
    Triple Idle (i2cTxPkg m fuel slaveAddress msg) fun code s => code ≠ none → Idle s := by
  cases msg with
  | none => exact .pure fun _ idle _ => idle
  | some msg =>
    refine .bind st.opening fun opened => ?_
    cases opened with
    | false => exact .pure fun _ h _ => h.2 rfl
    | true =>
      refine .pre (.bind (st.writePhaseByte _ _) fun status => .ite (fun _ => ?_) fun _ => ?_)
        fun _ h => h.1
      · exact (st.aborted _).post fun _ _ idle _ => idle
      refine .bind (st.txPkgLoop _ _ _) fun status => ?_
      cases status with
      | none => exact .pure fun _ _ none => absurd rfl none
      | some ended =>
        cases ended with
        | some code => exact .pure fun _ h _ => h.2 code rfl
        | none =>
          exact (st.txBufStop.pre fun _ h => h.1).returns.post fun _ _ idle _ => idle

end Settles

/-- The loop over a string ends at its null character at the latest. -/
lemma txPkgLoop_ends {msg : BitVec 8 → BitVec 8} {k fuel : Nat} {index : BitVec 8} (lt : k < fuel)
    (null : msg (index + BitVec.ofNat 8 k) = 0) :
    Triple (fun _ => True) (i2cTxPkgLoop m msg fuel index) fun status _ => status ≠ none := by
  induction fuel generalizing index k with
  | zero => cases lt
  | succ fuel ih =>
    refine .ite (fun _ => .pure fun _ _ => Option.some_ne_none _) fun more => ?_
    refine .after fun status => .ite (fun _ => ?_) fun _ => ?_
    · exact .after fun _ => .pure fun _ _ => Option.some_ne_none _
    · cases k with
      | zero =>
        rw [BitVec.add_zero] at null
        exact absurd (beq_iff_eq.mpr null) more
      | succ k =>
        refine ih (Nat.lt_of_succ_lt_succ lt) ?_
        rw [← null, BitVec.ofNat_add, BitVec.add_comm (BitVec.ofNat 8 k), BitVec.add_assoc]
        rfl

/-- `i2c_tx_pkg` returns, if its string ends within the 256 characters that its index reaches. -/
lemma txPkg_returns {msg : BitVec 8 → BitVec 8} {k fuel : Nat} (lt : k < fuel)
    (null : msg (BitVec.ofNat 8 k) = 0) (slaveAddress : BitVec 8) :
    Triple (fun _ => True) (i2cTxPkg m fuel slaveAddress (some msg)) fun code _ => code ≠ none := by
  have null' : msg (0#8 + BitVec.ofNat 8 k) = 0 := by rw [BitVec.zero_add, null]
  have ends := txPkgLoop_ends (m := m) lt null'
  refine .after fun opened => .ite (fun _ => .pure fun _ _ => Option.some_ne_none _) fun _ => ?_
  refine .after fun status => .ite (fun _ => ?_) fun _ => .bind ends fun status => ?_
  · exact .after fun _ => .pure fun _ _ => Option.some_ne_none _
  cases status with
  | none => exact fun _ none => absurd rfl none
  | some ended =>
    cases ended with
    | some code => exact .pure fun _ _ => Option.some_ne_none _
    | none => exact .pre (.after fun _ => .pure fun _ _ => Option.some_ne_none _) fun _ _ => trivial

end ModularControl.I2c
