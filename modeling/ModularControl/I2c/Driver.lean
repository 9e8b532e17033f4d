import ModularControl.I2c.Core

/-!
# The I2C driver

The transfers of `i2c_regs.h` and `i2c_regs.c`. The driver runs on any registers `σ` behind
`mmio_read32` and `mmio_write32`; the base address, which it only hands on to them, is left to `Mmio`.
-/

namespace ModularControl.I2c

/-- `mmio_read32` and `mmio_write32` on one instance. -/
structure Mmio (σ : Type) where
  read32 : BitVec 32 → StateM σ (BitVec 32)
  write32 : BitVec 32 → BitVec 32 → StateM σ Unit

def I2C_TIMEOUT_LOOPS : Nat := 200000

def I2C_REG_STATUS_OFFSET : BitVec 32 := 0x00
def I2C_REG_TXDATA_OFFSET : BitVec 32 := 0x08
def I2C_REG_RXDATA_OFFSET : BitVec 32 := 0x0C
def I2C_REG_CMD_OFFSET : BitVec 32 := 0x10

def I2C_STATUS_CMD_READY_BIT : Nat := 0
def I2C_STATUS_BUS_IDLE_BIT : Nat := 1
def I2C_STATUS_DONE_BIT : Nat := 2
def I2C_STATUS_ACK_VALID_BIT : Nat := 3
def I2C_STATUS_ACK_BIT : Nat := 4
def I2C_STATUS_RD_DATA_VALID_BIT : Nat := 5
def I2C_STATUS_CMD_ILLEGAL_BIT : Nat := 6

/-- The `_MASK` of a `_BIT`. -/
def mask (bit : Nat) : BitVec 32 := 1#32 <<< bit

def I2C_CMD_START : BitVec 8 := 0
def I2C_CMD_WR : BitVec 8 := 1
def I2C_CMD_RD : BitVec 8 := 2
def I2C_CMD_STOP : BitVec 8 := 3
def I2C_CMD_RESTART : BitVec 8 := 4

def I2C_CMD_FIELD_MASK : BitVec 32 := 0x7
def I2C_CMD_ABORT_BIT : Nat := 7
def I2C_CMD_RD_LAST_BIT : Nat := 8

def I2C_TX_OK : BitVec 8 := 0
def I2C_TX_ERR_CMD : BitVec 8 := 1
def I2C_TX_ERR_ADDR_NACK : BitVec 8 := 2
def I2C_TX_ERR_DATA_NACK_BASE : BitVec 8 := 3

variable {σ : Type} (m : Mmio σ)

def i2cGetStatus : StateM σ (BitVec 32) := m.read32 I2C_REG_STATUS_OFFSET

def i2cWriteTxdata (data : BitVec 8) : StateM σ Unit :=
  m.write32 I2C_REG_TXDATA_OFFSET (data.setWidth 32)

def i2cStatusCmdReady : StateM σ Bool := do
  return (← i2cGetStatus m) &&& mask I2C_STATUS_CMD_READY_BIT != 0

def i2cBusIdle : StateM σ Bool := do
  return (← i2cGetStatus m) &&& mask I2C_STATUS_BUS_IDLE_BIT != 0

/-- Bit 1 is the valid flag, bit 0 the level. -/
def i2cAck : StateM σ (BitVec 8) := do
  let status ← i2cGetStatus m
  let ackValid := ((status >>> I2C_STATUS_ACK_VALID_BIT) &&& 1).setWidth 8
  let ackValue := ((status >>> I2C_STATUS_ACK_BIT) &&& 1).setWidth 8
  return (ackValid <<< 1) ||| ackValue

def i2cPackCmd (cmd : BitVec 8) (abort rdLast : Bool) : BitVec 32 :=
  let value := cmd.setWidth 32 &&& I2C_CMD_FIELD_MASK
  let value := if abort then value ||| mask I2C_CMD_ABORT_BIT else value
  if rdLast then value ||| mask I2C_CMD_RD_LAST_BIT else value

def i2cWriteCmdRaw (cmd : BitVec 8) (abort rdLast : Bool) : StateM σ Unit :=
  m.write32 I2C_REG_CMD_OFFSET (i2cPackCmd cmd abort rdLast)

/-- The mid-level commands: true if the command was not accepted. -/
def i2cCmd (cmd : BitVec 8) : StateM σ Bool := do
  if !(← i2cStatusCmdReady m) then
    return true
  i2cWriteCmdRaw m cmd false false
  return false

def i2cCmdStart : StateM σ Bool := i2cCmd m I2C_CMD_START
def i2cCmdWr : StateM σ Bool := i2cCmd m I2C_CMD_WR
def i2cCmdStop : StateM σ Bool := i2cCmd m I2C_CMD_STOP

def i2cCmdAbort : StateM σ Bool := do
  i2cWriteCmdRaw m I2C_CMD_START true false
  return false

def i2cPrivAddrWr (slaveAddress : BitVec 8) : BitVec 8 := (slaveAddress &&& 0x7F) <<< 1

/-- The sum is cast back to `uint8_t`. -/
def i2cPrivDataNackFlag (index : BitVec 8) : BitVec 8 := I2C_TX_ERR_DATA_NACK_BASE + index

def i2cPrivClearStatusSticky : StateM σ Unit :=
  m.write32 I2C_REG_STATUS_OFFSET (mask I2C_STATUS_DONE_BIT ||| mask I2C_STATUS_ACK_VALID_BIT |||
    mask I2C_STATUS_ACK_BIT ||| mask I2C_STATUS_RD_DATA_VALID_BIT |||
    mask I2C_STATUS_CMD_ILLEGAL_BIT)

/-- The polling loops: `probe` is tried until it answers, `false` if it never does. -/
def pollUntil (probe : StateM σ (Option Bool)) : Nat → StateM σ Bool
  | 0 => return false
  | n + 1 => do
    match ← probe with
    | some answer => return answer
    | none => pollUntil probe n

def i2cPrivWaitCmdReady : StateM σ Bool :=
  pollUntil (do if ← i2cStatusCmdReady m then return some true else return none) I2C_TIMEOUT_LOOPS

def i2cPrivWaitIdleReady : StateM σ Bool :=
  pollUntil (do
    if ← i2cStatusCmdReady m then
      if ← i2cBusIdle m then return some true else return none
    else return none) I2C_TIMEOUT_LOOPS

def i2cPrivWaitCmdCycle : StateM σ Bool :=
  pollUntil (do
    let status ← i2cGetStatus m
    if status &&& mask I2C_STATUS_CMD_ILLEGAL_BIT != 0 then return some false
    else if status &&& mask I2C_STATUS_DONE_BIT != 0 then return some true
    else return none) I2C_TIMEOUT_LOOPS

def i2cPrivAbortToIdle : StateM σ Unit := do
  let _ ← i2cCmdAbort m
  let _ ← pollUntil (do
    if ← i2cBusIdle m then
      if ← i2cStatusCmdReady m then return some true else return none
    else return none) I2C_TIMEOUT_LOOPS

def i2cPrivWritePhaseByte (data nackCode : BitVec 8) : StateM σ (BitVec 8) := do
  if !(← i2cPrivWaitCmdReady m) then
    return I2C_TX_ERR_CMD
  i2cPrivClearStatusSticky m
  i2cWriteTxdata m data
  if ← i2cCmdWr m then
    return I2C_TX_ERR_CMD
  if !(← i2cPrivWaitCmdCycle m) then
    return I2C_TX_ERR_CMD
  let ackInfo ← i2cAck m
  if ackInfo &&& 0x2 == 0 then
    return I2C_TX_ERR_CMD
  if ackInfo &&& 0x1 != 0 then
    return nackCode
  return I2C_TX_OK

/-- The loop over the data, from `index` on, with its early return. A `uint8_t` takes 256 values, so
    that as many tries reach its end. -/
def i2cTxBufLoop (data : BitVec 8 → BitVec 8) (length : BitVec 8) :
    Nat → BitVec 8 → StateM σ (Option (BitVec 8))
  | 0, _ => return none
  | n + 1, index => do
    if index < length then
      let status ← i2cPrivWritePhaseByte m (data index) (i2cPrivDataNackFlag index)
      if status != I2C_TX_OK then
        i2cPrivAbortToIdle m
        return some status
      i2cTxBufLoop data length n (index + 1)
    else return none

/-- The end of `i2c_tx_buf`, from the wait before the STOP. -/
def i2cTxBufStop : StateM σ (BitVec 8) := do
  if !(← i2cPrivWaitCmdReady m) then
    i2cPrivAbortToIdle m
    return I2C_TX_ERR_CMD
  i2cPrivClearStatusSticky m
  if ← i2cCmdStop m then
    i2cPrivAbortToIdle m
    return I2C_TX_ERR_CMD
  if !(← i2cPrivWaitIdleReady m) then
    i2cPrivAbortToIdle m
    return I2C_TX_ERR_CMD
  return I2C_TX_OK

/-- `i2c_tx_buf` from the address byte on. -/
def i2cTxBufSend (slaveAddress : BitVec 8) (data : BitVec 8 → BitVec 8) (length : BitVec 8) :
    StateM σ (BitVec 8) := do
  let status ← i2cPrivWritePhaseByte m (i2cPrivAddrWr slaveAddress) I2C_TX_ERR_ADDR_NACK
  if status != I2C_TX_OK then
    i2cPrivAbortToIdle m
    return status
  match ← i2cTxBufLoop m data length 256 0 with
  | some status => return status
  | none => i2cTxBufStop m

/-- A buffer is what the memory holds behind its pointer, `none` the null pointer. -/
def i2cTxBuf (slaveAddress : BitVec 8) (data : Option (BitVec 8 → BitVec 8)) (length : BitVec 8) :
    StateM σ (BitVec 8) := do
  if data.isNone && length != 0 then
    return I2C_TX_ERR_CMD
  if !(← i2cPrivWaitCmdReady m) then
    return I2C_TX_ERR_CMD
  i2cPrivClearStatusSticky m
  if ← i2cCmdStart m then
    return I2C_TX_ERR_CMD
  if !(← i2cPrivWaitCmdReady m) then
    i2cPrivAbortToIdle m
    return I2C_TX_ERR_CMD
  if ← i2cBusIdle m then
    i2cPrivAbortToIdle m
    return I2C_TX_ERR_CMD
  -- of a null buffer no byte is read, since its length is 0
  i2cTxBufSend m slaveAddress (data.getD fun _ => 0) length

/-! ### Reading -/

def i2cReadRxdata : StateM σ (BitVec 8) := do
  return ((← m.read32 I2C_REG_RXDATA_OFFSET) &&& 0xFF).setWidth 8

def i2cRdDataValid : StateM σ Bool := do
  return (← i2cGetStatus m) &&& mask I2C_STATUS_RD_DATA_VALID_BIT != 0

def i2cCmdRd (rdLast : Bool) : StateM σ Bool := do
  if !(← i2cStatusCmdReady m) then
    return true
  i2cWriteCmdRaw m I2C_CMD_RD false rdLast
  return false

def i2cCmdRestart : StateM σ Bool := i2cCmd m I2C_CMD_RESTART

def i2cPrivAddrRd (slaveAddress : BitVec 8) : BitVec 8 := ((slaveAddress &&& 0x7F) <<< 1) ||| 0x01

/-- The memory behind a receive buffer, by the `uint8_t` index it is written at. -/
abbrev Memory : Type := BitVec 8 → BitVec 8

/-- The byte is stored at `data`, `none` being the null pointer, in the last step only. -/
def i2cPrivReadPhaseByte (rdLast : Bool) (data : Option (BitVec 8)) (buffer : Memory) :
    StateM σ (Bool × Memory) := do
  match data with
  | none => return (false, buffer)
  | some index =>
    if !(← i2cPrivWaitCmdReady m) then
      return (false, buffer)
    i2cPrivClearStatusSticky m
    if ← i2cCmdRd m rdLast then
      return (false, buffer)
    if !(← i2cPrivWaitCmdCycle m) then
      return (false, buffer)
    if !(← i2cRdDataValid m) then
      return (false, buffer)
    let byte ← i2cReadRxdata m
    return (true, Function.update buffer index byte)

/-- The loop over the bytes to receive, from `index` on; `false` is its early return. -/
def i2cRxLoop (length : BitVec 8) : Nat → BitVec 8 → Memory → StateM σ (Bool × Memory)
  | 0, _, buffer => return (true, buffer)
  | n + 1, index, buffer => do
    if index < length then
      let rdLast := index == length - 1
      let (read, buffer) ← i2cPrivReadPhaseByte m rdLast (some index) buffer
      if !read then
        i2cPrivAbortToIdle m
        return (false, buffer)
      i2cRxLoop length n (index + 1) buffer
    else return (true, buffer)

/-- The opening that the transfers share, up to the bus being held for them; `false` where they
    return their error. -/
def i2cOpening : StateM σ Bool := do
  if !(← i2cPrivWaitCmdReady m) then
    return false
  i2cPrivClearStatusSticky m
  if ← i2cCmdStart m then
    return false
  if !(← i2cPrivWaitCmdReady m) then
    i2cPrivAbortToIdle m
    return false
  if ← i2cBusIdle m then
    i2cPrivAbortToIdle m
    return false
  return true

/-- The address byte of a transfer that returns a `bool`; `false` is its early return. -/
def i2cAddress (byte : BitVec 8) : StateM σ Bool := do
  if (← i2cPrivWritePhaseByte m byte I2C_TX_ERR_ADDR_NACK) != I2C_TX_OK then
    i2cPrivAbortToIdle m
    return false
  return true

/-- The end of a transfer that returns a `bool` differs from that of `i2c_tx_buf` in the type of its
    codes only. -/
def i2cClosing : StateM σ Bool := do
  return (← i2cTxBufStop m) == I2C_TX_OK

/-- From the read address on `i2c_rx_pkg` and `i2c_txrx_buf` agree. -/
def i2cReceive (slaveAddress : BitVec 8) (buffer : Memory) (length : BitVec 8) :
    StateM σ (Bool × Memory) := do
  if !(← i2cAddress m (i2cPrivAddrRd slaveAddress)) then
    return (false, buffer)
  let (read, buffer) ← i2cRxLoop m length 256 0 buffer
  if !read then
    return (false, buffer)
  return (← i2cClosing m, buffer)

/-- The result and what the memory behind `buffer` holds then; of a null buffer nothing is. -/
def i2cRxPkg (slaveAddress : BitVec 8) (buffer : Option Memory) (length : BitVec 8) :
    StateM σ (Bool × Option Memory) := do
  match buffer with
  | none => return (length == 0, none)
  | some buffer =>
    if length == 0 then
      return (true, some buffer)
    if !(← i2cOpening m) then
      return (false, some buffer)
    let (ok, buffer) ← i2cReceive m slaveAddress buffer length
    return (ok, some buffer)

/-- The turn to reading in `i2c_txrx_buf`, up to the bus being held again. -/
def i2cTurn : StateM σ Bool := do
  if !(← i2cPrivWaitCmdReady m) then
    i2cPrivAbortToIdle m
    return false
  i2cPrivClearStatusSticky m
  if ← i2cCmdRestart m then
    i2cPrivAbortToIdle m
    return false
  if !(← i2cPrivWaitCmdReady m) then
    i2cPrivAbortToIdle m
    return false
  if ← i2cBusIdle m then
    i2cPrivAbortToIdle m
    return false
  return true

/-- The data of `i2c_txrx_buf`, after the START. A null `rx_data` is never written, since its length
    is 0. -/
def i2cTxrxData (slaveAddress : BitVec 8) (txData : BitVec 8 → BitVec 8) (txLen : BitVec 8)
    (rxData : Option Memory) (rxLen : BitVec 8) : StateM σ (Bool × Option Memory) := do
  if !(← i2cAddress m (i2cPrivAddrWr slaveAddress)) then
    return (false, rxData)
  match ← i2cTxBufLoop m txData txLen 256 0 with
  | some _ => return (false, rxData)
  | none =>
    if rxLen != 0 then
      if !(← i2cTurn m) then
        return (false, rxData)
      let (ok, buffer) ← i2cReceive m slaveAddress (rxData.getD fun _ => 0) rxLen
      return (ok, rxData.map fun _ => buffer)
    return (← i2cClosing m, rxData)

def i2cTxrxBuf (slaveAddress : BitVec 8) (txData : Option (BitVec 8 → BitVec 8)) (txLen : BitVec 8)
    (rxData : Option Memory) (rxLen : BitVec 8) : StateM σ (Bool × Option Memory) := do
  if txData.isNone && txLen != 0 then
    return (false, rxData)
  if rxData.isNone && rxLen != 0 then
    return (false, rxData)
  if !(← i2cOpening m) then
    return (false, rxData)
  i2cTxrxData m slaveAddress (txData.getD fun _ => 0) txLen rxData rxLen

/-! ### Strings -/

/-- The loop over the characters; a code if it ends with one, and `none` at the null character. The
    index is a `uint8_t` and wraps, so that the loop need not end: no result once the `fuel` is used
    up. -/
def i2cTxPkgLoop (msg : BitVec 8 → BitVec 8) :
    Nat → BitVec 8 → StateM σ (Option (Option (BitVec 8)))
  | 0, _ => return none
  | fuel + 1, index => do
    let dataByte := msg index
    if dataByte == 0 then
      return some none
    let status ← i2cPrivWritePhaseByte m dataByte (i2cPrivDataNackFlag index)
    if status != I2C_TX_OK then
      i2cPrivAbortToIdle m
      return some (some status)
    i2cTxPkgLoop msg fuel (index + 1)

/-- A string is what the memory holds behind `msg`; no result once the `fuel` of its loop is used
    up. -/
def i2cTxPkg (fuel : Nat) (slaveAddress : BitVec 8) (msg : Option (BitVec 8 → BitVec 8)) :
    StateM σ (Option (BitVec 8)) := do
  match msg with
  | none => return some I2C_TX_ERR_CMD
  | some msg =>
    if !(← i2cOpening m) then
      return some I2C_TX_ERR_CMD
    let status ← i2cPrivWritePhaseByte m (i2cPrivAddrWr slaveAddress) I2C_TX_ERR_ADDR_NACK
    if status != I2C_TX_OK then
      i2cPrivAbortToIdle m
      return some status
    match ← i2cTxPkgLoop m msg fuel 0 with
    | none => return none
    | some (some status) => return some status
    | some none => return some (← i2cTxBufStop m)

variable {m}

/-- `i2c_tx_buf` opens as the others do. -/
lemma i2cTxBuf_eq (slaveAddress : BitVec 8) (data : Option (BitVec 8 → BitVec 8))
    (length : BitVec 8) : i2cTxBuf m slaveAddress data length =
      if data.isNone && length != 0 then pure I2C_TX_ERR_CMD
      else i2cOpening m >>= fun opened =>
        if opened then i2cTxBufSend m slaveAddress (data.getD fun _ => 0) length
        else pure I2C_TX_ERR_CMD := by
  rw [i2cTxBuf, i2cOpening]
  split_ifs with invalid
  · rfl
  · rw [bind_assoc]
    refine bind_congr fun ready => ?_
    cases ready with
    | false => rfl
    | true =>
      simp only [Bool.not_true, Bool.false_eq_true, if_false, bind_assoc]
      refine bind_congr fun _ => bind_congr fun refused => ?_
      cases refused with
      | true => rfl
      | false =>
        simp only [Bool.false_eq_true, if_false, bind_assoc]
        refine bind_congr fun held => ?_
        cases held with
        | false => rfl
        | true =>
          simp only [Bool.not_true, Bool.false_eq_true, if_false, bind_assoc]
          refine bind_congr fun idle => ?_
          cases idle <;> rfl

end ModularControl.I2c
