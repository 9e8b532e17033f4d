import ModularControl.I2c.Returns
import ModularControl.I2c.TxBuf

/-!
# The commands of a transfer

What a transfer writes to the command register of a core that does as it is told: the driver's loops
over the bytes, on any registers on which a single byte is known to succeed.
-/

namespace ModularControl.I2c
open Sync

/-- What the driver writes to the command register, with the byte that a WR sends or an RD brings. -/
inductive Command where
  | start
  | wr (data : BitVec 8)
  | rd (rdLast : Bool) (data : BitVec 8)
  | stop
  | restart
  | abort
  | reserved
deriving DecidableEq, Repr

/-- A WR of each of the first bytes of a buffer. -/
def writes (data : BitVec 8 → BitVec 8) (length : BitVec 8) : List Command :=
  (List.range length.toNat).map fun i => .wr (data (BitVec.ofNat 8 i))

/-- An RD of each byte, with `rd_last` on the last. -/
def reads : List (BitVec 8) → List Command
  | [] => []
  | [byte] => [.rd true byte]
  | byte :: next :: bytes => .rd false byte :: reads (next :: bytes)

/-- A buffer whose first bytes have been received. -/
def Memory.received (buffer : Memory) (bytes : List (BitVec 8)) : Memory :=
  fun index => bytes[index.toNat]?.getD (buffer index)

variable {σ : Type} {m : Mmio σ}

/-- A core that takes the driver's commands and is not NACKed: `Held log` is the held bus after the
    commands `log`, `Ended log` the idle bus. -/
structure Obliging (m : Mmio σ) (Held Ended : List Command → σ → Prop) : Prop where
  wr : ∀ log data nackCode, Triple (Held log) (i2cPrivWritePhaseByte m data nackCode)
    fun status s => status = I2C_TX_OK ∧ Held (log ++ [.wr data]) s
  rd : ∀ log rdLast index buffer, Triple (Held log)
    (i2cPrivReadPhaseByte m rdLast (some index) buffer) fun result s => ∃ byte,
      result = (true, Function.update buffer index byte) ∧ Held (log ++ [.rd rdLast byte]) s
  restart : ∀ log, Triple (Held log) (i2cTurn m) fun held s =>
    held = true ∧ Held (log ++ [.restart]) s
  stop : ∀ log, Triple (Held log) (i2cTxBufStop m) fun code s =>
    code = I2C_TX_OK ∧ Ended (log ++ [.stop]) s

/-- One more byte is received. -/
lemma received_snoc (buffer : Memory) {bytes : List (BitVec 8)} (byte : BitVec 8)
    (lt : bytes.length < 256) :
    Function.update (buffer.received bytes) (BitVec.ofNat 8 bytes.length) byte =
      buffer.received (bytes ++ [byte]) := by
  funext index
  have size : (BitVec.ofNat 8 bytes.length).toNat = bytes.length := Nat.mod_eq_of_lt lt
  by_cases at_ : index = BitVec.ofNat 8 bytes.length
  · subst at_
    rw [Function.update_self, Memory.received, size]
    simp
  · have ne : index.toNat ≠ bytes.length := fun e => at_ (BitVec.eq_of_toNat_eq (e.trans size.symm))
    rw [Function.update_of_ne at_, Memory.received, Memory.received]
    by_cases before : index.toNat < bytes.length
    · rw [List.getElem?_append_left before]
    · rw [List.getElem?_eq_none (by omega), List.getElem?_eq_none (by simp; omega)]

/-- `rd_last` is set on the last byte and on no other. -/
lemma reads_cons (byte : BitVec 8) (bytes : List (BitVec 8)) :
    reads (byte :: bytes) = .rd (decide (bytes.length = 0)) byte :: reads bytes := by
  cases bytes <;> rfl

namespace Obliging

variable {Held Ended : List Command → σ → Prop} (ob : Obliging m Held Ended)
include ob

lemma txBufLoop (log : List Command) (data : BitVec 8 → BitVec 8) (length : BitVec 8) {n i k : Nat}
    (rest : i + k = length.toNat) (turns : k < n) :
    Triple (Held log) (i2cTxBufLoop m data length n (BitVec.ofNat 8 i)) fun status s =>
      status = none ∧
        Held (log ++ (List.range' i k).map fun j => .wr (data (BitVec.ofNat 8 j))) s := by
  have size := length.isLt
  induction n generalizing i k log with
  | zero => cases turns
  | succ n ih =>
    cases k with
    | zero =>
      have past : ¬ BitVec.ofNat 8 i < length := by
        rw [Device.index_lt]
        omega
      rw [i2cTxBufLoop, if_neg past]
      refine .pure fun s held => ⟨rfl, ?_⟩
      rw [List.range'_zero, List.map_nil, List.append_nil]
      exact held
    | succ k =>
      have within : BitVec.ofNat 8 i < length := by
        rw [Device.index_lt]
        omega
      have next : BitVec.ofNat 8 i + 1 = BitVec.ofNat 8 (i + 1) := (BitVec.ofNat_add _ _).symm
      rw [i2cTxBufLoop, if_pos within]
      refine .bind_known (ob.wr _ _ _) (.ite (fun no => absurd no (by decide)) fun _ => ?_)
      rw [next]
      refine (ih (i := i + 1) (k := k) _ (by omega) (by omega)).post fun status s h => ⟨h.1, ?_⟩
      rw [List.range'_succ, List.map_cons, List.append_cons]
      exact h.2

/-- The loop goes on after the bytes received so far. -/
lemma rxLoop (log : List Command) (length : BitVec 8) (buffer : Memory) {n k : Nat}
    (bytes : List (BitVec 8)) (rest : bytes.length + k = length.toNat) (turns : k < n) :
    Triple (Held log) (i2cRxLoop m length n (BitVec.ofNat 8 bytes.length) (buffer.received bytes))
      fun result s => ∃ more : List (BitVec 8), result = (true, buffer.received (bytes ++ more)) ∧
        more.length = k ∧ Held (log ++ reads more) s := by
  have size := length.isLt
  induction n generalizing k bytes log with
  | zero => cases turns
  | succ n ih =>
    cases k with
    | zero =>
      have past : ¬ BitVec.ofNat 8 bytes.length < length := by
        rw [Device.index_lt]
        omega
      rw [i2cRxLoop, if_neg past]
      refine .pure fun s held => ⟨[], by rw [List.append_nil], rfl, ?_⟩
      rw [reads, List.append_nil]
      exact held
    | succ k =>
      have within : BitVec.ofNat 8 bytes.length < length := by
        rw [Device.index_lt]
        omega
      have next : BitVec.ofNat 8 bytes.length + 1 = BitVec.ofNat 8 (bytes.length + 1) :=
        (BitVec.ofNat_add _ _).symm
      -- the driver's test for the last byte, in its own width
      have last : (BitVec.ofNat 8 bytes.length == length - 1) = decide (k = 0) := by
        have one : length.toNat - 1 = (length - 1).toNat := by
          rw [BitVec.toNat_sub_of_le (BitVec.le_def.mpr (by simp; omega))]
          rfl
        rw [Bool.eq_iff_iff, beq_iff_eq, decide_eq_true_eq, BitVec.toNat_eq, ← one,
          BitVec.toNat_ofNat]
        omega
      rw [i2cRxLoop, if_pos within, last]
      refine .bind_form (ob.rd _ _ _ _) fun byte => .ite (fun no => absurd no (by simp)) fun _ => ?_
      show Triple _ (i2cRxLoop m length n (BitVec.ofNat 8 bytes.length + 1)
        (Function.update (buffer.received bytes) (BitVec.ofNat 8 bytes.length) byte)) _
      have count : (bytes ++ [byte]).length = bytes.length + 1 := List.length_append
      rw [received_snoc buffer byte (by omega), next, ← count]
      refine (ih (k := k) _ (bytes ++ [byte]) (by omega) (by omega)).post fun result s h => ?_
      obtain ⟨more, e, many, held⟩ := h
      refine ⟨byte :: more, ?_, by rw [List.length_cons, many], ?_⟩
      · rw [e, ← List.append_cons]
      · rw [reads_cons, many, List.append_cons]
        exact held

lemma address (log : List Command) (byte : BitVec 8) :
    Triple (Held log) (i2cAddress m byte) fun ok s => ok = true ∧ Held (log ++ [.wr byte]) s := by
  refine .bind_known (ob.wr _ _ _) (.ite (fun no => absurd no (by decide)) fun _ => ?_)
  exact .pure fun s held => ⟨rfl, held⟩

lemma txBufSend (log : List Command) (slaveAddress : BitVec 8) (data : BitVec 8 → BitVec 8)
    (length : BitVec 8) :
    Triple (Held log) (i2cTxBufSend m slaveAddress data length) fun code s => code = I2C_TX_OK ∧
      Ended (log ++ .wr (i2cPrivAddrWr slaveAddress) :: writes data length ++ [.stop]) s := by
  have size := length.isLt
  have loop := ob.txBufLoop (log ++ [.wr (i2cPrivAddrWr slaveAddress)]) data length
    (n := 256) (Nat.zero_add _) size
  refine .bind_known (ob.wr _ _ _) (.ite (fun no => absurd no (by decide)) fun _ => ?_)
  refine .bind_known loop ((ob.stop _).post fun code s h => ⟨h.1, ?_⟩)
  rw [← List.append_cons, ← List.range_eq_range'] at h
  exact h.2

lemma closing (log : List Command) : Triple (Held log) (i2cClosing m) fun ok s =>
    ok = true ∧ Ended (log ++ [.stop]) s :=
  .bind_known (ob.stop log) (.pure fun _ ended => ⟨rfl, ended⟩)

lemma receive (log : List Command) (slaveAddress : BitVec 8) (buffer : Memory)
    (length : BitVec 8) :
    Triple (Held log) (i2cReceive m slaveAddress buffer length) fun result s =>
      ∃ bytes : List (BitVec 8), result = (true, buffer.received bytes) ∧
        bytes.length = length.toNat ∧
        Ended (log ++ .wr (i2cPrivAddrRd slaveAddress) :: reads bytes ++ [.stop]) s := by
  have loop := ob.rxLoop (log ++ [.wr (i2cPrivAddrRd slaveAddress)]) length buffer
    [] (n := 256) (Nat.zero_add _) length.isLt
  refine .bind_true (ob.address _ _) ?_
  refine .bind_form loop fun bytes => .ite (fun no => absurd no (by simp)) fun _ => ?_
  refine .assume (fun _ h => h.1) fun count => .bind_known ((ob.closing _).pre fun _ h => h.2) ?_
  refine .pure fun s ended => ⟨bytes, by rw [List.nil_append], count, ?_⟩
  rw [List.append_assoc log, List.singleton_append] at ended
  exact ended

/-- What `i2c_txrx_buf` returns, and writes after its START: with nothing to receive it writes what
    `i2c_tx_buf` does. -/
lemma txrxData (log : List Command) (slaveAddress : BitVec 8) (txData : BitVec 8 → BitVec 8)
    (txLen : BitVec 8) (rxData : Option Memory) (rxLen : BitVec 8) :
    Triple (Held log) (i2cTxrxData m slaveAddress txData txLen rxData rxLen) fun result s =>
      ∃ bytes : List (BitVec 8), result = (true, rxData.map fun buffer => buffer.received bytes) ∧
        bytes.length = rxLen.toNat ∧
        Ended (log ++ .wr (i2cPrivAddrWr slaveAddress) :: writes txData txLen ++
          (if rxLen = 0 then [] else .restart :: .wr (i2cPrivAddrRd slaveAddress) :: reads bytes) ++
            [.stop]) s := by
  have loop := ob.txBufLoop (log ++ [.wr (i2cPrivAddrWr slaveAddress)]) txData txLen
    (n := 256) (Nat.zero_add _) txLen.isLt
  refine .bind_true (ob.address _ _) ?_
  refine .bind_known loop ?_
  rw [← List.append_cons, ← List.range_eq_range']
  refine .ite (fun more => ?_) fun none_ => ?_
  · have some_ : rxLen ≠ 0 := bne_iff_ne.mp more
    refine .bind_true (ob.restart _) ?_
    refine .bind_form (ob.receive _ _ _ _) fun bytes => .pure fun s h => ⟨bytes, ?_, h.1, ?_⟩
    · cases rxData <;> rfl
    · rw [if_neg some_]
      simpa [writes] using h.2
  · have zero : rxLen = 0 := by simpa using none_
    refine .bind_known (ob.closing _) (.pure fun s ended => ⟨[], ?_, by rw [zero]; rfl, ?_⟩)
    · cases rxData <;> rfl
    · rw [if_pos zero, List.append_nil]
      exact ended

/-- Every transfer returns its OK code. -/
lemma rest (log : List Command) (call : Call) :
    Triple (Held log) (call.rest m) fun ok _ => ok = true := by
  cases call with
  | txBuf =>
    refine .bind (ob.txBufSend _ _ _ _) fun code => .pure fun s h => ?_
    rw [h.1]
    rfl
  | rxPkg =>
    refine .bind (ob.receive _ _ _ _) fun result => .pure fun s h => ?_
    obtain ⟨bytes, e, -⟩ := h
    rw [e]
  | txrxBuf =>
    refine .bind (ob.txrxData _ _ _ _ _ _) fun result => .pure fun s h => ?_
    obtain ⟨bytes, e, -⟩ := h
    rw [e]

end Obliging

end ModularControl.I2c
