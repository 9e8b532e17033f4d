import Mathlib.Data.Nat.Find
import ModularControl.I2c.Device

/-!
# The result of `i2c_tx_buf`

The loop over the data stops at the first NACK whose code is not taken for `I2C_TX_OK`. The codes
count up from `I2C_TX_ERR_DATA_NACK_BASE` in a `uint8_t`, so that they are as distinct as the
contract wants them for the first 253 bytes only.
-/

namespace ModularControl.I2c

/-- The address byte and the data. -/
def packet (slaveAddress : BitVec 8) (data : BitVec 8 → BitVec 8) (length : BitVec 8) :
    List (BitVec 8) :=
  i2cPrivAddrWr slaveAddress :: (List.range length.toNat).map fun k => data (BitVec.ofNat 8 k)

/-- The address is ACKed, and data byte `k` is the first that is not. -/
def FirstNack (nack : Nat → Bool) (length : BitVec 8) (k : Nat) : Prop :=
  k < length.toNat ∧ (∀ j ≤ k, nack j = false) ∧ nack (k + 1) = true

/-- What a caller may conclude from the result, the bytes `sent` being on the bus by then. -/
structure TxContract (nack : Nat → Bool) (length result : BitVec 8) (sent : List (BitVec 8)) :
    Prop where
  ok : result = I2C_TX_OK ↔ ∀ j ≤ length.toNat, nack j = false
  addrNack : result = I2C_TX_ERR_ADDR_NACK ↔ nack 0 = true
  dataNack : ∀ k, FirstNack nack length k →
    result.toNat = I2C_TX_ERR_DATA_NACK_BASE.toNat + k ∧
      result ∉ [I2C_TX_OK, I2C_TX_ERR_CMD, I2C_TX_ERR_ADDR_NACK]
  /-- Nothing is sent after a NACK. -/
  stops : ∀ j < sent.length, nack j = true → j + 1 = sent.length

namespace Device

variable {sl : Slave} {d : Device}

/-- The bus is held, and the core is ready. -/
def Held (d : Device) : Prop := d.running = none ∧ d.idle = false

variable {slaveAddress : BitVec 8} {data : BitVec 8 → BitVec 8} {length : BitVec 8}

/-- A byte that is ACKed. -/
lemma byte_acked (held : d.Held) (budget : ∀ k, sl.delay k + 1 < I2C_TIMEOUT_LOOPS)
    (ack : sl.nack d.sent.length = false) (byte nackCode : BitVec 8) :
    (i2cPrivWritePhaseByte sl.mmio byte nackCode).run d = (I2C_TX_OK, d.written sl byte) := by
  rw [writePhaseByte_run held budget, ack, if_neg Bool.false_ne_true]

/-- After it the driver goes on. -/
lemma ok_goes_on : (I2C_TX_OK != I2C_TX_OK) = false := by decide

/-- The `i`-th byte of the data is the next of the packet. -/
lemma packet_take {i : Nat} (lt : i < length.toNat) :
    (packet slaveAddress data length).take (i + 1) ++ [data (BitVec.ofNat 8 i)] =
      (packet slaveAddress data length).take (i + 2) := by
  rw [List.take_add_one (i := i + 1), packet, List.getElem?_cons_succ, List.getElem?_map,
    List.getElem?_range lt]
  rfl

lemma packet_length : (packet slaveAddress data length).length = length.toNat + 1 := by
  simp [packet]

/-- `n` bytes of the packet are on the bus. -/
def Sent (d : Device) (slaveAddress : BitVec 8) (data : BitVec 8 → BitVec 8) (length : BitVec 8)
    (n : Nat) : Prop :=
  n ≤ length.toNat + 1 ∧ d.sent = (packet slaveAddress data length).take n

lemma Sent.count {n : Nat} (sent : d.Sent slaveAddress data length n) : d.sent.length = n := by
  rw [sent.2, List.length_take, packet_length]
  exact Nat.min_eq_left sent.1

lemma Sent.written (sl : Slave) {i : Nat} (sent : d.Sent slaveAddress data length (i + 1))
    (lt : i < length.toNat) :
    (d.written sl (data (BitVec.ofNat 8 i))).Sent slaveAddress data length (i + 2) := by
  refine ⟨by omega, ?_⟩
  rw [← packet_take lt, ← sent.2]
  rfl

lemma index_lt {i : Nat} : BitVec.ofNat 8 i < length ↔ i % 256 < length.toNat := by
  rw [BitVec.lt_def, BitVec.toNat_ofNat]

/-- One turn of the loop. -/
lemma loop_turn {i n : Nat} (held : d.Held) (sent : d.Sent slaveAddress data length (i + 1))
    (lt : i < length.toNat) (budget : ∀ k, sl.delay k + 1 < I2C_TIMEOUT_LOOPS) :
    ((sl.nack (i + 1) = true → i2cPrivDataNackFlag (BitVec.ofNat 8 i) = I2C_TX_OK) →
      (i2cTxBufLoop sl.mmio data length (n + 1) (BitVec.ofNat 8 i)).run d =
        (i2cTxBufLoop sl.mmio data length n (BitVec.ofNat 8 (i + 1))).run
          (d.written sl (data (BitVec.ofNat 8 i)))) ∧
    (sl.nack (i + 1) = true → i2cPrivDataNackFlag (BitVec.ofNat 8 i) ≠ I2C_TX_OK →
      ∃ d', (i2cTxBufLoop sl.mmio data length (n + 1) (BitVec.ofNat 8 i)).run d =
        (some (i2cPrivDataNackFlag (BitVec.ofNat 8 i)), d') ∧
          d'.Sent slaveAddress data length (i + 2)) := by
  have within : BitVec.ofNat 8 i < length := by
    have := length.isLt
    rw [index_lt, Nat.mod_eq_of_lt (by omega)]
    exact lt
  have byte := writePhaseByte_run held budget (data (BitVec.ofNat 8 i))
    (i2cPrivDataNackFlag (BitVec.ofNat 8 i))
  rw [sent.count] at byte
  constructor
  · intro taken
    have status : (if sl.nack (i + 1) then i2cPrivDataNackFlag (BitVec.ofNat 8 i) else I2C_TX_OK) =
        I2C_TX_OK := by
      split_ifs with nack
      · exact taken nack
      · rfl
    rw [status] at byte
    rw [i2cTxBufLoop, if_pos within, bind_run byte, BitVec.ofNat_add]
    rfl
  · intro nack code
    rw [nack, if_pos rfl] at byte
    have next := sent.written sl lt
    obtain ⟨d', abort, same⟩ := abortToIdle_run
      (d := d.written sl (data (BitVec.ofNat 8 i))) ⟨rfl, held.2⟩ budget
    rw [i2cTxBufLoop, if_pos within, bind_run byte, if_pos (bne_iff_ne.mpr code), bind_run abort]
    exact ⟨d', rfl, next.1, same.trans next.2⟩

/-- As long as the bytes are ACKed, or a NACK is taken for an ACK, the loop goes on. -/
lemma loop_goes_on (budget : ∀ k, sl.delay k + 1 < I2C_TIMEOUT_LOOPS) {i m n : Nat} (held : d.Held)
    (sent : d.Sent slaveAddress data length (i + 1)) (le : i + m ≤ length.toNat)
    (taken : ∀ j, i ≤ j → j < i + m → sl.nack (j + 1) = true →
      i2cPrivDataNackFlag (BitVec.ofNat 8 j) = I2C_TX_OK) :
    ∃ d' : Device, d'.Held ∧ d'.Sent slaveAddress data length (i + m + 1) ∧
      (i2cTxBufLoop sl.mmio data length (n + m) (BitVec.ofNat 8 i)).run d =
        (i2cTxBufLoop sl.mmio data length n (BitVec.ofNat 8 (i + m))).run d' := by
  induction m generalizing i d with
  | zero => exact ⟨d, held, sent, rfl⟩
  | succ m ih =>
    have lt : i < length.toNat := by omega
    have turn := (loop_turn (n := n + m) held sent lt budget).1
      (taken i (Nat.le_refl i) (by omega))
    obtain ⟨d', held', sent', run⟩ := ih (i := i + 1) (d := d.written sl (data (BitVec.ofNat 8 i)))
      ⟨rfl, held.2⟩ (sent.written sl lt) (by omega) (fun j ge lt => taken j (by omega) (by omega))
    rw [Nat.add_right_comm i 1 m] at sent' run
    exact ⟨d', held', sent', turn.trans run⟩

lemma stop_runs (held : d.Held) (budget : ∀ k, sl.delay k + 1 < I2C_TIMEOUT_LOOPS) :
    ∃ d', (i2cTxBufStop sl.mmio).run d = (I2C_TX_OK, d') ∧ d'.sent = d.sent := by
  obtain ⟨ready, idle⟩ := held
  have idle_ready : (i2cPrivWaitIdleReady sl.mmio).run (d.clear.clear.launch sl .stop) =
      (true, Device.complete sl { d.clear.clear with launched := d.launched + 1 } .stop) :=
    waitIdleReady_busy (d := { d.clear.clear with launched := d.launched + 1 }) (budget d.launched)
      rfl
  rw [i2cTxBufStop, bind_run (waitCmdReady_run ready), Bool.not_true, if_neg Bool.false_ne_true,
    bind_run clear_run, bind_run (stop_run (d := d.clear) ready idle), if_neg Bool.false_ne_true,
    bind_run idle_ready]
  exact ⟨_, rfl, rfl⟩

/-- The opening does not depend on the slave. -/
lemma opening_run (ready : d.running = none) (idle : d.idle = true)
    (budget : ∀ k, sl.delay k + 1 < I2C_TIMEOUT_LOOPS) :
    ∃ d' : Device, d'.Held ∧ d'.sent = [] ∧ (i2cOpening sl.mmio).run d = (true, d') := by
  have wait : (i2cPrivWaitCmdReady sl.mmio).run (d.clear.clear.launch sl .start) =
      (true, Device.complete sl { d.clear.clear with launched := d.launched + 1 } .start) :=
    waitCmdReady_busy (d := { d.clear.clear with launched := d.launched + 1 }) (budget d.launched)
  rw [i2cOpening, bind_run (waitCmdReady_run ready), Bool.not_true, if_neg Bool.false_ne_true,
    bind_run clear_run, bind_run (start_run (d := d.clear) ready idle), if_neg Bool.false_ne_true,
    bind_run wait, Bool.not_true, if_neg Bool.false_ne_true, bind_run busIdle_run]
  exact ⟨_, ⟨rfl, rfl⟩, rfl, rfl⟩

lemma txBuf_run (slaveAddress : BitVec 8) (buffer : Option (BitVec 8 → BitVec 8))
    (valid : buffer = none → length = 0) (ready : d.running = none) (idle : d.idle = true)
    (budget : ∀ k, sl.delay k + 1 < I2C_TIMEOUT_LOOPS) :
    ∃ d' : Device, d'.Held ∧ d'.sent = [] ∧ (i2cTxBuf sl.mmio slaveAddress buffer length).run d =
      (i2cTxBufSend sl.mmio slaveAddress (buffer.getD fun _ => 0) length).run d' := by
  have readable : (buffer.isNone && length != 0) = false := by
    cases buffer with
    | none => rw [valid rfl]; rfl
    | some data => rfl
  obtain ⟨d', held, sent, opened⟩ := opening_run ready idle budget
  refine ⟨d', held, sent, ?_⟩
  rw [i2cTxBuf_eq, readable, if_neg Bool.false_ne_true, bind_run opened, if_pos rfl]

/-- The address byte, ACKed. -/
lemma address_acked (slaveAddress : BitVec 8) (data : BitVec 8 → BitVec 8) (length : BitVec 8)
    (held : d.Held) (sent : d.sent = [])
    (budget : ∀ k, sl.delay k + 1 < I2C_TIMEOUT_LOOPS) (ack : sl.nack 0 = false) :
    ∃ d' : Device, d'.Held ∧ d'.Sent slaveAddress data length 1 ∧
      (i2cTxBufSend sl.mmio slaveAddress data length).run d = (do
        match ← i2cTxBufLoop sl.mmio data length 256 0#8 with
        | some status => return status
        | none => i2cTxBufStop sl.mmio : StateM Device (BitVec 8)).run d' := by
  have byte := byte_acked held budget (by rw [sent]; exact ack) (i2cPrivAddrWr slaveAddress)
    I2C_TX_ERR_ADDR_NACK
  refine ⟨d.written sl (i2cPrivAddrWr slaveAddress), ⟨rfl, held.2⟩, ⟨by omega, ?_⟩, ?_⟩
  · rw [written, sent]
    rfl
  · rw [i2cTxBufSend, bind_run byte, ok_goes_on, if_neg Bool.false_ne_true]
    rfl

/-- A NACK of the address ends the transmission. -/
lemma send_addr_nack (held : d.Held) (sent : d.sent = [])
    (budget : ∀ k, sl.delay k + 1 < I2C_TIMEOUT_LOOPS) (nack : sl.nack 0 = true) :
    ∃ d' : Device, (i2cTxBufSend sl.mmio slaveAddress data length).run d =
      (I2C_TX_ERR_ADDR_NACK, d') ∧ d'.Sent slaveAddress data length 1 := by
  have byte := writePhaseByte_run held budget (i2cPrivAddrWr slaveAddress) I2C_TX_ERR_ADDR_NACK
  rw [sent, List.length_nil, nack, if_pos rfl] at byte
  obtain ⟨d', abort, same⟩ := abortToIdle_run
    (d := d.written sl (i2cPrivAddrWr slaveAddress)) ⟨rfl, held.2⟩ budget
  have stops : (I2C_TX_ERR_ADDR_NACK != I2C_TX_OK) = true := by decide
  rw [i2cTxBufSend, bind_run byte, stops, if_pos rfl, bind_run abort]
  refine ⟨d', rfl, by omega, ?_⟩
  rw [same, written, sent]
  rfl

/-- If no NACK stops the loop, the whole packet is sent. -/
lemma send_ok (slaveAddress : BitVec 8) (data : BitVec 8 → BitVec 8) {length : BitVec 8}
    (held : d.Held) (sent : d.sent = [])
    (budget : ∀ k, sl.delay k + 1 < I2C_TIMEOUT_LOOPS) (ack : sl.nack 0 = false)
    (taken : ∀ j < length.toNat, sl.nack (j + 1) = true →
      i2cPrivDataNackFlag (BitVec.ofNat 8 j) = I2C_TX_OK) :
    ∃ d' : Device, (i2cTxBufSend sl.mmio slaveAddress data length).run d = (I2C_TX_OK, d') ∧
      d'.Sent slaveAddress data length (length.toNat + 1) := by
  obtain ⟨d₁, held₁, sent₁, run₁⟩ := address_acked slaveAddress data length held sent budget ack
  have size := length.isLt
  obtain ⟨d₂, held₂, sent₂, run₂⟩ := loop_goes_on (i := 0) (m := length.toNat)
    (n := 255 - length.toNat + 1) budget held₁ sent₁ (by omega) (fun j _ lt => taken j (by omega))
  have exits : (i2cTxBufLoop sl.mmio data length (255 - length.toNat + 1)
      (BitVec.ofNat 8 (0 + length.toNat))).run d₂ = (none, d₂) := by
    have past : ¬ BitVec.ofNat 8 (0 + length.toNat) < length := by
      rw [index_lt]
      omega
    rw [i2cTxBufLoop, if_neg past]
    rfl
  rw [show 255 - length.toNat + 1 + length.toNat = 256 by omega] at run₂
  obtain ⟨d₃, stop, same⟩ := stop_runs held₂ budget
  rw [run₁, bind_run (run₂.trans exits)]
  refine ⟨d₃, stop, Nat.le_refl _, ?_⟩
  rw [same, sent₂.2, Nat.zero_add]

/-- The first NACK of the data stops the loop, unless its code is taken for an ACK. -/
lemma send_data_nack (held : d.Held) (sent : d.sent = [])
    (budget : ∀ k, sl.delay k + 1 < I2C_TIMEOUT_LOOPS) {k : Nat}
    (first : FirstNack sl.nack length k)
    (code : i2cPrivDataNackFlag (BitVec.ofNat 8 k) ≠ I2C_TX_OK) :
    ∃ d' : Device, (i2cTxBufSend sl.mmio slaveAddress data length).run d =
      (i2cPrivDataNackFlag (BitVec.ofNat 8 k), d') ∧ d'.Sent slaveAddress data length (k + 2) := by
  obtain ⟨lt, acks, nack⟩ := first
  obtain ⟨d₁, held₁, sent₁, run₁⟩ :=
    address_acked slaveAddress data length held sent budget (acks 0 (Nat.zero_le k))
  have size := length.isLt
  obtain ⟨d₂, held₂, sent₂, run₂⟩ := loop_goes_on (i := 0) (m := k) (n := 255 - k + 1) budget held₁
    sent₁ (by omega) (fun j _ lt nack => by
      rw [acks (j + 1) (by omega)] at nack
      cases nack)
  rw [Nat.zero_add] at sent₂ run₂
  obtain ⟨d₃, run₃, sent₃⟩ := (loop_turn (n := 255 - k) held₂ sent₂ lt budget).2 nack code
  rw [show 255 - k + 1 + k = 256 by omega] at run₂
  rw [run₁, bind_run (run₂.trans run₃)]
  exact ⟨d₃, rfl, sent₃⟩

end Device

variable {nack : Nat → Bool} {length result : BitVec 8} {sent : List (BitVec 8)}

/-- The code of an index below 253 is that far above the base. -/
lemma dataNackFlag_toNat {k : Nat} (lt : k < 253) :
    (i2cPrivDataNackFlag (BitVec.ofNat 8 k)).toNat = I2C_TX_ERR_DATA_NACK_BASE.toNat + k := by
  have base : I2C_TX_ERR_DATA_NACK_BASE.toNat = 3 := rfl
  rw [i2cPrivDataNackFlag, BitVec.toNat_add, BitVec.toNat_ofNat, base]
  omega

/-- Such a code is none of the others. -/
lemma dataNackFlag_distinct {k : Nat} (lt : k < 253) : i2cPrivDataNackFlag (BitVec.ofNat 8 k) ∉
    [I2C_TX_OK, I2C_TX_ERR_CMD, I2C_TX_ERR_ADDR_NACK] := by
  have base : I2C_TX_ERR_DATA_NACK_BASE.toNat = 3 := rfl
  have far := dataNackFlag_toNat lt
  have small : ∀ r ∈ [I2C_TX_OK, I2C_TX_ERR_CMD, I2C_TX_ERR_ADDR_NACK], r.toNat < 3 := by decide
  intro mem
  have near := small _ mem
  omega

/-- Every pattern of ACKs is one of three. -/
lemma nack_cases (nack : Nat → Bool) (length : BitVec 8) :
    nack 0 = true ∨ (∃ k, FirstNack nack length k) ∨ ∀ j ≤ length.toNat, nack j = false := by
  by_cases some_ : ∃ j, j ≤ length.toNat ∧ nack j = true
  · have first := Nat.find_spec some_
    have before : ∀ j < Nat.find some_, nack j = false := by
      intro j lt
      have no := Nat.find_min some_ lt
      rw [not_and, Bool.not_eq_true] at no
      exact no (Nat.le_of_lt (Nat.lt_of_lt_of_le lt first.1))
    cases h : Nat.find some_ with
    | zero =>
      rw [h] at first
      exact .inl first.2
    | succ k =>
      rw [h] at first before
      exact .inr (.inl ⟨k, first.1, fun j le => before j (Nat.lt_succ_of_le le), first.2⟩)
  · refine .inr (.inr fun j le => ?_)
    rw [← Bool.not_eq_true]
    exact fun no => some_ ⟨j, le, no⟩

/-- There is one first NACK. -/
lemma FirstNack.unique {k k' : Nat} (h : FirstNack nack length k)
    (h' : FirstNack nack length k') : k = k' := by
  obtain ⟨-, acks, no⟩ := h
  obtain ⟨-, acks', no'⟩ := h'
  by_contra ne
  obtain lt | gt := Nat.lt_or_gt_of_ne ne
  · rw [acks' (k + 1) lt] at no
    cases no
  · rw [acks (k' + 1) gt] at no'
    cases no'

lemma contract_addr_nack (no : nack 0 = true) (one : sent.length = 1) :
    TxContract nack length I2C_TX_ERR_ADDR_NACK sent where
  ok := by
    refine ⟨fun e => absurd e (by decide), fun acks => ?_⟩
    rw [acks 0 (Nat.zero_le _)] at no
    cases no
  addrNack := ⟨fun _ => no, fun _ => rfl⟩
  dataNack k first := by
    rw [first.2.1 0 (Nat.zero_le k)] at no
    cases no
  stops j lt _ := by omega

lemma contract_ok (acks : ∀ j ≤ length.toNat, nack j = false)
    (all : sent.length = length.toNat + 1) : TxContract nack length I2C_TX_OK sent where
  ok := ⟨fun _ => acks, fun _ => rfl⟩
  addrNack := by
    refine ⟨fun e => absurd e (by decide), fun no => ?_⟩
    rw [acks 0 (Nat.zero_le _)] at no
    cases no
  dataNack k first := by
    have no := first.2.2
    rw [acks (k + 1) first.1] at no
    cases no
  stops j lt no := by
    rw [acks j (by omega)] at no
    cases no

lemma contract_data_nack {k : Nat} (first : FirstNack nack length k) (lt : k < 253)
    (count : sent.length = k + 2) :
    TxContract nack length (i2cPrivDataNackFlag (BitVec.ofNat 8 k)) sent := by
  have distinct := dataNackFlag_distinct lt
  have not_ok : i2cPrivDataNackFlag (BitVec.ofNat 8 k) ≠ I2C_TX_OK := fun e =>
    distinct (e ▸ List.mem_cons_self)
  have not_addr : i2cPrivDataNackFlag (BitVec.ofNat 8 k) ≠ I2C_TX_ERR_ADDR_NACK := by
    intro e
    rw [e] at distinct
    exact distinct (by decide)
  obtain ⟨within, acks, no⟩ := first
  refine ⟨⟨fun e => absurd e not_ok, fun acks' => ?_⟩, ⟨fun e => absurd e not_addr, fun no' => ?_⟩,
    fun k' first' => ?_, fun j lt' no' => ?_⟩
  · rw [acks' (k + 1) within] at no
    cases no
  · rw [acks 0 (Nat.zero_le k)] at no'
    cases no'
  · obtain rfl := FirstNack.unique ⟨within, acks, no⟩ first'
    exact ⟨dataNackFlag_toNat lt, distinct⟩
  · have last : ¬ j ≤ k := by
      intro le
      rw [acks j le] at no'
      cases no'
    omega

/-- For every address, buffer, length and pattern of ACKs, and whatever time the commands take
    within the driver's patience: the contract holds exactly if the first NACK of the data, if there
    is one, comes before byte 253. -/
theorem txBuf_contract_iff (sl : Slave) (d : Device) (ready : d.running = none)
    (idle : d.idle = true) (budget : ∀ k, sl.delay k + 1 < I2C_TIMEOUT_LOOPS)
    (slaveAddress : BitVec 8) (buffer : Option (BitVec 8 → BitVec 8)) (length : BitVec 8)
    (valid : buffer = none → length = 0) :
    TxContract sl.nack length ((i2cTxBuf sl.mmio slaveAddress buffer length).run d).1
        ((i2cTxBuf sl.mmio slaveAddress buffer length).run d).2.sent ↔
      ∀ k, FirstNack sl.nack length k → k < 253 := by
  constructor
  · intro contract k first
    have exact_ := (contract.dataNack k first).1
    have byte := ((i2cTxBuf sl.mmio slaveAddress buffer length).run d).1.isLt
    have base : I2C_TX_ERR_DATA_NACK_BASE.toNat = 3 := rfl
    omega
  · intro early
    obtain ⟨d₁, held, sent, run⟩ := Device.txBuf_run slaveAddress buffer valid ready idle
      budget
    rw [run]
    obtain no | ⟨k, first⟩ | acks := nack_cases sl.nack length
    · obtain ⟨d', run', sent'⟩ := Device.send_addr_nack held sent budget no
      rw [run']
      exact contract_addr_nack no sent'.count
    · have lt := early k first
      have code : i2cPrivDataNackFlag (BitVec.ofNat 8 k) ≠ I2C_TX_OK := fun e =>
        dataNackFlag_distinct lt (e ▸ List.mem_cons_self)
      obtain ⟨d', run', sent'⟩ := Device.send_data_nack held sent budget first code
      rw [run']
      exact contract_data_nack first lt sent'.count
    · have taken : ∀ j < length.toNat, sl.nack (j + 1) = true →
          i2cPrivDataNackFlag (BitVec.ofNat 8 j) = I2C_TX_OK := by
        intro j lt no
        rw [acks (j + 1) lt] at no
        cases no
      obtain ⟨d', run', sent'⟩ :=
        Device.send_ok slaveAddress _ held sent budget (acks 0 (Nat.zero_le _)) taken
      rw [run']
      exact contract_ok acks sent'.count

/-- An idle core after reset. -/
def Device.fresh : Device where
  running := none
  idle := true
  txdata := 0
  done := false
  ackValid := false
  ack := false
  rdDataValid := false
  cmdIllegal := false
  launched := 0
  sent := []

/-- The second of three bytes is NACKed. -/
theorem txBuf_contract_second :
    let sl : Slave := { nack := fun j => j == 2, delay := fun _ => 40 }
    TxContract sl.nack 3 ((i2cTxBuf sl.mmio 0x50 (some fun i => i) 3).run .fresh).1
      ((i2cTxBuf sl.mmio 0x50 (some fun i => i) 3).run .fresh).2.sent := by
  intro sl
  have budget : ∀ k, sl.delay k + 1 < I2C_TIMEOUT_LOOPS :=
    fun _ => (by decide : 40 + 1 < I2C_TIMEOUT_LOOPS)
  refine (txBuf_contract_iff sl .fresh rfl rfl budget 0x50 (some fun i => i) 3
    (fun e => by cases e)).mpr fun k first => ?_
  have short : k < 3 := first.1
  omega

/-- The last of 254 bytes is NACKed: its code is `I2C_TX_OK`. -/
theorem txBuf_nack_reported_ok :
    let sl : Slave := { nack := fun j => j == 254, delay := fun _ => 40 }
    ((i2cTxBuf sl.mmio 0x50 (some fun i => i) 254).run .fresh).1 = I2C_TX_OK ∧
      FirstNack sl.nack 254 253 ∧
      ¬ TxContract sl.nack 254 ((i2cTxBuf sl.mmio 0x50 (some fun i => i) 254).run .fresh).1
        ((i2cTxBuf sl.mmio 0x50 (some fun i => i) 254).run .fresh).2.sent := by
  intro sl
  have first : FirstNack sl.nack 254 253 := by
    refine ⟨by decide, fun j le => ?_, rfl⟩
    exact beq_eq_false_iff_ne.mpr (by omega)
  refine ⟨?_, first, fun contract => ?_⟩
  · have budget : ∀ k, sl.delay k + 1 < I2C_TIMEOUT_LOOPS :=
      fun _ => (by decide : 40 + 1 < I2C_TIMEOUT_LOOPS)
    have idle : Device.fresh.running = none ∧ Device.fresh.idle = true := ⟨rfl, rfl⟩
    have taken : ∀ j < (254 : BitVec 8).toNat, sl.nack (j + 1) = true →
        i2cPrivDataNackFlag (BitVec.ofNat 8 j) = I2C_TX_OK := by
      intro j _ no
      have last : j = 253 := by simpa [sl] using no
      rw [last]
      rfl
    obtain ⟨d₁, held, sent, run⟩ := Device.txBuf_run 0x50 (some fun i => i)
      (fun e => by cases e) idle.1 idle.2 budget
    obtain ⟨d', run', -⟩ := Device.send_ok 0x50 (fun i => i) held sent budget rfl taken
    exact congrArg Prod.fst (run.trans run')
  · have code := (contract.dataNack 253 first).1
    have byte := ((i2cTxBuf sl.mmio 0x50 (some fun i => i) 254).run .fresh).1.isLt
    have base : I2C_TX_ERR_DATA_NACK_BASE.toNat = 3 := rfl
    omega

end ModularControl.I2c
