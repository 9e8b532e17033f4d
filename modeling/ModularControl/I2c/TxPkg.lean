import ModularControl.I2c.TxBuf

/-!
# Strings

`i2c_tx_pkg` has no bound but the null character of its string, and finds the characters with a
`uint8_t`. A string of 256 characters or more goes round: the index comes back to 0 before it has
reached the null character, and the call never returns.
-/

namespace ModularControl.I2c

/-- A string is in the memory from `i` on, up to a null character. -/
def IsString (memory : Nat → BitVec 8) : Nat → List (BitVec 8) → Prop
  | i, [] => memory i = 0
  | i, c :: str => memory i = c ∧ c ≠ 0 ∧ IsString memory (i + 1) str

instance IsString.decidable (memory : Nat → BitVec 8) :
    ∀ i str, Decidable (IsString memory i str)
  | _, [] => inferInstanceAs (Decidable (_ = _))
  | i, _ :: str =>
    have := IsString.decidable memory (i + 1) str
    inferInstanceAs (Decidable (_ ∧ _ ∧ _))

/-- `msg[index]` with a `uint8_t` index. -/
def indexed (memory : Nat → BitVec 8) (index : BitVec 8) : BitVec 8 := memory index.toNat

/-- `i2c_tx_pkg` returns `I2C_TX_OK`, with enough turns of its loop and with any more, and has put
    the address and the string on the bus. -/
def SendsString (sl : Slave) (d : Device) (slaveAddress : BitVec 8) (memory : Nat → BitVec 8)
    (str : List (BitVec 8)) : Prop :=
  ∃ turns d', d'.sent = i2cPrivAddrWr slaveAddress :: str ∧
    ∀ fuel ≥ turns, (i2cTxPkg sl.mmio fuel slaveAddress (some (indexed memory))).run d =
      (some I2C_TX_OK, d')

namespace Device

variable {sl : Slave} {d : Device} {memory : Nat → BitVec 8} {str : List (BitVec 8)} {i : Nat}

lemma index_toNat (lt : i < 256) : (BitVec.ofNat 8 i).toNat = i := by
  rw [BitVec.toNat_ofNat]
  exact Nat.mod_eq_of_lt lt

/-- A turn of the loop that finds a character. -/
lemma txPkgLoop_turn (acks : ∀ k, sl.nack k = false)
    (budget : ∀ k, sl.delay k + 1 < I2C_TIMEOUT_LOOPS) (held : d.Held) {msg : BitVec 8 → BitVec 8}
    {index : BitVec 8} (char : msg index ≠ 0) (fuel : Nat) :
    (i2cTxPkgLoop sl.mmio msg (fuel + 1) index).run d =
      (i2cTxPkgLoop sl.mmio msg fuel (index + 1)).run (d.written sl (msg index)) := by
  have more : (msg index == 0) = false := beq_eq_false_iff_ne.mpr char
  rw [i2cTxPkgLoop, more, if_neg Bool.false_ne_true,
    bind_run (byte_acked held budget (acks _) _ _), ok_goes_on, if_neg Bool.false_ne_true]

/-- The loop sends the string from its index on, if the index gets as far as the null character. -/
lemma txPkgLoop_sends (acks : ∀ k, sl.nack k = false)
    (budget : ∀ k, sl.delay k + 1 < I2C_TIMEOUT_LOOPS) (held : d.Held)
    (string : IsString memory i str) (short : i + str.length ≤ 255) :
    ∃ d' : Device, d'.Held ∧ d'.sent = d.sent ++ str ∧ ∀ fuel > str.length,
      (i2cTxPkgLoop sl.mmio (indexed memory) fuel (BitVec.ofNat 8 i)).run d = (some none, d') := by
  induction str generalizing i d with
  | nil =>
    have lt : i < 256 := Nat.lt_succ_of_le short
    have null : (indexed memory (BitVec.ofNat 8 i) == 0) = true := by
      rw [indexed, index_toNat lt, beq_iff_eq]
      exact string
    refine ⟨d, held, (List.append_nil _).symm, fun fuel enough => ?_⟩
    obtain ⟨fuel, rfl⟩ := Nat.exists_eq_add_one_of_ne_zero (Nat.ne_of_gt enough)
    rw [i2cTxPkgLoop, null, if_pos rfl]
    rfl
  | cons c str ih =>
    obtain ⟨char, ne, rest⟩ := string
    rw [List.length_cons] at short
    have at_i : indexed memory (BitVec.ofNat 8 i) = c := by
      rw [indexed, index_toNat (by omega), char]
    obtain ⟨d', held', sent, run⟩ := ih (d := d.written sl c) ⟨rfl, held.2⟩ rest (by omega)
    refine ⟨d', held', ?_, fun fuel enough => ?_⟩
    · rw [sent, written, List.append_assoc]
      rfl
    · obtain ⟨fuel, rfl⟩ := Nat.exists_eq_add_one_of_ne_zero (Nat.ne_zero_of_lt enough)
      have turn := txPkgLoop_turn acks budget held (at_i ▸ ne) fuel
      rw [turn, at_i, ← run fuel (Nat.lt_of_succ_lt_succ enough), BitVec.ofNat_add]
      rfl

/-- A loop that finds characters only does not end. -/
lemma txPkgLoop_endless (acks : ∀ k, sl.nack k = false)
    (budget : ∀ k, sl.delay k + 1 < I2C_TIMEOUT_LOOPS) (held : d.Held) {msg : BitVec 8 → BitVec 8}
    (chars : ∀ index, msg index ≠ 0) (fuel : Nat) (index : BitVec 8) :
    ((i2cTxPkgLoop sl.mmio msg fuel index).run d).1 = none := by
  induction fuel generalizing index d with
  | zero => rfl
  | succ fuel ih =>
    rw [txPkgLoop_turn acks budget held (chars index)]
    exact ih (d := d.written sl (msg index)) ⟨rfl, held.2⟩ _

/-- From the loop on `i2c_tx_pkg` is that, with the address on the bus. -/
lemma txPkg_run (acks : ∀ k, sl.nack k = false) (ready : d.running = none) (idle : d.idle = true)
    (budget : ∀ k, sl.delay k + 1 < I2C_TIMEOUT_LOOPS) (slaveAddress : BitVec 8)
    (msg : BitVec 8 → BitVec 8) :
    ∃ d' : Device, d'.Held ∧ d'.sent = [i2cPrivAddrWr slaveAddress] ∧
      ∀ fuel, (i2cTxPkg sl.mmio fuel slaveAddress (some msg)).run d = (do
        match ← i2cTxPkgLoop sl.mmio msg fuel 0#8 with
        | none => return none
        | some (some status) => return some status
        | some none => return some (← i2cTxBufStop sl.mmio) :
          StateM Device (Option (BitVec 8))).run d' := by
  obtain ⟨d₁, held, sent, opened⟩ := opening_run ready idle budget
  have byte := byte_acked held budget (acks _) (i2cPrivAddrWr slaveAddress) I2C_TX_ERR_ADDR_NACK
  refine ⟨d₁.written sl (i2cPrivAddrWr slaveAddress), ⟨rfl, held.2⟩, ?_, fun fuel => ?_⟩
  · rw [written, sent]
    rfl
  · rw [i2cTxPkg, bind_run opened, Bool.not_true, if_neg Bool.false_ne_true, bind_run byte,
      ok_goes_on, if_neg Bool.false_ne_true]
    rfl

end Device

/-- The characters of a string are not null. -/
lemma IsString.ne_null {memory : Nat → BitVec 8} {str : List (BitVec 8)} {i k : Nat}
    (string : IsString memory i str) (lt : k < str.length) : memory (i + k) ≠ 0 := by
  induction str generalizing i k with
  | nil => cases lt
  | cons c str ih =>
    obtain ⟨char, ne, rest⟩ := string
    cases k with
    | zero =>
      rw [Nat.add_zero, char]
      exact ne
    | succ k =>
      rw [Nat.add_succ, ← Nat.succ_add]
      exact ih rest (Nat.lt_of_succ_lt_succ lt)

section Device

variable {sl : Slave} {d : Device} {memory : Nat → BitVec 8} {str : List (BitVec 8)}

/-- A string of at most 255 characters is sent. -/
lemma txPkg_sends (acks : ∀ k, sl.nack k = false) (ready : d.running = none) (idle : d.idle = true)
    (budget : ∀ k, sl.delay k + 1 < I2C_TIMEOUT_LOOPS) (slaveAddress : BitVec 8)
    (string : IsString memory 0 str) (short : str.length ≤ 255) :
    SendsString sl d slaveAddress memory str := by
  obtain ⟨d₁, held, sent, run⟩ := Device.txPkg_run acks ready idle budget slaveAddress
    (indexed memory)
  have from_zero : 0 + str.length ≤ 255 := by rw [Nat.zero_add]; exact short
  obtain ⟨d₂, held₂, sent₂, loop⟩ := Device.txPkgLoop_sends acks budget held string from_zero
  obtain ⟨d₃, stop, same⟩ := Device.stop_runs held₂ budget
  refine ⟨str.length + 1, d₃, ?_, fun fuel enough => ?_⟩
  · rw [same, sent₂, sent]
    rfl
  · rw [run, bind_run (loop fuel enough)]
    exact bind_run stop

/-- Of a longer one no number of turns reaches the end. -/
lemma txPkg_endless (acks : ∀ k, sl.nack k = false) (ready : d.running = none)
    (idle : d.idle = true) (budget : ∀ k, sl.delay k + 1 < I2C_TIMEOUT_LOOPS)
    (slaveAddress : BitVec 8) (string : IsString memory 0 str) (long : 256 ≤ str.length)
    (fuel : Nat) :
    ((i2cTxPkg sl.mmio fuel slaveAddress (some (indexed memory))).run d).1 = none := by
  obtain ⟨d₁, held, -, run⟩ := Device.txPkg_run acks ready idle budget slaveAddress (indexed memory)
  have chars : ∀ index, indexed memory index ≠ 0 := by
    intro index
    have lt := index.isLt
    have ne := string.ne_null (k := index.toNat) (by omega)
    rw [Nat.zero_add] at ne
    exact ne
  have endless := Device.txPkgLoop_endless acks budget held chars fuel 0#8
  rw [run, bind_run (Prod.ext endless rfl)]
  rfl

end Device

/-- For every address and string, a slave that ACKs every byte, and whatever time the commands take
    within the driver's patience: `i2c_tx_pkg` sends the string exactly if it has at most 255
    characters. -/
theorem txPkg_sends_iff (sl : Slave) (acks : ∀ k, sl.nack k = false) (d : Device)
    (ready : d.running = none) (idle : d.idle = true)
    (budget : ∀ k, sl.delay k + 1 < I2C_TIMEOUT_LOOPS) (slaveAddress : BitVec 8)
    (memory : Nat → BitVec 8) (str : List (BitVec 8)) (string : IsString memory 0 str) :
    SendsString sl d slaveAddress memory str ↔ str.length ≤ 255 := by
  constructor
  · rintro ⟨turns, d', -, returns⟩
    by_contra long
    have endless := txPkg_endless acks ready idle budget slaveAddress string (by omega) turns
    rw [returns turns (Nat.le_refl turns)] at endless
    cases endless
  · exact txPkg_sends acks ready idle budget slaveAddress string

/-- A slave that ACKs, and that makes the driver wait for every command. -/
def acking : Slave := ⟨fun _ => false, fun _ => 40⟩

lemma acking_budget (k : Nat) : acking.delay k + 1 < I2C_TIMEOUT_LOOPS :=
  show 40 + 1 < I2C_TIMEOUT_LOOPS by decide

/-- `n` times the letter `A`, and the null character. -/
def letters (n k : Nat) : BitVec 8 := if k < n then 0x41 else 0

theorem txPkg_sends_two :
    SendsString acking .fresh 0x50 (letters 2) [0x41, 0x41] ↔ [0x41#8, 0x41#8].length ≤ 255 :=
  txPkg_sends_iff acking (fun _ => rfl) .fresh rfl rfl acking_budget 0x50 (letters 2) [0x41, 0x41]
    (by decide)

/-- A string of 256 characters: the call does not return. -/
theorem txPkg_wraps :
    IsString (letters 256) 0 (List.replicate 256 0x41) ∧
      ¬ SendsString acking .fresh 0x50 (letters 256) (List.replicate 256 0x41) ∧
      ∀ fuel, ((i2cTxPkg acking.mmio fuel 0x50 (some (indexed (letters 256)))).run .fresh).1 =
        none := by
  have string : IsString (letters 256) 0 (List.replicate 256 0x41) := by decide +kernel
  have endless : ∀ fuel, ((i2cTxPkg acking.mmio fuel 0x50
      (some (indexed (letters 256)))).run .fresh).1 = none :=
    txPkg_endless (fun _ => rfl) rfl rfl acking_budget 0x50 string
      (Nat.le_of_eq List.length_replicate.symm)
  refine ⟨string, ?_, endless⟩
  rintro ⟨turns, d', -, returns⟩
  have ended := endless turns
  rw [returns turns (Nat.le_refl turns)] at ended
  cases ended

end ModularControl.I2c
