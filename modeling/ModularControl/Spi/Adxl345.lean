import ModularControl.Spi.PortBlocking

/-!
# The accelerometer

`adxl345.c`, the register accesses of an ADXL345, each made of transactions on the SPI bus. A
`Frame` is one transaction with the bytes received meanwhile. What an operation does and what it
returns is told by the frames alone (`Performs`), and every operation of the driver on the port puts
exactly its frames on the bus.
-/

namespace ModularControl.Spi
open Sync Axi

/-! ## The driver -/

def ADXL345_REG_DEVID : BitVec 8 := 0x00
def ADXL345_REG_BW_RATE : BitVec 8 := 0x2C
def ADXL345_REG_POWER_CTL : BitVec 8 := 0x2D
def ADXL345_REG_DATA_FORMAT : BitVec 8 := 0x31
def ADXL345_REG_DATAX0 : BitVec 8 := 0x32
def ADXL345_DEVID_VALUE : BitVec 8 := 0xE5
def ADXL345_SPI_READ_BIT : BitVec 8 := 0x80
def ADXL345_SPI_MB_BIT : BitVec 8 := 0x40
def ADXL345_SPI_ADDR_MASK : BitVec 8 := 0x3F
def ADXL345_RATE_100_HZ : BitVec 8 := 0x0A
def ADXL345_POWER_CTL_MEASURE : BitVec 8 := 1 <<< 3

/-- `adxl345_status_t`. -/
inductive Adxl345Status where
  | ok
  | errNullPtr
  | errDataFormat
  | errDevid
deriving DecidableEq, Repr

/-- `adxl345_raw_xyz_t`. -/
structure Adxl345RawXyz where
  x : BitVec 16
  y : BitVec 16
  z : BitVec 16
deriving DecidableEq, Repr

/-- The memory behind a buffer, by its `uint32_t` index. -/
abbrev Buffer : Type := BitVec 32 → BitVec 8

def adxl345SpiCmd (reg : BitVec 8) (isRead multiByte : Bool) : BitVec 8 :=
  let cmd := reg &&& ADXL345_SPI_ADDR_MASK
  let cmd := if isRead then cmd ||| ADXL345_SPI_READ_BIT else cmd
  if multiByte then cmd ||| ADXL345_SPI_MB_BIT else cmd

section Driver

variable {σ : Type} (m : Volatile σ) (fuel : Nat)

def adxl345WriteReg (reg value : BitVec 8) : OptionT (StateM σ) Adxl345Status := do
  let _ ← spiTransferByteBlocking m fuel (adxl345SpiCmd reg false false) false
  let _ ← spiTransferByteBlocking m fuel value true
  return .ok

/-- A pointer is what the memory holds behind it, `none` the null pointer; it is returned with what
    the memory holds then. -/
def adxl345ReadReg (reg : BitVec 8) (value : Option (BitVec 8)) :
    OptionT (StateM σ) (Adxl345Status × Option (BitVec 8)) := do
  if value.isNone then
    return (.errNullPtr, none)
  let _ ← spiTransferByteBlocking m fuel (adxl345SpiCmd reg true false) false
  let byte ← spiTransferByteBlocking m fuel 0x00 true
  return (.ok, some byte)

/-- The loop over the data bytes, from `i` on; it counts to `len`. -/
def adxl345ReadRegsLoop (len : BitVec 32) : Nat → BitVec 32 → Buffer → OptionT (StateM σ) Buffer
  | 0, _, buf => return buf
  | n + 1, i, buf => do
    if i < len then
      let finalByte := i == len - 1
      let byte ← spiTransferByteBlocking m fuel 0x00 finalByte
      adxl345ReadRegsLoop len n (i + 1) (Function.update buf i byte)
    else return buf

def adxl345ReadRegs (startReg : BitVec 8) (buf : Option Buffer) (len : BitVec 32) :
    OptionT (StateM σ) (Adxl345Status × Option Buffer) := do
  match buf with
  | none => return (.errNullPtr, none)
  | some memory =>
    if len == 0 then
      return (.errNullPtr, some memory)
    let _ ← spiTransferByteBlocking m fuel (adxl345SpiCmd startReg true (1 < len)) false
    let memory ← adxl345ReadRegsLoop m fuel len len.toNat 0 memory
    return (.ok, some memory)

def adxl345ReadDeviceId (devid : Option (BitVec 8)) :
    OptionT (StateM σ) (Adxl345Status × Option (BitVec 8)) :=
  adxl345ReadReg m fuel ADXL345_REG_DEVID devid

def adxl345SetBwRate (bwRate : BitVec 8) : OptionT (StateM σ) Adxl345Status :=
  adxl345WriteReg m fuel ADXL345_REG_BW_RATE bwRate

def adxl345SetDataFormat (dataFormat : BitVec 8) : OptionT (StateM σ) Adxl345Status :=
  adxl345WriteReg m fuel ADXL345_REG_DATA_FORMAT dataFormat

def adxl345SetMeasure (enable : Bool) : OptionT (StateM σ) Adxl345Status :=
  let powerCtl := if enable then ADXL345_POWER_CTL_MEASURE else 0x00
  adxl345WriteReg m fuel ADXL345_REG_POWER_CTL powerCtl

/-- `(int16_t)((uint16_t)lo | ((uint16_t)hi << 8))` -/
def axis (lo hi : BitVec 8) : BitVec 16 := lo.setWidth 16 ||| (hi.setWidth 16 <<< 8)

/-- `memory` is what the stack holds where `buf` comes to lie. -/
def adxl345ReadXyzRaw (memory : Buffer) (xyz : Option Adxl345RawXyz) :
    OptionT (StateM σ) (Adxl345Status × Option Adxl345RawXyz) := do
  if xyz.isNone then
    return (.errNullPtr, none)
  let (_, buf) ← adxl345ReadRegs m fuel ADXL345_REG_DATAX0 (some memory) 6
  let buf := buf.getD memory
  return (.ok, some ⟨axis (buf 0) (buf 1), axis (buf 2) (buf 3), axis (buf 4) (buf 5)⟩)

/-- `memory` is what the stack holds where `value` comes to lie. -/
def adxl345InitDefault (memory : BitVec 8) : OptionT (StateM σ) Adxl345Status := do
  let _ ← adxl345WriteReg m fuel ADXL345_REG_DATA_FORMAT 0x00
  let (_, value) ← adxl345ReadReg m fuel ADXL345_REG_DATA_FORMAT (some memory)
  let value := value.getD memory
  if value != 0x00 then
    return .errDataFormat
  let (_, value) ← adxl345ReadReg m fuel ADXL345_REG_DEVID (some value)
  let value := value.getD memory
  if value != ADXL345_DEVID_VALUE then
    return .errDevid
  let _ ← adxl345WriteReg m fuel ADXL345_REG_BW_RATE ADXL345_RATE_100_HZ
  let _ ← adxl345WriteReg m fuel ADXL345_REG_POWER_CTL ADXL345_POWER_CTL_MEASURE
  return .ok

end Driver

/-! ## Transactions -/

/-- A transaction on the bus: its bytes, each with the byte received for it. -/
structure Frame where
  first : BitVec 8 × BitVec 8
  rest : List (BitVec 8 × BitVec 8)
deriving DecidableEq

/-- The words of a transaction; the last one ends it. -/
def wordsOf : List (BitVec 8 × BitVec 8) → List Word
  | [] => []
  | x :: xs => (x.1, xs.isEmpty) :: wordsOf xs

/-- What the core takes and returns in a transaction. -/
def eventsOf : List (BitVec 8 × BitVec 8) → List Event
  | [] => []
  | x :: xs => .launch x.1 xs.isEmpty :: .word x.2 :: eventsOf xs

namespace Frame

variable (f : Frame)

def bytes : List (BitVec 8 × BitVec 8) := f.first :: f.rest

def received : List (BitVec 8) := f.bytes.map Prod.snd

/-- The transaction on the bus. -/
def onBus (msbFirst : Bool) : List BusEvent :=
  .select :: (f.bytes.flatMap fun x => serial msbFirst x.1).map .bit ++ [.release]

def events : List Event := eventsOf f.bytes

end Frame

section Frames

variable {m : Bool} {x : BitVec 8 × BitVec 8} {xs : List (BitVec 8 × BitVec 8)}
  {ws : List Word} {frames : List Frame}

lemma launched_eventsOf : (eventsOf xs).filterMap Event.launched = wordsOf xs := by
  induction xs with
  | nil => rfl
  | cons x xs ih => exact congrArg ((x.1, xs.isEmpty) :: ·) ih

lemma returned_eventsOf : (eventsOf xs).filterMap Event.returned = xs.map Prod.snd := by
  induction xs with
  | nil => rfl
  | cons x xs ih => exact congrArg (x.2 :: ·) ih

lemma length_wordsOf : (wordsOf xs).length = xs.length := by
  induction xs with
  | nil => rfl
  | cons x xs ih => exact congrArg Nat.succ ih

/-- The words of a transaction on the bus. -/
lemma script_wordsOf (selected : Bool) : script m selected (wordsOf (x :: xs) ++ ws) =
    (if selected then [] else [.select]) ++
      ((x :: xs).flatMap fun x => serial m x.1).map .bit ++ [.release] ++ script m false ws := by
  induction xs generalizing x selected with
  | nil => simp [wordsOf, script]
  | cons y ys ih =>
    have next := ih (x := y) true
    rw [wordsOf, List.cons_append, script, List.isEmpty_cons, Bool.not_false, next]
    simp

/-- A transaction ends. -/
lemma leftOpen_wordsOf : leftOpen (ws ++ wordsOf (x :: xs)) = false := by
  induction xs generalizing ws x with
  | nil => exact leftOpen_snoc
  | cons y ys ih =>
    have next : leftOpen (ws ++ [(x.1, false)] ++ wordsOf (y :: ys)) = false := ih
    rw [List.append_assoc] at next
    exact next

lemma script_frames :
    script m false (frames.flatMap fun f => wordsOf f.bytes) =
      frames.flatMap (Frame.onBus · m) := by
  induction frames with
  | nil => rfl
  | cons f frames ih =>
    rw [List.flatMap_cons, List.flatMap_cons, Frame.bytes, script_wordsOf, ih]
    simp [Frame.onBus, Frame.bytes]

lemma leftOpen_frames : leftOpen (frames.flatMap fun f => wordsOf f.bytes) = false := by
  induction frames using List.reverseRecOn with
  | nil => rfl
  | append_singleton frames f =>
    rw [List.flatMap_append, List.flatMap_singleton]
    exact leftOpen_wordsOf

end Frames

/-- The bus has seen the transactions, except for the release of the last one that may follow, and
    the bytes received in them are what came in on MISO. -/
structure Framed (p : SpiParams) (frames : List Frame) (t : PortBench) : Prop where
  bus : onBus p t ++ (if t.regs.core.csn then [] else [.release]) =
    frames.flatMap (Frame.onBus · p.msbFirst)
  miso : onMiso p t = bitsOf p (frames.flatMap Frame.received)

/-- The port between two operations of the driver. -/
def Between (p : SpiParams) (frames : List Frame) (t : PortBench) : Prop :=
  Vacated p t ∧ Ready (frames.flatMap Frame.events) (block p t)

lemma Between.framed {p : SpiParams} (sz : Sizes p 8) {frames : List Frame} {t : PortBench}
    (be : Between p frames t) : Framed p frames t := by
  have sent : (frames.flatMap Frame.events).filterMap Event.launched =
      frames.flatMap fun f => wordsOf f.bytes := by
    rw [List.filterMap_flatMap]
    exact List.flatMap_congr fun f _ => launched_eventsOf
  have received : (frames.flatMap Frame.events).filterMap Event.returned =
      frames.flatMap Frame.received := by
    rw [List.filterMap_flatMap]
    exact List.flatMap_congr fun f _ => returned_eventsOf
  have even : (frames.flatMap Frame.received).length =
      (frames.flatMap fun f => wordsOf f.bytes).length := by
    rw [List.length_flatMap, List.length_flatMap]
    refine congrArg List.sum (List.map_congr_left fun f _ => ?_)
    rw [length_wordsOf, Frame.received, List.length_map]
  have settled := be.1.settled sz be.2 (by rw [sent, received]; exact even)
  rw [sent, received] at settled
  refine ⟨?_, settled.miso⟩
  rw [← script_frames, ← settled.bus, leftOpen_frames, Bool.or_false]

/-! ## The operations -/

/-- The first byte of a transaction, as the device reads it: bit 7 is read or write, bit 6 multiple
    bytes, and the rest the address of the register. -/
def command (isRead multiByte : Bool) (reg : BitVec 8) : BitVec 8 :=
  BitVec.ofBool isRead ++ BitVec.ofBool multiByte ++ reg.setWidth 6

lemma getLsbD_command (isRead multiByte : Bool) (reg : BitVec 8) (i : Nat) :
    (command isRead multiByte reg).getLsbD i = if i < 6 then reg.getLsbD i
      else if i = 6 then multiByte else decide (i = 7) && isRead := by
  rw [command, BitVec.getLsbD_append, BitVec.getLsbD_append, BitVec.getLsbD_ofBool,
    BitVec.getLsbD_ofBool, BitVec.getLsbD_setWidth]
  by_cases low : i < 6
  · rw [if_pos low, if_pos low, decide_eq_true low]
    rfl
  · rw [if_neg low, if_neg low]
    by_cases six : i = 6
    · simp [six]
    · rw [if_neg six, if_neg (by omega)]
      exact congrArg (· && isRead) (decide_eq_decide.mpr (by omega))

/-- The address never reaches the other bits. -/
lemma adxl345SpiCmd_eq (reg : BitVec 8) (isRead multiByte : Bool) :
    adxl345SpiCmd reg isRead multiByte = command isRead multiByte reg := by
  have masks : ∀ i < 8, ADXL345_SPI_ADDR_MASK.getLsbD i = decide (i < 6) ∧
      ADXL345_SPI_READ_BIT.getLsbD i = decide (i = 7) ∧
      ADXL345_SPI_MB_BIT.getLsbD i = decide (i = 6) := by decide
  refine BitVec.eq_of_getLsbD_eq fun i lt => ?_
  obtain ⟨mask, readBit, mbBit⟩ := masks i lt
  have bit : (adxl345SpiCmd reg isRead multiByte).getLsbD i = (reg.getLsbD i && decide (i < 6) ||
      decide (i = 7) && isRead || decide (i = 6) && multiByte) := by
    cases isRead <;> cases multiByte <;> simp only [adxl345SpiCmd, if_true, Bool.false_eq_true,
      if_false, BitVec.getLsbD_or, BitVec.getLsbD_and, mask, readBit, mbBit, Bool.and_true,
      Bool.and_false, Bool.or_false]
  rw [bit, getLsbD_command]
  obtain low | rfl | rfl : i < 6 ∨ i = 6 ∨ i = 7 := by omega
  · rw [if_pos low, decide_eq_true low, decide_eq_false (show i ≠ 7 by omega),
      decide_eq_false (show i ≠ 6 by omega), Bool.and_true, Bool.false_and, Bool.false_and,
      Bool.or_false, Bool.or_false]
  · simp
  · simp

/-- The bytes of an axis, in the order of its registers. -/
lemma axis_eq (lo hi : BitVec 8) : axis lo hi = hi ++ lo := by
  refine BitVec.eq_of_getLsbD_eq fun i lt => ?_
  rw [axis, BitVec.getLsbD_or, BitVec.getLsbD_shiftLeft, BitVec.getLsbD_setWidth,
    BitVec.getLsbD_setWidth, BitVec.getLsbD_append, decide_eq_true lt]
  by_cases low : i < 8
  · simp [low]
  · rw [BitVec.getLsbD_of_ge lo i (by omega), decide_eq_false low,
      decide_eq_true (show i - 8 < 16 by omega), if_neg low]
    rfl

/-- What is stored at a buffer from its start. -/
def stored (bytes : List (BitVec 8)) (memory : Buffer) : Buffer :=
  fun i => bytes.getD i.toNat (memory i)

/-- A register is written. -/
def Frame.write (reg value r₀ r₁ : BitVec 8) : Frame :=
  ⟨(command false false reg, r₀), [(value, r₁)]⟩

/-- A register is read. -/
def Frame.read (reg r₀ value : BitVec 8) : Frame := ⟨(command true false reg, r₀), [(0x00, value)]⟩

/-- The registers from `startReg` on are read. -/
def Frame.burst (startReg : BitVec 8) (multiByte : Bool) (r₀ : BitVec 8) (bytes : List (BitVec 8)) :
    Frame :=
  ⟨(command true multiByte startReg, r₀), bytes.map fun byte => (0x00, byte)⟩

/-- The functions of `adxl345.c`, with their arguments. -/
inductive Adxl345Call where
  | writeReg (reg value : BitVec 8)
  | readReg (reg : BitVec 8) (value : Option (BitVec 8))
  | readRegs (startReg : BitVec 8) (buf : Option Buffer) (len : BitVec 32)
  | readDeviceId (devid : Option (BitVec 8))
  | setBwRate (bwRate : BitVec 8)
  | setDataFormat (dataFormat : BitVec 8)
  | setMeasure (enable : Bool)
  | readXyzRaw (memory : Buffer) (xyz : Option Adxl345RawXyz)
  | initDefault (memory : BitVec 8)

/-- What they return, with what the memory behind their pointers holds then. -/
inductive Adxl345Return where
  | status (status : Adxl345Status)
  | value (status : Adxl345Status) (value : Option (BitVec 8))
  | buffer (status : Adxl345Status) (buf : Option Buffer)
  | sample (status : Adxl345Status) (xyz : Option Adxl345RawXyz)

def Adxl345Call.run {σ : Type} (m : Volatile σ) (fuel : Nat) :
    Adxl345Call → OptionT (StateM σ) Adxl345Return
  | writeReg reg value => do return .status (← adxl345WriteReg m fuel reg value)
  | readReg reg value => do
    let (status, value) ← adxl345ReadReg m fuel reg value
    return .value status value
  | readRegs startReg buf len => do
    let (status, buf) ← adxl345ReadRegs m fuel startReg buf len
    return .buffer status buf
  | readDeviceId devid => do
    let (status, devid) ← adxl345ReadDeviceId m fuel devid
    return .value status devid
  | setBwRate bwRate => do return .status (← adxl345SetBwRate m fuel bwRate)
  | setDataFormat dataFormat => do return .status (← adxl345SetDataFormat m fuel dataFormat)
  | setMeasure enable => do return .status (← adxl345SetMeasure m fuel enable)
  | readXyzRaw memory xyz => do
    let (status, xyz) ← adxl345ReadXyzRaw m fuel memory xyz
    return .sample status xyz
  | initDefault memory => do return .status (← adxl345InitDefault m fuel memory)

/-- What a call does on the bus, and what it returns for that. -/
inductive Performs : Adxl345Call → Adxl345Return → List Frame → Prop
  | writeReg {reg value r₀ r₁} :
    Performs (.writeReg reg value) (.status .ok) [Frame.write reg value r₀ r₁]
  | readNull {reg} : Performs (.readReg reg none) (.value .errNullPtr none) []
  | readReg {reg memory r₀ value} :
    Performs (.readReg reg (some memory)) (.value .ok (some value)) [Frame.read reg r₀ value]
  | burstNull {startReg len} :
    Performs (.readRegs startReg none len) (.buffer .errNullPtr none) []
  | burstEmpty {startReg memory} :
    Performs (.readRegs startReg (some memory) 0) (.buffer .errNullPtr (some memory)) []
  | readRegs {startReg memory len r₀ bytes} (some_ : len ≠ 0)
    (whole : bytes.length = len.toNat) :
    Performs (.readRegs startReg (some memory) len) (.buffer .ok (some (stored bytes memory)))
      [Frame.burst startReg (1 < len) r₀ bytes]
  | readDeviceId {devid r frames} (reads : Performs (.readReg ADXL345_REG_DEVID devid) r frames) :
    Performs (.readDeviceId devid) r frames
  | setBwRate {bwRate r₀ r₁} :
    Performs (.setBwRate bwRate) (.status .ok) [Frame.write ADXL345_REG_BW_RATE bwRate r₀ r₁]
  | setDataFormat {dataFormat r₀ r₁} : Performs (.setDataFormat dataFormat) (.status .ok)
      [Frame.write ADXL345_REG_DATA_FORMAT dataFormat r₀ r₁]
  | setMeasure {enable r₀ r₁} : Performs (.setMeasure enable) (.status .ok)
      [Frame.write ADXL345_REG_POWER_CTL (if enable then 0x08 else 0x00) r₀ r₁]
  | xyzNull {memory} : Performs (.readXyzRaw memory none) (.sample .errNullPtr none) []
  | readXyzRaw {memory xyz r₀ x₀ x₁ y₀ y₁ z₀ z₁} :
    Performs (.readXyzRaw memory (some xyz)) (.sample .ok (some ⟨x₁ ++ x₀, y₁ ++ y₀, z₁ ++ z₀⟩))
      [Frame.burst ADXL345_REG_DATAX0 true r₀ [x₀, x₁, y₀, y₁, z₀, z₁]]
  | initFormat {memory r₀ r₁ r₂ format} (other : format ≠ 0x00) :
    Performs (.initDefault memory) (.status .errDataFormat)
      [Frame.write ADXL345_REG_DATA_FORMAT 0x00 r₀ r₁, Frame.read ADXL345_REG_DATA_FORMAT r₂ format]
  | initDevid {memory r₀ r₁ r₂ r₃ devid} (other : devid ≠ 0xE5) :
    Performs (.initDefault memory) (.status .errDevid)
      [Frame.write ADXL345_REG_DATA_FORMAT 0x00 r₀ r₁, Frame.read ADXL345_REG_DATA_FORMAT r₂ 0x00,
        Frame.read ADXL345_REG_DEVID r₃ devid]
  | initDefault {memory r₀ r₁ r₂ r₃ r₄ r₅ r₆ r₇} :
    Performs (.initDefault memory) (.status .ok)
      [Frame.write ADXL345_REG_DATA_FORMAT 0x00 r₀ r₁, Frame.read ADXL345_REG_DATA_FORMAT r₂ 0x00,
        Frame.read ADXL345_REG_DEVID r₃ 0xE5, Frame.write ADXL345_REG_BW_RATE 0x0A r₄ r₅,
        Frame.write ADXL345_REG_POWER_CTL 0x08 r₆ r₇]

/-- The calls one after another. -/
inductive Performed : List Adxl345Call → List Adxl345Return → List Frame → Prop
  | nil : Performed [] [] []
  | cons {call r frames calls rs frames'} (performs : Performs call r frames)
    (rest : Performed calls rs frames') :
    Performed (call :: calls) (r :: rs) (frames ++ frames')

section Operations

variable {p : SpiParams} {V : World Bool} {frames : List Frame}

/-- A transaction of two bytes. -/
lemma events_two (a b r q : BitVec 8) :
    (frames ++ [(⟨(a, r), [(b, q)]⟩ : Frame)]).flatMap Frame.events =
      frames.flatMap Frame.events ++ [.launch a false, .word r] ++ [.launch b true, .word q] := by
  rw [List.flatMap_append, List.flatMap_singleton, List.append_assoc]
  rfl

lemma writeReg_between (sz : Sizes p 8) (reg value : BitVec 8) : Terminates (Between p frames)
    (fun fuel => adxl345WriteReg (portVolatile p V) fuel reg value) fun status t =>
      status = .ok ∧ ∃ r₀ r₁, Between p (frames ++ [Frame.write reg value r₀ r₁]) t := by
  refine .bind (call_port sz _ false) fun r₀ => .bind (call_port sz _ true) fun r₁ => ?_
  refine .pure fun t h => ⟨rfl, r₀, r₁, h.1, ?_⟩
  rw [Frame.write, events_two, ← adxl345SpiCmd_eq]
  exact h.2

lemma readReg_between (sz : Sizes p 8) (reg memory : BitVec 8) : Terminates (Between p frames)
    (fun fuel => adxl345ReadReg (portVolatile p V) fuel reg (some memory)) fun r t =>
      ∃ r₀ value, r = (.ok, some value) ∧ Between p (frames ++ [Frame.read reg r₀ value]) t := by
  refine .bind (call_port sz _ false) fun r₀ => .bind (call_port sz _ true) fun value => ?_
  refine .pure fun t h => ⟨r₀, value, rfl, h.1, ?_⟩
  rw [Frame.read, events_two, ← adxl345SpiCmd_eq]
  exact h.2

lemma stored_snoc {bytes : List (BitVec 8)} {memory : Buffer} {i : BitVec 32} {byte : BitVec 8}
    (next : i.toNat = bytes.length) :
    Function.update (stored bytes memory) i byte = stored (bytes ++ [byte]) memory := by
  funext j
  by_cases same : j = i
  · subst same
    rw [Function.update_self, stored, next]
    simp
  · rw [Function.update_of_ne same, stored, stored]
    have ne : j.toNat ≠ bytes.length := fun e => same (BitVec.eq_of_toNat_eq (e.trans next.symm))
    by_cases before : j.toNat < bytes.length
    · simp [before, List.getElem?_append_left before]
    · simp [List.getElem?_append_right (Nat.not_lt.mp before),
        show bytes.length ≤ j.toNat by omega, show j.toNat - bytes.length ≠ 0 by omega]

/-- From `i` on the loop receives what is left of the buffer; `n` counts it. -/
lemma readRegsLoop_between (sz : Sizes p 8) {len : BitVec 32} {memory : Buffer} (n : Nat)
    {i : BitVec 32} (done : List (BitVec 8)) {os : List Event} (at_i : i.toNat = done.length)
    (left : i.toNat + n = len.toNat) :
    Terminates (fun t => Vacated p t ∧ Ready os (block p t))
      (fun fuel => adxl345ReadRegsLoop (portVolatile p V) fuel len n i (stored done memory))
      fun buf t => ∃ bytes, bytes.length = n ∧ buf = stored (done ++ bytes) memory ∧
        Vacated p t ∧ Ready (os ++ eventsOf (bytes.map fun byte => (0x00, byte))) (block p t) := by
  induction n generalizing i done os with
  | zero =>
    refine .pure fun t h => ⟨[], rfl, ?_, h.1, ?_⟩
    · rw [List.append_nil]
    · exact (List.append_nil os).symm ▸ h.2
  | succ n ih =>
    have within : i < len := by
      rw [BitVec.lt_def]
      omega
    have last : (i == len - 1) = decide (n = 0) := by
      rw [Bool.eq_iff_iff, beq_iff_eq, decide_eq_true_iff, ← BitVec.toNat_inj]
      bv_omega
    have next : (i + 1).toNat = done.length + 1 := by
      bv_omega
    simp only [adxl345ReadRegsLoop, if_pos within]
    refine .bind (call_port sz _ _) fun byte => ?_
    rw [stored_snoc at_i]
    refine (ih (done ++ [byte]) ?_ ?_).post fun buf t h => ?_
    · rw [next, List.length_append]
      rfl
    · omega
    · obtain ⟨bytes, length, read, va, re⟩ := h
      refine ⟨byte :: bytes, congrArg Nat.succ length, ?_, va, ?_⟩
      · rw [read, List.append_assoc]
        rfl
      · have ends : (i == len - 1) =
            (bytes.map fun byte => ((0x00, byte) : BitVec 8 × BitVec 8)).isEmpty := by
          rw [last]
          cases bytes with
          | nil => simp [← length]
          | cons b bs => simp [← length]
        rw [List.append_assoc, ends] at re
        exact re

/-- A burst. -/
lemma events_burst (a r : BitVec 8) (bytes : List (BitVec 8 × BitVec 8)) (some_ : bytes ≠ []) :
    (frames ++ [(⟨(a, r), bytes⟩ : Frame)]).flatMap Frame.events =
      frames.flatMap Frame.events ++ [.launch a false, .word r] ++ eventsOf bytes := by
  rw [List.flatMap_append, List.flatMap_singleton, List.append_assoc]
  cases bytes with
  | nil => exact absurd rfl some_
  | cons b bs => rfl

lemma readRegs_between (sz : Sizes p 8) (startReg : BitVec 8) (memory : Buffer) {len : BitVec 32}
    (some_ : len ≠ 0) : Terminates (Between p frames)
      (fun fuel => adxl345ReadRegs (portVolatile p V) fuel startReg (some memory) len) fun r t =>
        ∃ r₀ bytes, bytes.length = len.toNat ∧ r = (.ok, some (stored bytes memory)) ∧
          Between p (frames ++ [Frame.burst startReg (1 < len) r₀ bytes]) t := by
  have counts : (len == 0) = false := beq_false_of_ne some_
  have nothing : stored [] memory = memory := by
    funext i
    exact List.getD_nil
  simp only [adxl345ReadRegs, counts, Bool.false_eq_true, if_false]
  refine .bind (call_port sz _ false) fun r₀ => .bind ?_ fun buf => .pure fun t h => h
  rw [← nothing]
  refine (readRegsLoop_between sz len.toNat [] rfl ?_).post fun buf t h => ?_
  · simp
  · obtain ⟨bytes, length, read, va, re⟩ := h
    refine ⟨r₀, bytes, length, ?_, va, ?_⟩
    · rw [read, nothing]
      rfl
    · have pos : bytes ≠ [] := by
        rintro rfl
        exact some_ (BitVec.eq_of_toNat_eq length.symm)
      rw [Frame.burst, events_burst _ _ _ (by simpa using pos), ← adxl345SpiCmd_eq]
      exact re

/-- The six bytes of a sample. -/
lemma six_bytes {bytes : List (BitVec 8)} (length : bytes.length = 6) :
    ∃ x₀ x₁ y₀ y₁ z₀ z₁, bytes = [x₀, x₁, y₀, y₁, z₀, z₁] := by
  match bytes, length with
  | [x₀, x₁, y₀, y₁, z₀, z₁], _ => exact ⟨x₀, x₁, y₀, y₁, z₀, z₁, rfl⟩

lemma readXyz_between (sz : Sizes p 8) (memory : Buffer) (xyz : Adxl345RawXyz) :
    Terminates (Between p frames)
      (fun fuel => adxl345ReadXyzRaw (portVolatile p V) fuel memory (some xyz)) fun r t =>
        ∃ r₀ x₀ x₁ y₀ y₁ z₀ z₁, r = (.ok, some ⟨x₁ ++ x₀, y₁ ++ y₀, z₁ ++ z₀⟩) ∧
          Between p (frames ++
            [Frame.burst ADXL345_REG_DATAX0 true r₀ [x₀, x₁, y₀, y₁, z₀, z₁]]) t := by
  have six : (6 : BitVec 32) ≠ 0 := by decide
  refine .bind (readRegs_between sz ADXL345_REG_DATAX0 memory six) fun r => .pure fun t h => ?_
  obtain ⟨r₀, bytes, length, rfl, be⟩ := h
  obtain ⟨x₀, x₁, y₀, y₁, z₀, z₁, rfl⟩ := six_bytes length
  refine ⟨r₀, x₀, x₁, y₀, y₁, z₀, z₁, ?_, be⟩
  rw [← axis_eq, ← axis_eq, ← axis_eq]
  rfl

/-- Nothing is sent after a register that was read back wrong. -/
lemma init_between (sz : Sizes p 8) (memory : BitVec 8) : Terminates (Between p frames)
    (fun fuel => adxl345InitDefault (portVolatile p V) fuel memory) fun status t =>
      ∃ fs, Performs (.initDefault memory) (.status status) fs ∧ Between p (frames ++ fs) t := by
  refine .bind (writeReg_between sz _ _) fun status => .assume fun _ =>
    .fixed fun r₀ => .fixed fun r₁ => ?_
  refine .bind (readReg_between sz _ memory) fun r => .fixed fun r₂ => .fixed fun format =>
    .assume fun told => ?_
  subst told
  refine .ite (c := (format != 0x00) = true) (fun other => ?_) fun good => ?_
  · refine .pure fun t be => ?_
    rw [List.append_assoc] at be
    exact ⟨_, .initFormat (bne_iff_ne.mp other), be⟩
  obtain rfl : format = 0x00 := by simpa using good
  refine .bind (readReg_between sz _ _) fun r => .fixed fun r₃ => .fixed fun devid =>
    .assume fun told => ?_
  subst told
  refine .ite (c := (devid != ADXL345_DEVID_VALUE) = true) (fun other => ?_) fun good => ?_
  · refine .pure fun t be => ?_
    rw [List.append_assoc, List.append_assoc] at be
    exact ⟨_, .initDevid (bne_iff_ne.mp other), be⟩
  obtain rfl : devid = ADXL345_DEVID_VALUE := by simpa using good
  refine .bind (writeReg_between sz _ _) fun status => .assume fun _ =>
    .fixed fun r₄ => .fixed fun r₅ => ?_
  refine .bind (writeReg_between sz _ _) fun status => .assume fun _ =>
    .fixed fun r₆ => .fixed fun r₇ => .pure fun t be => ?_
  rw [List.append_assoc, List.append_assoc, List.append_assoc, List.append_assoc] at be
  exact ⟨_, .initDefault, be⟩

/-- Every operation performs what it is for. -/
lemma run_between (sz : Sizes p 8) (call : Adxl345Call) : Terminates (Between p frames)
    (fun fuel => call.run (portVolatile p V) fuel) fun r t =>
      ∃ fs, Performs call r fs ∧ Between p (frames ++ fs) t := by
  cases call with
  | writeReg reg value =>
    refine .bind (writeReg_between sz reg value) fun status => .pure ?_
    rintro t ⟨rfl, r₀, r₁, be⟩
    exact ⟨_, .writeReg, be⟩
  | readReg reg value =>
    cases value with
    | none =>
      refine .pure fun t be => ⟨[], .readNull, ?_⟩
      rwa [List.append_nil]
    | some memory =>
      refine .bind (readReg_between sz reg memory) fun r => .pure ?_
      rintro t ⟨r₀, value, rfl, be⟩
      exact ⟨_, .readReg, be⟩
  | readRegs startReg buf len =>
    cases buf with
    | none =>
      refine .pure fun t be => ⟨[], .burstNull, ?_⟩
      rwa [List.append_nil]
    | some memory =>
      by_cases empty : len = 0
      · subst empty
        refine .pure fun t be => ⟨[], .burstEmpty, ?_⟩
        rwa [List.append_nil]
      · refine .bind (readRegs_between sz startReg memory empty) fun r => .pure ?_
        rintro t ⟨r₀, bytes, length, rfl, be⟩
        exact ⟨_, .readRegs empty length, be⟩
  | readDeviceId devid =>
    cases devid with
    | none =>
      refine .pure fun t be => ⟨[], .readDeviceId .readNull, ?_⟩
      rwa [List.append_nil]
    | some memory =>
      refine .bind (readReg_between sz ADXL345_REG_DEVID memory) fun r => .pure ?_
      rintro t ⟨r₀, value, rfl, be⟩
      exact ⟨_, .readDeviceId .readReg, be⟩
  | setBwRate bwRate =>
    refine .bind (writeReg_between sz _ bwRate) fun status => .pure ?_
    rintro t ⟨rfl, r₀, r₁, be⟩
    exact ⟨_, .setBwRate, be⟩
  | setDataFormat dataFormat =>
    refine .bind (writeReg_between sz _ dataFormat) fun status => .pure ?_
    rintro t ⟨rfl, r₀, r₁, be⟩
    exact ⟨_, .setDataFormat, be⟩
  | setMeasure enable =>
    refine .bind (writeReg_between sz _ _) fun status => .pure ?_
    rintro t ⟨rfl, r₀, r₁, be⟩
    exact ⟨_, .setMeasure, be⟩
  | readXyzRaw memory xyz =>
    cases xyz with
    | none =>
      refine .pure fun t be => ⟨[], .xyzNull, ?_⟩
      rwa [List.append_nil]
    | some xyz =>
      refine .bind (readXyz_between sz memory xyz) fun r => .pure ?_
      rintro t ⟨r₀, x₀, x₁, y₀, y₁, z₀, z₁, rfl, be⟩
      exact ⟨_, .readXyzRaw, be⟩
  | initDefault memory =>
    refine .bind (init_between sz memory) fun status => .pure ?_
    rintro t ⟨fs, performs, be⟩
    exact ⟨fs, performs, be⟩

/-- So do all of them, one after another. -/
lemma calls_between (sz : Sizes p 8) (frames : List Frame) (calls : List Adxl345Call) :
    Terminates (Between p frames)
      (fun fuel => calls.mapM fun call => call.run (portVolatile p V) fuel) fun rs t =>
        ∃ fs, Performed calls rs fs ∧ Between p (frames ++ fs) t := by
  induction calls generalizing frames with
  | nil =>
    refine .pure fun t be => ⟨[], .nil, ?_⟩
    rwa [List.append_nil]
  | cons call calls ih =>
    have next : ∀ fuel, (call :: calls).mapM (fun call =>
        call.run (portVolatile p V) fuel) = (do
      let r ← call.run (portVolatile p V) fuel
      let rs ← calls.mapM fun call => call.run (portVolatile p V) fuel
      pure (r :: rs)) := fun fuel => List.mapM_cons
    rw [funext next]
    refine .bind (run_between sz call) fun r => .fixed fun fs => .assume fun performs => ?_
    refine .bind (ih _) fun rs => .pure ?_
    rintro t ⟨fs', performed, be⟩
    rw [List.append_assoc] at be
    exact ⟨fs ++ fs', .cons performs performed, be⟩

end Operations

/-- `spi_init` and then the operations. -/
def adxl345Session (p : SpiParams) (V : World Bool) (calls : List Adxl345Call) (fuel : Nat) :
    OptionT (StateM PortBench) (List Adxl345Return) := do
  liftM (spiInit (portVolatile p V))
  calls.mapM fun call => call.run (portVolatile p V) fuel

/-- The accelerometer's driver down to the bus, for every mode and divider from 4 on, however long
    the accesses take and whatever comes in on MISO: after reset and `spi_init` any list of
    operations returns, with turns enough. Every operation has put its own transactions on the bus,
    with the address and the direction in their first byte, and nothing else; and what it returns
    and stores is what came in on MISO in these transactions. -/
theorem adxl345_on_the_bus (p : SpiParams) (sz : Sizes p 8) (V : World Bool)
    (calls : List Adxl345Call) : Terminates (fun t => t = ⟨⟨.reset, .reset⟩, []⟩)
      (adxl345Session p V calls) fun rs t =>
        ∃ frames, Performed calls rs frames ∧ Framed p frames t := by
  refine .bind (.lift (init_port sz)) fun _ => ?_
  refine (calls_between sz [] calls).post ?_
  rintro rs t ⟨frames, performed, be⟩
  exact ⟨frames, performed, be.framed sz⟩

/-- Bring-up and two samples. -/
theorem adxl345_on_the_bus_dripping : Terminates (fun t => t = ⟨⟨.reset, .reset⟩, []⟩)
    (adxl345Session .default dripping [.initDefault 0, .readXyzRaw (fun _ => 0) (some ⟨0, 0, 0⟩),
      .readRegs ADXL345_REG_DATAX0 (some fun _ => 0) 1])
    fun rs t => ∃ frames, Performed [.initDefault 0,
      .readXyzRaw (fun _ => 0) (some ⟨0, 0, 0⟩),
      .readRegs ADXL345_REG_DATAX0 (some fun _ => 0) 1] rs frames ∧ Framed .default frames t :=
  adxl345_on_the_bus .default sizes_default dripping _

end ModularControl.Spi
