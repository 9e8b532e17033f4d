import ModularControl.Debug.Seg7Regs

/-!
# The display

`seg7_debug_core.sv` with its six `hex_to_sseg.sv`, behind the register block. Its segments can be
read back: a digit that is not dark shows which one it is and whether its decimal point is lit.
-/

namespace ModularControl.Debug
open Sync Axi

/-- `hex_to_sseg`; a segment is lit by a 0. -/
def hexToSseg (hex : BitVec 4) (dpIn : Bool) : BitVec 8 :=
  BitVec.ofBool dpIn ++ match hex with
    | 0x0 => 0b1000000#7
    | 0x1 => 0b1111001
    | 0x2 => 0b0100100
    | 0x3 => 0b0110000
    | 0x4 => 0b0011001
    | 0x5 => 0b0010010
    | 0x6 => 0b0000010
    | 0x7 => 0b1111000
    | 0x8 => 0b0000000
    | 0x9 => 0b0010000
    | 0xA => 0b0001000
    | 0xB => 0b0000011
    | 0xC => 0b1000110
    | 0xD => 0b0100001
    | 0xE => 0b0000110
    | _ => 0b0001110

def MODE_FULL6_HEX : BitVec 3 := 0
def MODE_SPLIT2X12 : BitVec 3 := 1
def MODE_SPLIT3X8 : BitVec 3 := 2

/-- The inputs of `seg7_debug_core`. -/
structure Seg7CoreIn where
  enableI : Bool
  valueI : BitVec 24
  modeI : BitVec 3
  dpNI : BitVec 6
  blankI : BitVec 6

namespace Seg7CoreIn

variable (i : Seg7CoreIn) (k : Fin 6)

/-- `dig5` to `dig0`. -/
def dig : BitVec 4 := i.valueI.extractLsb' (4 * k) 4

def defaultDpN : BitVec 6 :=
  if i.modeI = MODE_SPLIT2X12 then 0b110111
  else if i.modeI = MODE_SPLIT3X8 then 0b101011
  else 0b111111

def finalDpN : BitVec 6 := i.defaultDpN &&& i.dpNI

/-- `hex5_o` to `hex0_o` of `seg7_debug_core`. -/
def hex : BitVec 8 :=
  if !i.enableI || i.blankI.getLsbD k then 0xFF
  else hexToSseg (i.dig k) (i.finalDpN.getLsbD k)

end Seg7CoreIn

/-- `enable_o`, `mode_o`, `dp_n_o`, `blank_o` and `active_value_o`, wired to the core. -/
def Seg7Regs.coreIn (s : Seg7Regs) (liveValue : BitVec (6 * 4)) : Seg7CoreIn where
  enableI := s.ctrlReg.getLsbD CTRL_EN_BIT
  valueI := s.activeValue liveValue
  modeI := s.mode
  dpNI := s.dpNReg.setWidth 6
  blankI := s.blankReg.setWidth 6

/-- `hex5_o` to `hex0_o` of `axil_lite_seg7_debug`. -/
def Seg7Regs.hex (s : Seg7Regs) (liveValue : BitVec (6 * 4)) (k : Fin 6) : BitVec 8 :=
  (s.coreIn liveValue).hex k

/-- What the segments of a digit show: nothing, or a digit and whether its point is lit. -/
def readSseg (sseg : BitVec 8) : Option (BitVec 4 × Bool) :=
  ((List.range 16).map (BitVec.ofNat 4)).findSome? fun hex =>
    if sseg = hexToSseg hex false then some (hex, true)
    else if sseg = hexToSseg hex true then some (hex, false)
    else none

lemma readSseg_hexToSseg (hex : BitVec 4) (dpIn : Bool) :
    readSseg (hexToSseg hex dpIn) = some (hex, !dpIn) := by
  revert hex dpIn
  decide +kernel

lemma readSseg_dark : readSseg 0xFF = none := by
  decide +kernel

/-- The bits of CTRL that are stored. -/
def ctrlWord (enabled : Bool) (mode : BitVec 3) (software freeze : Bool) : BitVec 32 :=
  (BitVec.ofBool freeze ++ BitVec.ofBool software ++ mode ++ BitVec.ofBool enabled).setWidth 32

/-- What the display is about. -/
structure Panel where
  enabled : Bool
  mode : BitVec 3
  software : Bool
  freeze : Bool
  swValue : BitVec 24
  dpN : BitVec 6
  blank : BitVec 6
  frozen : BitVec 24
deriving DecidableEq

namespace Panel

variable (p : Panel) (live : BitVec 24)

/-- The value shown. -/
def value : BitVec 24 := if p.software then p.swValue else if p.freeze then p.frozen else live

/-- The decimal points that a mode sets between its groups of digits. -/
def separates (k : Fin 6) : Bool :=
  p.mode = MODE_SPLIT2X12 && k = 3 || p.mode = MODE_SPLIT3X8 && (k = 2 || k = 4)

/-- What digit `k` shows. -/
def digit (k : Fin 6) : Option (BitVec 4 × Bool) :=
  if p.enabled && !p.blank.getLsbD k then
    some ((p.value live).extractLsb' (4 * k) 4, p.separates k || !p.dpN.getLsbD k)
  else none

/-- The control word. -/
def ctrl : BitVec 32 := ctrlWord p.enabled p.mode p.software p.freeze

end Panel

/-- The registers of the display are those of the panel. -/
structure Seg7Regs.OnPanel (s : Seg7Regs) (p : Panel) : Prop where
  ctrl : s.ctrlReg = p.ctrl
  swValue : s.swValueReg = p.swValue.setWidth 32
  dpN : s.dpNReg = p.dpN.setWidth 32
  blank : s.blankReg = p.blank.setWidth 32
  frozen : s.frozenValueReg = p.frozen.setWidth 32

section Ctrl

lemma ctrlWord_en : ∀ en mode sw fr, (ctrlWord en mode sw fr).getLsbD CTRL_EN_BIT = en := by
  decide +kernel

lemma ctrlWord_mode : ∀ en mode sw fr,
    (ctrlWord en mode sw fr).extractLsb' CTRL_MODE_LSB 3 = mode := by
  decide +kernel

lemma ctrlWord_srcSel : ∀ en mode sw fr,
    (ctrlWord en mode sw fr).getLsbD CTRL_SRC_SEL_BIT = sw := by
  decide +kernel

lemma ctrlWord_freeze : ∀ en mode sw fr,
    (ctrlWord en mode sw fr).getLsbD CTRL_FREEZE_BIT = fr := by
  decide +kernel

/-- The bit of SNAPSHOT is not stored. -/
lemma ctrlWord_snapshot : ∀ en mode sw fr,
    (ctrlWord en mode sw fr).getLsbD CTRL_SNAPSHOT_BIT = false := by
  decide +kernel

lemma ctrlWord_stored : ∀ en mode sw fr,
    ctrlWord en mode sw fr &&& ~~~(1#32 <<< CTRL_SNAPSHOT_BIT) = ctrlWord en mode sw fr := by
  decide +kernel

end Ctrl

/-- The points that are off by default are those that separate nothing. -/
lemma separates_eq : ∀ (mode : BitVec 3) (k : Fin 6),
    (mode = MODE_SPLIT2X12 && k = 3 || mode = MODE_SPLIT3X8 && (k = 2 || k = 4)) =
      !(if mode = MODE_SPLIT2X12 then 0b110111#6 else if mode = MODE_SPLIT3X8 then 0b101011
        else 0b111111).getLsbD k := by
  decide +kernel

namespace Seg7Regs.OnPanel

variable {s : Seg7Regs} {p : Panel}

lemma activeValue_eq (on : s.OnPanel p) (live : BitVec 24) :
    s.activeValue (n := 6) live = p.value live := by
  have sel := ctrlWord_srcSel p.enabled p.mode p.software p.freeze
  have freeze := ctrlWord_freeze p.enabled p.mode p.software p.freeze
  rw [activeValue, on.ctrl, Panel.ctrl, sel, freeze, on.swValue, on.frozen, Panel.value]
  simp only [BitVec.setWidth_setWidth_of_le _ (show 24 ≤ 32 by decide), BitVec.setWidth_eq]

lemma coreIn_eq (on : s.OnPanel p) (live : BitVec 24) :
    s.coreIn live = ⟨p.enabled, p.value live, p.mode, p.dpN, p.blank⟩ := by
  have en := ctrlWord_en p.enabled p.mode p.software p.freeze
  have mode := ctrlWord_mode p.enabled p.mode p.software p.freeze
  rw [coreIn, on.activeValue_eq, Seg7Regs.mode, on.ctrl, Panel.ctrl, en, mode, on.dpN, on.blank]
  simp only [BitVec.setWidth_setWidth_of_le _ (show 6 ≤ 32 by decide), BitVec.setWidth_eq]

/-- The segments show the panel. -/
lemma reads (on : s.OnPanel p) (live : BitVec 24) (k : Fin 6) :
    readSseg (s.hex live k) = p.digit live k := by
  have point := separates_eq p.mode k
  rw [hex, on.coreIn_eq, Seg7CoreIn.hex, Panel.digit]
  cases en : p.enabled <;> cases blank : p.blank.getLsbD k <;>
    simp only [Bool.not_true, Bool.not_false, Bool.true_or, Bool.or_self, Bool.and_false,
      Bool.and_true, Bool.and_self, Bool.false_or, Bool.false_eq_true, if_true, if_false,
      readSseg_dark, readSseg_hexToSseg]
  rw [Panel.separates, point, Seg7CoreIn.finalDpN, BitVec.getLsbD_and, Bool.not_and]
  rfl

end Seg7Regs.OnPanel

end ModularControl.Debug
