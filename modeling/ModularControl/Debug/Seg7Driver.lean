import ModularControl.Axi.Facade
import ModularControl.Debug.Display
import Mathlib.Tactic.IntervalCases

/-!
# The display driver

The calls of `seg7_debug_regs.c` in front of `seg7_debug_regs.sv` and its core. Those that change a
field of CTRL read it, change the field and write it back; SNAPSHOT is a bit that is written and never
stored. They work on a panel, whose digits are what the segments show.
-/

namespace ModularControl.Debug
open Sync Axi

def SEG7_DEBUG_BASE : BitVec 32 := 0x00051000

def SEG7_CTRL : BitVec 32 := 0x00
def SEG7_SW_VALUE : BitVec 32 := 0x04
def SEG7_DP_N : BitVec 32 := 0x08
def SEG7_BLANK : BitVec 32 := 0x0C
def SEG7_LIVE_VALUE : BitVec 32 := 0x10
def SEG7_FROZEN_VALUE : BitVec 32 := 0x14
def SEG7_ACTIVE_VALUE : BitVec 32 := 0x18
def SEG7_STATUS : BitVec 32 := 0x1C

def SEG7_MODE_LSB : Nat := 1

def SEG7_EN_MASK : BitVec 32 := 1#32 <<< 0
def SEG7_MODE_MASK : BitVec 32 := 0x7#32 <<< SEG7_MODE_LSB
def SEG7_SRC_SEL_MASK : BitVec 32 := 1#32 <<< 4
def SEG7_FREEZE_MASK : BitVec 32 := 1#32 <<< 5
def SEG7_SNAPSHOT_MASK : BitVec 32 := 1#32 <<< 6

def SEG7_MODE_FULL6_HEX : BitVec 32 := 0

section Driver

variable {σ : Type} (m : Words σ)

def seg7Read (offset : BitVec 32) : StateM σ (BitVec 32) := m.load (SEG7_DEBUG_BASE + offset)

def seg7Write (offset value : BitVec 32) : StateM σ Unit :=
  m.store (SEG7_DEBUG_BASE + offset) value

def seg7GetCtrl : StateM σ (BitVec 32) := seg7Read m SEG7_CTRL

def seg7UpdateCtrl (clearMask setMask : BitVec 32) : StateM σ Unit := do
  let ctrl ← seg7GetCtrl m
  let ctrl := ctrl &&& ~~~clearMask
  let ctrl := ctrl ||| setMask
  seg7Write m SEG7_CTRL ctrl

def seg7SetSwValue (value24 : BitVec 32) : StateM σ Unit :=
  seg7Write m SEG7_SW_VALUE (value24 &&& 0x00FFFFFF)

def seg7SetDpN (dpN6bit : BitVec 32) : StateM σ Unit := seg7Write m SEG7_DP_N (dpN6bit &&& 0x3F)

def seg7SetBlank (blank6bit : BitVec 32) : StateM σ Unit := seg7Write m SEG7_BLANK (blank6bit &&& 0x3F)

def seg7Init : StateM σ Unit := do
  seg7SetSwValue m 0
  seg7SetDpN m 0x3F
  seg7SetBlank m 0
  seg7Write m SEG7_CTRL (SEG7_EN_MASK ||| SEG7_MODE_FULL6_HEX <<< SEG7_MODE_LSB)

def seg7Enable (enable : Bool) : StateM σ Unit :=
  seg7UpdateCtrl m SEG7_EN_MASK (if enable then SEG7_EN_MASK else 0)

def seg7SetMode (mode : BitVec 32) : StateM σ Unit :=
  let mode := mode &&& 0x7
  seg7UpdateCtrl m SEG7_MODE_MASK (mode <<< SEG7_MODE_LSB)

def seg7SelectLive : StateM σ Unit := seg7UpdateCtrl m SEG7_SRC_SEL_MASK 0

def seg7SelectSoftware : StateM σ Unit := seg7UpdateCtrl m SEG7_SRC_SEL_MASK SEG7_SRC_SEL_MASK

def seg7SetFreeze (enable : Bool) : StateM σ Unit :=
  seg7UpdateCtrl m SEG7_FREEZE_MASK (if enable then SEG7_FREEZE_MASK else 0)

def seg7Snapshot : StateM σ Unit := do
  let ctrl ← seg7GetCtrl m
  let ctrl := ctrl ||| SEG7_SNAPSHOT_MASK
  seg7Write m SEG7_CTRL ctrl

def seg7GetStatus : StateM σ (BitVec 32) := seg7Read m SEG7_STATUS

def seg7GetLiveValue : StateM σ (BitVec 32) := do
  return (← seg7Read m SEG7_LIVE_VALUE) &&& 0x00FFFFFF

def seg7GetFrozenValue : StateM σ (BitVec 32) := do
  return (← seg7Read m SEG7_FROZEN_VALUE) &&& 0x00FFFFFF

def seg7GetActiveValue : StateM σ (BitVec 32) := do
  return (← seg7Read m SEG7_ACTIVE_VALUE) &&& 0x00FFFFFF

end Driver

def seg7PackHex6 (dig5 dig4 dig3 dig2 dig1 dig0 : BitVec 8) : BitVec 32 :=
  (dig5 &&& 0xF).setWidth 32 <<< 20 ||| (dig4 &&& 0xF).setWidth 32 <<< 16 |||
    (dig3 &&& 0xF).setWidth 32 <<< 12 ||| (dig2 &&& 0xF).setWidth 32 <<< 8 |||
    (dig1 &&& 0xF).setWidth 32 <<< 4 ||| (dig0 &&& 0xF).setWidth 32 <<< 0

/-- The digits can be taken out again. -/
lemma extract_seg7PackHex6 (dig : Fin 6 → BitVec 8) (k : Fin 6) :
    ((seg7PackHex6 (dig 5) (dig 4) (dig 3) (dig 2) (dig 1) (dig 0)).setWidth 24).extractLsb' (4 * k) 4
      = (dig k).setWidth 4 := by
  apply BitVec.eq_of_getLsbD_eq
  intro j lt
  obtain ⟨k, small⟩ := k
  interval_cases k <;> interval_cases j <;> simp [seg7PackHex6]

inductive DisplayCall where
  | setSwValue (value24 : BitVec 32)
  | setDpN (dpN6bit : BitVec 32)
  | setBlank (blank6bit : BitVec 32)
  | enable (on : Bool)
  | setMode (mode : BitVec 32)
  | selectLive
  | selectSoftware
  | setFreeze (on : Bool)
  | snapshot
  | getCtrl
  | getStatus
  | getLiveValue
  | getFrozenValue
  | getActiveValue
deriving DecidableEq

/-- A call, and what it returns, 0 if that is nothing. -/
def DisplayCall.run {σ : Type} (m : Words σ) : DisplayCall → StateM σ (BitVec 32)
  | setSwValue value24 => do seg7SetSwValue m value24; return 0
  | setDpN dpN6bit => do seg7SetDpN m dpN6bit; return 0
  | setBlank blank6bit => do seg7SetBlank m blank6bit; return 0
  | enable on => do seg7Enable m on; return 0
  | setMode mode => do seg7SetMode m mode; return 0
  | selectLive => do seg7SelectLive m; return 0
  | selectSoftware => do seg7SelectSoftware m; return 0
  | setFreeze on => do seg7SetFreeze m on; return 0
  | snapshot => do seg7Snapshot m; return 0
  | getCtrl => seg7GetCtrl m
  | getStatus => seg7GetStatus m
  | getLiveValue => seg7GetLiveValue m
  | getFrozenValue => seg7GetFrozenValue m
  | getActiveValue => seg7GetActiveValue m

/-- What a call between the cycles `a` and `b` does to the panel, and what it returns. -/
def DisplayCall.Does (W : World (BitVec (6 * 4))) (call : DisplayCall) (a b : Nat) (p : Panel)
    (res : BitVec 32) (p' : Panel) : Prop :=
  match call with
  | setSwValue value24 => p' = { p with swValue := value24.setWidth 24 }
  | setDpN dpN6bit => p' = { p with dpN := dpN6bit.setWidth 6 }
  | setBlank blank6bit => p' = { p with blank := blank6bit.setWidth 6 }
  | enable on => p' = { p with enabled := on }
  | setMode mode => p' = { p with mode := mode.setWidth 3 }
  | selectLive => p' = { p with software := false }
  | selectSoftware => p' = { p with software := true }
  | setFreeze on => ∃ u, a ≤ u ∧ u < b ∧
      p' = { p with freeze := on, frozen := if on && !p.freeze then W.env u else p.frozen }
  | snapshot => ∃ u, a ≤ u ∧ u < b ∧ p' = { p with frozen := W.env u }
  | getCtrl | getStatus => p' = p ∧ res = p.ctrl
  | getLiveValue => p' = p ∧ ∃ u, a ≤ u ∧ u < b ∧ res = (W.env u).setWidth 32
  | getFrozenValue => p' = p ∧ res = p.frozen.setWidth 32
  | getActiveValue => p' = p ∧ ∃ u, a ≤ u ∧ u < b ∧ res = (p.value (W.env u)).setWidth 32

/-- The registers are those of the panel, in a run from reset. -/
structure Displays (p : Panel) (t : Bench Seg7Regs (BitVec (6 * 4)) MmioReq) : Prop where
  run : t.RunFrom (seg7Regs 6) (.reset 6)
  onPanel : t.regs.OnPanel p

/-- The panel in front of the registers. -/
def panelFacade (W : World (BitVec (6 * 4))) : Facade Seg7Regs (BitVec (6 * 4)) Panel where
  holds := Displays
  shows p u s := ∀ k, readSseg (s.hex (W.env u) k) = p.digit (W.env u) k

/-- The panel after reset. -/
def Panel.reset : Panel := ⟨false, 0, false, false, 0, .allOnes 6, 0, 0⟩

/-- The panel after `seg7_init`: on, with the live value. -/
def Panel.started : Panel := { reset with enabled := true }

/-- The panel after a store of CTRL in a cycle with the value `live`: a freeze that begins captures
    it. -/
def Panel.control (p : Panel) (enabled : Bool) (mode : BitVec 3) (software freeze : Bool)
    (live : BitVec 24) : Panel :=
  { p with
    enabled := enabled
    mode := mode
    software := software
    freeze := freeze
    frozen := if freeze && !p.freeze then live else p.frozen }

/-- A change of the other bits captures nothing. -/
lemma Panel.control_same (p : Panel) (enabled : Bool) (mode : BitVec 3) (software : Bool)
    (live : BitVec 24) : p.control enabled mode software p.freeze live =
      { p with enabled := enabled, mode := mode, software := software } := by
  simp [control]

section Words

lemma ctrlWord_enable : ∀ en mode sw fr on,
    (ctrlWord en mode sw fr &&& ~~~SEG7_EN_MASK ||| if on then SEG7_EN_MASK else 0) =
      ctrlWord on mode sw fr := by
  decide +kernel

lemma ctrlWord_setMode : ∀ en mode sw fr (mode' : BitVec 3),
    (ctrlWord en mode sw fr &&& ~~~SEG7_MODE_MASK ||| mode'.setWidth 32 <<< SEG7_MODE_LSB) =
      ctrlWord en mode' sw fr := by
  decide +kernel

lemma ctrlWord_select : ∀ en mode sw fr on,
    (ctrlWord en mode sw fr &&& ~~~SEG7_SRC_SEL_MASK ||| if on then SEG7_SRC_SEL_MASK else 0) =
      ctrlWord en mode on fr := by
  decide +kernel

lemma ctrlWord_setFreeze : ∀ en mode sw fr on,
    (ctrlWord en mode sw fr &&& ~~~SEG7_FREEZE_MASK ||| if on then SEG7_FREEZE_MASK else 0) =
      ctrlWord en mode sw on := by
  decide +kernel

lemma ctrlWord_asks : ∀ en mode sw fr,
    (ctrlWord en mode sw fr ||| SEG7_SNAPSHOT_MASK) &&& ~~~(1#32 <<< CTRL_SNAPSHOT_BIT) =
        ctrlWord en mode sw fr ∧
      (ctrlWord en mode sw fr ||| SEG7_SNAPSHOT_MASK).getLsbD CTRL_SNAPSHOT_BIT = true := by
  decide +kernel

lemma ctrlWord_status : ∀ en mode sw fr,
    (bitAt CTRL_EN_BIT ((ctrlWord en mode sw fr).getLsbD CTRL_EN_BIT) |||
      ((ctrlWord en mode sw fr).extractLsb' CTRL_MODE_LSB 3).setWidth 32 <<< CTRL_MODE_LSB |||
      bitAt CTRL_SRC_SEL_BIT ((ctrlWord en mode sw fr).getLsbD CTRL_SRC_SEL_BIT) |||
      bitAt CTRL_FREEZE_BIT ((ctrlWord en mode sw fr).getLsbD CTRL_FREEZE_BIT)) =
        ctrlWord en mode sw fr := by
  decide +kernel

end Words

section Registers

variable {s : Seg7Regs} {p : Panel} {live : BitVec (6 * 4)}

/-- A store while no response waits. -/
lemma wrReg_store (empty : s.rspValid = false) (offset value : BitVec 32) (reg : BitVec 8) :
    s.wrReg true (storeReq (SEG7_DEBUG_BASE + offset) value) false reg =
      (((SEG7_DEBUG_BASE + offset).setWidth 12).setWidth 8 == reg) := by
  simp [Seg7Regs.wrReg, Seg7Regs.wrFire, Seg7Regs.reqFire, Seg7Regs.reqReady, Seg7Regs.reg, empty]

lemma wrReg_load (addr : BitVec 32) (reg : BitVec 8) : s.wrReg true (loadReq addr) false reg = false := by
  simp [Seg7Regs.wrReg, Seg7Regs.wrFire]

/-- The low bits of a word. -/
lemma and_low (value : BitVec 32) (k : Nat) :
    value &&& (BitVec.allOnes k).setWidth 32 = (value.setWidth k).setWidth 32 := by
  apply BitVec.eq_of_getLsbD_eq
  intro j lt
  by_cases low : j < k <;> simp [low, lt]

namespace Seg7Regs.OnPanel

lemma loads (on : s.OnPanel p) (addr : BitVec 32) :
    (s.step live true (loadReq addr) false).OnPanel p := by
  have hit := wrReg_load (s := s) addr
  constructor <;> simp [step, hit, snapshotPulse, freezeRise, on.ctrl, on.swValue, on.dpN, on.blank,
    on.frozen]

lemma storesSwValue (on : s.OnPanel p) (empty : s.rspValid = false) (value : BitVec 24) :
    (s.step live true (storeReq (SEG7_DEBUG_BASE + SEG7_SW_VALUE) (value.setWidth 32))
      false).OnPanel { p with swValue := value } := by
  have hit := wrReg_store empty SEG7_SW_VALUE (value.setWidth 32)
  have reg : ((SEG7_DEBUG_BASE + SEG7_SW_VALUE).setWidth 12).setWidth 8 = 0x04#8 := rfl
  constructor <;> simp [step, hit, reg, snapshotPulse, freezeRise, REG_SW_VALUE, REG_CTRL, REG_DP_N,
    REG_BLANK, on.ctrl, on.dpN, on.blank, on.frozen, Panel.ctrl]

lemma storesDpN (on : s.OnPanel p) (empty : s.rspValid = false) (value : BitVec 6) :
    (s.step live true (storeReq (SEG7_DEBUG_BASE + SEG7_DP_N) (value.setWidth 32))
      false).OnPanel { p with dpN := value } := by
  have hit := wrReg_store empty SEG7_DP_N (value.setWidth 32)
  have reg : ((SEG7_DEBUG_BASE + SEG7_DP_N).setWidth 12).setWidth 8 = 0x08#8 := rfl
  constructor <;> simp [step, hit, reg, snapshotPulse, freezeRise, REG_SW_VALUE, REG_CTRL, REG_DP_N,
    REG_BLANK, on.ctrl, on.swValue, on.blank, on.frozen, Panel.ctrl]

lemma storesBlank (on : s.OnPanel p) (empty : s.rspValid = false) (value : BitVec 6) :
    (s.step live true (storeReq (SEG7_DEBUG_BASE + SEG7_BLANK) (value.setWidth 32))
      false).OnPanel { p with blank := value } := by
  have hit := wrReg_store empty SEG7_BLANK (value.setWidth 32)
  have reg : ((SEG7_DEBUG_BASE + SEG7_BLANK).setWidth 12).setWidth 8 = 0x0C#8 := rfl
  constructor <;> simp [step, hit, reg, snapshotPulse, freezeRise, REG_SW_VALUE, REG_CTRL, REG_DP_N,
    REG_BLANK, on.ctrl, on.swValue, on.dpN, on.frozen, Panel.ctrl]

/-- The live value replaces what was captured before. -/
lemma withLow_frozen (x y : BitVec 24) : withLow (x.setWidth 32) y = y.setWidth 32 := by
  apply BitVec.eq_of_getLsbD_eq
  intro j lt
  simp [withLow, lt]

/-- When a store of CTRL captures the live value. -/
lemma captures (empty : s.rspValid = false) (value : BitVec 32) :
    (s.snapshotPulse true (storeReq (SEG7_DEBUG_BASE + SEG7_CTRL) value) false ||
      s.freezeRise true (storeReq (SEG7_DEBUG_BASE + SEG7_CTRL) value) false) =
      (value.getLsbD CTRL_SNAPSHOT_BIT ||
        !s.ctrlReg.getLsbD CTRL_FREEZE_BIT && value.getLsbD CTRL_FREEZE_BIT) := by
  have hit := wrReg_store empty SEG7_CTRL value REG_CTRL
  have reg : (((SEG7_DEBUG_BASE + SEG7_CTRL).setWidth 12).setWidth 8 == REG_CTRL) = true := rfl
  have lane : (storeReq (SEG7_DEBUG_BASE + SEG7_CTRL) value).wstrb.getLsbD 0 = true := by
    simp [storeReq, writeReq]
  have data : (storeReq (SEG7_DEBUG_BASE + SEG7_CTRL) value).wdata = value := rfl
  rw [snapshotPulse, freezeRise, hit, reg, lane, data, ctrlMerged, mergeWstrb_storeReq, Bool.true_and,
    Bool.true_and, Bool.true_and]

/-- A store of CTRL. -/
lemma storesCtrl (on : s.OnPanel p) (empty : s.rspValid = false) {p' : Panel} {value : BitVec 32}
    (ctrl : value &&& ~~~(1#32 <<< CTRL_SNAPSHOT_BIT) = p'.ctrl)
    (kept : p'.swValue = p.swValue ∧ p'.dpN = p.dpN ∧ p'.blank = p.blank)
    (frozen : p'.frozen = if value.getLsbD CTRL_SNAPSHOT_BIT ||
      !p.freeze && value.getLsbD CTRL_FREEZE_BIT then live else p.frozen) :
    (s.step live true (storeReq (SEG7_DEBUG_BASE + SEG7_CTRL) value) false).OnPanel p' := by
  have hit := wrReg_store empty SEG7_CTRL value
  have reg : ((SEG7_DEBUG_BASE + SEG7_CTRL).setWidth 12).setWidth 8 = 0x00#8 := rfl
  have merged : s.ctrlMerged (storeReq (SEG7_DEBUG_BASE + SEG7_CTRL) value) = value :=
    mergeWstrb_storeReq _ _ _
  obtain ⟨swValue, dpN, blank⟩ := kept
  constructor
  · simp [step, hit, reg, REG_CTRL, merged, ← ctrl]
  · simp [step, hit, reg, REG_SW_VALUE, on.swValue, swValue]
  · simp [step, hit, reg, REG_DP_N, on.dpN, dpN]
  · simp [step, hit, reg, REG_BLANK, on.blank, blank]
  · have was := ctrlWord_freeze p.enabled p.mode p.software p.freeze
    have stored : (s.step live true (storeReq (SEG7_DEBUG_BASE + SEG7_CTRL) value)
        false).frozenValueReg = if value.getLsbD CTRL_SNAPSHOT_BIT ||
          !s.ctrlReg.getLsbD CTRL_FREEZE_BIT && value.getLsbD CTRL_FREEZE_BIT then
            withLow s.frozenValueReg live else s.frozenValueReg := by
      rw [← captures empty]
      rfl
    rw [stored, on.ctrl, Panel.ctrl, was, frozen, on.frozen, withLow_frozen,
      apply_ite (BitVec.setWidth 32)]

/-- A store of the bits that are stored. -/
lemma storesWord (on : s.OnPanel p) (empty : s.rspValid = false) {value : BitVec 32} {en sw fr : Bool}
    {mode : BitVec 3} (word : value = ctrlWord en mode sw fr) :
    (s.step live true (storeReq (SEG7_DEBUG_BASE + SEG7_CTRL) value) false).OnPanel
      (p.control en mode sw fr live) := by
  refine on.storesCtrl empty ?_ ⟨rfl, rfl, rfl⟩ ?_
  · rw [word, ctrlWord_stored]
    rfl
  · rw [word, ctrlWord_snapshot, ctrlWord_freeze, Bool.false_or, Bool.and_comm]
    rfl

end Seg7Regs.OnPanel

end Registers

section Facade

variable {W : World (BitVec (6 * 4))} {p : Panel} {a b : Nat}

lemma seg7Regs_steady (n : Nat) : (seg7Regs n).Steady := fun _ _ _ _ => rfl

lemma panelFacade_lawful (W : World (BitVec (6 * 4))) :
    (panelFacade W).Lawful (seg7Regs 6) W fun _ => True where
  law := seg7Regs_lawful 6
  steady := seg7Regs_steady 6
  run di := di.run
  shown di := di.onPanel.reads _
  idle q r di := ⟨di.run.cycle false q r, di.onPanel.1, di.onPanel.2, di.onPanel.3, di.onPanel.4,
    di.onPanel.5⟩
  loads addr di := ⟨di.run.cycle true _ false, di.onPanel.loads addr⟩

/-- A store that leads from one panel to another. -/
lemma store_panel {addr value : BitVec 32} {P : BitVec 24 → Panel}
    (stores : ∀ (s : Seg7Regs) (live : BitVec 24), s.rspValid = false → s.OnPanel p →
      (s.step (n := 6) live true (storeReq addr value) false).OnPanel (P live)) :
    Triple (Facade.Ready (panelFacade W) (seg7Regs 6) (fun _ => True) a p b)
      ((deviceWords (seg7Regs 6) W).store addr value) fun _ t =>
      t.Free (seg7Regs 6) (fun _ => True) ∧ ∃ u, b ≤ u ∧ u < t.now ∧
        Facade.Changed (panelFacade W) (seg7Regs 6) a p (P (W.env u)) t :=
  Facade.store_changes (panelFacade_lawful W) (P := fun u => P (W.env u)) fun _ free di =>
    ⟨di.run.cycle true _ false, stores _ _ free.empty di.onPanel⟩

/-- A read of CTRL. -/
lemma ctrl_known (p : Panel) (a b : Nat) :
    Triple (Facade.Ready (panelFacade W) (seg7Regs 6) (fun _ => True) a p b)
      (seg7GetCtrl (deviceWords (seg7Regs 6) W)) fun x t =>
      x = p.ctrl ∧ Facade.Ready (panelFacade W) (seg7Regs 6) (fun _ => True) a p b t := by
  have reads (t : Bench Seg7Regs (BitVec (6 * 4)) MmioReq) (di : Displays p t) :
      ((seg7Regs 6).answer t.regs (W.env t.now) (loadReq (SEG7_DEBUG_BASE + SEG7_CTRL))).rdata =
        p.ctrl := di.onPanel.ctrl
  exact Facade.load_known (panelFacade_lawful W) p.ctrl reads

/-- The bits of CTRL are read, changed and written back. -/
lemma updateCtrl_changes {clearMask setMask : BitVec 32} {P : BitVec 24 → Panel}
    (stores : ∀ (s : Seg7Regs) (live : BitVec 24), s.rspValid = false → s.OnPanel p →
      (s.step (n := 6) live true (storeReq (SEG7_DEBUG_BASE + SEG7_CTRL)
        (p.ctrl &&& ~~~clearMask ||| setMask)) false).OnPanel (P live)) :
    Triple (Facade.Ready (panelFacade W) (seg7Regs 6) (fun _ => True) a p b)
      (seg7UpdateCtrl (deviceWords (seg7Regs 6) W) clearMask setMask) fun _ t =>
      t.Free (seg7Regs 6) (fun _ => True) ∧ ∃ u, b ≤ u ∧ u < t.now ∧
        Facade.Changed (panelFacade W) (seg7Regs 6) a p (P (W.env u)) t := by
  refine (ctrl_known p a b).bind fun x => Triple.assume (fun t known => known.1) fun known => ?_
  rw [known]
  exact (store_panel stores).pre fun t known => known.2

/-- The rule of a change of CTRL. -/
lemma updateCtrl_panel {clearMask setMask : BitVec 32} {en sw fr : Bool} {mode : BitVec 3}
    (word : (p.ctrl &&& ~~~clearMask ||| setMask) = ctrlWord en mode sw fr) :
    Triple (Facade.Ready (panelFacade W) (seg7Regs 6) (fun _ => True) a p b)
      (seg7UpdateCtrl (deviceWords (seg7Regs 6) W) clearMask setMask) fun _ t =>
      t.Free (seg7Regs 6) (fun _ => True) ∧ ∃ u, b ≤ u ∧ u < t.now ∧
        Facade.Changed (panelFacade W) (seg7Regs 6) a p (p.control en mode sw fr (W.env u)) t :=
  updateCtrl_changes fun _ _ empty on => on.storesWord empty word

/-- A change of CTRL that leaves FREEZE. -/
lemma updateCtrl_same {clearMask setMask : BitVec 32} {en sw : Bool} {mode : BitVec 3}
    (word : (p.ctrl &&& ~~~clearMask ||| setMask) = ctrlWord en mode sw p.freeze) :
    Triple (Facade.Ready (panelFacade W) (seg7Regs 6) (fun _ => True) a p b)
      (seg7UpdateCtrl (deviceWords (seg7Regs 6) W) clearMask setMask) fun _ t =>
      t.Free (seg7Regs 6) (fun _ => True) ∧ Facade.Changed (panelFacade W) (seg7Regs 6) a p
        { p with enabled := en, mode := mode, software := sw } t :=
  (updateCtrl_panel word).post fun _ _ ⟨free, _, _, _, ch⟩ => ⟨free, p.control_same en mode sw _ ▸ ch⟩

lemma setSwValue_changes (value24 : BitVec 32) :
    Triple (Facade.Ready (panelFacade W) (seg7Regs 6) (fun _ => True) a p b)
      (seg7SetSwValue (deviceWords (seg7Regs 6) W) value24) fun _ t =>
      t.Free (seg7Regs 6) (fun _ => True) ∧ Facade.Changed (panelFacade W) (seg7Regs 6) a p
        { p with swValue := value24.setWidth 24 } t := by
  have low : value24 &&& 0x00FFFFFF = (value24.setWidth 24).setWidth 32 := and_low value24 24
  rw [seg7SetSwValue, seg7Write, low]
  exact (store_panel (P := fun _ => { p with swValue := value24.setWidth 24 })
    fun _ _ empty on => on.storesSwValue empty _).post fun _ _ ⟨free, _, _, _, ch⟩ => ⟨free, ch⟩

lemma setDpN_changes (dpN6bit : BitVec 32) :
    Triple (Facade.Ready (panelFacade W) (seg7Regs 6) (fun _ => True) a p b)
      (seg7SetDpN (deviceWords (seg7Regs 6) W) dpN6bit) fun _ t =>
      t.Free (seg7Regs 6) (fun _ => True) ∧ Facade.Changed (panelFacade W) (seg7Regs 6) a p
        { p with dpN := dpN6bit.setWidth 6 } t := by
  have low : dpN6bit &&& 0x3F = (dpN6bit.setWidth 6).setWidth 32 := and_low dpN6bit 6
  rw [seg7SetDpN, seg7Write, low]
  exact (store_panel (P := fun _ => { p with dpN := dpN6bit.setWidth 6 })
    fun _ _ empty on => on.storesDpN empty _).post fun _ _ ⟨free, _, _, _, ch⟩ => ⟨free, ch⟩

lemma setBlank_changes (blank6bit : BitVec 32) :
    Triple (Facade.Ready (panelFacade W) (seg7Regs 6) (fun _ => True) a p b)
      (seg7SetBlank (deviceWords (seg7Regs 6) W) blank6bit) fun _ t =>
      t.Free (seg7Regs 6) (fun _ => True) ∧ Facade.Changed (panelFacade W) (seg7Regs 6) a p
        { p with blank := blank6bit.setWidth 6 } t := by
  have low : blank6bit &&& 0x3F = (blank6bit.setWidth 6).setWidth 32 := and_low blank6bit 6
  rw [seg7SetBlank, seg7Write, low]
  exact (store_panel (P := fun _ => { p with blank := blank6bit.setWidth 6 })
    fun _ _ empty on => on.storesBlank empty _).post fun _ _ ⟨free, _, _, _, ch⟩ => ⟨free, ch⟩

lemma setMode_changes (mode : BitVec 32) :
    Triple (Facade.Ready (panelFacade W) (seg7Regs 6) (fun _ => True) a p b)
      (seg7SetMode (deviceWords (seg7Regs 6) W) mode) fun _ t =>
      t.Free (seg7Regs 6) (fun _ => True) ∧ Facade.Changed (panelFacade W) (seg7Regs 6) a p
        { p with mode := mode.setWidth 3 } t := by
  have low : mode &&& 0x7 = (mode.setWidth 3).setWidth 32 := and_low mode 3
  rw [seg7SetMode, low]
  exact updateCtrl_same (ctrlWord_setMode _ _ _ _ _)

/-- `seg7_select_live` and `seg7_select_software`. -/
lemma select_changes (software : Bool) :
    Triple (Facade.Ready (panelFacade W) (seg7Regs 6) (fun _ => True) a p b)
      (seg7UpdateCtrl (deviceWords (seg7Regs 6) W) SEG7_SRC_SEL_MASK
        (if software then SEG7_SRC_SEL_MASK else 0)) fun _ t =>
      t.Free (seg7Regs 6) (fun _ => True) ∧ Facade.Changed (panelFacade W) (seg7Regs 6) a p
        { p with software := software } t :=
  updateCtrl_same (ctrlWord_select _ _ _ _ _)

lemma enable_changes (on : Bool) :
    Triple (Facade.Ready (panelFacade W) (seg7Regs 6) (fun _ => True) a p b)
      (seg7Enable (deviceWords (seg7Regs 6) W) on) fun _ t =>
      t.Free (seg7Regs 6) (fun _ => True) ∧ Facade.Changed (panelFacade W) (seg7Regs 6) a p
        { p with enabled := on } t :=
  updateCtrl_same (ctrlWord_enable _ _ _ _ _)

/-- CTRL is written back as it was, with SNAPSHOT. -/
lemma snapshot_changes :
    Triple (Facade.Ready (panelFacade W) (seg7Regs 6) (fun _ => True) a p b)
      (seg7Snapshot (deviceWords (seg7Regs 6) W)) fun _ t =>
      t.Free (seg7Regs 6) (fun _ => True) ∧ ∃ u, b ≤ u ∧ u < t.now ∧
        Facade.Changed (panelFacade W) (seg7Regs 6) a p { p with frozen := W.env u } t := by
  refine (ctrl_known p a b).bind fun x => Triple.assume (fun t known => known.1) fun known => ?_
  rw [known]
  obtain ⟨stored, asks⟩ := ctrlWord_asks p.enabled p.mode p.software p.freeze
  refine (store_panel (P := fun live => { p with frozen := live }) fun s live empty on => ?_).pre
    fun t known => known.2
  refine on.storesCtrl empty stored ⟨rfl, rfl, rfl⟩ ?_
  have asks : (p.ctrl ||| SEG7_SNAPSHOT_MASK).getLsbD CTRL_SNAPSHOT_BIT = true := asks
  rw [asks, Bool.true_or, if_pos rfl]

/-- A read, of the low 24 bits. -/
lemma value_reads {offset : BitVec 32} {f : Panel → BitVec 24 → BitVec 24}
    (reads : ∀ t, Displays p t → ((seg7Regs 6).answer t.regs (W.env t.now)
      (loadReq (SEG7_DEBUG_BASE + offset))).rdata = (f p (W.env t.now)).setWidth 32) :
    Triple (Facade.Ready (panelFacade W) (seg7Regs 6) (fun _ => True) a p b)
      (do return (← seg7Read (deviceWords (seg7Regs 6) W) offset) &&& 0x00FFFFFF) fun x t =>
      t.Free (seg7Regs 6) (fun _ => True) ∧ Facade.Reading (panelFacade W) (seg7Regs 6) a p t ∧
        ∃ u, b ≤ u ∧ u < t.now ∧ x = (f p (W.env u)).setWidth 32 := by
  refine (Facade.load_reads (panelFacade_lawful W)
    (S := fun u x => x = (f p (W.env u)).setWidth 32) reads).bind fun x => .pure fun t known => ?_
  obtain ⟨free, re, u, ge, lt, known⟩ := known
  refine ⟨free, re, u, ge, lt, ?_⟩
  have low : x &&& 0x00FFFFFF = (x.setWidth 24).setWidth 32 := and_low x 24
  have whole := BitVec.setWidth_setWidth_of_le (f p (W.env u)) (show 24 ≤ 32 by decide)
  rw [low, known, whole, BitVec.setWidth_eq]

end Facade

section Calls

variable {W : World (BitVec (6 * 4))}

/-- Whenever a call is made, it does what it means. -/
abbrev Obeyed (W : World (BitVec (6 * 4))) (call : DisplayCall) : Prop :=
  Facade.Obeys (panelFacade W) (seg7Regs 6) (fun _ => True)
    (DisplayCall.run (deviceWords (seg7Regs 6) W)) (DisplayCall.Does W) call

lemma getStatus_obeys : Obeyed W .getStatus := by
  intro p a
  have reads (t : Bench Seg7Regs (BitVec (6 * 4)) MmioReq) (di : Displays p t) :
      ((seg7Regs 6).answer t.regs (W.env t.now) (loadReq (SEG7_DEBUG_BASE + SEG7_STATUS))).rdata =
        p.ctrl := by
    have status : t.regs.statusRdata = p.ctrl := by
      rw [Seg7Regs.statusRdata, Seg7Regs.mode, di.onPanel.ctrl]
      exact ctrlWord_status p.enabled p.mode p.software p.freeze
    exact status
  refine (Facade.load_known (panelFacade_lawful W) p.ctrl reads).post fun x t known => ?_
  obtain ⟨known, free, re, -⟩ := known
  exact ⟨free, p, re.changed, rfl, known⟩

lemma getLiveValue_obeys : Obeyed W .getLiveValue := fun p _ =>
  (value_reads (f := fun _ live => live) fun _ _ => rfl).post
    fun _ _ ⟨free, re, read⟩ => ⟨free, p, re.changed, rfl, read⟩

lemma getFrozenValue_obeys : Obeyed W .getFrozenValue := by
  intro p a
  have reads (t : Bench Seg7Regs (BitVec (6 * 4)) MmioReq) (di : Displays p t) :
      ((seg7Regs 6).answer t.regs (W.env t.now)
        (loadReq (SEG7_DEBUG_BASE + SEG7_FROZEN_VALUE))).rdata = p.frozen.setWidth 32 :=
    di.onPanel.frozen
  exact (value_reads (f := fun p _ => p.frozen) reads).post
    fun _ _ ⟨free, re, _, _, _, known⟩ => ⟨free, p, re.changed, rfl, known⟩

lemma getActiveValue_obeys : Obeyed W .getActiveValue := by
  intro p a
  have reads (t : Bench Seg7Regs (BitVec (6 * 4)) MmioReq) (di : Displays p t) :
      ((seg7Regs 6).answer t.regs (W.env t.now)
        (loadReq (SEG7_DEBUG_BASE + SEG7_ACTIVE_VALUE))).rdata =
          (p.value (W.env t.now)).setWidth 32 :=
    congrArg (BitVec.setWidth 32) (di.onPanel.activeValue_eq _)
  exact (value_reads (f := Panel.value) reads).post
    fun _ _ ⟨free, re, read⟩ => ⟨free, p, re.changed, rfl, read⟩

/-- Every call does what it means. -/
lemma obeyed (call : DisplayCall) : Obeyed W call := by
  intro p a
  cases call with
  | setSwValue value24 =>
    exact (setSwValue_changes value24).bind fun _ => .pure fun _ ⟨free, ch⟩ => ⟨free, _, ch, rfl⟩
  | setDpN dpN6bit =>
    exact (setDpN_changes dpN6bit).bind fun _ => .pure fun _ ⟨free, ch⟩ => ⟨free, _, ch, rfl⟩
  | setBlank blank6bit =>
    exact (setBlank_changes blank6bit).bind fun _ => .pure fun _ ⟨free, ch⟩ => ⟨free, _, ch, rfl⟩
  | enable on =>
    exact (enable_changes on).bind fun _ => .pure fun _ ⟨free, ch⟩ => ⟨free, _, ch, rfl⟩
  | setMode mode =>
    exact (setMode_changes mode).bind fun _ => .pure fun _ ⟨free, ch⟩ => ⟨free, _, ch, rfl⟩
  | selectLive =>
    exact (select_changes false).bind fun _ => .pure fun _ ⟨free, ch⟩ => ⟨free, _, ch, rfl⟩
  | selectSoftware =>
    exact (select_changes true).bind fun _ => .pure fun _ ⟨free, ch⟩ => ⟨free, _, ch, rfl⟩
  | setFreeze on =>
    exact (updateCtrl_panel (ctrlWord_setFreeze _ _ _ _ _)).bind fun _ =>
      .pure fun _ ⟨free, u, ge, lt, ch⟩ => ⟨free, _, ch, u, ge, lt, rfl⟩
  | snapshot =>
    exact snapshot_changes.bind fun _ =>
      .pure fun _ ⟨free, u, ge, lt, ch⟩ => ⟨free, _, ch, u, ge, lt, rfl⟩
  | getCtrl =>
    exact (ctrl_known p a a).post fun _ _ ⟨known, free, re, _⟩ => ⟨free, p, re.changed, rfl, known⟩
  | getStatus => exact getStatus_obeys p a
  | getLiveValue => exact getLiveValue_obeys p a
  | getFrozenValue => exact getFrozenValue_obeys p a
  | getActiveValue => exact getActiveValue_obeys p a

/-- From reset the display is dark until `seg7_init` enables it. -/
lemma init_changes {a b : Nat} :
    Triple (Facade.Ready (panelFacade W) (seg7Regs 6) (fun _ => True) a .reset b)
      (seg7Init (deviceWords (seg7Regs 6) W)) fun _ t =>
      t.Free (seg7Regs 6) (fun _ => True) ∧
        Facade.Changed (panelFacade W) (seg7Regs 6) a .reset .started t := by
  refine (setSwValue_changes 0).bind fun _ => ?_
  refine ((setDpN_changes 0x3F).pre fun t ⟨free, ch⟩ => ⟨free, ch.reading, ch.begun⟩).bind fun _ => ?_
  refine ((setBlank_changes 0).pre fun t ⟨free, ch⟩ => ⟨free, ch.reading, ch.begun⟩).bind fun _ => ?_
  have word : (SEG7_EN_MASK ||| SEG7_MODE_FULL6_HEX <<< SEG7_MODE_LSB) =
      ctrlWord true 0 false false := by decide
  refine ((store_panel fun _ _ empty on => on.storesWord empty word).pre
    fun t ⟨free, ch⟩ => ⟨free, ch.reading, ch.begun⟩).post fun _ t ⟨free, _, _, _, ch⟩ => ⟨free, ch⟩

lemma displays_reset : Displays .reset ⟨.reset 6, []⟩ := ⟨rfl, rfl, rfl, rfl, rfl, rfl⟩

end Calls

/-- The display after reset and `seg7_init`. -/
def displayStart (W : World (BitVec (6 * 4))) : Bench Seg7Regs (BitVec (6 * 4)) MmioReq :=
  ((seg7Init (deviceWords (seg7Regs 6) W)).run ⟨.reset 6, []⟩).2

/-- Whatever the live value and the timing of the accesses: after reset the digits are dark until
    `seg7_init` lights them, and in every list of calls from then on each does to the panel what it
    means, with the live value of a cycle within the call, and changes what the segments show once
    at most, from the digits before to those after. -/
theorem seg7_calls (W : World (BitVec (6 * 4))) (calls : List DisplayCall) :
    Facade.Changed (panelFacade W) (seg7Regs 6) 0 .reset .started (displayStart W) ∧
    ∃ p : Nat → Panel, p 0 = .started ∧ ∀ i (lt : i < calls.length),
      Facade.Called (panelFacade W) (seg7Regs 6) (DisplayCall.Does W) calls[i]
        (Facade.calledAt (DisplayCall.run (deviceWords (seg7Regs 6) W)) calls (displayStart W) i).now
        (p i) ((calls[i].run (deviceWords (seg7Regs 6) W)).run
          (Facade.calledAt (DisplayCall.run (deviceWords (seg7Regs 6) W)) calls (displayStart W) i)).1
        (p (i + 1)) (Facade.calledAt (DisplayCall.run (deviceWords (seg7Regs 6) W)) calls
          (displayStart W) (i + 1)) := by
  have start : Facade.Ready (panelFacade W) (seg7Regs 6) (fun _ => True) 0 .reset 0
      ⟨.reset 6, []⟩ :=
    ⟨⟨trivial, rfl⟩, Facade.reading_start (panelFacade_lawful W) displays_reset, Nat.le_refl 0⟩
  obtain ⟨free, ch⟩ := init_changes (W := W) _ start
  exact ⟨ch, Facade.calls_course (panelFacade_lawful W) obeyed free ch.holds⟩

end ModularControl.Debug
