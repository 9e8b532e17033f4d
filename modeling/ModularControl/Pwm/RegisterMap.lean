import ModularControl.Pwm.Snapshot

/-!
# The register map of the motor subsystem

The registers that software stores settings in, by name. The DUTY bank starts at `0x20` and grows
with the number of channels; the masks of the H-bridge slice start at `0x40`. With up to eight
channels the map is a memory; from nine on the duty of channel 8 and the direction mask are at one
address, where the slice answers and the duty can neither be written nor read.
-/

namespace ModularControl.Pwm
open Sync Axi

variable {w n : Nat}

/-- The registers that store settings. -/
inductive Reg (n : Nat) where
  | ctrl
  | period
  | chEnable
  | duty (i : Fin n)
  | dir
  | brake
  | coast
deriving DecidableEq

namespace Reg

def addr : Reg n → BitVec 12
  | ctrl => REG_CTRL
  | period => REG_PERIOD
  | chEnable => REG_CH_ENABLE
  | duty i => REG_DUTY_BASE + BitVec.ofNat 12 (4 * i)
  | dir => REG_DIR_MASK
  | brake => REG_BRAKE_MASK
  | coast => REG_COAST_MASK

/-- The documented byte offset. -/
def offset : Reg n → Nat
  | ctrl => 0x00
  | period => 0x04
  | chEnable => 0x0C
  | duty i => 0x20 + 4 * i
  | dir => 0x40
  | brake => 0x44
  | coast => 0x48

/-- The number of implemented bits, with a counter of width `w`. -/
@[reducible] def width (w : Nat) : Reg n → Nat
  | ctrl => 32
  | period | duty _ => w
  | chEnable | dir | brake | coast => n

/-- The registers of the H-bridge slice. -/
def mask : Reg n → Bool
  | dir | brake | coast => true
  | ctrl | period | chEnable | duty _ => false

/-- What a word of memory at the register's address holds after the writes `qs`. -/
def stored (r : Reg n) (qs : List MmioReq) : BitVec 32 :=
  qs.foldl (fun x q => if q.addr = r.addr then mergeWstrb x q.wdata q.wstrb else x) 0

end Reg

/-- The setting that a register stores. -/
def Settings.get (st : Settings w n) : (r : Reg n) → BitVec (r.width w)
  | .ctrl => st.config.ctrl
  | .period => st.config.period
  | .chEnable => st.config.chEnable
  | .duty i => st.config.duty.get i
  | .dir => st.masks.dir
  | .brake => st.masks.brake
  | .coast => st.masks.coast

/-- The response to a read of the register. -/
def Motor.readback (s : Motor w n) (r : Reg n) : MmioRsp := s.answer ⟨false, r.addr, 0, 0⟩

/-- `pwm_subsystem_motor` with the writes it accepts. -/
def motorWrites (w n : Nat) (applyOnPeriodEnd : Bool) :
    Machine (Motor w n) Mmio (Option MmioReq) where
  init := .reset w n
  step s m := s.step applyOnPeriodEnd m.valid m.req m.rspReady
  out s m := s.acceptedWrite m

/-- The writes accepted so far. -/
def writes (os : List (Option MmioReq)) : List MmioReq := os.filterMap id

/-- The register map is a memory: after every run a register reads back what has been written to its
    address, over its implemented bits; a write to one register leaves the others as they are; and a
    commit drives the duties written. -/
structure FaithfulMap (w n : Nat) (applyOnPeriodEnd : Bool) : Prop where
  reads : ∀ (is : List Mmio) (r : Reg n),
    ((motorWrites w n applyOnPeriodEnd).after is).readback r =
      ⟨((r.stored (writes ((motorWrites w n applyOnPeriodEnd).trace is))).setWidth
        (r.width w)).setWidth 32, false⟩
  apart : ∀ (is : List Mmio) (m : Mmio) (r r' : Reg n),
    (((motorWrites w n applyOnPeriodEnd).after is).acceptedWrite m).map MmioReq.addr =
      some r.addr → r' ≠ r →
    ((motorWrites w n applyOnPeriodEnd).after (is ++ [m])).readback r' =
      ((motorWrites w n applyOnPeriodEnd).after is).readback r'
  drives : ∀ (is : List Mmio) (m : Mmio) (i : Fin n),
    ((motorWrites w n applyOnPeriodEnd).after is).applyCommit applyOnPeriodEnd m.valid m.req
      m.rspReady = true →
    ((motorWrites w n applyOnPeriodEnd).after (is ++ [m])).timed.regs.active.duty.get i =
      ((Reg.duty i).stored (writes ((motorWrites w n applyOnPeriodEnd).trace is))).setWidth w

lemma writes_snoc (os : List (Option MmioReq)) (o : Option MmioReq) :
    writes (os ++ [o]) = writes os ++ o.toList :=
  filterMap_snoc _ _ _

namespace Reg

lemma stored_snoc (r : Reg n) (qs : List MmioReq) (q : MmioReq) :
    r.stored (qs ++ [q]) =
      if q.addr = r.addr then mergeWstrb (r.stored qs) q.wdata q.wstrb else r.stored qs := by
  simp [stored]

lemma toNat_addr (few : n ≤ 8) (r : Reg n) : r.addr.toNat = r.offset := by
  cases r with
  | ctrl | period | chEnable | dir | brake | coast => rfl
  | duty i =>
    have lt := i.isLt
    simp [addr, offset, REG_DUTY_BASE]
    omega

/-- The address of a duty register belongs to the common block, and is decoded to its channel. -/
lemma duty_hit (few : n ≤ 8) (a : BitVec 12) (i : Fin n) :
    dutyHit n a = some i ↔ a = addr (duty i) := by
  have at_i : (addr (duty i)).toNat = 0x20 + 4 * i.val := toNat_addr few _
  have lt := i.isLt
  have base : REG_DUTY_BASE.toNat = 0x20 := rfl
  rw [← BitVec.toNat_inj, at_i]
  by_cases hit : REG_DUTY_BASE.toNat ≤ a.toNat ∧ a.toNat < REG_DUTY_BASE.toNat + n * 4 ∧
      a.toNat % 4 = 0
  · rw [dutyHit, dif_pos hit, Option.some_inj, Fin.ext_iff]
    rw [base] at hit
    simp only [base]
    omega
  · rw [dutyHit, dif_neg hit]
    rw [base] at hit
    simp only [reduceCtorEq, false_iff]
    omega

/-- The addresses below the DUTY bank. -/
lemma not_duty_hit {a : BitVec 12} (below : a.toNat < 0x20) : dutyHit n a = none := by
  have base : REG_DUTY_BASE.toNat = 0x20 := rfl
  rw [dutyHit, dif_neg]
  omega

end Reg

namespace RegsCommon

variable (c : Config w n) (q : MmioReq)

lemma written_ctrl : (written c q).ctrl =
    if q.addr = REG_CTRL then mergeWstrb c.ctrl q.wdata q.wstrb else c.ctrl := by
  by_cases h : q.addr = REG_CTRL
  · have miss : dutyHit n q.addr = none := Reg.not_duty_hit (by rw [h]; decide)
    rw [written, miss]
    simp only [if_pos h]
  · rw [written, if_neg h, if_neg h]
    split
    · rfl
    · split_ifs <;> rfl

lemma written_period : (written c q).period =
    if q.addr = REG_PERIOD then (mergeWstrb (c.period.setWidth 32) q.wdata q.wstrb).setWidth w
    else c.period := by
  by_cases h : q.addr = REG_PERIOD
  · have miss : dutyHit n q.addr = none := Reg.not_duty_hit (by rw [h]; decide)
    have ne : q.addr ≠ REG_CTRL := by rw [h]; decide
    rw [written, miss]
    simp only [if_neg ne, if_pos h]
  · rw [written, if_neg h, if_neg h]
    split
    · rfl
    · split_ifs <;> rfl

lemma written_chEnable : (written c q).chEnable =
    if q.addr = REG_CH_ENABLE then
      (mergeWstrb (c.chEnable.setWidth 32) q.wdata q.wstrb).setWidth n
    else c.chEnable := by
  by_cases h : q.addr = REG_CH_ENABLE
  · have miss : dutyHit n q.addr = none := Reg.not_duty_hit (by rw [h]; decide)
    have ne : q.addr ≠ REG_CTRL := by rw [h]; decide
    have ne' : q.addr ≠ REG_PERIOD := by rw [h]; decide
    rw [written, miss]
    simp only [if_neg ne, if_neg ne', if_pos h]
  · rw [written, if_neg h, if_neg h]
    split
    · rfl
    · split_ifs <;> rfl

lemma written_duty (few : n ≤ 8) (i : Fin n) : (written c q).duty.get i =
    if q.addr = (Reg.duty i).addr then
      (mergeWstrb ((c.duty.get i).setWidth 32) q.wdata q.wstrb).setWidth w
    else c.duty.get i := by
  change (written c q).duty[i.val] = if q.addr = (Reg.duty i).addr then
    (mergeWstrb (c.duty[i.val].setWidth 32) q.wdata q.wstrb).setWidth w else c.duty[i.val]
  rw [written]
  cases hit : dutyHit n q.addr with
  | none =>
    have ne : q.addr ≠ (Reg.duty i).addr := by
      rw [ne_eq, ← Reg.duty_hit few, hit]
      simp
    rw [if_neg ne]
    split_ifs <;> rfl
  | some k =>
    by_cases same : k = i
    · have eq : q.addr = (Reg.duty i).addr := by rw [← Reg.duty_hit few, hit, same]
      rw [if_pos eq, same]
      simp
    · have ne : q.addr ≠ (Reg.duty i).addr := by
        rw [ne_eq, ← Reg.duty_hit few, hit, Option.some_inj]
        exact same
      have apart : k.val ≠ i.val := fun e => same (Fin.ext e)
      rw [if_neg ne]
      simp [apart]

end RegsCommon

/-- Up to eight channels each address belongs to the block of its register. -/
lemma Reg.routed (few : n ≤ 8) (r : Reg n) {q : MmioReq} (at_r : q.addr = r.addr) :
    Motor.routeToExt q = r.mask := by
  rw [Motor.routeToExt, at_r]
  cases r with
  | ctrl | period | chEnable | dir | brake | coast => rfl
  | duty i =>
    have value : (addr (duty i)).toNat = 0x20 + 4 * i.val := toNat_addr few _
    have lt := i.isLt
    have ne : ∀ a : BitVec 12, 0x40 ≤ a.toNat → (addr (duty i) == a) = false := by
      intro a above
      rw [beq_eq_false_iff_ne]
      rintro rfl
      omega
    simp only [RegsHbridge.regHit, ne REG_DIR_MASK (by decide), ne REG_BRAKE_MASK (by decide),
      ne REG_COAST_MASK (by decide), Bool.or_self, mask]

/-- A write changes the register of its address, and no other. -/
lemma Settings.get_write (few : n ≤ 8) (st : Settings w n) (q : MmioReq) (r : Reg n) :
    (st.write q).get r = if q.addr = r.addr then
      (mergeWstrb ((st.get r).setWidth 32) q.wdata q.wstrb).setWidth (r.width w)
    else st.get r := by
  by_cases at_r : q.addr = r.addr
  · have route := r.routed few at_r
    rw [write, route, if_pos at_r]
    cases r with
    | ctrl =>
      have full : (st.get .ctrl).setWidth 32 = st.config.ctrl := BitVec.setWidth_eq _
      rw [full, BitVec.setWidth_eq]
      exact (RegsCommon.written_ctrl st.config q).trans (if_pos at_r)
    | period => exact (RegsCommon.written_period st.config q).trans (if_pos at_r)
    | chEnable => exact (RegsCommon.written_chEnable st.config q).trans (if_pos at_r)
    | duty i => exact (RegsCommon.written_duty st.config q few i).trans (if_pos at_r)
    | dir => simp [get, RegsHbridge.written, show q.addr = REG_DIR_MASK from at_r, Reg.mask]
    | brake =>
      simp [get, RegsHbridge.written, show q.addr = REG_BRAKE_MASK from at_r, Reg.mask,
        REG_BRAKE_MASK, REG_DIR_MASK]
    | coast =>
      simp [get, RegsHbridge.written, show q.addr = REG_COAST_MASK from at_r, Reg.mask,
        REG_COAST_MASK, REG_BRAKE_MASK, REG_DIR_MASK]
  · rw [if_neg at_r, write]
    split_ifs with ext
    · cases r with
      | ctrl | period | chEnable | duty i => rfl
      | dir | brake | coast =>
        simp only [Reg.addr] at at_r
        simp only [get, RegsHbridge.written, at_r, if_false]
        split_ifs <;> rfl
    · cases r with
      | dir | brake | coast => rfl
      | ctrl => exact (RegsCommon.written_ctrl st.config q).trans (if_neg at_r)
      | period => exact (RegsCommon.written_period st.config q).trans (if_neg at_r)
      | chEnable => exact (RegsCommon.written_chEnable st.config q).trans (if_neg at_r)
      | duty i => exact (RegsCommon.written_duty st.config q few i).trans (if_neg at_r)

/-- The settings are those that the writes `qs` have stored. -/
def Settings.Stores (st : Settings w n) (qs : List MmioReq) : Prop :=
  ∀ r : Reg n, st.get r = (r.stored qs).setWidth (r.width w)

lemma Settings.Stores.write (few : n ≤ 8) {st : Settings w n} {qs : List MmioReq}
    (stores : st.Stores qs) (q : MmioReq) : (st.write q).Stores (qs ++ [q]) := by
  intro r
  rw [st.get_write few, Reg.stored_snoc, stores r]
  split_ifs
  · exact setWidth_mergeWstrb _ _ _ _
  · rfl

lemma Settings.stores_reset : (Motor.reset w n).shadow.Stores [] := by
  intro r
  have zero : (r.stored []).setWidth (r.width w) = 0#(r.width w) := BitVec.setWidth_zero _ _
  rw [zero]
  cases r with
  | ctrl | period | chEnable | dir | brake | coast => rfl
  | duty i =>
    exact Vector.getElem_replicate i.isLt

/-- Up to eight channels the shadow set is what the accepted writes have stored, in both commit
    modes. -/
lemma stores_along (few : n ≤ 8) (applyOnPeriodEnd : Bool) (is : List Mmio) :
    ((motorWrites w n applyOnPeriodEnd).after is).Tracked ∧
      ((motorWrites w n applyOnPeriodEnd).after is).shadow.Stores
        (writes ((motorWrites w n applyOnPeriodEnd).trace is)) := by
  refine (motorWrites w n applyOnPeriodEnd).history_rule
    (P := fun s os => s.Tracked ∧ s.shadow.Stores (writes os)) (C := fun _ _ => True) ?_ ?_
    ((motorWrites w n applyOnPeriodEnd).along_true is)
  · exact ⟨⟨rfl, fun h => nomatch h⟩, Settings.stores_reset⟩
  · rintro s os m ⟨tr, stores⟩ -
    refine ⟨tr.step applyOnPeriodEnd m.valid m.req m.rspReady, ?_⟩
    -- the commit mode matters for the active set only
    have shadow : ((motorWrites w n applyOnPeriodEnd).step s m).shadow = (s.after m).shadow := rfl
    rw [shadow, tr.shadow_after m, writes_snoc]
    change Settings.Stores _ (writes os ++ (s.acceptedWrite m).toList)
    cases s.acceptedWrite m with
    | none => simpa using stores
    | some q => exact stores.write few q

/-- A read shows the setting that its register stores. -/
lemma Motor.readback_eq (few : n ≤ 8) (s : Motor w n) (r : Reg n) :
    s.readback r = ⟨(s.shadow.get r).setWidth 32, false⟩ := by
  have route := r.routed few (q := ⟨false, r.addr, 0, 0⟩) rfl
  rw [readback, answer, route]
  cases r with
  | dir | brake | coast =>
    simp [RegsHbridge.rdata, shadow, Settings.get, Reg.mask, Reg.addr, REG_DIR_MASK,
      REG_BRAKE_MASK, REG_COAST_MASK]
  | ctrl | period | chEnable =>
    have miss : ∀ a : BitVec 12, a.toNat < 0x20 → dutyHit n a = none := fun _ => Reg.not_duty_hit
    simp [RegsCommon.answer, shadow, Settings.get, Reg.mask, Reg.addr, miss, REG_CTRL,
      REG_PERIOD, REG_CH_ENABLE]
  | duty i =>
    have hit := (Reg.duty_hit few _ i).mpr rfl
    simp [RegsCommon.answer, shadow, Settings.get, Reg.mask, hit]
    rfl

/-- Up to eight channels no two registers share an address. -/
lemma Reg.addr_inj (few : n ≤ 8) {r r' : Reg n} (same : r.addr = r'.addr) : r = r' := by
  have same : r.offset = r'.offset := by
    rw [← r.toNat_addr few, ← r'.toNat_addr few, same]
  cases r <;> cases r' <;> simp [offset] at same ⊢ <;> omega

/-- Up to eight channels the register map is a memory. -/
lemma faithfulMap_of_few (few : n ≤ 8) (applyOnPeriodEnd : Bool) :
    FaithfulMap w n applyOnPeriodEnd := by
  refine ⟨fun is r => ?_, fun is m r r' accepted ne => ?_, fun is m i commit => ?_⟩
  · rw [Motor.readback_eq few, (stores_along few applyOnPeriodEnd is).2 r]
  · have shadow := (stores_along (w := w) few applyOnPeriodEnd is).1.shadow_after m
    obtain ⟨q, written, at_r⟩ := Option.map_eq_some_iff.mp accepted
    have other : q.addr ≠ r'.addr := by
      rw [at_r]
      exact fun same => ne (Reg.addr_inj few same).symm
    rw [written] at shadow
    have kept : ((motorWrites w n applyOnPeriodEnd).after (is ++ [m])).shadow.get r' =
        ((motorWrites w n applyOnPeriodEnd).after is).shadow.get r' := by
      rw [Machine.after_snoc]
      refine (congrArg (Settings.get · r') shadow).trans ?_
      exact (Settings.get_write few _ q r').trans (if_neg other)
    rw [Motor.readback_eq few, Motor.readback_eq few, kept]
  · have stored := (stores_along (w := w) few applyOnPeriodEnd is).2 (.duty i)
    rw [← stored, Machine.after_snoc]
    have active : ((motorWrites w n applyOnPeriodEnd).step ((motorWrites w n applyOnPeriodEnd).after
        is) m).timed.regs.active = _ := if_pos commit
    rw [active]
    rfl

/-- The address of the ninth duty register is that of the direction mask: a write of either shows in
    the other's place. -/
lemma few_of_apart {applyOnPeriodEnd : Bool} (map : FaithfulMap w n applyOnPeriodEnd) : n ≤ 8 := by
  by_contra many
  have ninth : (Reg.duty (⟨8, by omega⟩ : Fin n)).addr = REG_DIR_MASK := rfl
  have apart := map.apart [] (write REG_DIR_MASK 1) (.duty ⟨8, by omega⟩) .dir
    (by rw [ninth]; rfl) (by simp)
  have before : ((motorWrites w n applyOnPeriodEnd).after []).readback .dir =
      ⟨(0#n).setWidth 32, false⟩ := rfl
  have after : ((motorWrites w n applyOnPeriodEnd).after ([] ++ [write REG_DIR_MASK 1])).readback
      .dir = ⟨((mergeWstrb ((0#n).setWidth 32) 1 0b1111).setWidth n).setWidth 32, false⟩ := rfl
  rw [before, after, mergeWstrb_full, MmioRsp.mk.injEq] at apart
  have bit := congrArg (BitVec.getLsbD · 0) apart.1
  simp at bit
  omega

/-- For every counter width, number of channels and commit mode: the register map is a memory
    exactly with up to eight channels. -/
theorem motor_register_map_iff (w n : Nat) (applyOnPeriodEnd : Bool) :
    FaithfulMap w n applyOnPeriodEnd ↔ n ≤ 8 :=
  ⟨few_of_apart, fun few => faithfulMap_of_few few applyOnPeriodEnd⟩

/-- A write of DUTY[8], and an APPLY once it is answered. -/
def applyNinthDuty : List Mmio :=
  [write 0x40 0x155, ⟨false, ⟨false, 0, 0, 0⟩, true⟩, write REG_APPLY 1]

/-- With nine channels the write of DUTY[8] sets the direction mask, and channel 8 is driven with the
    duty it had. -/
theorem motor_register_map_collides :
    ¬ FaithfulMap 32 9 true ∧ (Reg.duty (8 : Fin 9)).addr = (Reg.dir : Reg 9).addr ∧
      ((motorWrites 32 9 true).after applyNinthDuty).timed.regs.active.duty[8] = 0 ∧
      ((motorWrites 32 9 true).after applyNinthDuty).ext.active.dir = 0x155 := by
  refine ⟨fun map => absurd (few_of_apart map) (by decide), by decide, ?_, ?_⟩ <;> decide +kernel

end ModularControl.Pwm
