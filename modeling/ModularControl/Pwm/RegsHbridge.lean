import ModularControl.Axi.Mmio

/-!
# The H-bridge register slice

`pwm_regs_hbridge_ext.sv`: the direction, brake and coast masks, with the shadow and active sets of
the common block and its commit.
-/

namespace ModularControl.Pwm
open Axi

/-- One set of masks: the shadow set or the active set. -/
structure Masks (n : Nat) where
  dir : BitVec n
  brake : BitVec n
  coast : BitVec n
deriving DecidableEq

/-- The registers of `pwm_regs_hbridge_ext`. -/
structure RegsHbridge (n : Nat) where
  shadow : Masks n
  active : Masks n
deriving DecidableEq

def REG_DIR_MASK : BitVec 12 := 0x40
def REG_BRAKE_MASK : BitVec 12 := 0x44
def REG_COAST_MASK : BitVec 12 := 0x48

variable {n : Nat}

namespace RegsHbridge

/-- The registers when reset is released. -/
def reset (n : Nat) : RegsHbridge n where
  shadow := ⟨0, 0, 0⟩
  active := ⟨0, 0, 0⟩

variable (s : RegsHbridge n)

/-- `reg_hit_o`. -/
def regHit (addr : BitVec 12) : Bool :=
  addr == REG_DIR_MASK || addr == REG_BRAKE_MASK || addr == REG_COAST_MASK

/-- `rdata_o`. -/
def rdata (addr : BitVec 12) : BitVec 32 :=
  if addr = REG_DIR_MASK then s.shadow.dir.setWidth 32
  else if addr = REG_BRAKE_MASK then s.shadow.brake.setWidth 32
  else if addr = REG_COAST_MASK then s.shadow.coast.setWidth 32
  else 0

/-- The shadow masks after a write. -/
def written (m : Masks n) (q : MmioReq) : Masks n :=
  if q.addr = REG_DIR_MASK then
    { m with dir := (mergeWstrb (m.dir.setWidth 32) q.wdata q.wstrb).setWidth n }
  else if q.addr = REG_BRAKE_MASK then
    { m with brake := (mergeWstrb (m.brake.setWidth 32) q.wdata q.wstrb).setWidth n }
  else if q.addr = REG_COAST_MASK then
    { m with coast := (mergeWstrb (m.coast.setWidth 32) q.wdata q.wstrb).setWidth n }
  else m

/-- The sequential block. -/
def step (wrEn : Bool) (q : MmioReq) (applyCommitI : Bool) : RegsHbridge n where
  shadow := if wrEn && regHit q.addr then written s.shadow q else s.shadow
  active := if applyCommitI then s.shadow else s.active

end RegsHbridge

end ModularControl.Pwm
