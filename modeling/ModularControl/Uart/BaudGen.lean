import Mathlib.Algebra.Group.Nat.Defs
import ModularControl.Sync.Counter
import ModularControl.Sync.Stream

/-!
# The baud generator of the UART

`uart_baudgen.sv`, with the width of the divider, the clock and the default baud rate as parameters.
While it is enabled and the divider stays, every `div_eff`-th clock has an x16 tick.
-/

namespace ModularControl.Uart
open Sync

/-- The value parameters of the generator. -/
structure BaudParams where
  clkHz : Nat := 50000000
  defaultBaudrate : Nat := 9600
deriving DecidableEq, Repr

/-- `calc_div_x16`, rounding to the nearest divider. -/
def calcDivX16 (clkHz baud : Nat) : Nat :=
  if baud = 0 then 1
  else
    let denominator := baud * 16
    let numerator := clkHz + denominator / 2
    if numerator / denominator < 1 then 1 else numerator / denominator

/-- The inputs of the generator in a cycle. -/
structure BaudIn (w : Nat) where
  en : Bool
  divX16 : BitVec w
deriving DecidableEq, Repr

/-- The registers of the generator. -/
structure BaudGen (w : Nat) where
  cnt : BitVec w
  sub16 : BitVec 4
  baudX16Tick : Bool
  baud1xTick : Bool
deriving DecidableEq, Repr

variable {w : Nat}

/-- `div_req`: a divider of 0 asks for the default. -/
def divReq (p : BaudParams) (divX16 : BitVec w) : BitVec w :=
  if divX16 ≠ 0 then divX16 else BitVec.ofNat w (calcDivX16 p.clkHz p.defaultBaudrate)

/-- `div_eff`, at least 1. -/
def divEff (p : BaudParams) (divX16 : BitVec w) : BitVec w :=
  if divReq p divX16 ≤ 1 then 1 else divReq p divX16

namespace BaudGen

def reset : BaudGen w where
  cnt := 0
  sub16 := 0
  baudX16Tick := false
  baud1xTick := false

variable (p : BaudParams) (s : BaudGen w) (i : BaudIn w)

/-- The counter is at the end of its period. -/
def wraps : Bool := s.cnt == divEff p i.divX16 - 1

def step : BaudGen w :=
  if i.en then
    if s.wraps p i then
      { cnt := 0
        sub16 := if s.sub16 = 15 then 0 else s.sub16 + 1
        baudX16Tick := true
        baud1xTick := s.sub16 = 15 }
    else { s with cnt := s.cnt + 1, baudX16Tick := false, baud1xTick := false }
  else { cnt := 0, sub16 := 0, baudX16Tick := false, baud1xTick := false }

end BaudGen

/-- The baud generator as a machine. -/
def baudGen (w : Nat) (p : BaudParams) : Machine (BaudGen w) (BaudIn w) (BaudGen w) where
  init := .reset
  step s i := s.step p i
  out s _ := s

/-- The x16 ticks of an enabled generator whose divider stays. -/
def x16Tick (p : BaudParams) (divX16 : BitVec w) (t : Nat) : Bool :=
  ((baudGen w p).atCycle (fun _ => ⟨true, divX16⟩) t).baudX16Tick

/-- A divider of at least 1 is taken as it is. -/
lemma divEff_eq (p : BaudParams) {divX16 : BitVec w} (pos : 0 < divX16.toNat) :
    divEff p divX16 = divX16 := by
  have ne : divX16 ≠ 0 := by
    rintro rfl
    simp at pos
  have req : divReq p divX16 = divX16 := if_pos ne
  rw [divEff, req]
  split_ifs with le
  · have le : divX16.toNat ≤ 1 % 2 ^ w := le
    have one := Nat.mod_le 1 (2 ^ w)
    apply BitVec.eq_of_toNat_eq
    change 1 % 2 ^ w = divX16.toNat
    omega
  · rfl

/-! ## Runs of the generator -/

section Run

variable (p : BaudParams) (f : Nat → BaudIn w) {t u n d : Nat}

/-- The x16 tick, the 1x tick and the effective divider in a cycle of a run. -/
def x16At (t : Nat) : Bool := ((baudGen w p).atCycle f t).baudX16Tick

def x1At (t : Nat) : Bool := ((baudGen w p).atCycle f t).baud1xTick

def effAt (t : Nat) : Nat := (divEff p (f t).divX16).toNat

/-- The generator is enabled from cycle `t` on, up to cycle `n`. -/
def Enabled (t n : Nat) : Prop := ∀ v, t ≤ v → v < n → (f v).en = true

variable {p f}

/-- An enabled clock ticks at the end of the count, which starts again, and counts on otherwise. -/
lemma x16At_succ (en : (f t).en = true) (pos : 0 < effAt p f t) :
    (x16At p f (t + 1) = true ↔ ((baudGen w p).atCycle f t).cnt.toNat + 1 = effAt p f t) ∧
      ((baudGen w p).atCycle f (t + 1)).cnt.toNat =
        if x16At p f (t + 1) then 0 else (((baudGen w p).atCycle f t).cnt.toNat + 1) % 2 ^ w := by
  have wraps : ((baudGen w p).atCycle f t).wraps p (f t) = true ↔
      ((baudGen w p).atCycle f t).cnt.toNat + 1 = effAt p f t := by
    have pred : (divEff p (f t).divX16 - 1).toNat = effAt p f t - 1 := toNat_pred pos
    rw [BaudGen.wraps, beq_iff_eq, ← BitVec.toNat_inj, pred]
    omega
  have next : (baudGen w p).atCycle f (t + 1) = ((baudGen w p).atCycle f t).step p (f t) :=
    Machine.atCycle_succ _ _ _
  rw [x16At, next]
  cases hw : ((baudGen w p).atCycle f t).wraps p (f t) with
  | true => simp [BaudGen.step, en, hw, wraps.mp hw]
  | false =>
    have no := mt wraps.mpr (Bool.eq_false_iff.mp hw)
    have narrow : 1 % 2 ^ w = 1 := by
      have lt : effAt p f t < 2 ^ w := BitVec.isLt _
      exact Nat.mod_eq_of_lt (by omega)
    simp [BaudGen.step, en, hw, no, narrow]

/-- While the divider stays the generator counts the clocks modulo the divider, and ticks when the
    count starts again. -/
lemma baudGen_counts_from (zero : ((baudGen w p).atCycle f t).cnt = 0) (pos : 0 < d)
    (en : Enabled f t n) (const : ∀ v, t ≤ v → v < n → effAt p f v = d) (ge : t ≤ u) (le : u ≤ n) :
    ((baudGen w p).atCycle f u).cnt.toNat = (u - t) % d ∧
      (t < u → (x16At p f u = true ↔ d ∣ u - t)) := by
  induction ge with
  | refl =>
    rw [Nat.sub_self, zero, Nat.zero_mod]
    exact ⟨rfl, fun lt => absurd lt (Nat.lt_irrefl t)⟩
  | @step u ge ih =>
    have eff := const u ge le
    obtain ⟨tick, cnt⟩ := x16At_succ (en u ge le) (eff.symm ▸ pos)
    rw [eff, (ih (Nat.le_of_succ_le le)).1] at tick
    rw [(ih (Nat.le_of_succ_le le)).1] at cnt
    have lt := Nat.mod_lt (u - t) pos
    have room : d < 2 ^ w := by
      have bound : effAt p f u < 2 ^ w := BitVec.isLt _
      omega
    rw [Nat.dvd_iff_mod_eq_zero, Nat.succ_eq_add_one, Nat.sub_add_comm ge, ← Nat.mod_add_mod]
    by_cases last : (u - t) % d + 1 = d
    · rw [tick.mpr last, if_pos rfl] at cnt
      rw [last, Nat.mod_self]
      exact ⟨cnt, fun _ => by simpa using tick.mpr last⟩
    · have low : x16At p f (u + 1) = false := Bool.eq_false_iff.mpr (mt tick.mp last)
      rw [low, if_neg Bool.false_ne_true, Nat.mod_eq_of_lt (by omega)] at cnt
      rw [Nat.mod_eq_of_lt (by omega)]
      exact ⟨cnt, fun _ => by simp [low]⟩

end Run

/-- The generator counts the clocks modulo the divider, and ticks when the count starts again. -/
lemma baudGen_counts (p : BaudParams) (divX16 : BitVec w) (pos : 0 < (divEff p divX16).toNat)
    (t : Nat) :
    ((baudGen w p).atCycle (fun _ => ⟨true, divX16⟩) t).cnt.toNat = t % (divEff p divX16).toNat ∧
      (x16Tick p divX16 t = true ↔ 0 < t ∧ (divEff p divX16).toNat ∣ t) := by
  obtain ⟨cnt, tick⟩ := baudGen_counts_from (p := p) (f := fun _ => ⟨true, divX16⟩) (t := 0) rfl pos
    (fun _ _ _ => rfl) (fun _ _ _ => rfl) (Nat.zero_le t) (Nat.le_refl t)
  rw [Nat.sub_zero] at cnt tick
  refine ⟨cnt, ?_⟩
  cases t with
  | zero => simp [x16Tick, baudGen, BaudGen.reset]
  | succ t => exact (tick (Nat.succ_pos t)).trans (by simp)

/-- Every `div_eff`-th clock has a tick. -/
lemma x16Tick_every_eff (p : BaudParams) {divX16 : BitVec w} (pos : 0 < (divEff p divX16).toNat) :
    Every (divEff p divX16).toNat (x16Tick p divX16) :=
  fun t => (baudGen_counts p divX16 pos t).2

/-- With a divider of `d` from 1 on, every `d`-th clock has a tick. -/
lemma x16Tick_every (p : BaudParams) {divX16 : BitVec w} (pos : 0 < divX16.toNat) :
    Every divX16.toNat (x16Tick p divX16) := by
  have eff := divEff_eq p pos
  have ev := x16Tick_every_eff p (eff.symm ▸ pos)
  rwa [eff] at ev

end ModularControl.Uart
