import Mathlib.Data.Nat.Log
import ModularControl.Sync.Shift
import ModularControl.Sync.Stream

/-!
# The vendor SPI master

`spi_master.v` with its clock divider `clk_valid.v`, for every mode, bit order and word width.
`R_cnt` counts the half periods of the serial clock; while a word is exchanged the divider ends one
every `CLKDIV / 2` cycles. `Cycle` says once what a cycle can do.
-/

namespace ModularControl.Spi
open Sync

/-- The parameters of the master; `msbFirst` stands for `BITORDER == "MSB_FIRST"`. -/
structure SpiParams where
  CPOL : Bool
  CPHA : Bool
  msbFirst : Bool
  CLKDIV : Nat
deriving DecidableEq, Repr

/-- `CLKDIV/2`, the clocks of half a period of the serial clock. -/
def SpiParams.CLKDIVIDE (p : SpiParams) : Nat := p.CLKDIV / 2

/-- `W_valid` of `clk_valid`. -/
def clkValid (CLKDIVIDE cnt : Nat) : Bool := cnt == CLKDIVIDE - 1

/-- `R_cnt` of `clk_valid` after a clock out of reset. -/
def clkValidNext (CLKDIVIDE cnt : Nat) : Nat :=
  if clkValid CLKDIVIDE cnt then 0 else (cnt + 1) % 2 ^ Nat.clog 2 CLKDIVIDE

/-- `R_state`. -/
inductive MasterState where
  | idle
  | entr
  | rxtx
  | exit
deriving DecidableEq, Repr

/-- The inputs of the master in a cycle. -/
structure MasterIn (dw : Nat) where
  wvalid : Bool := false
  transferEnd : Bool := false
  wdata : BitVec dw := 0
  miso : Bool := false
deriving DecidableEq, Repr

/-- The registers of the master; `clkCnt` is the counter of its divider. -/
structure SpiMaster (dw : Nat) where
  state : MasterState
  clkCnt : Nat
  cnt : Nat
  wdata : BitVec (dw + 1)
  rdata : BitVec dw
  rvalid : Bool
deriving DecidableEq, Repr

/-- The outputs of the master in a cycle. -/
structure MasterObs (dw : Nat) where
  wready : Bool
  rvalid : Bool
  rdata : BitVec dw
  csn : Bool
  sclk : Bool
  mosi : Bool
deriving DecidableEq, Repr

namespace SpiMaster

variable {dw : Nat}

def reset : SpiMaster dw where
  state := .idle
  clkCnt := 0
  cnt := 0
  wdata := 0
  rdata := 0
  rvalid := false

variable (p : SpiParams) (s : SpiMaster dw) (i : MasterIn dw)

/-- `W_clk_en`. -/
def clkEn : Bool := clkValid p.CLKDIVIDE s.clkCnt

/-- `R_cnt[0]`. -/
def cnt0 : Bool := s.cnt % 2 == 1

def wready : Bool := s.state == .idle || decide (dw * 2 - 1 ≤ s.cnt) && s.clkEn p
def csn : Bool := s.state == .idle
def sclk : Bool := s.cnt0 ^^ p.CPOL
def mosi : Bool := foremost p.msbFirst s.wdata

/-- `I_wvalid && O_wready`. -/
def accepts : Bool := i.wvalid && s.wready p

/-- `R_wdata` once a word is loaded: with CPHA the bit on the wire stays for half a period. -/
def loaded (w : BitVec dw) : BitVec (dw + 1) :=
  if p.msbFirst ^^ !p.CPHA then w.cons (s.wdata.getLsbD dw) else w.concat (s.wdata.getLsbD 0)

def stateNext : MasterState :=
  match s.state with
  | .idle => if s.accepts p i then .entr else .idle
  | .entr => if s.clkEn p then .rxtx else .entr
  | .rxtx => if !i.wvalid && i.transferEnd && s.wready p then .exit else .rxtx
  | .exit => if s.clkEn p then .idle else .exit

/-- `R_cnt` has `$clog2(DATAWIDTH) + 2` bits. -/
def cntNext : Nat :=
  if s.state ≠ .rxtx ∨ s.accepts p i then 0
  else if s.cnt = dw * 2 ∨ s.clkEn p = false then s.cnt
  else (s.cnt + 1) % 2 ^ (Nat.clog 2 dw + 2)

def wdataNext : BitVec (dw + 1) :=
  if s.accepts p i then s.loaded p i.wdata
  else if s.state = .rxtx ∧ s.clkEn p ∧ (s.cnt0 ^^ p.CPHA) then shiftIn p.msbFirst s.wdata false
  else s.wdata

def rdataNext : BitVec dw :=
  if s.clkEn p && (s.cnt0 ^^ !p.CPHA) then shiftIn p.msbFirst s.rdata i.miso else s.rdata

/-- The sequential blocks. The divider is held in reset while the master is idle. -/
def step : SpiMaster dw where
  state := s.stateNext p i
  clkCnt := if s.state = .idle then 0 else clkValidNext p.CLKDIVIDE s.clkCnt
  cnt := s.cntNext p i
  wdata := s.wdataNext p i
  rdata := s.rdataNext p i
  rvalid := decide (s.cnt = dw * 2 - 1) && s.clkEn p

end SpiMaster

/-- `spi_master` as a machine. -/
def spiMaster (p : SpiParams) (dw : Nat) : Machine (SpiMaster dw) (MasterIn dw) (MasterObs dw) where
  init := .reset
  step s i := s.step p i
  out s _ := ⟨s.wready p, s.rvalid, s.rdata, s.csn, s.sclk p, s.mosi p⟩

/-- What the master is built for: a divider from 4 on, and words of at least two bits. -/
structure Sizes (p : SpiParams) (dw : Nat) : Prop where
  half : 2 ≤ p.CLKDIVIDE
  width : 2 ≤ dw

/-- The parameters that `spi_regs` has by default. -/
def SpiParams.default : SpiParams := ⟨false, true, true, 8⟩

lemma sizes_default : Sizes .default 8 := ⟨by decide, by decide⟩

namespace SpiMaster

variable {dw : Nat} {p : SpiParams} {s : SpiMaster dw} {i : MasterIn dw}

/-- The counters are within their bounds. Outside of an exchange `R_cnt` is zero, but for the first
    cycle of EXIT. -/
structure Wf (p : SpiParams) (s : SpiMaster dw) : Prop where
  clk : s.clkCnt < p.CLKDIVIDE
  cnt : s.cnt ≤ dw * 2
  rest : s.state = .idle → s.clkCnt = 0
  outside : s.state ≠ .rxtx → s.cnt = 0 ∨ s.state = .exit ∧ s.cnt = dw * 2 ∧ s.clkCnt = 0

lemma wf_reset (sz : Sizes p dw) : (reset : SpiMaster dw).Wf p where
  clk := Nat.lt_of_lt_of_le Nat.zero_lt_two sz.half
  cnt := Nat.zero_le _
  rest _ := rfl
  outside _ := .inl rfl

lemma clkEn_iff : s.clkEn p = true ↔ s.clkCnt = p.CLKDIVIDE - 1 := by
  rw [clkEn, clkValid, beq_iff_eq]

/-- The divider does not end half a period in its first clock. -/
lemma clkEn_of_zero (sz : Sizes p dw) (zero : s.clkCnt = 0) : s.clkEn p = false := by
  have half := sz.half
  rw [← Bool.not_eq_true, clkEn_iff, zero]
  omega

/-- The divider counts up to its end. -/
lemma Wf.clkCnt_next (wf : s.Wf p) : clkValidNext p.CLKDIVIDE s.clkCnt =
    if s.clkEn p then 0 else s.clkCnt + 1 := by
  rw [clkValidNext, clkEn]
  cases ends : clkValid p.CLKDIVIDE s.clkCnt with
  | true => rfl
  | false =>
    have ne : s.clkCnt ≠ p.CLKDIVIDE - 1 := by
      rw [clkValid, beq_eq_false_iff_ne] at ends
      exact ends
    have lt := wf.clk
    have fits : p.CLKDIVIDE ≤ 2 ^ Nat.clog 2 p.CLKDIVIDE := Nat.le_pow_clog (by decide) _
    rw [if_neg Bool.false_ne_true, if_neg Bool.false_ne_true]
    exact Nat.mod_eq_of_lt (by omega)

/-- The half periods of a word are counted without wrapping. -/
lemma cnt_next (lt : s.cnt < dw * 2) :
    (s.cnt + 1) % 2 ^ (Nat.clog 2 dw + 2) = s.cnt + 1 := by
  have fits : dw ≤ 2 ^ Nat.clog 2 dw := Nat.le_pow_clog (by decide) _
  have split : 2 ^ (Nat.clog 2 dw + 2) = 2 ^ Nat.clog 2 dw * 4 := by rw [Nat.pow_add]
  exact Nat.mod_eq_of_lt (by omega)

lemma clkCnt_step (busy : s.state ≠ .idle) (wf : s.Wf p) :
    (s.step p i).clkCnt = if s.clkEn p then 0 else s.clkCnt + 1 :=
  (if_neg busy).trans wf.clkCnt_next

/-- The master is ready when it is idle, and in the last clock of a word's last half period and of
    every half period it waits after it. -/
lemma Wf.wready_eq (wf : s.Wf p) (sz : Sizes p dw) : s.wready p =
    (decide (s.state = .idle) ||
      decide (s.state = .rxtx) && decide (dw * 2 - 1 ≤ s.cnt) && s.clkEn p) := by
  have width := sz.width
  rw [wready]
  cases state : s.state with
  | idle => rfl
  | rxtx => simp
  | entr =>
    have low : s.cnt = 0 := (wf.outside (by simp [state])).resolve_right (by simp [state])
    simp [low]
    omega
  | exit =>
    rcases wf.outside (by simp [state]) with low | ⟨-, -, first⟩
    · simp [low]
      omega
    · simp [clkEn_of_zero sz first]

/-- What a cycle does. A half period is ended by the divider; the master takes a word when it is
    idle, and at the end of the last half period of another. -/
inductive Cycle (p : SpiParams) (s : SpiMaster dw) (i : MasterIn dw) : Prop
  | rests (idle : s.state = .idle) (none : s.accepts p i = false)
    (next : s.step p i = { s with rvalid := false })
  | starts (idle : s.state = .idle) (taken : s.accepts p i = true)
    (next : s.step p i =
      { s with
        state := .entr, clkCnt := 0, cnt := 0, wdata := s.loaded p i.wdata, rvalid := false })
  | waits (busy : s.state ≠ .idle) (during : s.clkEn p = false) (none : s.accepts p i = false)
    (next : s.step p i =
      { s with
        clkCnt := s.clkCnt + 1, cnt := if s.state = .exit then 0 else s.cnt, rvalid := false })
  | enters (entr : s.state = .entr) (ends : s.clkEn p = true) (none : s.accepts p i = false)
    (next : s.step p i =
      { s with state := .rxtx, clkCnt := 0, cnt := 0, rdata := s.rdataNext p i, rvalid := false })
  | halves (rxtx : s.state = .rxtx) (ends : s.clkEn p = true) (early : s.cnt < dw * 2 - 1)
    (none : s.accepts p i = false)
    (next : s.step p i =
      { state := .rxtx, clkCnt := 0, cnt := s.cnt + 1, wdata := s.wdataNext p i,
        rdata := s.rdataNext p i, rvalid := false })
  | reloads (rxtx : s.state = .rxtx) (ends : s.clkEn p = true) (late : dw * 2 - 1 ≤ s.cnt)
    (taken : s.accepts p i = true)
    (next : s.step p i =
      { state := .rxtx, clkCnt := 0, cnt := 0, wdata := s.loaded p i.wdata,
        rdata := s.rdataNext p i, rvalid := decide (s.cnt = dw * 2 - 1) })
  | pauses (rxtx : s.state = .rxtx) (ends : s.clkEn p = true) (late : dw * 2 - 1 ≤ s.cnt)
    (none : s.accepts p i = false)
    (next : s.step p i =
      { state := if i.transferEnd then .exit else .rxtx, clkCnt := 0, cnt := dw * 2,
        wdata := s.wdataNext p i, rdata := s.rdataNext p i,
        rvalid := decide (s.cnt = dw * 2 - 1) })
  | leaves (exit : s.state = .exit) (ends : s.clkEn p = true) (none : s.accepts p i = false)
    (next : s.step p i =
      { s with state := .idle, clkCnt := 0, cnt := 0, rdata := s.rdataNext p i, rvalid := false })

/-- Outside of RXTX the count is not that of the last half period of a word. -/
lemma Wf.not_last (wf : s.Wf p) (sz : Sizes p dw) (away : s.state ≠ .rxtx) :
    s.cnt ≠ dw * 2 - 1 := by
  have width := sz.width
  rcases wf.outside away with low | ⟨-, full, -⟩
  · omega
  · omega

/-- The inversion lemma of a cycle. -/
lemma Wf.cases (wf : s.Wf p) (sz : Sizes p dw) (i : MasterIn dw) : Cycle p s i := by
  have width := sz.width
  have ready := wf.wready_eq sz
  have bound := wf.cnt
  cases state : s.state with
  | idle =>
    have zero : s.clkCnt = 0 := wf.rest state
    have off := clkEn_of_zero sz zero
    have low : s.cnt = 0 := (wf.outside (by simp [state])).resolve_right (by simp [state])
    cases taken : s.accepts p i with
    | false =>
      refine .rests state taken ?_
      simp [step, stateNext, cntNext, wdataNext, rdataNext, state, taken, off, zero, low]
    | true =>
      refine .starts state taken ?_
      simp [step, stateNext, cntNext, wdataNext, rdataNext, state, taken, off]
  | entr =>
    have notLast := wf.not_last sz (by simp [state])
    have low : s.cnt = 0 := (wf.outside (by simp [state])).resolve_right (by simp [state])
    have none : s.accepts p i = false := by simp [accepts, ready, state]
    have clk := clkCnt_step (i := i) (by simp [state]) wf
    cases ends : s.clkEn p with
    | false =>
      refine .waits (by simp [state]) ends none ?_
      rw [ends] at clk
      simp [step, stateNext, cntNext, wdataNext, rdataNext, state, none, ends, low] at clk ⊢
      exact clk
    | true =>
      refine .enters state ends none ?_
      rw [ends] at clk
      simp [step, stateNext, cntNext, wdataNext, state, none, ends, notLast] at clk ⊢
      exact clk
  | exit =>
    have notLast := wf.not_last sz (by simp [state])
    have none : s.accepts p i = false := by simp [accepts, ready, state]
    have clk := clkCnt_step (i := i) (by simp [state]) wf
    cases ends : s.clkEn p with
    | false =>
      refine .waits (by simp [state]) ends none ?_
      rw [ends] at clk
      simp [step, stateNext, cntNext, wdataNext, rdataNext, state, none, ends] at clk ⊢
      exact clk
    | true =>
      refine .leaves state ends none ?_
      rw [ends] at clk
      simp [step, stateNext, cntNext, wdataNext, state, none, ends, notLast] at clk ⊢
      exact clk
  | rxtx =>
    have clk := clkCnt_step (i := i) (by simp [state]) wf
    rw [state] at ready
    cases ends : s.clkEn p with
    | false =>
      have none : s.accepts p i = false := by simp [accepts, ready, ends]
      refine .waits (by simp [state]) ends none ?_
      rw [ends] at clk
      rw [ends] at ready
      simp [step, stateNext, cntNext, wdataNext, rdataNext, state, none, ends, ready] at clk ⊢
      exact clk
    | true =>
      rw [ends] at clk
      have clk : clkValidNext p.CLKDIVIDE s.clkCnt = 0 := by simpa [step, state] using clk
      by_cases early : s.cnt < dw * 2 - 1
      · have low : ¬ dw * 2 - 1 ≤ s.cnt := by omega
        have ready : s.wready p = false := by simp [ready, low]
        have none : s.accepts p i = false := by simp [accepts, ready]
        have count : s.cntNext p i = s.cnt + 1 := by
          rw [cntNext, if_neg (by simp [state, none]), if_neg (by simp [ends]; omega),
            cnt_next (by omega)]
        refine .halves state ends early none ?_
        simp [step, stateNext, count, state, ends, ready, clk]
        omega
      · have late : dw * 2 - 1 ≤ s.cnt := by omega
        have ready : s.wready p = true := by simp [ready, late, ends]
        cases taken : s.accepts p i with
        | true =>
          have valid : i.wvalid = true := by simpa [accepts, ready] using taken
          refine .reloads state ends late taken ?_
          simp [step, stateNext, cntNext, wdataNext, state, ends, clk, taken, valid]
        | false =>
          have valid : i.wvalid = false := by simpa [accepts, ready] using taken
          have count : s.cntNext p i = dw * 2 := by
            rw [cntNext, if_neg (by simp [state, taken])]
            split_ifs with stays
            · simpa [ends] using stays
            · rw [cnt_next (by simp [ends] at stays; omega)]
              simp [ends] at stays
              omega
          refine .pauses state ends late taken ?_
          simp [step, stateNext, count, state, ends, clk, ready, valid]

/-- The counters stay within their bounds. -/
lemma Wf.step (wf : s.Wf p) (sz : Sizes p dw) : (s.step p i).Wf p := by
  have pos : 0 < p.CLKDIVIDE := Nat.lt_of_lt_of_le Nat.zero_lt_two sz.half
  have clk := wf.clk
  have bound := wf.cnt
  have outside := wf.outside
  cases wf.cases sz i with
  | rests idle none next =>
    rw [next]
    exact ⟨clk, bound, wf.rest, outside⟩
  | starts idle taken next =>
    rw [next]
    exact ⟨pos, Nat.zero_le _, nofun, fun _ => .inl rfl⟩
  | waits busy during none next =>
    have early : s.clkCnt ≠ p.CLKDIVIDE - 1 := by
      rw [← clkEn_iff.ne, during]
      exact Bool.false_ne_true
    rw [next]
    refine ⟨?_, ?_, fun idle => absurd idle busy, fun away => .inl ?_⟩
    · show s.clkCnt + 1 < p.CLKDIVIDE
      omega
    · show (if s.state = .exit then 0 else s.cnt) ≤ dw * 2
      split_ifs
      · omega
      · exact bound
    · show (if s.state = .exit then 0 else s.cnt) = 0
      split_ifs with exit
      · rfl
      · exact (outside away).resolve_right fun full => exit full.1
  | enters entr ends none next =>
    rw [next]
    exact ⟨pos, Nat.zero_le _, nofun, fun _ => .inl rfl⟩
  | halves rxtx ends early none next =>
    rw [next]
    refine ⟨pos, ?_, nofun, fun away => absurd rfl away⟩
    show s.cnt + 1 ≤ dw * 2
    omega
  | reloads rxtx ends late taken next =>
    rw [next]
    exact ⟨pos, Nat.zero_le _, nofun, fun away => absurd rfl away⟩
  | pauses rxtx ends late none next =>
    rw [next]
    refine ⟨pos, Nat.le_refl _, fun _ => rfl, fun away => .inr ⟨?_, rfl, rfl⟩⟩
    cases over_ : i.transferEnd with
    | true => simp
    | false => simp [over_] at away
  | leaves exit ends none next =>
    rw [next]
    exact ⟨pos, Nat.zero_le _, fun _ => rfl, fun _ => .inl rfl⟩

lemma wf_after (sz : Sizes p dw) (is : List (MasterIn dw)) : ((spiMaster p dw).after is).Wf p :=
  (spiMaster p dw).invariant_rule (wf_reset sz) (fun _ _ wf _ => wf.step sz)
    ((spiMaster p dw).along_true is)

end SpiMaster

end ModularControl.Spi
