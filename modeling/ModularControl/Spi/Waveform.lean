import ModularControl.Spi.Words

/-!
# The timing of the bus

What a device on the bus may rely on. MOSI is steady for half a period on either side of an edge at
which the mode samples; edges of the serial clock and of the chip select keep half a period between
them, but for a chip select that falls again, which may have been high for a single clock; and the bus
is deselected half a period after a transfer is ended, and never else.
-/

namespace ModularControl.Spi
open Sync

section Streams

variable {dw : Nat} (p : SpiParams) (f : Nat → MasterIn dw)

/-- The transfer is ended: `(!I_wvalid) && I_transfer_end && O_wready` on a selected bus. -/
def endsTransfer (t : Nat) : Prop :=
  csn p f t = false ∧ (f t).wvalid = false ∧ (f t).transferEnd = true ∧
    (master p f t).wready p = true

/-- The serial clock has an edge, or the chip select is released. -/
def clocksOrReleases (t : Nat) : Prop :=
  sclk p f t ≠ sclk p f (t + 1) ∨ csn p f t = false ∧ csn p f (t + 1) = true

structure Waveform : Prop where
  /-- Without a device selected the clock is at its idle level. -/
  idleLevel : ∀ t, csn p f t = true → sclk p f t = p.CPOL
  /-- The set-up and the hold time of MOSI. -/
  stable : ∀ t, sampleEdge p (csn p f) (sclk p f) t = true → ∀ u,
    t < u + p.CLKDIVIDE → u ≤ t + p.CLKDIVIDE → mosi p f u = mosi p f t
  /-- An edge of the clock or of the chip select, and the next one but a fall of the chip select. -/
  spaced : ∀ t u, t < u → sclk p f t ≠ sclk p f (t + 1) ∨ csn p f t ≠ csn p f (t + 1) →
    clocksOrReleases p f u → t + p.CLKDIVIDE ≤ u
  /-- The bus is deselected half a period after a transfer is ended. -/
  released : ∀ t, csn p f (t + 1) = true → csn p f t = false → p.CLKDIVIDE ≤ t ∧
    endsTransfer p f (t - p.CLKDIVIDE)
  releases : ∀ t, endsTransfer p f t →
    (∀ j ≤ p.CLKDIVIDE, csn p f (t + j) = false) ∧ csn p f (t + p.CLKDIVIDE + 1) = true

end Streams

variable {dw : Nat} {p : SpiParams} {f : Nat → MasterIn dw} {t : Nat}

lemma csn_iff : csn p f t = true ↔ (master p f t).state = .idle := by
  rw [csn, SpiMaster.csn, beq_iff_eq]

lemma csn_false_iff : csn p f t = false ↔ (master p f t).state ≠ .idle := by
  rw [← Bool.not_eq_true, csn_iff]

/-- Inside of half a period the pins are steady. -/
lemma steady_waits (sz : Sizes p dw) (busy : (master p f t).state ≠ .idle)
    (during : (master p f t).clkEn p = false) :
    (master p f (t + 1)).state = (master p f t).state ∧
      (master p f (t + 1)).clkCnt = (master p f t).clkCnt + 1 ∧
      mosi p f (t + 1) = mosi p f t ∧ sclk p f (t + 1) = sclk p f t := by
  have wf := wf_master sz f t
  have outside := wf.outside
  cases wf.cases sz (f t) with
  | rests idle => exact absurd idle busy
  | starts idle => exact absurd idle busy
  | waits _ _ none next =>
    rw [← master_succ] at next
    refine ⟨by rw [next], by rw [next], ?_, ?_⟩
    · rw [mosi, next]
      rfl
    · have level : (master p f (t + 1)).cnt0 = (master p f t).cnt0 := by
        rw [next, SpiMaster.cnt0_eq, SpiMaster.cnt0_eq]
        show decide ((if (master p f t).state = .exit then 0 else (master p f t).cnt) % 2 = 1) = _
        split_ifs with exit
        · rcases outside (by simp [exit]) with low | ⟨-, full, -⟩
          · rw [low]
            rfl
          · rw [full]
            simp
        · rfl
      rw [sclk, sclk, SpiMaster.sclk, level]
      rfl
  | enters _ ends => exact absurd ends (by simp [during])
  | halves _ ends => exact absurd ends (by simp [during])
  | reloads _ ends => exact absurd ends (by simp [during])
  | pauses _ ends => exact absurd ends (by simp [during])
  | leaves _ ends => exact absurd ends (by simp [during])

lemma clkEn_of_lt {c : Nat} (clk : (master p f t).clkCnt = c) (lt : c < p.CLKDIVIDE - 1) :
    (master p f t).clkEn p = false := by
  rw [← Bool.not_eq_true, SpiMaster.clkEn_iff]
  omega

/-- What the divider has counted lies within the same half period. -/
lemma steady_before (sz : Sizes p dw) {j : Nat} (busy : (master p f t).state ≠ .idle)
    (le : j ≤ (master p f t).clkCnt) : ∃ u, t = u + j ∧
      (master p f u).state = (master p f t).state ∧
      (master p f u).clkCnt + j = (master p f t).clkCnt ∧ mosi p f u = mosi p f t := by
  induction j with
  | zero => exact ⟨t, rfl, rfl, rfl, rfl⟩
  | succ j ih =>
    obtain ⟨u, rfl, same, clk, line⟩ := ih (by omega)
    cases u with
    | zero =>
      have reset : (master p f 0).clkCnt = 0 := rfl
      omega
    | succ u =>
      have busy' : (master p f (u + 1)).state ≠ .idle := by
        rw [same]
        exact busy
      -- only a clock inside of a half period leaves the divider at more than zero
      have inside : (master p f u).state ≠ .idle ∧ (master p f u).clkEn p = false := by
        cases (wf_master sz f u).cases sz (f u) with
        | rests idle none next =>
          rw [master_succ, next] at busy'
          exact absurd idle busy'
        | waits busy during => exact ⟨busy, during⟩
        | starts _ _ next | enters _ _ _ next | halves _ _ _ _ next | reloads _ _ _ _ next
        | pauses _ _ _ _ next | leaves _ _ _ next =>
          have zero : (master p f (u + 1)).clkCnt = 0 := by rw [master_succ, next]
          omega
      obtain ⟨same', clk', line', -⟩ := steady_waits sz inside.1 inside.2
      refine ⟨u, by omega, same'.symm.trans same, by omega, line'.symm.trans line⟩

/-- A half period goes on to its last clock. -/
lemma steady_after (sz : Sizes p dw) {j : Nat} (busy : (master p f t).state ≠ .idle)
    (zero : (master p f t).clkCnt = 0) (lt : j < p.CLKDIVIDE) :
    (master p f (t + j)).state = (master p f t).state ∧ (master p f (t + j)).clkCnt = j ∧
      mosi p f (t + j) = mosi p f t := by
  induction j with
  | zero => exact ⟨rfl, zero, rfl⟩
  | succ j ih =>
    obtain ⟨same, clk, line⟩ := ih (by omega)
    obtain ⟨same', clk', line', -⟩ := steady_waits (t := t + j) sz (by rw [same]; exact busy)
      (clkEn_of_lt clk (by omega))
    exact ⟨same'.trans same, clk'.trans (congrArg (· + 1) clk), line'.trans line⟩

/-- An edge of the serial clock, or the release of the bus, ends half a period. -/
lemma ends_of_event (sz : Sizes p dw) (event : clocksOrReleases p f t) :
    (master p f t).state ≠ .idle ∧ (master p f t).clkEn p = true := by
  have wf := wf_master sz f t
  cases idle_or : decide ((master p f t).state = .idle) with
  | true =>
    have idle := of_decide_eq_true idle_or
    have high := csn_iff.mpr idle
    have low : (master p f t).cnt = 0 :=
      (wf.outside (by simp [idle])).resolve_right (by simp [idle])
    have still : sclk p f (t + 1) = sclk p f t := by
      rw [sclk, sclk, SpiMaster.sclk, SpiMaster.sclk, SpiMaster.cnt0, SpiMaster.cnt0, low]
      cases wf.cases sz (f t) with
      | rests _ _ next => rw [master_succ, next, low]
      | starts _ _ next => rw [master_succ, next]
      | waits busy => exact absurd idle busy
      | enters entr => simp [idle] at entr
      | halves rxtx => simp [idle] at rxtx
      | reloads rxtx => simp [idle] at rxtx
      | pauses rxtx => simp [idle] at rxtx
      | leaves exit => simp [idle] at exit
    rcases event with edge | ⟨down, -⟩
    · exact absurd still.symm edge
    · rw [high] at down
      cases down
  | false =>
    have busy := of_decide_eq_false idle_or
    refine ⟨busy, ?_⟩
    by_contra during
    obtain ⟨same, -, -, still⟩ := steady_waits sz busy (Bool.not_eq_true _ ▸ during)
    rcases event with edge | ⟨-, up⟩
    · exact edge still.symm
    · rw [csn_iff, same] at up
      exact busy up

/-- An edge at which the mode samples leaves MOSI as it is, and the bus selected. -/
lemma mosi_of_edge (sz : Sizes p dw)
    (edge : sampleEdge p (csn p f) (sclk p f) t = true) :
    (master p f t).state ≠ .idle ∧ (master p f t).clkCnt = p.CLKDIVIDE - 1 ∧
      (master p f (t + 1)).state ≠ .idle ∧ (master p f (t + 1)).clkCnt = 0 ∧
      mosi p f (t + 1) = mosi p f t := by
  have width := sz.width
  have selected : (master p f (t + 1)).state ≠ .idle := by
    rw [← csn_false_iff]
    simp only [sampleEdge, Bool.and_eq_true, Bool.not_eq_true'] at edge
    exact edge.1.1.2
  rw [sampleEdge_eq sz] at edge
  simp only [SpiMaster.samples, Bool.and_eq_true, beq_iff_eq, decide_eq_true_eq] at edge
  obtain ⟨⟨⟨rxtx, ends⟩, early⟩, own⟩ := edge
  refine ⟨by simp [rxtx], SpiMaster.clkEn_iff.mp ends, selected, ?_⟩
  have keeps : (master p f t).accepts p (f t) = false →
      (master p f t).wdataNext p (f t) = (master p f t).wdata := by
    intro none
    simp [SpiMaster.wdataNext, none, own]
  cases (wf_master sz f t).cases sz (f t) with
  | rests idle => simp [rxtx] at idle
  | starts idle => simp [rxtx] at idle
  | waits _ during => simp [ends] at during
  | enters entr => simp [rxtx] at entr
  | halves _ _ _ none next =>
    rw [← master_succ, keeps none] at next
    rw [mosi, next]
    exact ⟨rfl, rfl⟩
  | reloads _ _ late _ next =>
    -- the last half period is an odd one, so that only a mode with CPHA samples at its end
    have cpha : p.CPHA = true := by
      rw [← own, SpiMaster.cnt0_eq, decide_eq_true_iff]
      omega
    rw [← master_succ] at next
    refine ⟨by rw [next], ?_⟩
    rw [mosi, next]
    exact SpiMaster.loaded_mosi cpha _ _
  | pauses _ _ _ none next =>
    rw [← master_succ, keeps none] at next
    rw [mosi, next]
    exact ⟨rfl, rfl⟩
  | leaves exit => simp [rxtx] at exit

/-- A transfer is ended by a cycle that enters EXIT. -/
lemma exit_of_ends (sz : Sizes p dw) (ends : endsTransfer p f t) :
    (master p f (t + 1)).state = .exit ∧ (master p f (t + 1)).clkCnt = 0 := by
  have wf := wf_master sz f t
  obtain ⟨low, valid, end_, ready⟩ := ends
  have busy := csn_false_iff.mp low
  have late := wf.wready_eq sz
  rw [ready] at late
  simp [busy] at late
  cases wf.cases sz (f t) with
  | rests idle => exact absurd idle busy
  | starts idle => exact absurd idle busy
  | waits _ during => simp [during] at late
  | enters entr => simp [entr] at late
  | halves _ _ early => omega
  | reloads _ _ _ taken => simp [SpiMaster.accepts, valid] at taken
  | pauses _ _ _ none next =>
    rw [end_, if_pos rfl, ← master_succ] at next
    exact ⟨by rw [next], by rw [next]⟩
  | leaves exit => simp [exit] at late

/-- EXIT is entered by the end of a transfer. -/
lemma ends_of_exit (sz : Sizes p dw) (exit : (master p f (t + 1)).state = .exit)
    (zero : (master p f (t + 1)).clkCnt = 0) : endsTransfer p f t := by
  have wf := wf_master sz f t
  have late := wf.wready_eq sz
  rw [master_succ] at exit zero
  cases wf.cases sz (f t) with
  | rests idle _ next => simp [next, idle] at exit
  | starts _ _ next => simp [next] at exit
  | waits _ _ _ next => simp [next] at zero
  | enters _ _ _ next => simp [next] at exit
  | halves _ _ _ _ next => simp [next] at exit
  | reloads _ _ _ _ next => simp [next] at exit
  | pauses rxtx ends low none next =>
    have ready : (master p f t).wready p = true := by simp [late, rxtx, ends]; omega
    refine ⟨csn_false_iff.mpr (by simp [rxtx]), ?_, ?_, ready⟩
    · simpa [SpiMaster.accepts, ready] using none
    · by_contra goes
      simp [next, goes] at exit
  | leaves _ _ _ next => simp [next] at exit

/-- Whatever the master is offered, and whenever transfers are ended: a device on the bus finds MOSI
    steady around the edges at which it samples, a serial clock no faster than CLKDIV says, which is
    idle while nothing is selected and steady for half a period after the chip select has fallen and
    before it is released, and a chip select that is released exactly by the end of a transfer. How
    soon it falls again is up to what the master is offered. -/
theorem spi_master_waveform (p : SpiParams) (sz : Sizes p dw) (f : Nat → MasterIn dw) :
    Waveform p f where
  idleLevel t high := by
    have idle := csn_iff.mp high
    have low := ((wf_master sz f t).outside (by simp [idle])).resolve_right (by simp [idle])
    rw [sclk, SpiMaster.sclk, SpiMaster.cnt0, low]
    cases p.CPOL <;> rfl
  stable t edge u after before := by
    have half := sz.half
    obtain ⟨busy, clk, busy', clk', same⟩ := mosi_of_edge sz edge
    rcases Nat.lt_or_ge t u with later | earlier
    · obtain ⟨j, rfl⟩ : ∃ j, u = t + 1 + j := ⟨u - (t + 1), by omega⟩
      obtain ⟨-, -, line⟩ := steady_after (j := j) sz busy' clk' (by omega)
      exact line.trans same
    · obtain ⟨v, eq, -, -, line⟩ := steady_before (j := t - u) sz busy (by omega)
      obtain rfl : v = u := by omega
      exact line
  spaced t u lt change event := by
    have half := sz.half
    obtain ⟨busy, ends⟩ := ends_of_event sz event
    have clk := SpiMaster.clkEn_iff.mp ends
    by_contra near
    obtain ⟨v, eq, same, clk', -⟩ := steady_before (j := u - t) sz busy (by omega)
    obtain rfl : v = t := by omega
    obtain ⟨same', -, -, still⟩ := steady_waits sz (by rw [same]; exact busy)
      (clkEn_of_lt rfl (by omega))
    rcases change with edge | turns
    · exact edge still.symm
    · rw [csn, csn, SpiMaster.csn, SpiMaster.csn, same'] at turns
      exact turns rfl
  released t high low := by
    have half := sz.half
    obtain ⟨busy, ends⟩ := ends_of_event sz (.inr ⟨low, high⟩)
    have clk := SpiMaster.clkEn_iff.mp ends
    have exit : (master p f t).state = .exit := by
      have idle := csn_iff.mp high
      rw [master_succ] at idle
      cases (wf_master sz f t).cases sz (f t) with
      | rests idle => exact absurd idle busy
      | starts idle => exact absurd idle busy
      | waits _ during => simp [ends] at during
      | enters _ _ _ next => simp [next] at idle
      | halves _ _ _ _ next => simp [next] at idle
      | reloads _ _ _ _ next => simp [next] at idle
      | pauses _ _ _ _ next =>
        rw [next] at idle
        have idle : (if (f t).transferEnd then MasterState.exit else .rxtx) = .idle := idle
        split_ifs at idle
      | leaves exit => exact exit
    obtain ⟨v, eq, same, clk', -⟩ := steady_before (j := p.CLKDIVIDE - 1) sz busy (by omega)
    cases v with
    | zero =>
      have reset : (master p f 0).state = .idle := rfl
      rw [reset, exit] at same
      cases same
    | succ v =>
      have ended := ends_of_exit (t := v) sz (same.trans exit) (by omega)
      have at_v : t - p.CLKDIVIDE = v := by omega
      exact ⟨by omega, by rw [at_v]; exact ended⟩
  releases t ended := by
    have half := sz.half
    obtain ⟨exit, zero⟩ := exit_of_ends sz ended
    have busy : (master p f (t + 1)).state ≠ .idle := by simp [exit]
    constructor
    · intro j le
      cases j with
      | zero => exact ended.1
      | succ j =>
        obtain ⟨same, -, -⟩ := steady_after (j := j) sz busy zero (by omega)
        rw [← Nat.add_assoc, Nat.add_right_comm, csn_false_iff, same]
        exact busy
    · obtain ⟨same, clk, -⟩ := steady_after (j := p.CLKDIVIDE - 1) sz busy zero (by omega)
      have last : t + p.CLKDIVIDE + 1 = t + 1 + (p.CLKDIVIDE - 1) + 1 := by omega
      have ends := SpiMaster.clkEn_iff.mpr clk
      have exit' := same.trans exit
      rw [last, csn_iff, master_succ]
      show SpiMaster.stateNext p _ _ = .idle
      rw [SpiMaster.stateNext, exit']
      exact if_pos ends

/-- Words of one byte, each in a transfer of its own. -/
theorem spi_master_waveform_default : Waveform .default fun t =>
    (⟨t % 100 = 0, true, BitVec.ofNat 8 t, false⟩ : MasterIn 8) :=
  spi_master_waveform .default sizes_default _

end ModularControl.Spi
