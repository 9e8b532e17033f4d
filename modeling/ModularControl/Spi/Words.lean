import ModularControl.Spi.Master

/-!
# The words on the bus

Who watches the chip select, the serial clock and a data line sees a bit at every edge at which the
mode samples. The bits that the master sends are those of the words it takes, and the words that it
returns are made of the bits it is sent, in order and one word for each, whatever is offered and
whenever; a word comes back a fixed number of clocks after it was taken.
-/

namespace ModularControl.Spi
open Sync

section Bus

variable (p : SpiParams) (csn sclk line : Nat → Bool)

/-- Between this cycle and the next, selected in both, the serial clock has the edge at which the
    mode samples: the one that leaves its idle level, or with CPHA the one that returns to it. -/
def sampleEdge (t : Nat) : Bool :=
  !csn t && !csn (t + 1) && sclk t == (p.CPOL ^^ p.CPHA) && sclk (t + 1) == !(p.CPOL ^^ p.CPHA)

/-- The bit that is seen on a line. -/
def seenBit (t : Nat) : Option Bool := if sampleEdge p csn sclk t then some (line t) else none

end Bus

section Streams

variable {dw : Nat} (p : SpiParams) (f : Nat → MasterIn dw)

/-- The registers in cycle `t`. -/
def master (t : Nat) : SpiMaster dw := (spiMaster p dw).atCycle f t

def csn (t : Nat) : Bool := (master p f t).csn
def sclk (t : Nat) : Bool := (master p f t).sclk p
def mosi (t : Nat) : Bool := (master p f t).mosi p

/-- The word that the master takes in a cycle. -/
def takenWord (t : Nat) : Option (BitVec dw) :=
  if (master p f t).accepts p (f t) then some (f t).wdata else none

/-- The word that the master returns in a cycle. -/
def returnedWord (t : Nat) : Option (BitVec dw) :=
  if (master p f t).rvalid then some (master p f t).rdata else none

def sentBit (t : Nat) : Option Bool := seenBit p (csn p f) (sclk p f) (mosi p f) t
def gotBit (t : Nat) : Option Bool := seenBit p (csn p f) (sclk p f) (fun u => (f u).miso) t

/-- The bits of words, one after the other. -/
def bitsOf (ws : List (BitVec dw)) : List Bool := ws.flatMap (serial p.msbFirst)

/-- The clocks from taking a word to returning it: half a period more if the bus is not yet
    selected. -/
def latency (t : Nat) : Nat := (if csn p f t then p.CLKDIVIDE else 0) + dw * 2 * p.CLKDIVIDE + 1

/-- The bits on the bus are those of the words taken and returned. -/
structure Exchanging : Prop where
  /-- What has been sent are the words taken, up to some bit of the last one. -/
  sent : ∀ t, log (sentBit p f) t <+: bitsOf p (log (takenWord p f) t)
  /-- What has been returned are the bits got so far, but for the word under way. -/
  got : ∀ t, bitsOf p (log (returnedWord p f) t) <+: log (gotBit p f) t
  /-- A returned word consists of the bits that were got while its counterpart was sent. -/
  returned : ∀ t w, returnedWord p f t = some w →
    log (gotBit p f) t = bitsOf p (log (returnedWord p f) t ++ [w]) ∧
      log (sentBit p f) t =
        bitsOf p ((log (takenWord p f) t).take ((log (returnedWord p f) t).length + 1))
  /-- Between transactions every word taken has been sent and has been returned. -/
  complete : ∀ t, csn p f t = true →
    log (sentBit p f) t = bitsOf p (log (takenWord p f) t) ∧
      log (gotBit p f) t = bitsOf p (log (returnedWord p f) t) ∧
      (log (returnedWord p f) t).length = (log (takenWord p f) t).length
  /-- Every word is returned, at a known time. -/
  due : ∀ t w, takenWord p f t = some w → ∃ x,
    returnedWord p f (t + latency p f t) = some x ∧
      (log (returnedWord p f) (t + latency p f t)).length = (log (takenWord p f) t).length

end Streams

namespace SpiMaster

variable {dw : Nat} {p : SpiParams} {s : SpiMaster dw} {i : MasterIn dw}

/-- The edges to sample at are the ends of every second half period of a word. -/
def samples (p : SpiParams) (s : SpiMaster dw) : Bool :=
  s.state == .rxtx && s.clkEn p && decide (s.cnt < dw * 2) && s.cnt0 == p.CPHA

/-- How many bits of a word have been sampled, and shifted out, after `c` half periods. -/
def sampledBy (p : SpiParams) (c : Nat) : Nat := (c + 1 - p.CPHA.toNat) / 2
def shiftedBy (p : SpiParams) (c : Nat) : Nat := (c + p.CPHA.toNat) / 2

/-- With CPHA a word comes behind the bit that is left on the wire. -/
def behind (p : SpiParams) (a : Bool) (w : BitVec dw) : List Bool :=
  (if p.CPHA then [a] else []) ++ serial p.msbFirst w

lemma loaded_shows (s : SpiMaster dw) (w : BitVec dw) :
    ∃ a, behind p a w <+: serial p.msbFirst (s.loaded p w) := by
  cases cpha : p.CPHA with
  | false =>
    refine ⟨false, ?_⟩
    cases order : p.msbFirst <;>
      simp [behind, loaded, cpha, order, serial_cons, serial_concat]
  | true =>
    cases order : p.msbFirst with
    | false =>
      exact ⟨s.wdata.getLsbD 0, by simp [behind, loaded, cpha, order, serial_concat]⟩
    | true => exact ⟨s.wdata.getLsbD dw, by simp [behind, loaded, cpha, order, serial_cons]⟩

/-- With CPHA the bit on the wire is not touched by a load. -/
lemma loaded_mosi (cpha : p.CPHA = true) (s : SpiMaster dw) (w : BitVec dw) :
    foremost p.msbFirst (s.loaded p w) = s.mosi p := by
  cases order : p.msbFirst with
  | false =>
    rw [loaded, order, cpha, mosi, order]
    exact foremost_concat _ _
  | true =>
    rw [loaded, order, cpha, mosi, order]
    exact foremost_cons _ _

lemma cnt0_eq : s.cnt0 = decide (s.cnt % 2 = 1) := beq_eq_decide _ _

/-- A half period that samples, and one that shifts. -/
lemma sampledBy_succ {c : Nat} : sampledBy p (c + 1) =
    if decide (c % 2 = 1) = p.CPHA then sampledBy p c + 1 else sampledBy p c := by
  rw [sampledBy, sampledBy]
  cases p.CPHA <;> simp <;> split_ifs <;> omega

lemma shiftedBy_succ {c : Nat} : shiftedBy p (c + 1) =
    if decide (c % 2 = 1) = p.CPHA then shiftedBy p c else shiftedBy p c + 1 := by
  rw [shiftedBy, shiftedBy]
  cases p.CPHA <;> simp <;> split_ifs <;> omega

lemma sampledBy_full (p : SpiParams) (dw : Nat) : sampledBy p (dw * 2) = dw := by
  rw [sampledBy]
  cases p.CPHA with
  | false =>
    simp
    omega
  | true => simp

/-- At an edge to sample at, the bit on the wire is the next one of the word. -/
lemma mosi_of_shows {a : Bool} {w : BitVec dw} {c : Nat} (lt : c < dw * 2)
    (own : decide (c % 2 = 1) = p.CPHA)
    (shows : (behind p a w).drop (shiftedBy p c) <+: serial p.msbFirst s.wdata) :
    (serial p.msbFirst w).take (sampledBy p c + 1) =
      (serial p.msbFirst w).take (sampledBy p c) ++ [s.mosi p] := by
  have aligned : (behind p a w).drop (shiftedBy p c) =
      (serial p.msbFirst w).drop (sampledBy p c) := by
    rw [behind, sampledBy, shiftedBy]
    cases cpha : p.CPHA with
    | false =>
      have even : c % 2 = 0 := by simpa [cpha] using own
      simp
      omega
    | true =>
      have odd : c % 2 = 1 := by simpa [cpha] using own
      obtain ⟨k, rfl⟩ : ∃ k, c = 2 * k + 1 := ⟨c / 2, by omega⟩
      simp [show (2 * k + 1 + 1) / 2 = k + 1 by omega, show (2 * k + 1) / 2 = k by omega]
  have within : sampledBy p c < (serial p.msbFirst w).length := by
    rw [length_serial, sampledBy]
    cases cpha : p.CPHA <;> simp [cpha] at own ⊢ <;> omega
  rw [aligned, List.drop_eq_getElem_cons within] at shows
  have first := serial_foremost (m := p.msbFirst) s.wdata
  obtain ⟨rest, eq⟩ := shows
  rw [← eq] at first
  rw [List.take_add_one, List.getElem?_eq_getElem within, mosi]
  exact congrArg _ (congrArg Option.toList first)

end SpiMaster

section Run

variable {dw : Nat} {p : SpiParams} {f : Nat → MasterIn dw} {t : Nat}

lemma wf_master (sz : Sizes p dw) (f : Nat → MasterIn dw) (t : Nat) : (master p f t).Wf p :=
  SpiMaster.wf_after sz _

lemma master_succ : master p f (t + 1) = (master p f t).step p (f t) := Machine.atCycle_succ _ _ _

/-- Without an edge of the clock, or away from a selected bus, nothing is sampled. -/
lemma sampleEdge_still (same : (master p f (t + 1)).cnt0 = (master p f t).cnt0) :
    sampleEdge p (csn p f) (sclk p f) t = false := by
  rw [← Bool.not_eq_true]
  intro edge
  simp only [sampleEdge, sclk, SpiMaster.sclk, same, Bool.and_eq_true, beq_iff_eq] at edge
  rw [edge.1.2] at edge
  simp at edge

lemma sampleEdge_turn (low : csn p f t = false) (low' : csn p f (t + 1) = false)
    (turn : (master p f (t + 1)).cnt0 = !(master p f t).cnt0) :
    sampleEdge p (csn p f) (sclk p f) t = ((master p f t).cnt0 == p.CPHA) := by
  rw [sampleEdge, low, low', sclk, sclk, SpiMaster.sclk, SpiMaster.sclk, turn]
  cases (master p f t).cnt0 <;> cases p.CPOL <;> cases p.CPHA <;> rfl

/-- The last half period of a word ends with an edge; one that the master waits for does not. -/
lemma sampleEdge_late (sz : Sizes p dw) (rxtx : (master p f t).state = .rxtx)
    (ends : (master p f t).clkEn p = true) (late : dw * 2 - 1 ≤ (master p f t).cnt)
    (low' : csn p f (t + 1) = false) (even : (master p f (t + 1)).cnt0 = false) :
    sampleEdge p (csn p f) (sclk p f) t = (master p f t).samples p := by
  have bound := (wf_master sz f t).cnt
  have width := sz.width
  have low : csn p f t = false := by rw [csn, SpiMaster.csn, rxtx]; rfl
  rw [SpiMaster.samples, rxtx, ends]
  by_cases last : (master p f t).cnt = dw * 2 - 1
  · have odd : (master p f t).cnt0 = true := by
      rw [SpiMaster.cnt0_eq, last, decide_eq_true_iff]
      omega
    rw [sampleEdge_turn low low' (by rw [even, odd]; rfl), decide_eq_true (by omega)]
    rfl
  · have even' : (master p f t).cnt0 = false := by
      rw [SpiMaster.cnt0_eq, decide_eq_false_iff_not]
      omega
    rw [sampleEdge_still (by rw [even, even']), decide_eq_false (by omega)]
    rfl

/-- The edges that an observer of the bus finds are those at which the master samples. -/
lemma sampleEdge_eq (sz : Sizes p dw) :
    sampleEdge p (csn p f) (sclk p f) t = (master p f t).samples p := by
  have wf := wf_master sz f t
  have outside := wf.outside
  rw [SpiMaster.samples]
  cases wf.cases sz (f t) with
  | rests idle none next => simp [sampleEdge, csn, SpiMaster.csn, idle]
  | starts idle taken next => simp [sampleEdge, csn, SpiMaster.csn, idle]
  | waits busy during none next =>
    rw [during, sampleEdge_still]
    · simp
    · rw [master_succ, next]
      show decide _ = decide _
      split_ifs with exit
      · rcases outside (by simp [exit]) with low | ⟨-, full, -⟩
        · rw [low]
        · rw [full]
          simp
      · rfl
  | enters entr ends none next =>
    have low := (outside (by simp [entr])).resolve_right (by simp [entr])
    rw [sampleEdge_still]
    · simp [entr]
    · rw [master_succ, next]
      simp [SpiMaster.cnt0, low]
  | halves rxtx ends early none next =>
    rw [sampleEdge_turn]
    · simp [rxtx, ends]
      omega
    · simp [csn, SpiMaster.csn, rxtx]
    · rw [csn, master_succ, next]
      rfl
    · rw [master_succ, next, SpiMaster.cnt0_eq, SpiMaster.cnt0_eq, ← decide_not]
      exact decide_eq_decide.mpr (by simp; omega)
  | reloads rxtx ends late taken next =>
    refine sampleEdge_late sz rxtx ends late ?_ ?_
    · rw [csn, master_succ, next]
      rfl
    · rw [master_succ, next]
      rfl
  | pauses rxtx ends late none next =>
    refine sampleEdge_late sz rxtx ends late ?_ ?_
    · rw [csn, master_succ, next]
      cases (f t).transferEnd <;> rfl
    · rw [master_succ, next]
      simp [SpiMaster.cnt0]
  | leaves exit ends none next =>
    have low : csn p f (t + 1) = true := by
      rw [csn, master_succ, next]
      rfl
    simp [sampleEdge, low, exit]

/-! ## Word by word -/

/-- The word `w` is under way, behind the words `ws`: `bits` have been sampled for it. -/
structure Under (p : SpiParams) (f : Nat → MasterIn dw) (t : Nat) (ws : List (BitVec dw))
    (w : BitVec dw) (bits : List Bool) : Prop where
  active : (master p f t).state = .entr ∨ (master p f t).state = .rxtx
  early : (master p f t).cnt < dw * 2
  fresh : (master p f t).rvalid = true → (master p f t).cnt = 0
  taken : log (takenWord p f) t = ws ++ [w]
  sent : log (sentBit p f) t = bitsOf p ws ++
    (serial p.msbFirst w).take (SpiMaster.sampledBy p (master p f t).cnt)
  got : log (gotBit p f) t = bitsOf p (log (returnedWord p f) (t + 1)) ++ bits
  count : bits.length = SpiMaster.sampledBy p (master p f t).cnt
  held : bits <:+ serial p.msbFirst (master p f t).rdata
  returned : (log (returnedWord p f) (t + 1)).length = ws.length
  shows : ∃ a, (SpiMaster.behind p a w).drop (SpiMaster.shiftedBy p (master p f t).cnt) <+:
    serial p.msbFirst (master p f t).wdata

/-- No word is under way. -/
structure Over (p : SpiParams) (f : Nat → MasterIn dw) (t : Nat) : Prop where
  inactive : (master p f t).state ≠ .entr
  late : (master p f t).state = .rxtx → (master p f t).cnt = dw * 2
  fresh : (master p f t).rvalid = true → (master p f t).state ≠ .idle
  sent : log (sentBit p f) t = bitsOf p (log (takenWord p f) t)
  got : log (gotBit p f) t = bitsOf p (log (returnedWord p f) (t + 1))
  returned : (log (returnedWord p f) (t + 1)).length = (log (takenWord p f) t).length

/-- Where the master is with the words it has taken. -/
inductive Progress (p : SpiParams) (f : Nat → MasterIn dw) (t : Nat) : Prop
  | done (ov : Over p f t)
  | under {ws : List (BitVec dw)} {w : BitVec dw} {bits : List Bool} (un : Under p f t ws w bits)

lemma sentBit_eq (sz : Sizes p dw) : sentBit p f t =
    if (master p f t).samples p then some (mosi p f t) else none := by
  rw [sentBit, seenBit, sampleEdge_eq sz]

lemma gotBit_eq (sz : Sizes p dw) : gotBit p f t =
    if (master p f t).samples p then some (f t).miso else none := by
  rw [gotBit, seenBit, sampleEdge_eq sz]

lemma returnedWord_succ : returnedWord p f (t + 1) =
    if ((master p f t).step p (f t)).rvalid then some ((master p f t).step p (f t)).rdata
    else none := by
  rw [returnedWord, master_succ]

/-- A cycle that ends no half period of a word with an edge to sample at. -/
lemma still_bits (sz : Sizes p dw) (still : (master p f t).samples p = false) :
    log (sentBit p f) (t + 1) = log (sentBit p f) t ∧
      log (gotBit p f) (t + 1) = log (gotBit p f) t := by
  rw [log_succ, log_succ, sentBit_eq sz, gotBit_eq sz, still]
  simp

lemma still_taken (none : (master p f t).accepts p (f t) = false) :
    log (takenWord p f) (t + 1) = log (takenWord p f) t := by
  rw [log_succ, takenWord, none]
  exact List.append_nil _

lemma still_returned (quiet : ((master p f t).step p (f t)).rvalid = false) :
    log (returnedWord p f) (t + 2) = log (returnedWord p f) (t + 1) := by
  rw [log_succ _ (t + 1), returnedWord_succ, quiet]
  exact List.append_nil _

/-- A word is taken as the words before it are over. -/
lemma under_of_taken (sz : Sizes p dw)
    (sent : log (sentBit p f) (t + 1) = bitsOf p (log (takenWord p f) t))
    (got : log (gotBit p f) (t + 1) = bitsOf p (log (returnedWord p f) (t + 2)))
    (returned : (log (returnedWord p f) (t + 2)).length = (log (takenWord p f) t).length)
    (taken : (master p f t).accepts p (f t) = true)
    (active : ((master p f t).step p (f t)).state = .entr ∨
      ((master p f t).step p (f t)).state = .rxtx)
    (zero : ((master p f t).step p (f t)).cnt = 0)
    (loaded : ((master p f t).step p (f t)).wdata = (master p f t).loaded p (f t).wdata) :
    Under p f (t + 1) (log (takenWord p f) t) (f t).wdata [] := by
  have width := sz.width
  have taken' : takenWord p f t = some (f t).wdata := if_pos taken
  have start : SpiMaster.sampledBy p 0 = 0 := by
    rw [SpiMaster.sampledBy]
    cases p.CPHA <;> rfl
  have start' : SpiMaster.shiftedBy p 0 = 0 := by
    rw [SpiMaster.shiftedBy]
    cases p.CPHA <;> rfl
  rw [← master_succ] at active zero loaded
  refine ⟨active, by omega, fun _ => zero, ?_, ?_, ?_, ?_, List.nil_suffix, returned, ?_⟩
  · rw [log_succ, taken', Option.toList_some]
  · rw [sent, zero, start]
    exact (List.append_nil _).symm
  · rw [got]
    exact (List.append_nil _).symm
  · rw [zero, start]
    rfl
  · rw [zero, loaded, start']
    exact SpiMaster.loaded_shows _ _

/-- A word that is taken while none is under way is on its way. -/
lemma Over.takes (ov : Over p f t) (sz : Sizes p dw)
    (taken : (master p f t).accepts p (f t) = true)
    (active : ((master p f t).step p (f t)).state = .entr ∨
      ((master p f t).step p (f t)).state = .rxtx)
    (zero : ((master p f t).step p (f t)).cnt = 0)
    (loaded : ((master p f t).step p (f t)).wdata = (master p f t).loaded p (f t).wdata)
    (quiet : ((master p f t).step p (f t)).rvalid = false)
    (still : (master p f t).samples p = false) :
    Under p f (t + 1) (log (takenWord p f) t) (f t).wdata [] := by
  obtain ⟨sent, got⟩ := still_bits sz still
  have words := still_returned quiet
  refine under_of_taken sz ?_ ?_ ?_ taken active zero loaded
  · rw [sent, ov.sent]
  · rw [got, ov.got, words]
  · rw [words, ov.returned]

/-- A cycle in which nothing is taken, sampled or returned. -/
lemma Over.still (ov : Over p f t) (sz : Sizes p dw)
    (none : (master p f t).accepts p (f t) = false)
    (inactive : ((master p f t).step p (f t)).state ≠ .entr)
    (late : ((master p f t).step p (f t)).state = .rxtx →
      ((master p f t).step p (f t)).cnt = dw * 2)
    (quiet : ((master p f t).step p (f t)).rvalid = false)
    (still : (master p f t).samples p = false) : Over p f (t + 1) := by
  obtain ⟨sent, got⟩ := still_bits sz still
  have words := still_returned quiet
  have taken := still_taken none
  rw [← master_succ] at inactive late quiet
  refine ⟨inactive, late, fun back => ?_, ?_, ?_, ?_⟩
  · rw [quiet] at back
    cases back
  · rw [sent, taken, ov.sent]
  · rw [got, words, ov.got]
  · rw [words, taken, ov.returned]

/-- Between two words the master rests, waits or takes the next one. -/
lemma Over.step (ov : Over p f t) (sz : Sizes p dw) : Progress p f (t + 1) := by
  have width := sz.width
  have wf := wf_master sz f t
  have inactive := ov.inactive
  have late := ov.late
  have still : (master p f t).samples p = false := by
    rw [SpiMaster.samples, ← Bool.not_eq_true]
    simp
    intro rxtx _
    have full := late rxtx
    omega
  cases wf.cases sz (f t) with
  | rests idle none next =>
    refine .done (ov.still sz none ?_ ?_ ?_ still) <;> rw [next]
    · exact inactive
    · exact late
  | starts idle taken next =>
    refine .under (ov.takes sz taken ?_ ?_ ?_ ?_ still) <;> rw [next]
    exact .inl rfl
  | waits busy during none next =>
    refine .done (ov.still sz none ?_ ?_ ?_ still) <;> rw [next]
    · exact inactive
    · intro rxtx
      have rxtx : (master p f t).state = .rxtx := rxtx
      exact (if_neg (by simp [rxtx])).trans (late rxtx)
  | enters entr ends none next => exact absurd entr inactive
  | halves rxtx ends early none next =>
    have full := late rxtx
    omega
  | reloads rxtx ends low taken next =>
    have past : (master p f t).cnt ≠ dw * 2 - 1 := by
      rw [late rxtx]
      omega
    refine .under (ov.takes sz taken ?_ ?_ ?_ ?_ still) <;> rw [next]
    · exact .inr rfl
    · exact decide_eq_false past
  | pauses rxtx ends low none next =>
    have past : (master p f t).cnt ≠ dw * 2 - 1 := by
      rw [late rxtx]
      omega
    refine .done (ov.still sz none ?_ ?_ ?_ still) <;> rw [next]
    · show (if (f t).transferEnd then MasterState.exit else .rxtx) ≠ .entr
      split_ifs <;> simp
    · exact fun _ => rfl
    · exact decide_eq_false past
  | leaves exit ends none next =>
    refine .done (ov.still sz none ?_ ?_ ?_ still) <;> rw [next]
    · exact MasterState.noConfusion
    · exact MasterState.noConfusion

/-- What the end of a half period of a word does to its bits. -/
lemma Under.half {ws : List (BitVec dw)} {w : BitVec dw} {bits : List Bool}
    (un : Under p f t ws w bits) (sz : Sizes p dw) (rxtx : (master p f t).state = .rxtx)
    (ends : (master p f t).clkEn p = true) :
    ∃ bits', log (sentBit p f) (t + 1) = bitsOf p ws ++
        (serial p.msbFirst w).take (SpiMaster.sampledBy p ((master p f t).cnt + 1)) ∧
      log (gotBit p f) (t + 1) = bitsOf p (log (returnedWord p f) (t + 1)) ++ bits' ∧
      bits'.length = SpiMaster.sampledBy p ((master p f t).cnt + 1) ∧
      bits' <:+ serial p.msbFirst ((master p f t).rdataNext p (f t)) := by
  have early := un.early
  have samples : (master p f t).samples p = ((master p f t).cnt0 == p.CPHA) := by
    rw [SpiMaster.samples, rxtx, ends, decide_eq_true early]
    rfl
  have takes : (master p f t).rdataNext p (f t) =
      if (master p f t).cnt0 = p.CPHA then shiftIn p.msbFirst (master p f t).rdata (f t).miso
      else (master p f t).rdata := by
    rw [SpiMaster.rdataNext, ends]
    cases (master p f t).cnt0 <;> cases p.CPHA <;> rfl
  by_cases own : (master p f t).cnt0 = p.CPHA
  · have sent : sentBit p f t = some (mosi p f t) := by rw [sentBit_eq sz, samples, own]; simp
    have got : gotBit p f t = some (f t).miso := by rw [gotBit_eq sz, samples, own]; simp
    rw [if_pos own] at takes
    rw [SpiMaster.cnt0_eq] at own
    obtain ⟨a, shows⟩ := un.shows
    have count := un.count
    refine ⟨bits ++ [(f t).miso], ?_, ?_, ?_, ?_⟩
    · rw [log_succ, sent, un.sent, SpiMaster.sampledBy_succ, if_pos own,
        SpiMaster.mosi_of_shows early own shows, List.append_assoc]
      rfl
    · rw [log_succ, got, un.got, List.append_assoc]
      rfl
    · rw [List.length_append, count, SpiMaster.sampledBy_succ, if_pos own]
      rfl
    · rw [takes]
      refine suffix_shiftIn _ ?_ un.held
      have whole := SpiMaster.sampledBy_full p dw
      have next : SpiMaster.sampledBy p ((master p f t).cnt + 1) = _ := SpiMaster.sampledBy_succ
      rw [if_pos own] at next
      rw [count]
      have le : SpiMaster.sampledBy p ((master p f t).cnt + 1) ≤ SpiMaster.sampledBy p (dw * 2) :=
        Nat.div_le_div_right (by omega)
      omega
  · have sent : sentBit p f t = none := by rw [sentBit_eq sz, samples]; simp [own]
    have got : gotBit p f t = none := by rw [gotBit_eq sz, samples]; simp [own]
    rw [if_neg own] at takes
    rw [SpiMaster.cnt0_eq] at own
    refine ⟨bits, ?_, ?_, ?_, ?_⟩
    · rw [log_succ, sent, un.sent, SpiMaster.sampledBy_succ, if_neg own]
      exact List.append_nil _
    · rw [log_succ, got, un.got]
      exact List.append_nil _
    · rw [un.count, SpiMaster.sampledBy_succ, if_neg own]
    · rw [takes]
      exact un.held

/-- The bits still to be shown after a half period. -/
lemma Under.shows_next {ws : List (BitVec dw)} {w : BitVec dw} {bits : List Bool}
    (un : Under p f t ws w bits) (rxtx : (master p f t).state = .rxtx)
    (ends : (master p f t).clkEn p = true) (none : (master p f t).accepts p (f t) = false) :
    ∃ a, (SpiMaster.behind p a w).drop (SpiMaster.shiftedBy p ((master p f t).cnt + 1)) <+:
      serial p.msbFirst ((master p f t).wdataNext p (f t)) := by
  obtain ⟨a, shows⟩ := un.shows
  refine ⟨a, ?_⟩
  have shifts : (master p f t).wdataNext p (f t) =
      if (master p f t).cnt0 = p.CPHA then (master p f t).wdata
      else shiftIn p.msbFirst (master p f t).wdata false := by
    rw [SpiMaster.wdataNext, none, rxtx, ends]
    cases (master p f t).cnt0 <;> cases p.CPHA <;> rfl
  rw [shifts, SpiMaster.shiftedBy_succ, ← SpiMaster.cnt0_eq]
  by_cases own : (master p f t).cnt0 = p.CPHA
  · rw [if_pos own, if_pos own]
    exact shows
  · rw [if_neg own, if_neg own, ← List.tail_drop]
    exact prefix_shiftIn _ (Nat.succ_pos dw) shows

/-- The last half period of a word returns it. -/
lemma Under.last {ws : List (BitVec dw)} {w : BitVec dw} {bits : List Bool}
    (un : Under p f t ws w bits) (sz : Sizes p dw) (rxtx : (master p f t).state = .rxtx)
    (ends : (master p f t).clkEn p = true) (late : dw * 2 - 1 ≤ (master p f t).cnt)
    (rdata : ((master p f t).step p (f t)).rdata = (master p f t).rdataNext p (f t))
    (back : ((master p f t).step p (f t)).rvalid = decide ((master p f t).cnt = dw * 2 - 1)) :
    log (sentBit p f) (t + 1) = bitsOf p (log (takenWord p f) t) ∧
      log (gotBit p f) (t + 1) = bitsOf p (log (returnedWord p f) (t + 2)) ∧
      (log (returnedWord p f) (t + 2)).length = (log (takenWord p f) t).length := by
  have early := un.early
  have full : (master p f t).cnt + 1 = dw * 2 := by omega
  obtain ⟨bits', sent, got, count, held⟩ := un.half sz rxtx ends
  rw [full, SpiMaster.sampledBy_full] at sent count
  have word : returnedWord p f (t + 1) = some ((master p f t).rdataNext p (f t)) := by
    rw [returnedWord_succ, back, rdata, decide_eq_true (by omega)]
    rfl
  have read := serial_of_suffix count held
  refine ⟨?_, ?_, ?_⟩
  · rw [sent, un.taken, bitsOf, bitsOf, List.flatMap_append, List.flatMap_singleton,
      List.take_of_length_le (by rw [length_serial])]
  · rw [got, log_succ _ (t + 1), word, bitsOf, bitsOf, Option.toList_some, List.flatMap_append,
      List.flatMap_singleton, read]
  · rw [log_succ _ (t + 1), word, List.length_append, un.returned, un.taken, List.length_append]
    rfl

/-- A cycle that leaves a word where it is. -/
lemma Under.still {ws : List (BitVec dw)} {w : BitVec dw} {bits : List Bool}
    (un : Under p f t ws w bits) (sz : Sizes p dw)
    (none : (master p f t).accepts p (f t) = false)
    (active : ((master p f t).step p (f t)).state = .entr ∨
      ((master p f t).step p (f t)).state = .rxtx)
    (cnt : ((master p f t).step p (f t)).cnt = (master p f t).cnt)
    (wdata : ((master p f t).step p (f t)).wdata = (master p f t).wdata)
    (held : bits <:+ serial p.msbFirst ((master p f t).step p (f t)).rdata)
    (quiet : ((master p f t).step p (f t)).rvalid = false)
    (still : (master p f t).samples p = false) : Under p f (t + 1) ws w bits := by
  obtain ⟨sent, got⟩ := still_bits sz still
  have words := still_returned quiet
  rw [← master_succ] at active cnt wdata held quiet
  refine ⟨active, ?_, fun back => ?_, ?_, ?_, ?_, ?_, held, ?_, ?_⟩
  · rw [cnt]
    exact un.early
  · rw [quiet] at back
    cases back
  · rw [still_taken none]
    exact un.taken
  · rw [sent, cnt]
    exact un.sent
  · rw [got, words]
    exact un.got
  · rw [cnt]
    exact un.count
  · rw [words]
    exact un.returned
  · rw [cnt, wdata]
    exact un.shows

/-- A word goes on by half a period, or is over. -/
lemma Under.step {ws : List (BitVec dw)} {w : BitVec dw} {bits : List Bool}
    (un : Under p f t ws w bits) (sz : Sizes p dw) : Progress p f (t + 1) := by
  have wf := wf_master sz f t
  have early := un.early
  cases wf.cases sz (f t) with
  | rests idle none next => exact absurd un.active (by simp [idle])
  | starts idle taken next => exact absurd un.active (by simp [idle])
  | leaves exit ends none next => exact absurd un.active (by simp [exit])
  | waits busy during none next =>
    have still : (master p f t).samples p = false := by simp [SpiMaster.samples, during]
    have stays : (master p f t).state ≠ .exit := by
      rcases un.active with entr | rxtx
      · simp [entr]
      · simp [rxtx]
    rw [if_neg stays] at next
    refine .under (un.still sz none ?_ ?_ ?_ ?_ ?_ still) <;> rw [next]
    · exact un.active
    · exact un.held
  | enters entr ends none next =>
    have low := (wf.outside (by simp [entr])).resolve_right (by simp [entr])
    have still : (master p f t).samples p = false := by simp [SpiMaster.samples, entr]
    have empty : bits = [] := by
      have count := un.count
      rw [low, SpiMaster.sampledBy] at count
      cases cpha : p.CPHA <;> simpa [cpha] using count
    refine .under (un.still sz none ?_ ?_ ?_ ?_ ?_ still) <;> rw [next]
    · exact .inr rfl
    · exact low.symm
    · rw [empty]
      exact List.nil_suffix
  | halves rxtx ends within none next =>
    obtain ⟨bits', sent, got, count, held⟩ := un.half sz rxtx ends
    have shows := un.shows_next rxtx ends none
    have words : log (returnedWord p f) (t + 2) = log (returnedWord p f) (t + 1) :=
      still_returned (by rw [next])
    rw [← master_succ] at next
    have goes : Under p f (t + 1) ws w bits' := by
      refine ⟨?_, ?_, ?_, ?_, ?_, ?_, ?_, ?_, ?_, ?_⟩
      · rw [next]
        exact .inr rfl
      · rw [next]
        show (master p f t).cnt + 1 < dw * 2
        omega
      · rw [next]
        exact fun back => Bool.noConfusion back
      · rw [still_taken none]
        exact un.taken
      · rw [sent, next]
      · rw [got, words]
      · rw [next]
        exact count
      · rw [next]
        exact held
      · rw [words]
        exact un.returned
      · rw [next]
        exact shows
    exact .under goes
  | reloads rxtx ends late taken next =>
    obtain ⟨sent, got, words⟩ := un.last sz rxtx ends late (by rw [next]) (by rw [next])
    refine .under (under_of_taken sz sent got words taken ?_ ?_ ?_) <;> rw [next]
    exact .inr rfl
  | pauses rxtx ends late none next =>
    obtain ⟨sent, got, words⟩ := un.last sz rxtx ends late (by rw [next]) (by rw [next])
    rw [← master_succ] at next
    refine .done ⟨?_, ?_, ?_, ?_, got, ?_⟩
    · rw [next]
      show (if (f t).transferEnd then MasterState.exit else .rxtx) ≠ .entr
      split_ifs <;> simp
    · rw [next]
      exact fun _ => rfl
    · rw [next]
      show _ → (if (f t).transferEnd then MasterState.exit else .rxtx) ≠ .idle
      split_ifs <;> simp
    · rw [sent, still_taken none]
    · rw [still_taken none]
      exact words

lemma progress (sz : Sizes p dw) (f : Nat → MasterIn dw) (t : Nat) : Progress p f t := by
  induction t with
  | zero =>
    refine .done ⟨?_, ?_, ?_, rfl, rfl, rfl⟩
    · exact MasterState.noConfusion
    · exact MasterState.noConfusion
    · exact fun back => Bool.noConfusion back
  | succ t ih =>
    cases ih with
    | done ov => exact ov.step sz
    | under un => exact un.step sz

/-! ## The time of a word -/

/-- A half period begins. -/
structure Begins (p : SpiParams) (f : Nat → MasterIn dw) (u : Nat) (state : MasterState)
    (c : Nat) : Prop where
  state : (master p f u).state = state
  cnt : (master p f u).cnt = c
  clk : (master p f u).clkCnt = 0

/-- Up to its last clock a half period of a word changes nothing but the divider. -/
lemma Begins.during {u c j : Nat} {state : MasterState} (be : Begins p f u state c)
    (sz : Sizes p dw) (active : state = .entr ∨ state = .rxtx) (lt : j < p.CLKDIVIDE) :
    (master p f (u + j)).state = state ∧ (master p f (u + j)).cnt = c ∧
      (master p f (u + j)).clkCnt = j ∧ log (takenWord p f) (u + j) = log (takenWord p f) u := by
  induction j with
  | zero => exact ⟨be.state, be.cnt, be.clk, rfl⟩
  | succ j ih =>
    obtain ⟨same, cnt, clk, taken⟩ := ih (by omega)
    have during : (master p f (u + j)).clkEn p = false := by
      rw [← Bool.not_eq_true, SpiMaster.clkEn_iff]
      omega
    have busy : (master p f (u + j)).state ≠ .idle ∧ (master p f (u + j)).state ≠ .exit := by
      rw [same]
      rcases active with rfl | rfl <;> decide
    cases (wf_master sz f (u + j)).cases sz (f (u + j)) with
    | rests idle none next => exact absurd idle busy.1
    | starts idle none next => exact absurd idle busy.1
    | waits _ _ none next =>
      rw [if_neg busy.2, ← master_succ] at next
      refine ⟨?_, ?_, ?_, ?_⟩
      · rw [← Nat.add_assoc, next]
        exact same
      · rw [← Nat.add_assoc, next]
        exact cnt
      · rw [← Nat.add_assoc, next]
        exact congrArg (· + 1) clk
      · rw [← Nat.add_assoc, still_taken none]
        exact taken
    | enters _ ends => exact absurd ends (by simp [during])
    | halves _ ends => exact absurd ends (by simp [during])
    | reloads _ ends => exact absurd ends (by simp [during])
    | pauses _ ends => exact absurd ends (by simp [during])
    | leaves _ ends => exact absurd ends (by simp [during])

/-- A half period before the last of a word is followed by another. -/
lemma Begins.next {u c : Nat} {state : MasterState} (be : Begins p f u state c) (sz : Sizes p dw)
    (early : state = .entr ∨ state = .rxtx ∧ c < dw * 2 - 1) :
    Begins p f (u + p.CLKDIVIDE) .rxtx (if state = .entr then 0 else c + 1) ∧
      log (takenWord p f) (u + p.CLKDIVIDE) = log (takenWord p f) u := by
  have half := sz.half
  have last : u + p.CLKDIVIDE = u + (p.CLKDIVIDE - 1) + 1 := by omega
  obtain ⟨same, cnt, clk, taken⟩ := be.during (j := p.CLKDIVIDE - 1) sz
    (early.imp_right And.left) (by omega)
  have ends : (master p f (u + (p.CLKDIVIDE - 1))).clkEn p = true := SpiMaster.clkEn_iff.mpr clk
  rw [last]
  cases (wf_master sz f (u + (p.CLKDIVIDE - 1))).cases sz (f (u + (p.CLKDIVIDE - 1))) with
  | rests idle => rcases early with rfl | ⟨rfl, -⟩ <;> simp [same] at idle
  | starts idle => rcases early with rfl | ⟨rfl, -⟩ <;> simp [same] at idle
  | waits _ during => exact absurd ends (by simp [during])
  | enters entr _ none next =>
    rw [if_pos (by rw [← same, entr]), still_taken none]
    rw [← master_succ] at next
    refine ⟨⟨?_, ?_, ?_⟩, taken⟩ <;> rw [next]
  | halves rxtx _ _ none next =>
    rw [if_neg (by rw [← same, rxtx]; decide), still_taken none]
    rw [← master_succ] at next
    refine ⟨⟨?_, ?_, ?_⟩, taken⟩ <;> rw [next]
    exact congrArg (· + 1) cnt
  | reloads rxtx _ late =>
    rcases early with rfl | ⟨-, lt⟩
    · simp [same] at rxtx
    · omega
  | pauses rxtx _ late =>
    rcases early with rfl | ⟨-, lt⟩
    · simp [same] at rxtx
    · omega
  | leaves exit => rcases early with rfl | ⟨rfl, -⟩ <;> simp [same] at exit

/-- The half periods of a word follow each other. -/
lemma Begins.halves {u c : Nat} (be : Begins p f u .rxtx 0) (sz : Sizes p dw)
    (lt : c < dw * 2) : Begins p f (u + c * p.CLKDIVIDE) .rxtx c ∧
      log (takenWord p f) (u + c * p.CLKDIVIDE) = log (takenWord p f) u := by
  induction c with
  | zero =>
    rw [Nat.zero_mul]
    exact ⟨be, rfl⟩
  | succ c ih =>
    obtain ⟨begins, taken⟩ := ih (by omega)
    obtain ⟨next, taken'⟩ := begins.next sz (.inr ⟨rfl, by omega⟩)
    rw [Nat.succ_mul, ← Nat.add_assoc]
    exact ⟨next, taken'.trans taken⟩

/-- A word whose first half period begins is returned after the last one. -/
lemma Begins.returns {u : Nat} {ws : List (BitVec dw)} {w : BitVec dw} (be : Begins p f u .rxtx 0)
    (sz : Sizes p dw) (taken : log (takenWord p f) u = ws ++ [w]) :
    ∃ x, returnedWord p f (u + dw * 2 * p.CLKDIVIDE) = some x ∧
      (log (returnedWord p f) (u + dw * 2 * p.CLKDIVIDE)).length = ws.length := by
  have half := sz.half
  have width := sz.width
  obtain ⟨begins, same⟩ := be.halves (c := dw * 2 - 1) sz (by omega)
  obtain ⟨rxtx, cnt, clk, same'⟩ := begins.during (j := p.CLKDIVIDE - 1) sz (.inr rfl) (by omega)
  have split : u + dw * 2 * p.CLKDIVIDE =
      u + (dw * 2 - 1) * p.CLKDIVIDE + (p.CLKDIVIDE - 1) + 1 := by
    have whole : dw * 2 * p.CLKDIVIDE = (dw * 2 - 1) * p.CLKDIVIDE + p.CLKDIVIDE := by
      rw [← Nat.succ_mul, Nat.succ_eq_add_one, Nat.sub_add_cancel (by omega)]
    omega
  have ends := SpiMaster.clkEn_iff.mpr clk
  rw [split]
  generalize u + (dw * 2 - 1) * p.CLKDIVIDE + (p.CLKDIVIDE - 1) = v at rxtx cnt clk same' ends ⊢
  refine ⟨((master p f v).step p (f v)).rdata, ?_, ?_⟩
  · have back : ((master p f v).step p (f v)).rvalid = true := by
      show (decide ((master p f v).cnt = dw * 2 - 1) && (master p f v).clkEn p) = true
      rw [ends, decide_eq_true cnt]
      rfl
    rw [returnedWord_succ, back, if_pos rfl]
  · cases progress sz f v with
    | done ov =>
      have late := ov.late rxtx
      omega
    | under un =>
      have last := un.taken.symm.trans (same'.trans (same.trans taken))
      rw [un.returned, (List.append_inj' last rfl).1]

/-- Where the half periods of a word that is taken begin. -/
lemma begins_of_taken (sz : Sizes p dw) (taken : (master p f t).accepts p (f t) = true) :
    if csn p f t then Begins p f (t + 1) .entr 0 else Begins p f (t + 1) .rxtx 0 := by
  have clash {P : Prop} (none : (master p f t).accepts p (f t) = false) : P := by
    rw [none] at taken
    cases taken
  cases (wf_master sz f t).cases sz (f t) with
  | rests idle none next => exact clash none
  | starts idle _ next =>
    rw [if_pos (by rw [csn, SpiMaster.csn, idle]; rfl)]
    rw [← master_succ] at next
    exact ⟨by rw [next], by rw [next], by rw [next]⟩
  | waits _ _ none => exact clash none
  | enters _ _ none => exact clash none
  | halves _ _ _ none => exact clash none
  | reloads rxtx _ _ _ next =>
    rw [if_neg (by rw [csn, SpiMaster.csn, rxtx]; decide)]
    rw [← master_succ] at next
    exact ⟨by rw [next], by rw [next], by rw [next]⟩
  | pauses _ _ _ none => exact clash none
  | leaves _ _ none => exact clash none

lemma returned_due (sz : Sizes p dw) {w : BitVec dw} (taken : takenWord p f t = some w) :
    ∃ x, returnedWord p f (t + latency p f t) = some x ∧
      (log (returnedWord p f) (t + latency p f t)).length = (log (takenWord p f) t).length := by
  have accepts : (master p f t).accepts p (f t) = true := by
    by_contra none
    rw [takenWord, if_neg none] at taken
    cases taken
  have begins := begins_of_taken sz accepts
  have log_taken : log (takenWord p f) (t + 1) = log (takenWord p f) t ++ [w] := by
    rw [log_succ, taken, Option.toList_some]
  rw [latency]
  split_ifs at begins ⊢
  · obtain ⟨next, same⟩ := begins.next sz (.inl rfl)
    obtain ⟨x, back, count⟩ := next.returns sz (same.trans log_taken)
    refine ⟨x, ?_, ?_⟩
    · rw [← back]
      congr 1
      omega
    · rw [← count]
      congr 2
      omega
  · obtain ⟨x, back, count⟩ := begins.returns sz log_taken
    refine ⟨x, ?_, ?_⟩
    · rw [← back]
      congr 1
      omega
    · rw [← count]
      congr 2
      omega

end Run

/-- Every mode, bit order, word width from two bits on and divider from 4 on: whatever the master is
    offered, whenever transfers are ended and whatever comes in on MISO, the bits at the edges at
    which the mode samples are those of the words taken, the words returned are the bits got, and
    every word is returned at a known time. -/
theorem spi_master_exchanges {dw : Nat} (p : SpiParams) (sz : Sizes p dw)
    (f : Nat → MasterIn dw) : Exchanging p f where
  sent t := by
    cases progress sz f t with
    | done ov => rw [ov.sent]
    | @under ws w bits un =>
      rw [un.sent, un.taken, bitsOf, bitsOf, List.flatMap_append, List.flatMap_singleton,
        List.prefix_append_right_inj]
      exact List.take_prefix _ _
  got t := by
    have older : bitsOf p (log (returnedWord p f) t) <+:
        bitsOf p (log (returnedWord p f) (t + 1)) := by
      rw [log_succ, bitsOf, bitsOf, List.flatMap_append]
      exact List.prefix_append _ _
    cases progress sz f t with
    | done ov =>
      rw [ov.got]
      exact older
    | under un =>
      rw [un.got]
      exact older.trans (List.prefix_append _ _)
  returned t w back := by
    have words : log (returnedWord p f) (t + 1) = log (returnedWord p f) t ++ [w] := by
      rw [log_succ, back, Option.toList_some]
    have valid : (master p f t).rvalid = true := by
      by_contra none
      rw [returnedWord, if_neg none] at back
      cases back
    rw [← words, ← List.length_singleton (a := w), ← List.length_append, ← words]
    cases progress sz f t with
    | done ov =>
      rw [ov.got, ov.sent, ov.returned, List.take_length]
      exact ⟨rfl, rfl⟩
    | @under ws x bits un =>
      have zero : SpiMaster.sampledBy p (master p f t).cnt = 0 := by
        rw [un.fresh valid, SpiMaster.sampledBy]
        cases p.CPHA <;> rfl
      have count := un.count
      rw [zero, List.length_eq_zero_iff] at count
      rw [un.got, un.sent, un.returned, un.taken, count, zero, List.append_nil, List.take_zero,
        List.append_nil, List.take_left]
      exact ⟨rfl, rfl⟩
  complete t high := by
    have idle : (master p f t).state = .idle := by
      rw [csn, SpiMaster.csn, beq_iff_eq] at high
      exact high
    cases progress sz f t with
    | done ov =>
      have words : log (returnedWord p f) (t + 1) = log (returnedWord p f) t := by
        have quiet : (master p f t).rvalid = false := by
          by_contra back
          exact ov.fresh (Bool.not_eq_false _ ▸ back) idle
        rw [log_succ, returnedWord, quiet]
        exact List.append_nil _
      rw [← words]
      exact ⟨ov.sent, ov.got, ov.returned⟩
    | under un => exact absurd un.active (by simp [idle])
  due t w taken := returned_due sz taken

/-- Two words of one transfer, with MISO tied high. -/
theorem spi_master_exchanges_default : Exchanging .default fun t =>
    (⟨t < 100, false, BitVec.ofNat 8 t, true⟩ : MasterIn 8) :=
  spi_master_exchanges .default sizes_default _

end ModularControl.Spi
