import ModularControl.Uart.TxEngine

/-!
# The frames on the line

What `uart_tx_engine` puts on its line, whatever it is offered and whenever its ticks come: it is
high unless a frame is under way, and a frame is that of the byte accepted last, 16 ticks for each
of its bits. The levels that the ticks of the frames find on the line are those of the bytes
accepted, one after the other.
-/

namespace ModularControl.Uart
open Sync

section Streams

variable (f : Nat → TxIn)

def txTick (t : Nat) : Bool := (f t).baudX16Tick

/-- The byte that the transmitter accepts in a cycle. -/
def txTaken (t : Nat) : Option (BitVec 8) := uartTxEngine.outAt f t

def txLine (t : Nat) : Bool := (uartTxEngine.atCycle f t).uartTx

/-- `tx_busy`. -/
def txBusy (t : Nat) : Bool := !(uartTxEngine.atCycle f t).txInReady

/-- What a tick finds on the line while the transmitter is busy. -/
def txSample (t : Nat) : Option Bool := if txTick f t && txBusy f t then some (txLine f t) else none

/-- In cycle `t` the byte accepted in cycle `a` is `n` ticks into its frame. -/
structure FrameAt (t a : Nat) (b : BitVec 8) (n : Nat) : Prop where
  lt : a < t
  taken : txTaken f a = some b
  ticks : count (txTick f) t = count (txTick f) (a + 1) + n
  within : n < 160

/-- The levels of the frame of a byte at its ticks. -/
def frameTicks (b : BitVec 8) : List Bool := (List.range 160).map fun n => frameLevel b (n / 16)

/-- The transmitter frames its bytes: it accepts a byte that is offered exactly if no frame is under
    way; there is one frame at a time, and its bits last 16 ticks each; the line is high between
    frames; and the ticks find on it the frames of the bytes accepted, all of them when no frame is
    under way. -/
structure Framing : Prop where
  accepts : ∀ t, txTaken f t = if (f t).txInValid && !txBusy f t then some (f t).txInData else none
  busy : ∀ t, txBusy f t = true ↔ ∃ a b n, FrameAt f t a b n
  single : ∀ t a b n a' b' n', FrameAt f t a b n → FrameAt f t a' b' n' → a = a'
  line : ∀ t a b n, FrameAt f t a b n → txLine f t = frameLevel b (n / 16)
  idle : ∀ t, txBusy f t = false → txLine f t = true
  inOrder : ∀ t, log (txSample f) t <+: (log (txTaken f) t).flatMap frameTicks
  complete : ∀ t, txBusy f t = false →
    log (txSample f) t = (log (txTaken f) t).flatMap frameTicks

end Streams

section Run

variable {f : Nat → TxIn} {t a n : Nat} {b : BitVec 8}

lemma txBusy_iff : txBusy f t = true ↔ (uartTxEngine.atCycle f t).currentState ≠ .idle := by
  rw [txBusy, TxEngine.txInReady, Bool.not_eq_true', decide_eq_false_iff_not]

lemma txTaken_eq (f : Nat → TxIn) (t : Nat) :
    txTaken f t = if (f t).txInValid && !txBusy f t then some (f t).txInData else none := by
  rw [txBusy, Bool.not_not]
  rfl

lemma frameTicks_take (b : BitVec 8) (lt : n < 160) :
    (frameTicks b).take (n + 1) = (frameTicks b).take n ++ [frameLevel b (n / 16)] := by
  rw [frameTicks, ← List.map_take, ← List.map_take, List.take_range, List.take_range,
    Nat.min_eq_left lt, Nat.min_eq_left (Nat.le_of_lt lt), List.range_succ, List.map_append,
    List.map_singleton]

lemma frameTicks_whole (b : BitVec 8) : (frameTicks b).take 160 = frameTicks b :=
  List.take_of_length_le (by simp [frameTicks])

/-- The frames of the bytes accepted, but for the one of `a` if it is given, are over. -/
def OverBut (f : Nat → TxIn) (t : Nat) (a : Option Nat) : Prop :=
  ∀ c < t, some c ≠ a → (txTaken f c).isSome = true →
    count (txTick f) (c + 1) + 160 ≤ count (txTick f) t

/-- Where the transmitter is with the bytes it has accepted. -/
inductive Progress (f : Nat → TxIn) (t : Nat) : Prop
  | idle (idle : (uartTxEngine.atCycle f t).currentState = .idle) (ended : OverBut f t none)
    (sent : log (txSample f) t = (log (txTaken f) t).flatMap frameTicks)
  | frame {a n : Nat} {b : BitVec 8} {bs : List (BitVec 8)} (at_n : FrameAt f t a b n)
    (fr : (uartTxEngine.atCycle f t).InFrame b n) (ended : OverBut f t (some a))
    (taken : log (txTaken f) t = bs ++ [b])
    (sent : log (txSample f) t = bs.flatMap frameTicks ++ (frameTicks b).take n)

/-- A cycle in which nothing is accepted leaves over what is over. -/
lemma OverBut.quiet {a : Option Nat} (ended : OverBut f t a) (quiet : txTaken f t = none) :
    OverBut f (t + 1) a := by
  intro c lt ne some_
  have before : c < t := by
    refine Nat.lt_of_le_of_ne (Nat.le_of_lt_succ lt) ?_
    rintro rfl
    rw [quiet] at some_
    cases some_
  exact Nat.le_trans (ended c before ne some_) (count_mono _ (Nat.le_succ t))

/-- The idle transmitter stays idle or begins the frame of a byte. -/
lemma progress_idle (idle : (uartTxEngine.atCycle f t).currentState = .idle)
    (ended : OverBut f t none)
    (sent : log (txSample f) t = (log (txTaken f) t).flatMap frameTicks) :
    Progress f (t + 1) := by
  have rest : txBusy f t = false := by
    rw [← Bool.not_eq_true, txBusy_iff, not_not]
    exact idle
  have noSample : txSample f t = none := by rw [txSample, rest, Bool.and_false]; rfl
  have sent' : log (txSample f) (t + 1) = (log (txTaken f) t).flatMap frameTicks := by
    rw [log_succ, noSample, sent, Option.toList_none, List.append_nil]
  have next : uartTxEngine.atCycle f (t + 1) = (uartTxEngine.atCycle f t).step (f t) :=
    Machine.atCycle_succ _ _ _
  cases fire : (uartTxEngine.atCycle f t).txFire (f t) with
  | false =>
    have quiet : txTaken f t = none := if_neg (by rw [fire]; exact Bool.false_ne_true)
    refine .idle ?_ (ended.quiet quiet) ?_
    · rw [next]
      exact TxEngine.idle_of_noFire idle fire
    · rw [sent', log_succ, quiet, Option.toList_none, List.append_nil]
  | true =>
    have taken : txTaken f t = some (f t).txInData := tx_accepts_of_fire fire
    have taken' : log (txTaken f) (t + 1) = log (txTaken f) t ++ [(f t).txInData] := by
      rw [log_succ, taken, Option.toList_some]
    have sent' : log (txSample f) (t + 1) = (log (txTaken f) t).flatMap frameTicks ++
        (frameTicks (f t).txInData).take 0 := by
      rw [sent', List.take_zero, List.append_nil]
    refine .frame ⟨Nat.lt_succ_self t, taken, rfl, by decide⟩ ?_ ?_ taken' sent'
    · rw [next]
      exact TxEngine.inFrame_of_fire fire
    · intro c lt ne some_
      have before : c < t := by
        refine Nat.lt_of_le_of_ne (Nat.le_of_lt_succ lt) ?_
        rintro rfl
        exact ne rfl
      exact Nat.le_trans (ended c before (by simp) some_) (count_mono _ (Nat.le_succ t))

/-- A frame goes on, by a tick or not, or ends with its last tick. -/
lemma progress_frame {bs : List (BitVec 8)} (at_n : FrameAt f t a b n)
    (fr : (uartTxEngine.atCycle f t).InFrame b n) (ended : OverBut f t (some a))
    (taken : log (txTaken f) t = bs ++ [b])
    (sent : log (txSample f) t = bs.flatMap frameTicks ++ (frameTicks b).take n) :
    Progress f (t + 1) := by
  have busy : txBusy f t = true := txBusy_iff.mpr fr.busy
  have quiet : txTaken f t = none := if_neg (by rw [fr.noFire]; exact Bool.false_ne_true)
  have line : txLine f t = frameLevel b (n / 16) := fr.line at_n.within
  have taken' : log (txTaken f) (t + 1) = bs ++ [b] := by
    rw [log_succ, quiet, taken, Option.toList_none, List.append_nil]
  have ended' := ended.quiet quiet
  have next : uartTxEngine.atCycle f (t + 1) = (uartTxEngine.atCycle f t).step (f t) :=
    Machine.atCycle_succ _ _ _
  have ticks := at_n.ticks
  cases tick : txTick f t with
  | false =>
    have noSample : txSample f t = none := by rw [txSample, tick]; rfl
    refine .frame ⟨Nat.lt_succ_of_lt at_n.lt, at_n.taken, ?_, at_n.within⟩ ?_ ended' taken' ?_
    · rw [count_succ, tick, ticks]
      rfl
    · rw [next]
      exact fr.wait tick
    · rw [log_succ, noSample, sent, Option.toList_none, List.append_nil]
  | true =>
    have sample : txSample f t = some (frameLevel b (n / 16)) := by
      rw [txSample, tick, busy, line]
      rfl
    have sent' : log (txSample f) (t + 1) =
        bs.flatMap frameTicks ++ (frameTicks b).take (n + 1) := by
      rw [log_succ, sample, sent, frameTicks_take b at_n.within, Option.toList_some,
        List.append_assoc]
    have ticks' : count (txTick f) (t + 1) = count (txTick f) (a + 1) + (n + 1) := by
      rw [count_succ, tick, ticks]
      rfl
    by_cases last : n = 159
    · subst last
      refine .idle ?_ (fun c lt _ some_ => ?_) ?_
      · rw [next]
        exact fr.last tick
      · by_cases own : c = a
        · rw [own, ticks']
        · exact ended' c lt (fun e => own (Option.some.inj e)) some_
      · rw [sent', frameTicks_whole, taken', List.flatMap_append, List.flatMap_singleton]
    · have within : n + 1 < 160 := by
        have lt := at_n.within
        omega
      refine .frame ⟨Nat.lt_succ_of_lt at_n.lt, at_n.taken, ticks', within⟩ ?_ ended' taken' sent'
      rw [next]
      exact fr.advance tick within

lemma progress (f : Nat → TxIn) (t : Nat) : Progress f t := by
  induction t with
  | zero => exact .idle rfl (fun _ lt => absurd lt (Nat.not_lt_zero _)) rfl
  | succ t ih =>
    cases ih with
    | idle idle ended sent => exact progress_idle idle ended sent
    | frame at_n fr ended taken sent => exact progress_frame at_n fr ended taken sent

/-- A frame under way is not over. -/
lemma FrameAt.eq_of_over {a' : Option Nat} (at_n : FrameAt f t a b n) (ended : OverBut f t a') :
    a' = some a := by
  by_contra ne
  have le := ended a at_n.lt (Ne.symm ne) (by rw [at_n.taken]; rfl)
  have ticks := at_n.ticks
  have within := at_n.within
  omega

end Run

/-- Whatever is offered, and whenever the ticks come: the transmitter frames its bytes. -/
theorem uart_tx_frames (f : Nat → TxIn) : Framing f where
  accepts := txTaken_eq f
  busy t := by
    cases progress f t with
    | idle idle ended sent =>
      refine ⟨fun busy => absurd idle (txBusy_iff.mp busy), ?_⟩
      rintro ⟨a, b, n, at_n⟩
      cases at_n.eq_of_over ended
    | frame at_n fr ended taken sent =>
      exact ⟨fun _ => ⟨_, _, _, at_n⟩, fun _ => txBusy_iff.mpr fr.busy⟩
  single t a b n a' b' n' at_n at_n' := by
    cases progress f t with
    | idle idle ended sent => cases at_n.eq_of_over ended
    | frame at_c fr ended taken sent =>
      have own := at_n.eq_of_over ended
      have own' := at_n'.eq_of_over ended
      exact Option.some.inj (own.symm.trans own')
  line t a b n at_n := by
    cases progress f t with
    | idle idle ended sent => cases at_n.eq_of_over ended
    | frame at_c fr ended taken sent =>
      obtain rfl := Option.some.inj (at_n.eq_of_over ended)
      obtain rfl := Option.some.inj (at_n.taken.symm.trans at_c.taken)
      have ticks := at_n.ticks.symm.trans at_c.ticks
      obtain rfl : n = _ := Nat.add_left_cancel ticks
      exact fr.line at_n.within
  idle t rest := by
    have idle : (uartTxEngine.atCycle f t).currentState = .idle := by
      by_contra busy
      rw [txBusy_iff.mpr busy] at rest
      cases rest
    rw [txLine, TxEngine.uartTx, idle]
  inOrder t := by
    cases progress f t with
    | idle idle ended sent => rw [sent]
    | frame at_n fr ended taken sent =>
      rw [sent, taken, List.flatMap_append, List.flatMap_singleton, List.prefix_append_right_inj]
      exact List.take_prefix _ _
  complete t rest := by
    cases progress f t with
    | idle idle ended sent => exact sent
    | frame at_n fr ended taken sent =>
      rw [txBusy_iff.mpr fr.busy] at rest
      cases rest

end ModularControl.Uart
