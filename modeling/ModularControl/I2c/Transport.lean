import ModularControl.I2c.Bus

/-!
# Byte transport of the I2C master

One cycle of a byte command, quarter by quarter. `Agrees` relates the core to the transfer that the
observer sees: what is left of the shift register is what is left to drive, what has been shifted in
is what the line was at each rise of SCL, and in between SDA goes through the filter behind SCL. A
cycle of a compliant bus keeps it.
-/

namespace ModularControl.I2c
open Sync

/-- `cmd`, as a byte command is latched. -/
def ByteCmd.code : ByteCmd → BitVec 3
  | wr _ => WR_CMD
  | rd _ => RD_CMD

/-- What a byte command loads into the shift register. -/
def ByteCmd.word : ByteCmd → BitVec 9
  | wr data => data.concat true
  | rd last => (0 : BitVec 8).concat last

lemma ByteCmd.drive_length (c : ByteCmd) : c.drive.length = 9 := by
  cases c <;> rfl

/-- Bits shifted in from the right. -/
def shiftIn (bs : List Bool) : BitVec 9 := bs.foldl (fun x b => x.shiftConcat b) 0

lemma shiftIn_snoc (bs : List Bool) (b : Bool) :
    shiftIn (bs ++ [b]) = (shiftIn bs).shiftConcat b := by
  simp [shiftIn]

/-- Of up to nine bits, the first is the highest. -/
lemma shiftIn_getLsbD {bs : List Bool} (le : bs.length ≤ 9) {k : Nat} {b : Bool}
    (at_k : bs[k]? = some b) : (shiftIn bs).getLsbD (bs.length - 1 - k) = b := by
  induction bs using List.reverseRecOn with
  | nil => simp at at_k
  | append_singleton bs r ih =>
    rw [List.length_append, List.length_singleton] at le
    rw [shiftIn_snoc, List.length_append, List.length_singleton, BitVec.getLsbD_shiftConcat]
    by_cases old : k < bs.length
    · rw [List.getElem?_append_left old] at at_k
      have shifted := ih (by omega) at_k
      rw [if_neg (by omega), Nat.add_sub_cancel, Nat.sub_right_comm, shifted]
      simp
      omega
    · have lt := (List.getElem?_eq_some_iff.mp at_k).1
      rw [List.length_append, List.length_singleton] at lt
      have last : k = bs.length := by omega
      rw [last, List.getElem?_concat_length, Option.some.injEq] at at_k
      rw [last, Nat.add_sub_cancel, Nat.sub_self, if_pos rfl, at_k]
      rfl

/-- The levels of the line, shifted in from the right. -/
def collect (ps : List Phase) : BitVec 9 :=
  (ps.map Phase.level).foldl (fun x b => x.shiftConcat b) 0

lemma collect_snoc (ps : List Phase) (q : Phase) :
    collect (ps ++ [q]) = (collect ps).shiftConcat q.level := by
  simp [collect]

/-- Of up to nine levels, the first is the highest bit. -/
lemma collect_getLsbD {ps : List Phase} (le : ps.length ≤ 9) {k : Nat} {q : Phase}
    (at_k : ps[k]? = some q) : (collect ps).getLsbD (ps.length - 1 - k) = q.level := by
  have len : (ps.map Phase.level).length = ps.length := List.length_map _
  have level : (ps.map Phase.level)[k]? = some q.level := by rw [List.getElem?_map, at_k]; rfl
  rw [← len] at le ⊢
  exact shiftIn_getLsbD le level

/-- The first eight levels of a byte command. -/
lemma ByteCmd.drive_data (c : ByteCmd) {n : Nat} (lt : n < 8) : c.drive[n]? =
    some (match c with | .wr data => data.getLsbD (7 - n) | .rd _ => true) := by
  cases c with
  | wr data =>
    rw [drive, List.getElem?_append_left (by simpa using lt), List.getElem?_map,
      List.getElem?_range lt]
    rfl
  | rd last =>
    rw [drive, List.getElem?_append_left (by simpa using lt), List.getElem?_replicate, if_pos lt]

namespace Core

/-- `t` is the transfer of the byte command that the core has latched, and `bitIdxReg` of its bits
    have been shifted out. -/
structure Ongoing (s : Core) (t : Transfer) : Prop where
  cmd : s.cmdReg = t.cmd.code
  bit : s.bitIdxReg.toNat ≤ 8
  tx : ∀ j, j ≤ 8 → s.bitIdxReg.toNat ≤ j →
    s.txReg.getLsbD j = t.cmd.word.getLsbD (j - s.bitIdxReg.toNat)
  steady : t.steady = true
  scl : t.scl = s.sclMetaReg

/-- The first `n` bits are over. -/
def Sent (s : Core) (t : Transfer) (n : Nat) : Prop :=
  t.masters = t.cmd.drive.take n ∧ s.rxReg = collect t.phases

variable {p : Params} {s : Core} {i : CoreIn} {t : Transfer}

/-- In a bit cell the master drives the level its command asks for. -/
lemma Ongoing.driven (og : s.Ongoing t) (data : s.stateReg.dataPhase = true)
    (sda : s.sdaOutReg = s.txReg.getLsbD 8) :
    t.cmd.drive[s.bitIdxReg.toNat]? = some s.sdaDriven := by
  have bit := og.bit
  have tx := og.tx 8 (Nat.le_refl 8) bit
  have cmd := og.cmd
  rw [sdaDriven, masterReceiving, data, sda, tx]
  by_cases last : s.bitIdxReg.toNat = 8
  · have eq : s.bitIdxReg = 8 := BitVec.eq_of_toNat_eq last
    cases hc : t.cmd <;>
      simp [hc, ByteCmd.code, ByteCmd.word, ByteCmd.drive, eq, cmd, WR_CMD, RD_CMD]
  · have lt : s.bitIdxReg.toNat < 8 := by omega
    have below : decide (s.bitIdxReg < 8) = true := decide_eq_true lt
    have ne : (s.bitIdxReg == 8) = false := by
      rw [beq_eq_false_iff_ne]
      exact fun e => last (congrArg BitVec.toNat e)
    have next : 8 - s.bitIdxReg.toNat = 7 - s.bitIdxReg.toNat + 1 := by omega
    rw [ByteCmd.drive_data _ lt, below, ne, next]
    cases hc : t.cmd <;>
      simp [hc, ByteCmd.code, ByteCmd.word, cmd, WR_CMD, RD_CMD]

/-- Inside a bit cell the transfer goes on with its next cycle. -/
lemma Ongoing.keep (og : s.Ongoing t) (kept : (s.step p i).txReg = s.txReg ∧
      (s.step p i).bitIdxReg = s.bitIdxReg ∧ (s.step p i).cmdReg = s.cmdReg) (t' : Transfer)
    (cmd : t'.cmd = t.cmd) (steady : t'.steady = true) (scl : t'.scl = i.sclIn) :
    (s.step p i).Ongoing t' := by
  obtain ⟨tx_eq, bit_eq, cmd_eq⟩ := kept
  refine ⟨?_, ?_, ?_, steady, scl⟩
  · rw [cmd_eq, og.cmd, cmd]
  · rw [bit_eq]
    exact og.bit
  · rw [tx_eq, bit_eq, cmd]
    exact og.tx

/-- At the end of a cell the next bit comes to the top. -/
lemma Ongoing.next (og : s.Ongoing t) (next : s.nextBit = true) (t' : Transfer)
    (cmd : t'.cmd = t.cmd) (steady : t'.steady = true) (scl : t'.scl = i.sclIn) :
    (s.step p i).Ongoing t' := by
  obtain ⟨-, lt, tx_eq, bit_eq, cmd_eq⟩ := bit_next (p := p) (i := i) next
  have succ := bitIdx_succ lt
  refine ⟨?_, ?_, ?_, steady, scl⟩
  · rw [cmd_eq, og.cmd, cmd]
  · rw [bit_eq, succ]
    exact lt
  · intro j le ge
    rw [bit_eq, succ] at ge ⊢
    have tx := og.tx (j - 1) (by omega) (by omega)
    rw [tx_eq, BitVec.getLsbD_shiftConcat, if_neg (by omega), tx, cmd,
      show j - 1 - s.bitIdxReg.toNat = j - (s.bitIdxReg.toNat + 1) by omega]
    simp
    omega

/-- An accepted byte command starts the first bit cell. -/
lemma fire_step (fire : (s.holdWrFire i || s.holdRdFire i) = true)
    (noAbort : s.abortFire p i = false) :
    s.stateReg = .hold ∧ (s.step p i).stateReg = .data1 ∧ (s.step p i).bitIdxReg = 0 ∧
      (s.step p i).rxReg = 0 ∧ (s.step p i).cmdReg = i.cmd := by
  have hold := fire
  simp only [holdWrFire, holdRdFire, Bool.or_eq_true, decide_eq_true_eq] at hold
  have h : s.stateReg = .hold := hold.elim And.left And.left
  have code : i.cmd = WR_CMD ∨ i.cmd = RD_CMD := hold.imp (·.2.2) (·.2.2)
  have restart : s.holdRestartFire i = false := by
    obtain c | c := code <;> simp [holdRestartFire, c, WR_CMD, RD_CMD, RESTART_CMD]
  have stop : s.holdStopFire i = false := by
    obtain c | c := code <;> simp [holdStopFire, c, WR_CMD, RD_CMD, STOP_CMD]
  have hc : s.cmdFire i = true := by rw [cmdFire, holdCmdFire, fire]; simp
  refine ⟨h, ?_, ?_, ?_, ?_⟩
  · simp [step, stateNext, noAbort, h, restart, stop, fire]
  · simp [step, bitIdxNext, nextBit, h, fire]
  · simp [step, rxNext, sampleSdaNow, h, fire]
  · simp [step, hc]

/-- Levels are only shifted in at the end of the high phase. -/
lemma rx_kept (notHold : s.stateReg ≠ .hold) (noSample : s.sampleSdaNow = false) :
    (s.step p i).rxReg = s.rxReg := by
  simp [step, rxNext, noSample, holdWrFire, holdRdFire, notHold]

lemma Sent.keep {n : Nat} (sent : s.Sent t n) (notHold : s.stateReg ≠ .hold)
    (noSample : s.sampleSdaNow = false) (scl : Bool) :
    (s.step p i).Sent { t with scl := scl } n := by
  refine ⟨sent.1, ?_⟩
  rw [rx_kept notHold noSample]
  exact sent.2

/-- The filter has taken in the level `v` for as long as SCL has been high. -/
structure Settles (s : Core) (v : Bool) : Prop where
  sdaMeta : s.sclLag ≤ 4 → s.sdaMetaReg = v
  sdaSync : s.sclLag ≤ 3 → s.sdaSyncReg = v
  sdaHist0 : s.sclLag ≤ 2 → s.sdaHist0 = v
  sdaHist1 : s.sclLag ≤ 1 → s.sdaHist1 = v
  sdaHist2 : s.sclLag = 0 → s.sdaHist2 = v

lemma Settles.step {v : Bool} (st : 4 < s.sclLag ∨ s.Settles v) (scl : i.sclIn = true)
    (sda : i.sdaIn = v) : (s.step p i).Settles v := by
  have lag := sclLag_step (p := p) (s := s) scl
  refine ⟨fun _ => sda, fun le => ?_, fun le => ?_, fun le => ?_, fun le => ?_⟩ <;>
    obtain lt | st := st <;> rw [lag] at le
  · omega
  · exact st.sdaMeta (by omega)
  · omega
  · exact st.sdaSync (by omega)
  · omega
  · exact st.sdaHist0 (by omega)
  · omega
  · exact st.sdaHist1 (by omega)

lemma Settles.filt {v : Bool} (st : s.Settles v) (lag : s.sclLag = 0) : s.sdaFilt = v := by
  rw [sdaFilt, st.sdaHist0 (by omega), st.sdaHist1 (by omega), st.sdaHist2 lag]
  cases v <;> rfl

end Core

namespace Transfer

variable {t : Transfer} {o : BusCycle}

/-- Under a low SCL nothing is seen. -/
lemma see_low (low : o.scl = false) : t.see o = { t with scl := false } := by
  rw [see, low, if_neg Bool.false_ne_true]

/-- While SCL stays high and the master keeps its level, nothing new is seen. -/
lemma see_high (now : o.scl = true) (before : t.scl = true) (steady : t.steady = true)
    (kept : t.masters.getLast? = some o.master) : t.see o = t := by
  rw [see, if_pos now, if_pos before, steady, kept]
  cases t
  simp_all

lemma see_rise (now : o.scl = true) (before : t.scl = false) :
    t.see o = { t with scl := true, phases := t.phases ++ [⟨o.master, o.slave⟩] } := by
  rw [see, if_pos now, before, if_neg Bool.false_ne_true]

end Transfer

namespace Bus

/-- SCL is high in a bit cell: the cell's phase is open, and its level is not shifted in yet. -/
def Current (s : Bus) (t : Transfer) : Prop :=
  t.masters = t.cmd.drive.take (s.core.bitIdxReg.toNat + 1) ∧
    (∃ ps, t.phases = ps ++ [⟨s.core.sdaDriven, s.slaveSda⟩] ∧ s.core.rxReg = collect ps) ∧
    s.core.Settles (s.core.sdaDriven && s.slaveSda)

/-- The first quarter: SCL is driven low. -/
structure InData1 (s : Bus) (t : Transfer) : Prop where
  out : s.core.sclOutReg = false
  low : s.core.sclMetaReg = false
  sync : s.core.tickCntReg ≠ 0 → s.core.sclSyncReg = false
  sent : s.core.Sent t s.core.bitIdxReg.toNat

/-- The second quarter: SCL is released, and rises when the slave lets it. -/
structure InData2 (s : Bus) (t : Transfer) : Prop where
  sda : s.core.sdaOutReg = s.core.txReg.getLsbD 8
  sync : s.core.sclSyncReg = true → s.core.sclMetaReg = true
  hist0 : s.core.sclHist0 = true → s.core.sclSyncReg = true
  line : s.core.sclMetaReg = false ∧ s.core.Sent t s.core.bitIdxReg.toNat ∨
    s.core.sclMetaReg = true ∧ s.core.sclOutReg = true ∧ s.Current t

/-- The third quarter: SCL is qualified high, and SDA has gone through the filter. -/
structure InData3 (s : Bus) (t : Transfer) : Prop where
  sda : s.core.sdaOutReg = s.core.txReg.getLsbD 8
  out : s.core.sclOutReg = true
  lag : s.core.sclLag = 0
  current : s.Current t
  prev : s.core.sdaFiltPrevReg = (s.core.sdaDriven && s.slaveSda)

/-- The fourth quarter: the bit has been shifted in, and SCL falls in the second cycle. -/
structure InData4 (s : Bus) (t : Transfer) : Prop where
  sda : s.core.sdaOutReg = s.core.txReg.getLsbD 8
  first : s.core.sclOutReg = true → s.core.sclMetaReg = true ∧ s.core.tickCntReg = 0
  sent : s.core.Sent t (s.core.bitIdxReg.toNat + 1)

/-- All nine bits are over. -/
structure InDataEnd (s : Bus) (t : Transfer) : Prop where
  out : s.core.sclOutReg = false
  sent : s.core.Sent t 9

/-- The core carries the transfer `t`. -/
def Carrying (s : Bus) (t : Transfer) : Prop :=
  s.core.Ongoing t ∧
    match s.core.stateReg with
    | .data1 => s.InData1 t
    | .data2 => s.InData2 t
    | .data3 => s.InData3 t
    | .data4 => s.InData4 t
    | .dataEnd => s.InDataEnd t
    | _ => False

/-- No byte command is under way. -/
def Free (s : Bus) : Prop :=
  match s.core.stateReg with
  | .idle | .start1 | .restart | .stop1 | .stop2 => True
  | .start2 => s.core.tickCntReg ≠ 0 → s.core.sclOutReg = false
  | .hold => s.core.sclOutReg = false ∧ s.core.sclMetaReg = false
  | _ => False

/-- The core and the observer agree on the transfer in progress. -/
def Agrees (s : Bus) : Option Transfer → Prop
  | none => s.Free
  | some t => s.Carrying t

variable {p : Params} {s : Bus} {i : BusIn} {t : Transfer}

lemma noAbort (pt : s.Patient p) (c : s.Compliant p i)
    (stable : s.core.stateReg = .data3 → s.core.sdaFilt = s.core.sdaFiltPrevReg) :
    s.core.abortFire p (s.coreIn i) = false := by
  have quiet := pt.noTimeout c
  have pf : s.core.protocolFaultEvent = false := by
    simp only [Core.protocolFaultEvent, decide_eq_false_iff_not, not_and, not_not]
    exact fun h _ => stable h
  rw [Core.abortFire, quiet, pf]
  rfl

/-- What SDA was when SCL rose is what the master drives. -/
lemma Current.last (cu : s.Current t) : t.masters.getLast? = some s.core.sdaDriven := by
  obtain ⟨-, ⟨ps, phases, -⟩, -⟩ := cu
  simp [Transfer.masters, phases]

lemma carrying_data1 (og : s.core.Ongoing t) (h : s.core.stateReg = .data1) (d : s.InData1 t) :
    s.Carrying t := by
  rw [Carrying, h]
  exact ⟨og, d⟩

lemma carrying_data2 (og : s.core.Ongoing t) (h : s.core.stateReg = .data2) (d : s.InData2 t) :
    s.Carrying t := by
  rw [Carrying, h]
  exact ⟨og, d⟩

lemma carrying_data3 (og : s.core.Ongoing t) (h : s.core.stateReg = .data3) (d : s.InData3 t) :
    s.Carrying t := by
  rw [Carrying, h]
  exact ⟨og, d⟩

lemma carrying_data4 (og : s.core.Ongoing t) (h : s.core.stateReg = .data4) (d : s.InData4 t) :
    s.Carrying t := by
  rw [Carrying, h]
  exact ⟨og, d⟩

lemma carrying_dataEnd (og : s.core.Ongoing t) (h : s.core.stateReg = .dataEnd)
    (d : s.InDataEnd t) : s.Carrying t := by
  rw [Carrying, h]
  exact ⟨og, d⟩

/-- A quarter lasts more than one cycle. -/
lemma Patient.later (pt : s.Patient p) (full : s.core.stateReg.half = false)
    (hp : s.core.phaseEnd = true) : s.core.tickCntReg ≠ 0 := by
  intro zero
  simp [Core.phaseEnd, Core.quarterCnt, full, zero] at hp
  exact pt.divisor hp.1.symm

lemma InData1.step (d : s.InData1 t) (og : s.core.Ongoing t) (h : s.core.stateReg = .data1)
    (pt : s.Patient p) (noAbort : s.core.abortFire p (s.coreIn i) = false) :
    (s.step p i).Carrying (t.see (s.cycle p i)) := by
  have data : s.core.stateReg.dataPhase = true := by rw [h]; rfl
  have stay : s.core.nextBit = false := by simp [Core.nextBit, h]
  have scl : s.busScl i = false := by rw [busScl, d.out, Bool.false_and]
  have kept := Core.bit_kept (p := p) (i := s.coreIn i) data stay
  have og' := og.keep kept { t with scl := false } rfl og.steady scl.symm
  have bit := kept.2.1
  have sent : (s.step p i).core.Sent { t with scl := false } (s.step p i).core.bitIdxReg.toNat := by
    rw [Bus.step, bit]
    exact d.sent.keep (by simp [h]) (by simp [Core.sampleSdaNow, h]) false
  rw [Transfer.see_low scl]
  cases hp : s.core.phaseEnd with
  | false =>
    refine carrying_data1 og' (Core.phase_stays h rfl noAbort hp) ?_
    exact { out := by simp [Bus.step, Core.step, Core.sclOutNext, h], low := scl,
            sync := fun _ => d.low, sent := sent }
  | true =>
    -- the quarter has lasted more than one cycle, so that the low level has reached the filter
    have later := pt.later (by rw [h]; rfl) hp
    refine carrying_data2 og' (Core.phase_follows h rfl noAbort hp) ?_
    refine ⟨?_, fun was => ?_, fun was => ?_, .inl ⟨scl, sent⟩⟩
    · exact Core.sda_shown data stay
    · exact absurd was (by rw [show (s.step p i).core.sclSyncReg = _ from d.low]; decide)
    · exact absurd was (by rw [show (s.step p i).core.sclHist0 = _ from d.sync later]; decide)

/-- While SCL stays high in a bit cell, its phase stays open. -/
lemma Current.high (cu : s.Current t) (pt : s.Patient p) (c : s.Compliant p i)
    (data : s.core.stateReg.dataPhase = true) (stay : s.core.nextBit = false)
    (sda : s.core.sdaOutReg = s.core.txReg.getLsbD 8)
    (data' : (s.step p i).core.stateReg.dataPhase = true) (noSample : s.core.sampleSdaNow = false)
    (before : s.core.sclMetaReg = true) (now : s.busScl i = true) : (s.step p i).Current t := by
  obtain ⟨-, bit, -⟩ := Core.bit_kept (p := p) (i := s.coreIn i) data stay
  have driven := Core.driven_kept (p := p) (i := s.coreIn i) data stay sda data'
  have slave := pt.sda_stays c (.inl before)
  have notHold : s.core.stateReg ≠ .hold := fun h => by simp [h, State.dataPhase] at data
  have rx := Core.rx_kept (p := p) (i := s.coreIn i) notHold noSample
  obtain ⟨masters, line, settles⟩ := cu
  rw [Current, Bus.step, bit, driven, slave, rx]
  exact ⟨masters, line, .step (.inr settles) now (by rw [coreIn, busSda, slave])⟩

/-- The rise of SCL in a bit cell opens its phase. -/
lemma current_rise (og : s.core.Ongoing t)
    (sent : s.core.Sent t s.core.bitIdxReg.toNat)
    (data : s.core.stateReg.dataPhase = true) (stay : s.core.nextBit = false)
    (sda : s.core.sdaOutReg = s.core.txReg.getLsbD 8)
    (data' : (s.step p i).core.stateReg.dataPhase = true) (noSample : s.core.sampleSdaNow = false)
    (before : s.core.sclMetaReg = false) (now : s.busScl i = true) :
    (s.step p i).Current
      { t with scl := true, phases := t.phases ++ [⟨s.core.sdaDriven, i.slaveSda⟩] } := by
  obtain ⟨-, bit, -⟩ := Core.bit_kept (p := p) (i := s.coreIn i) data stay
  have driven := Core.driven_kept (p := p) (i := s.coreIn i) data stay sda data'
  have notHold : s.core.stateReg ≠ .hold := fun h => by simp [h, State.dataPhase] at data
  have rx := Core.rx_kept (p := p) (i := s.coreIn i) notHold noSample
  obtain ⟨masters, line⟩ := sent
  rw [Current, Bus.step, bit, driven, rx]
  refine ⟨?_, ⟨t.phases, rfl, line⟩, .step (.inl ?_) now rfl⟩
  · rw [List.take_add_one, og.driven data sda, ← masters]
    simp [Transfer.masters]
  · rw [Core.sclLag_low before]
    decide

/-- SCL is not qualified before it has been high all through the filter. -/
lemma InData2.qualified (d : s.InData2 t) (qual : s.core.sclHighQual = true) :
    s.core.sclLag = 0 ∧ s.core.sclOutReg = true := by
  simp only [Core.sclHighQual, Bool.and_eq_true] at qual
  obtain ⟨⟨h2, h1⟩, h0⟩ := qual
  have high := d.sync (d.hist0 h0)
  obtain ⟨low, -⟩ | ⟨-, out, -⟩ := d.line
  · rw [high] at low
    cases low
  · exact ⟨by simp [Core.sclLag, high, d.hist0 h0, h0, h1, h2], out⟩

/-- Before its rise is seen the filter shows nothing of it. -/
lemma InData2.unseen (d : s.InData2 t) (before : s.core.sclMetaReg = false) :
    s.core.sclSyncReg = false ∧ s.core.sclHist0 = false := by
  have sync : s.core.sclSyncReg = false := by
    rw [← Bool.not_eq_true]
    intro was
    rw [d.sync was] at before
    cases before
  refine ⟨sync, ?_⟩
  rw [← Bool.not_eq_true]
  intro was
  rw [d.hist0 was] at sync
  cases sync

lemma InData2.step (d : s.InData2 t) (og : s.core.Ongoing t) (h : s.core.stateReg = .data2)
    (pt : s.Patient p) (c : s.Compliant p i)
    (noAbort : s.core.abortFire p (s.coreIn i) = false) :
    (s.step p i).Carrying (t.see (s.cycle p i)) := by
  have data : s.core.stateReg.dataPhase = true := by rw [h]; rfl
  have stay : s.core.nextBit = false := by simp [Core.nextBit, h]
  have noSample : s.core.sampleSdaNow = false := by simp [Core.sampleSdaNow, h]
  have kept := Core.bit_kept (p := p) (i := s.coreIn i) data stay
  have bit := kept.2.1
  have data' : (s.step p i).core.stateReg.dataPhase = true :=
    Core.cell_goes_on (by simp [h]) noAbort
  have out : (s.step p i).core.sclOutReg = true := by
    simp [Bus.step, Core.step, Core.sclOutNext, h]
  have sda : (s.step p i).core.sdaOutReg = (s.step p i).core.txReg.getLsbD 8 :=
    Core.sda_shown data stay
  obtain ⟨before, sent⟩ | ⟨before, released, cu⟩ := d.line
  · -- SCL has not risen before this cycle, and is not qualified
    obtain ⟨sync, hist0⟩ := d.unseen before
    have hp : s.core.phaseEnd = false := by
      simp [Core.phaseEnd, Core.highPhaseReady, Core.sclHighQual, State.waitsHigh, h, hist0]
    have same : (s.step p i).core.stateReg = .data2 := Core.phase_stays h rfl noAbort hp
    cases now : s.busScl i with
    | false =>
      rw [Transfer.see_low now]
      have og' := og.keep kept { t with scl := false } rfl og.steady now.symm
      refine carrying_data2 og' same ⟨sda, fun was => ?_, fun was => ?_, .inl ⟨now, ?_⟩⟩
      · exact absurd was (by rw [show (s.step p i).core.sclSyncReg = _ from before]; decide)
      · exact absurd was (by rw [show (s.step p i).core.sclHist0 = _ from sync]; decide)
      · rw [Bus.step, bit]
        exact sent.keep (by simp [h]) noSample false
    | true =>
      rw [Transfer.see_rise now (og.scl.trans before)]
      have og' := og.keep kept
        { t with scl := true, phases := t.phases ++ [⟨s.core.sdaDriven, i.slaveSda⟩] } rfl
        og.steady now.symm
      refine carrying_data2 og' same ⟨sda, fun _ => now, fun was => ?_, .inr ⟨now, out, ?_⟩⟩
      · exact absurd was (by rw [show (s.step p i).core.sclHist0 = _ from sync]; decide)
      · exact current_rise og sent data stay d.sda data' noSample before now
  · have now : s.busScl i = true := (pt.scl_stays c before).trans released
    have steady : t.masters.getLast? = some (s.cycle p i).master := cu.last
    rw [Transfer.see_high now (og.scl.trans before) og.steady steady]
    have og' := og.keep kept t rfl og.steady
      ((og.scl.trans before).trans now.symm)
    have cu' := cu.high pt c data stay d.sda data' noSample before now
    cases hp : s.core.phaseEnd with
    | false =>
      refine carrying_data2 og' (Core.phase_stays h rfl noAbort hp) ?_
      exact ⟨sda, fun _ => now, fun _ => before, .inr ⟨now, out, cu'⟩⟩
    | true =>
      have qual : s.core.sclHighQual = true := by
        simp [Core.phaseEnd, Core.highPhaseReady, State.waitsHigh, h] at hp
        exact hp.2
      obtain ⟨lag, -⟩ := d.qualified qual
      refine carrying_data3 og' (Core.phase_follows h rfl noAbort hp) ?_
      refine ⟨sda, out, ?_, cu', ?_⟩
      · rw [show (s.step p i).core.sclLag = _ from Core.sclLag_step now, lag]
      · have driven := Core.driven_kept (p := p) (i := s.coreIn i) data stay d.sda data'
        have slave := pt.sda_stays c (.inl before)
        rw [Bus.step, driven, slave]
        exact cu.2.2.filt lag

lemma InData3.step (d : s.InData3 t) (og : s.core.Ongoing t) (h : s.core.stateReg = .data3)
    (pt : s.Patient p) (c : s.Compliant p i)
    (noAbort : s.core.abortFire p (s.coreIn i) = false) :
    (s.step p i).Carrying (t.see (s.cycle p i)) := by
  have data : s.core.stateReg.dataPhase = true := by rw [h]; rfl
  have stay : s.core.nextBit = false := by simp [Core.nextBit, h]
  have kept := Core.bit_kept (p := p) (i := s.coreIn i) data stay
  have bit := kept.2.1
  have data' : (s.step p i).core.stateReg.dataPhase = true :=
    Core.cell_goes_on (by simp [h]) noAbort
  have sda : (s.step p i).core.sdaOutReg = (s.step p i).core.txReg.getLsbD 8 :=
    Core.sda_shown data stay
  have out : (s.step p i).core.sclOutReg = true := by
    simp [Bus.step, Core.step, Core.sclOutNext, h]
  have before : s.core.sclMetaReg = true := by
    rw [← Bool.not_eq_false]
    intro low
    have lag := d.lag
    rw [Core.sclLag_low low] at lag
    cases lag
  have now : s.busScl i = true := (pt.scl_stays c before).trans d.out
  have steady : t.masters.getLast? = some (s.cycle p i).master := d.current.last
  rw [Transfer.see_high now (og.scl.trans before) og.steady steady]
  have og' := og.keep kept t rfl og.steady
    ((og.scl.trans before).trans now.symm)
  have filt := d.current.2.2.filt d.lag
  cases hp : s.core.phaseEnd with
  | false =>
    have noSample : s.core.sampleSdaNow = false := by
      simp [Core.phaseEnd, State.half, h] at hp
      simp [Core.sampleSdaNow, h]
      exact hp
    refine carrying_data3 og' (Core.phase_stays h rfl noAbort hp) ?_
    refine ⟨sda, out, ?_, d.current.high pt c data stay d.sda data' noSample before now, ?_⟩
    · rw [show (s.step p i).core.sclLag = _ from Core.sclLag_step now, d.lag]
    · have driven := Core.driven_kept (p := p) (i := s.coreIn i) data stay d.sda data'
      have slave := pt.sda_stays c (.inl before)
      rw [Bus.step, driven, slave]
      exact filt
  | true =>
    have sample : s.core.sampleSdaNow = true := by
      simp [Core.phaseEnd, State.half, h] at hp
      simp [Core.sampleSdaNow, h]
      exact hp
    refine carrying_data4 og' (Core.phase_follows h rfl noAbort hp) ?_
    refine ⟨sda, fun _ => ⟨now, ?_⟩, ?_⟩
    · exact (Core.tick_step (by rw [h]; rfl) noAbort).trans (if_pos hp)
    · obtain ⟨masters, ⟨ps, phases, rx⟩, -⟩ := d.current
      rw [Bus.step, bit]
      refine ⟨masters, ?_⟩
      rw [phases, collect_snoc, ← rx]
      simp [Core.step, Core.rxNext, sample, filt, Phase.level]

/-- The last quarter ends the byte after the ninth bit, and the bit cell before. -/
lemma data4_end (og : s.core.Ongoing t) (h : s.core.stateReg = .data4)
    (hp : s.core.phaseEnd = true) (noAbort : s.core.abortFire p (s.coreIn i) = false) :
    s.core.bitIdxReg = 8 ∧ (s.step p i).core.stateReg = .dataEnd ∨
      s.core.nextBit = true ∧ (s.step p i).core.stateReg = .data1 := by
  obtain ⟨last, next⟩ | ⟨more, next⟩ := Core.data4_follows h noAbort hp
  · exact .inl ⟨last, next⟩
  · have lt : s.core.bitIdxReg < 8 := Nat.lt_of_le_of_ne og.bit
      fun e => more (BitVec.eq_of_toNat_eq e)
    exact .inr ⟨(Core.nextBit_data4 h hp).trans (decide_eq_true lt), next⟩

/-- While the last quarter goes on. -/
lemma InData4.goes_on (d : s.InData4 t) (h : s.core.stateReg = .data4)
    (hp : s.core.phaseEnd = false) (scl : Bool) : (s.step p i).InData4 { t with scl } := by
  have data : s.core.stateReg.dataPhase = true := by rw [h]; rfl
  have stay := Core.nextBit_of_goes_on hp
  obtain ⟨-, bit, -⟩ := Core.bit_kept (p := p) (i := s.coreIn i) data stay
  have out : (s.step p i).core.sclOutReg = false := by
    simp [Bus.step, Core.step, Core.sclOutNext, h]
  refine ⟨Core.sda_shown data stay, fun high => ?_, ?_⟩
  · rw [out] at high
    cases high
  · rw [Bus.step, bit]
    exact d.sent.keep (by simp [h]) (by simp [Core.sampleSdaNow, h]) scl

lemma InData4.step (d : s.InData4 t) (og : s.core.Ongoing t) (h : s.core.stateReg = .data4)
    (pt : s.Patient p) (c : s.Compliant p i)
    (noAbort : s.core.abortFire p (s.coreIn i) = false) :
    (s.step p i).Carrying (t.see (s.cycle p i)) := by
  have data : s.core.stateReg.dataPhase = true := by rw [h]; rfl
  have noSample : s.core.sampleSdaNow = false := by simp [Core.sampleSdaNow, h]
  have notHold : s.core.stateReg ≠ .hold := by simp [h]
  have ended := Core.phaseEnd_data4 h
  have out : (s.step p i).core.sclOutReg = false := by
    simp [Bus.step, Core.step, Core.sclOutNext, h]
  cases released : s.core.sclOutReg with
  | true =>
    -- the first cycle, in which SCL is still high
    obtain ⟨before, first⟩ := d.first released
    have now : s.busScl i = true := (pt.scl_stays c before).trans released
    have steady : t.masters.getLast? = some (s.cycle p i).master := by
      rw [d.sent.1, List.getLast?_take, if_neg (Nat.succ_ne_zero _), Nat.add_sub_cancel,
        og.driven data d.sda]
      rfl
    rw [Transfer.see_high now (og.scl.trans before) og.steady steady]
    have hp : s.core.phaseEnd = false := by
      rw [ended, first, beq_eq_false_iff_ne]
      exact pt.divisor.symm
    have stay := Core.nextBit_of_goes_on hp
    have kept := Core.bit_kept (p := p) (i := s.coreIn i) data stay
    have og' := og.keep kept t rfl og.steady
      ((og.scl.trans before).trans now.symm)
    exact carrying_data4 og' (Core.phase_stays h rfl noAbort hp) (d.goes_on h hp t.scl)
  | false =>
    have now : s.busScl i = false := by rw [busScl, released, Bool.false_and]
    rw [Transfer.see_low now]
    have sent := d.sent.keep (p := p) (i := s.coreIn i) notHold noSample false
    cases hp : s.core.phaseEnd with
    | false =>
      have stay := Core.nextBit_of_goes_on hp
      have kept := Core.bit_kept (p := p) (i := s.coreIn i) data stay
      have og' := og.keep kept { t with scl := false } rfl og.steady now.symm
      exact carrying_data4 og' (Core.phase_stays h rfl noAbort hp) (d.goes_on h hp false)
    | true =>
      obtain ⟨last, next⟩ | ⟨bitNext, next⟩ := data4_end og h hp noAbort
      · have stay : s.core.nextBit = false := by simp [Core.nextBit, last]
        have kept := Core.bit_kept (p := p) (i := s.coreIn i) data stay
        have og' := og.keep kept { t with scl := false } rfl og.steady now.symm
        rw [last] at sent
        exact carrying_dataEnd og' next ⟨out, sent⟩
      · obtain ⟨-, lt, -, bit, -⟩ := Core.bit_next (p := p) (i := s.coreIn i) bitNext
        have og' := og.next (p := p) (i := s.coreIn i) bitNext { t with scl := false } rfl
          og.steady now.symm
        refine carrying_data1 og' next ⟨out, now, fun later => ?_, ?_⟩
        · have tick : (s.step p i).core.tickCntReg = 0 :=
            (Core.tick_step (by rw [h]; rfl) noAbort).trans (if_pos hp)
          exact absurd tick later
        · rw [Bus.step, bit, Core.bitIdx_succ lt]
          exact sent

lemma InDataEnd.step (d : s.InDataEnd t) (og : s.core.Ongoing t)
    (h : s.core.stateReg = .dataEnd) (noAbort : s.core.abortFire p (s.coreIn i) = false) :
    (s.step p i).Agrees (track (some t) (s.cycle p i)) := by
  have now : s.busScl i = false := by rw [busScl, d.out, Bool.false_and]
  have out : (s.step p i).core.sclOutReg = false := by
    simp [Bus.step, Core.step, Core.sclOutNext, h]
  have ended : s.core.doneTick = s.core.phaseEnd := by
    simp [Core.doneTick, Core.phaseEnd, Core.highPhaseReady, Core.quarterCnt, State.half,
      State.waitsHigh, h]
    rfl
  have kept : (s.step p i).core.txReg = s.core.txReg ∧
      (s.step p i).core.bitIdxReg = s.core.bitIdxReg ∧
      (s.step p i).core.cmdReg = s.core.cmdReg := by
    simp [Bus.step, Core.step, Core.txNext, Core.bitIdxNext, Core.cmdFire, Core.idleStartFire,
      Core.holdCmdFire, Core.holdWrFire, Core.holdRdFire, Core.holdStopFire, Core.holdRestartFire,
      Core.nextBit, h]
  cases hp : s.core.phaseEnd with
  | false =>
    have open_ : (s.cycle p i).done = false := ended.trans hp
    have next : (s.step p i).core.stateReg = .dataEnd := Core.phase_stays h rfl noAbort hp
    rw [track, open_, if_neg Bool.false_ne_true, Transfer.see_low now]
    exact carrying_dataEnd (og.keep kept { t with scl := false } rfl og.steady now.symm) next
      ⟨out, d.sent.keep (by simp [h]) (by simp [Core.sampleSdaNow, h]) false⟩
  | true =>
    have closed : (s.cycle p i).done = true := ended.trans hp
    have next : (s.step p i).core.stateReg = .hold := Core.phase_follows h rfl noAbort hp
    rw [track, if_pos closed, Agrees, Free, next]
    exact ⟨out, now⟩

/-- One cycle of a byte command. -/
lemma Carrying.step (ca : s.Carrying t) (pt : s.Patient p) (c : s.Compliant p i)
    (noAbort : s.core.abortFire p (s.coreIn i) = false) :
    (s.step p i).Agrees (track (some t) (s.cycle p i)) := by
  obtain ⟨og, d⟩ := ca
  have inside : s.core.stateReg ≠ .dataEnd → track (some t) (s.cycle p i) =
      some (t.see (s.cycle p i)) := by
    intro ne
    have open_ : (s.cycle p i).done = false := by simp [cycle, Core.doneTick, ne]
    rw [track, open_, if_neg Bool.false_ne_true]
  cases h : s.core.stateReg with
  | data1 =>
    rw [inside (by simp [h])]
    simp only [h] at d
    exact d.step og h pt noAbort
  | data2 =>
    rw [inside (by simp [h])]
    simp only [h] at d
    exact d.step og h pt c noAbort
  | data3 =>
    rw [inside (by simp [h])]
    simp only [h] at d
    exact d.step og h pt c noAbort
  | data4 =>
    rw [inside (by simp [h])]
    simp only [h] at d
    exact d.step og h pt c noAbort
  | dataEnd =>
    simp only [h] at d
    exact d.step og h noAbort
  | _ => simp [h] at d

/-- An accepted byte command starts a transfer. -/
lemma accepted_step {cmd : ByteCmd} (fire : s.accepted i = some cmd)
    (noAbort : s.core.abortFire p (s.coreIn i) = false) :
    s.core.stateReg = .hold ∧ (s.step p i).core.stateReg = .data1 ∧
      (s.step p i).core.bitIdxReg = 0 ∧ (s.step p i).core.rxReg = 0 ∧
      (s.step p i).core.Ongoing { cmd := cmd, scl := s.busScl i } := by
  have byte : (s.core.holdWrFire (s.coreIn i) || s.core.holdRdFire (s.coreIn i)) = true := by
    rw [accepted] at fire
    split_ifs at fire with wr rd
    · rw [wr, Bool.true_or]
    · rw [rd, Bool.or_true]
  obtain ⟨h, data1, bit, rx, code⟩ := Core.fire_step byte noAbort
  have word : (s.step p i).core.cmdReg = cmd.code ∧ (s.step p i).core.txReg = cmd.word := by
    rw [accepted] at fire
    split_ifs at fire with wr rd <;> cases fire
    · have is_wr := wr
      simp only [Core.holdWrFire, decide_eq_true_eq] at is_wr
      have rd : s.core.holdRdFire (s.coreIn i) = false := by
        simp [Core.holdRdFire, is_wr.2.2, WR_CMD, RD_CMD]
      refine ⟨code.trans is_wr.2.2, ?_⟩
      simp only [Bus.step, Core.step, Core.txNext, Core.nextBit, h, wr, rd]
      rfl
    · have is_rd := rd
      simp only [Core.holdRdFire, decide_eq_true_eq] at is_rd
      refine ⟨code.trans is_rd.2.2, ?_⟩
      simp only [Bus.step, Core.step, Core.txNext, Core.nextBit, h, rd]
      rfl
  refine ⟨h, data1, bit, rx, word.1, ?_, ?_, rfl, rfl⟩
  · rw [show (s.step p i).core.bitIdxReg = _ from bit]
    decide
  · intro j _ _
    rw [show (s.step p i).core.bitIdxReg = _ from bit, word.2]
    rfl

/-- One cycle without a byte command. -/
lemma Free.step (fr : s.Free) (pt : s.Patient p)
    (noAbort : s.core.abortFire p (s.coreIn i) = false) :
    (s.step p i).Agrees (track none (s.cycle p i)) := by
  rw [track]
  cases fire : (s.cycle p i).accepted with
  | some cmd =>
    obtain ⟨h, data1, bit, rx, og⟩ := accepted_step (p := p) fire noAbort
    simp only [Free, h] at fr
    have now : s.busScl i = false := by rw [busScl, fr.1, Bool.false_and]
    refine carrying_data1 og data1 ⟨?_, now, fun _ => fr.2, ?_⟩
    · simp [Bus.step, Core.step, Core.sclOutNext, h]
    · rw [bit]
      exact ⟨rfl, rx⟩
  | none =>
    have quiet : s.core.holdWrFire (s.coreIn i) = false ∧
        s.core.holdRdFire (s.coreIn i) = false := by
      simp only [cycle, accepted] at fire
      split_ifs at fire with wr rd
      exact ⟨(Bool.not_eq_true _).mp wr, (Bool.not_eq_true _).mp rd⟩
    rw [Option.map_none, Agrees, Free]
    cases h : s.core.stateReg with
    | idle =>
      cases hf : s.core.idleStartFire (s.coreIn i) <;>
        simp [Bus.step, Core.step, Core.stateNext, noAbort, h, hf]
    | restart | stop1 | stop2 =>
      cases hp : s.core.phaseEnd <;> simp [Bus.step, Core.step, Core.stateNext, noAbort, h, hp]
    | start1 =>
      cases hp : s.core.phaseEnd <;>
        simp [Bus.step, Core.step, Core.stateNext, Core.tickCntNext, State.half, noAbort, h, hp]
    | start2 =>
      simp only [Free, h] at fr
      have out : (s.step p i).core.sclOutReg = false := by
        simp [Bus.step, Core.step, Core.sclOutNext, h]
      cases hp : s.core.phaseEnd with
      | false =>
        have next : (s.step p i).core.stateReg = .start2 := Core.phase_stays h rfl noAbort hp
        rw [next]
        exact fun _ => out
      | true =>
        have next : (s.step p i).core.stateReg = .hold := Core.phase_follows h rfl noAbort hp
        have later := pt.later (by rw [h]; rfl) hp
        rw [next]
        exact ⟨out, show s.busScl i = false by rw [busScl, fr later, Bool.false_and]⟩
    | hold =>
      simp only [Free, h] at fr
      have out : (s.step p i).core.sclOutReg = false := by
        simp [Bus.step, Core.step, Core.sclOutNext, h]
      have low : (s.step p i).core.sclMetaReg = false :=
        show s.busScl i = false by rw [busScl, fr.1, Bool.false_and]
      cases hr : s.core.holdRestartFire (s.coreIn i) <;>
        cases hs : s.core.holdStopFire (s.coreIn i) <;>
        simp [Bus.step, Core.step, Core.stateNext, noAbort, h, hr, hs, quiet]
      exact ⟨out, low⟩
    | _ => simp [Free, h] at fr

lemma Agrees.noAbort {b : Option Transfer} (ag : s.Agrees b) (pt : s.Patient p)
    (c : s.Compliant p i) : s.core.abortFire p (s.coreIn i) = false := by
  refine Bus.noAbort pt c fun h => ?_
  cases b with
  | none => simp [Agrees, Free, h] at ag
  | some t =>
    obtain ⟨-, d⟩ := ag
    simp only [h] at d
    rw [d.prev]
    exact d.current.2.2.filt d.lag

lemma Agrees.step {b : Option Transfer} (ag : s.Agrees b) (pt : s.Patient p)
    (c : s.Compliant p i) : (s.step p i).Agrees (track b (s.cycle p i)) := by
  cases b with
  | none => exact Free.step ag pt (ag.noAbort pt c)
  | some t => exact Carrying.step ag pt c (ag.noAbort pt c)

end Bus

end ModularControl.I2c
