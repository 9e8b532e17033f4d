import ModularControl.Spi.Words
import ModularControl.Spi.Exchange

/-!
# The SPI port

`spi_regs` with the vendor core that it instantiates: only the register accesses and MISO come from
outside. The core returns a word only while BUSY is set, so that the port is an instance of the
register block with a core that is free to choose; and what `spi_regs` launches appears on the bus
as transactions, one for each launch that was not preceded by an open one.
-/

namespace ModularControl.Spi
open Sync Axi

/-- The registers of `spi_regs` and of its vendor core. -/
structure SpiPort where
  regs : SpiRegs
  core : SpiMaster 8
deriving DecidableEq

/-- The inputs of the port in a cycle. -/
structure PortIn where
  reqValid : Bool := false
  req : MmioReq := ⟨false, 0, 0, 0⟩
  rspReady : Bool := true
  miso : Bool := false
deriving DecidableEq, Repr

namespace SpiPort

variable (p : SpiParams) (s : SpiPort) (i : PortIn)

/-- What the core shows to the registers. -/
def coreIn : CoreIn where
  wready := s.core.wready p
  rvalid := s.core.rvalid
  rdata := s.core.rdata
  csN := s.core.csn

/-- What the registers drive into the core. -/
def masterIn : MasterIn 8 where
  wvalid := s.regs.coreWvalid (s.coreIn p)
  transferEnd := s.regs.coreTransferEnd (s.coreIn p) i.reqValid i.req
  wdata := s.regs.coreWdata
  miso := i.miso

def step : SpiPort where
  regs := s.regs.step (s.coreIn p) i.reqValid i.req i.rspReady
  core := s.core.step p (s.masterIn p i)

/-- The inputs of the registers. -/
def spiIn : SpiIn := ⟨s.coreIn p, i.reqValid, i.req, i.rspReady⟩

/-- The registers with the number of words in flight. -/
def system : SpiSystem := ⟨s.regs, if s.regs.busy then 1 else 0⟩

end SpiPort

/-- The port as a machine. -/
def spiPort (p : SpiParams) : Machine SpiPort PortIn Unit where
  init := ⟨.reset, .reset⟩
  step s i := s.step p i
  out _ _ := ()

/-! ## The bus -/

/-- What is seen on the bus: the chip select falls or rises, or a bit passes on MOSI. -/
inductive BusEvent where
  | select
  | bit (mosi : Bool)
  | release
deriving DecidableEq, Repr

/-- Words on the bus, each with its final flag: a transaction begins with the word after a final
    one, or with the first, and ends with a final one. -/
def script (msbFirst : Bool) : Bool → List Word → List BusEvent
  | _, [] => []
  | selected, (byte, finalByte) :: ws =>
    (if selected then [] else [.select]) ++ (serial msbFirst byte).map .bit ++
      (if finalByte then [.release] else []) ++ script msbFirst (!finalByte) ws

/-- The bus is left selected by the words so far. -/
def leftOpen (ws : List Word) : Bool := ws.getLast?.any fun w => !w.2

section Streams

variable (p : SpiParams) (g : Nat → PortIn)

def port (t : Nat) : SpiPort := (spiPort p).atCycle g t

/-- The inputs of the core. -/
def coreStream (t : Nat) : MasterIn 8 := (port p g t).masterIn p (g t)

/-- The word launched in a cycle, with its final flag. -/
def launchAt (t : Nat) : Option Word :=
  if (port p g t).regs.coreWvalid ((port p g t).coreIn p) then
    some ((port p g t).regs.coreWdata,
      (port p g t).regs.coreTransferEnd ((port p g t).coreIn p) (g t).reqValid (g t).req)
  else none

/-- The word received in a cycle. -/
def wordAt (t : Nat) : Option (BitVec 8) := returnedWord p (coreStream p g) t

/-- The bit sampled on MISO. -/
def misoAt (t : Nat) : Option Bool := gotBit p (coreStream p g) t

/-- What is seen on the bus between this cycle and the next. -/
def busAt (t : Nat) : Option BusEvent :=
  if csn p (coreStream p g) t && !csn p (coreStream p g) (t + 1) then some .select
  else if !csn p (coreStream p g) t && csn p (coreStream p g) (t + 1) then some .release
  else (sentBit p (coreStream p g) t).map .bit

end Streams

/-! ## The registers and their core -/

namespace SpiPort

variable {p : SpiParams} {s : SpiPort} {i : PortIn}

lemma busy_step : (s.step p i).regs.busy = if s.core.rvalid then false
    else if s.regs.coreWvalid (s.coreIn p) then true else s.regs.busy := rfl

lemma flag_step : (s.step p i).regs.launchedXferEnd =
    if s.regs.coreWvalid (s.coreIn p) then s.regs.startXferEnd i.reqValid i.req
    else s.regs.launchedXferEnd := rfl

lemma xferOpen_step : (s.step p i).regs.xferOpen = if s.core.rvalid then !s.regs.launchedXferEnd
    else if s.regs.coreWvalid (s.coreIn p) then true else s.regs.xferOpen := rfl

/-- The core takes a word exactly as it is launched. -/
lemma accepts_eq : s.core.accepts p (s.masterIn p i) = s.regs.coreWvalid (s.coreIn p) := by
  show (s.regs.coreWvalid (s.coreIn p) && s.core.wready p) = _
  cases launched : s.regs.coreWvalid (s.coreIn p) with
  | false => rfl
  | true =>
    have ready : s.core.wready p = true := 
      (SpiRegs.pending_of_launch (i := s.spiIn p i) launched).2.2.2
    rw [ready]
    rfl

/-- Nothing is launched while BUSY is set. -/
lemma still_of_busy (busy : s.regs.busy = true) : s.regs.coreWvalid (s.coreIn p) = false := by
  simp [SpiRegs.coreWvalid, SpiRegs.txFire, SpiRegs.startFire, busy]

/-- Without a launch the latched flag is what asks for the end of the transfer. -/
lemma transferEnd_of_still (still : s.regs.coreWvalid (s.coreIn p) = false) :
    (s.masterIn p i).transferEnd = s.regs.launchedXferEnd :=
  if_neg (by rw [SpiRegs.coreWvalid] at still; simp [still])

end SpiPort

/-! ## The words on the bus -/

section Script

variable {m : Bool} {ws : List Word} {byte : BitVec 8} {finalByte : Bool}

@[simp] lemma leftOpen_snoc : leftOpen (ws ++ [(byte, finalByte)]) = !finalByte := by
  simp [leftOpen]

/-- One word more. -/
lemma script_snoc : script m false (ws ++ [(byte, finalByte)]) =
    script m false ws ++ (if leftOpen ws then [] else [.select]) ++ (serial m byte).map .bit ++
      if finalByte then [.release] else [] := by
  have general : ∀ selected, script m selected (ws ++ [(byte, finalByte)]) =
      script m selected ws ++
        (if ws.getLast?.elim selected (fun w => !w.2) then [] else [.select]) ++
        (serial m byte).map .bit ++ if finalByte then [.release] else [] := by
    induction ws with
    | nil => simp [script]
    | cons w ws ih =>
      intro selected
      obtain ⟨b, f⟩ := w
      rw [List.cons_append, script, ih, script]
      cases ws with
      | nil => simp
      | cons w ws => simp [List.getLast?_cons]
  rw [general, leftOpen]
  cases ws.getLast? <;> rfl

end Script

section Run

variable {p : SpiParams} {g : Nat → PortIn} {t : Nat}

lemma port_succ : port p g (t + 1) = (port p g t).step p (g t) := Machine.atCycle_succ _ _ _

/-- The core of the port runs on its own inputs. -/
lemma core_eq (p : SpiParams) (g : Nat → PortIn) (t : Nat) :
    (port p g t).core = master p (coreStream p g) t :=
  (spiPort p).atCycle_project (spiMaster p 8) SpiPort.core (fun s i => s.masterIn p i) rfl
    (fun _ _ => rfl) g t

lemma taken_eq : takenWord p (coreStream p g) t = (launchAt p g t).map Prod.fst := by
  rw [takenWord, ← core_eq, launchAt]
  have same : (port p g t).core.accepts p (coreStream p g t) =
      (port p g t).regs.coreWvalid ((port p g t).coreIn p) := SpiPort.accepts_eq
  rw [same]
  split_ifs <;> rfl

lemma log_taken (t : Nat) :
    log (takenWord p (coreStream p g)) t = (log (launchAt p g) t).map Prod.fst := by
  induction t with
  | zero => rfl
  | succ t ih =>
    rw [log_succ, log_succ, ih, taken_eq, List.map_append]
    cases launchAt p g t <;> rfl

/-- Where the port is with the words that it has launched, and what has been seen of them. -/
inductive Transacting (p : SpiParams) (g : Nat → PortIn) (t : Nat) : Prop
  | rest (idle : (port p g t).core.state = .idle) (quiet : (port p g t).core.rvalid = false)
    (free : (port p g t).regs.busy = false) (shut : (port p g t).regs.xferOpen = false)
    (bus : log (busAt p g) t = script p.msbFirst false (log (launchAt p g) t))
    (ended : leftOpen (log (launchAt p g) t) = false)
  | word {ws : List Word} {byte : BitVec 8} {finalByte : Bool} {bits : List Bool}
    (active : (port p g t).core.state = .entr ∨ (port p g t).core.state = .rxtx)
    (early : (port p g t).core.cnt < 16) (quiet : (port p g t).core.rvalid = false)
    (busy : (port p g t).regs.busy = true) (flag : (port p g t).regs.launchedXferEnd = finalByte)
    (launched : log (launchAt p g) t = ws ++ [(byte, finalByte)])
    (sent : log (sentBit p (coreStream p g)) t = bitsOf p (ws.map Prod.fst) ++ bits)
    (bus : log (busAt p g) t = script p.msbFirst false ws ++
      (if leftOpen ws then [] else [.select]) ++ bits.map .bit)
  | back {finalByte : Bool}
    (state : (port p g t).core.state = if finalByte then .exit else .rxtx)
    (full : (port p g t).core.cnt = 16) (first : (port p g t).core.clkCnt = 0)
    (valid : (port p g t).core.rvalid = true) (busy : (port p g t).regs.busy = true)
    (flag : (port p g t).regs.launchedXferEnd = finalByte)
    (bus : log (busAt p g) t ++ (if finalByte then [.release] else []) =
      script p.msbFirst false (log (launchAt p g) t))
    (ended : leftOpen (log (launchAt p g) t) = !finalByte)
  | between (rxtx : (port p g t).core.state = .rxtx) (full : (port p g t).core.cnt = 16)
    (quiet : (port p g t).core.rvalid = false) (free : (port p g t).regs.busy = false)
    (flag : (port p g t).regs.launchedXferEnd = false)
    (opened : (port p g t).regs.xferOpen = true)
    (bus : log (busAt p g) t = script p.msbFirst false (log (launchAt p g) t))
    (ended : leftOpen (log (launchAt p g) t) = true)
  | leaving (exit : (port p g t).core.state = .exit) (quiet : (port p g t).core.rvalid = false)
    (free : (port p g t).regs.busy = false) (shut : (port p g t).regs.xferOpen = false)
    (bus : log (busAt p g) t ++ [.release] = script p.msbFirst false (log (launchAt p g) t))
    (ended : leftOpen (log (launchAt p g) t) = false)

/-- What is seen on the bus while it stays selected, or deselected. -/
lemma busAt_still (same : (port p g (t + 1)).core.csn = (port p g t).core.csn) :
    busAt p g t = (sentBit p (coreStream p g) t).map .bit := by
  rw [core_eq, core_eq] at same
  rw [busAt, csn, csn, same]
  cases (master p (coreStream p g) t).csn <;> rfl

lemma wf_core (sz : Sizes p 8) (g : Nat → PortIn) (t : Nat) : (port p g t).core.Wf p := by
  rw [core_eq]
  exact wf_master sz _ _

lemma cycle_core (sz : Sizes p 8) (g : Nat → PortIn) (t : Nat) :
    SpiMaster.Cycle p (port p g t).core (coreStream p g t) :=
  (wf_core sz g t).cases sz _

lemma samples_eq (sz : Sizes p 8) : sentBit p (coreStream p g) t =
    if (port p g t).core.samples p then some (mosi p (coreStream p g) t) else none := by
  rw [sentBit_eq sz, core_eq]

/-- A cycle that launches nothing adds nothing to the launches. -/
lemma launch_none (still : (port p g t).regs.coreWvalid ((port p g t).coreIn p) = false) :
    log (launchAt p g) (t + 1) = log (launchAt p g) t := by
  rw [log_succ, launchAt, still]
  exact List.append_nil _

/-- A launch adds its word, with the flag that is latched for it. -/
lemma launch_some (fire : (port p g t).regs.coreWvalid ((port p g t).coreIn p) = true) :
    log (launchAt p g) (t + 1) = log (launchAt p g) t ++
      [((port p g t).regs.coreWdata, (port p g (t + 1)).regs.launchedXferEnd)] := by
  have latched : (port p g (t + 1)).regs.launchedXferEnd =
      (port p g t).regs.coreTransferEnd ((port p g t).coreIn p) (g t).reqValid (g t).req := by
    have fire' : (port p g t).regs.txFire ((port p g t).coreIn p) = true := fire
    rw [port_succ, SpiPort.flag_step, fire, SpiRegs.coreTransferEnd, fire']
  rw [log_succ, launchAt, fire, latched]
  rfl

/-- Nothing is on the bus in a cycle in which it stays as it is. -/
lemma bus_none (sz : Sizes p 8) (still : (port p g t).core.samples p = false)
    (same : (port p g (t + 1)).core.csn = (port p g t).core.csn) :
    log (busAt p g) (t + 1) = log (busAt p g) t := by
  rw [log_succ, busAt_still same, samples_eq sz, still]
  exact List.append_nil _

lemma accepts_iff : (port p g t).core.accepts p (coreStream p g t) =
    (port p g t).regs.coreWvalid ((port p g t).coreIn p) := SpiPort.accepts_eq

lemma core_succ : (port p g (t + 1)).core = (port p g t).core.step p (coreStream p g t) := by
  rw [port_succ]
  rfl

lemma busy_succ : (port p g (t + 1)).regs.busy = if (port p g t).core.rvalid then false
    else if (port p g t).regs.coreWvalid ((port p g t).coreIn p) then true
    else (port p g t).regs.busy := by
  rw [port_succ, SpiPort.busy_step]

lemma flag_succ (still : (port p g t).regs.coreWvalid ((port p g t).coreIn p) = false) :
    (port p g (t + 1)).regs.launchedXferEnd = (port p g t).regs.launchedXferEnd := by
  rw [port_succ, SpiPort.flag_step, still]
  rfl

lemma xferOpen_succ : (port p g (t + 1)).regs.xferOpen =
    if (port p g t).core.rvalid then !(port p g t).regs.launchedXferEnd
    else if (port p g t).regs.coreWvalid ((port p g t).coreIn p) then true
    else (port p g t).regs.xferOpen := by
  rw [port_succ, SpiPort.xferOpen_step]

/-- Between two words everything that was launched has been sent. -/
lemma sent_over (sz : Sizes p 8) (inactive : (port p g t).core.state ≠ .entr)
    (late : (port p g t).core.state = .rxtx → (port p g t).core.cnt = 16) :
    log (sentBit p (coreStream p g)) t = bitsOf p ((log (launchAt p g) t).map Prod.fst) := by
  rw [core_eq] at inactive late
  cases progress sz (coreStream p g) t with
  | done ov => rw [ov.sent, log_taken]
  | under un =>
    have early := un.early
    rcases un.active with entr | rxtx
    · exact absurd entr inactive
    · have full := late rxtx
      omega

/-- At rest, or with a launch. -/
lemma Transacting.next_rest (sz : Sizes p 8) (idle : (port p g t).core.state = .idle)
    (quiet : (port p g t).core.rvalid = false) (free : (port p g t).regs.busy = false)
    (shut : (port p g t).regs.xferOpen = false)
    (bus : log (busAt p g) t = script p.msbFirst false (log (launchAt p g) t))
    (ended : leftOpen (log (launchAt p g) t) = false) : Transacting p g (t + 1) := by
  have busy := busy_succ (p := p) (g := g) (t := t)
  have opened := xferOpen_succ (p := p) (g := g) (t := t)
  have silent : (port p g t).core.samples p = false := by
    rw [SpiMaster.samples, idle]
    rfl
  rw [quiet] at busy opened
  cases cycle_core sz g t with
  | rests _ none next =>
    have still := accepts_iff.symm.trans none
    rw [← core_succ] at next
    rw [still, free] at busy
    rw [still, shut] at opened
    refine .rest ?_ ?_ busy opened ?_ ?_
    · rw [next]
      exact idle
    · rw [next]
    · rw [launch_none still, bus_none sz silent (by rw [next]; rfl)]
      exact bus
    · rw [launch_none still]
      exact ended
  | starts _ taken next =>
    have fire := accepts_iff.symm.trans taken
    have sent := sent_over (g := g) (t := t) sz (by simp [idle]) (by simp [idle])
    rw [← core_succ] at next
    rw [fire] at busy
    have selects : busAt p g t = some .select := by
      rw [busAt, csn, csn, ← core_eq, ← core_eq, next, SpiMaster.csn, idle]
      rfl
    have nothing : log (sentBit p (coreStream p g)) (t + 1) =
        bitsOf p ((log (launchAt p g) t).map Prod.fst) ++ [] := by
      rw [log_succ, samples_eq sz, silent, sent]
      rfl
    refine .word (.inl ?_) ?_ ?_ busy rfl (launch_some fire) nothing ?_
    · rw [next]
    · rw [next]
      show 0 < 16
      decide
    · rw [next]
    · rw [log_succ, selects, bus, ended, List.map_nil, List.append_nil]
      rfl
  | waits busy_ => exact absurd idle busy_
  | enters entr => simp [idle] at entr
  | halves rxtx => simp [idle] at rxtx
  | reloads rxtx => simp [idle] at rxtx
  | pauses rxtx => simp [idle] at rxtx
  | leaves exit => simp [idle] at exit

/-- A word goes on bit by bit, until it is returned. -/
lemma Transacting.next_word (sz : Sizes p 8) {ws : List Word} {byte : BitVec 8}
    {finalByte : Bool} {bits : List Bool}
    (active : (port p g t).core.state = .entr ∨ (port p g t).core.state = .rxtx)
    (early : (port p g t).core.cnt < 16) (quiet : (port p g t).core.rvalid = false)
    (busy_ : (port p g t).regs.busy = true)
    (flag_ : (port p g t).regs.launchedXferEnd = finalByte)
    (launched : log (launchAt p g) t = ws ++ [(byte, finalByte)])
    (sent : log (sentBit p (coreStream p g)) t = bitsOf p (ws.map Prod.fst) ++ bits)
    (bus : log (busAt p g) t = script p.msbFirst false ws ++
      (if leftOpen ws then [] else [.select]) ++ bits.map .bit) : Transacting p g (t + 1) := by
  have still : (port p g t).regs.coreWvalid ((port p g t).coreIn p) = false :=
    SpiPort.still_of_busy busy_
  have busy := busy_succ (p := p) (g := g) (t := t)
  have flag := (flag_succ still).trans flag_
  have launched' := (launch_none still).trans launched
  have clash {P : Prop} (taken : (port p g t).core.accepts p (coreStream p g t) = true) : P := by
    rw [accepts_iff, still] at taken
    cases taken
  have down : (port p g t).core.csn = false := by
    rw [SpiMaster.csn]
    rcases active with entr | rxtx
    · rw [entr]
      rfl
    · rw [rxtx]
      rfl
  rw [quiet, still, busy_] at busy
  -- while the bus stays selected the bits sent are what is seen
  have grows (down' : (port p g (t + 1)).core.csn = false) :
      log (sentBit p (coreStream p g)) (t + 1) = bitsOf p (ws.map Prod.fst) ++
          (bits ++ (sentBit p (coreStream p g) t).toList) ∧
        log (busAt p g) (t + 1) = script p.msbFirst false ws ++
          (if leftOpen ws then [] else [.select]) ++
            (bits ++ (sentBit p (coreStream p g) t).toList).map .bit := by
    refine ⟨?_, ?_⟩
    · rw [log_succ, sent, List.append_assoc]
    · rw [log_succ, busAt_still (down'.trans down.symm), bus, List.map_append, List.append_assoc]
      cases sentBit p (coreStream p g) t <;> rfl
  cases cycle_core sz g t with
  | rests idle => exact absurd active (by simp [idle])
  | starts idle => exact absurd active (by simp [idle])
  | leaves exit => exact absurd active (by simp [exit])
  | reloads _ _ _ taken => exact clash taken
  | waits _ _ _ next =>
    rw [← core_succ] at next
    have down' : (port p g (t + 1)).core.csn = false := by
      rw [next]
      exact down
    obtain ⟨sent', bus'⟩ := grows down'
    refine .word ?_ ?_ ?_ busy flag launched' sent' bus'
    · rw [next]
      exact active
    · rw [next]
      show (if (port p g t).core.state = .exit then 0 else (port p g t).core.cnt) < 16
      split_ifs <;> omega
    · rw [next]
  | enters _ _ _ next =>
    rw [← core_succ] at next
    obtain ⟨sent', bus'⟩ := grows (by rw [next]; rfl)
    refine .word (.inr ?_) ?_ ?_ busy flag launched' sent' bus' <;> rw [next]
    show 0 < 16
    decide
  | halves _ _ within _ next =>
    rw [← core_succ] at next
    obtain ⟨sent', bus'⟩ := grows (by rw [next]; rfl)
    refine .word (.inr ?_) ?_ ?_ busy flag launched' sent' bus' <;> rw [next]
    show (port p g t).core.cnt + 1 < 16
    omega
  | pauses _ _ late _ next =>
    have ends : (coreStream p g t).transferEnd = finalByte :=
      (SpiPort.transferEnd_of_still still).trans flag_
    rw [← core_succ, ends] at next
    have down' : (port p g (t + 1)).core.csn = false := by
      rw [SpiMaster.csn, next]
      cases finalByte <;> rfl
    obtain ⟨sent', bus'⟩ := grows down'
    have whole := sent_over (g := g) (t := t + 1) sz
      (by rw [next]; cases finalByte <;> simp) (by rw [next]; exact fun _ => rfl)
    -- the bits of the word are complete
    rw [launched', List.map_append, bitsOf, List.flatMap_append, sent'] at whole
    have bits' : bits ++ (sentBit p (coreStream p g) t).toList = serial p.msbFirst byte := by
      have tail := List.append_cancel_left whole
      rw [tail]
      exact List.append_nil _
    rw [bits'] at bus'
    refine .back ?_ ?_ ?_ ?_ busy flag ?_ ?_
    · rw [next]
    · rw [next]
    · rw [next]
    · rw [next]
      exact decide_eq_true (by omega)
    · rw [bus', launched', script_snoc]
    · rw [launched', leftOpen_snoc]

/-- The word is returned, and BUSY is cleared. -/
lemma Transacting.next_back (sz : Sizes p 8) {finalByte : Bool}
    (state : (port p g t).core.state = if finalByte then .exit else .rxtx)
    (full : (port p g t).core.cnt = 16) (first : (port p g t).core.clkCnt = 0)
    (valid : (port p g t).core.rvalid = true) (busy_ : (port p g t).regs.busy = true)
    (flag_ : (port p g t).regs.launchedXferEnd = finalByte)
    (bus : log (busAt p g) t ++ (if finalByte then [.release] else []) =
      script p.msbFirst false (log (launchAt p g) t))
    (ended : leftOpen (log (launchAt p g) t) = !finalByte) : Transacting p g (t + 1) := by
  have still : (port p g t).regs.coreWvalid ((port p g t).coreIn p) = false :=
    SpiPort.still_of_busy busy_
  have busy := busy_succ (p := p) (g := g) (t := t)
  have opened := xferOpen_succ (p := p) (g := g) (t := t)
  have flag := (flag_succ still).trans flag_
  have during := SpiMaster.clkEn_of_zero sz first
  rw [valid] at busy
  rw [valid, flag_] at opened
  have silent : (port p g t).core.samples p = false := by simp [SpiMaster.samples, during]
  have inside {P : Prop} (ends : (port p g t).core.clkEn p = true) : P := by
    rw [during] at ends
    cases ends
  have busy_core : (port p g t).core.state ≠ .idle := by
    rw [state]
    split_ifs <;> simp
  cases cycle_core sz g t with
  | rests idle => exact absurd idle busy_core
  | starts idle => exact absurd idle busy_core
  | waits _ _ _ next =>
    rw [← core_succ] at next
    have same : (port p g (t + 1)).core.csn = (port p g t).core.csn := by
      rw [next]
      rfl
    rw [← bus_none sz silent same, ← launch_none still] at bus
    rw [← launch_none still] at ended
    have quiet : (port p g (t + 1)).core.rvalid = false := by rw [next]
    have state' : (port p g (t + 1)).core.state = if finalByte then .exit else .rxtx := by
      rw [next]
      exact state
    cases finalByte with
    | false =>
      have bus := (List.append_nil _).symm.trans bus
      refine .between state' ?_ quiet busy flag opened bus ended
      have rxtx : (port p g t).core.state = .rxtx := state
      rw [next]
      exact (if_neg (by simp [rxtx])).trans full
    | true => exact .leaving state' quiet busy opened bus ended
  | enters _ ends => exact inside ends
  | halves _ ends => exact inside ends
  | reloads _ ends => exact inside ends
  | pauses _ ends => exact inside ends
  | leaves _ ends => exact inside ends

/-- Between two words of a transaction nothing happens on the bus until the next launch. -/
lemma Transacting.next_between (sz : Sizes p 8) (rxtx : (port p g t).core.state = .rxtx)
    (full : (port p g t).core.cnt = 16) (quiet : (port p g t).core.rvalid = false)
    (free : (port p g t).regs.busy = false)
    (flag_ : (port p g t).regs.launchedXferEnd = false)
    (opened_ : (port p g t).regs.xferOpen = true)
    (bus : log (busAt p g) t = script p.msbFirst false (log (launchAt p g) t))
    (ended : leftOpen (log (launchAt p g) t) = true) : Transacting p g (t + 1) := by
  have busy := busy_succ (p := p) (g := g) (t := t)
  have opened := xferOpen_succ (p := p) (g := g) (t := t)
  have silent : (port p g t).core.samples p = false := by simp [SpiMaster.samples, full]
  rw [quiet] at busy opened
  have stays (state' : (port p g (t + 1)).core.state = .rxtx)
      (full' : (port p g (t + 1)).core.cnt = 16)
      (quiet' : (port p g (t + 1)).core.rvalid = false)
      (none : (port p g t).core.accepts p (coreStream p g t) = false) :
      Transacting p g (t + 1) := by
    have still := accepts_iff.symm.trans none
    have same : (port p g (t + 1)).core.csn = (port p g t).core.csn := by
      rw [SpiMaster.csn, SpiMaster.csn, state', rxtx]
    rw [still, free] at busy
    rw [still, opened_] at opened
    refine .between state' full' quiet' busy ((flag_succ still).trans flag_) opened ?_ ?_
    · rw [bus_none sz silent same, launch_none still]
      exact bus
    · rw [launch_none still]
      exact ended
  cases cycle_core sz g t with
  | rests idle => simp [rxtx] at idle
  | starts idle => simp [rxtx] at idle
  | enters entr => simp [rxtx] at entr
  | leaves exit => simp [rxtx] at exit
  | halves _ _ early => omega
  | waits _ _ none next =>
    rw [← core_succ] at next
    refine stays ?_ ?_ ?_ none <;> rw [next]
    · exact rxtx
    · exact (if_neg (by simp [rxtx])).trans full
  | pauses _ _ _ none next =>
    have still := accepts_iff.symm.trans none
    have ends : (coreStream p g t).transferEnd = false :=
      (SpiPort.transferEnd_of_still still).trans flag_
    rw [← core_succ, ends] at next
    refine stays ?_ ?_ ?_ none <;> rw [next]
    · rfl
    · exact decide_eq_false (by omega)
  | reloads _ _ _ taken next =>
    have fire := accepts_iff.symm.trans taken
    have sent := sent_over (g := g) (t := t) sz (by simp [rxtx]) (fun _ => full)
    rw [← core_succ] at next
    rw [fire] at busy
    have same : (port p g (t + 1)).core.csn = (port p g t).core.csn := by
      rw [SpiMaster.csn, SpiMaster.csn, next, rxtx]
    have nothing : log (sentBit p (coreStream p g)) (t + 1) =
        bitsOf p ((log (launchAt p g) t).map Prod.fst) ++ [] := by
      rw [log_succ, samples_eq sz, silent, sent]
      rfl
    refine .word (.inr ?_) ?_ ?_ busy rfl (launch_some fire) nothing ?_
    · rw [next]
    · rw [next]
      show 0 < 16
      decide
    · rw [next]
      exact decide_eq_false (by omega)
    · rw [bus_none sz silent same, bus, ended]
      simp

/-- The bus is released half a period after the final word. -/
lemma Transacting.next_leaving (sz : Sizes p 8) (exit : (port p g t).core.state = .exit)
    (quiet : (port p g t).core.rvalid = false) (free : (port p g t).regs.busy = false)
    (shut : (port p g t).regs.xferOpen = false)
    (bus : log (busAt p g) t ++ [.release] = script p.msbFirst false (log (launchAt p g) t))
    (ended : leftOpen (log (launchAt p g) t) = false) : Transacting p g (t + 1) := by
  have busy := busy_succ (p := p) (g := g) (t := t)
  have opened := xferOpen_succ (p := p) (g := g) (t := t)
  have silent : (port p g t).core.samples p = false := by
    rw [SpiMaster.samples, exit]
    rfl
  have none : (port p g t).core.accepts p (coreStream p g t) = false := by
    rw [SpiMaster.accepts, (wf_core sz g t).wready_eq sz, exit]
    simp
  have still := accepts_iff.symm.trans none
  rw [quiet, still, free] at busy
  rw [quiet, still, shut] at opened
  cases cycle_core sz g t with
  | rests idle => simp [exit] at idle
  | starts idle => simp [exit] at idle
  | enters entr => simp [exit] at entr
  | halves rxtx => simp [exit] at rxtx
  | reloads rxtx => simp [exit] at rxtx
  | pauses rxtx => simp [exit] at rxtx
  | waits _ _ _ next =>
    rw [← core_succ] at next
    refine .leaving ?_ ?_ busy opened ?_ ?_
    · rw [next]
      exact exit
    · rw [next]
    · rw [launch_none still, bus_none sz silent (by rw [next]; rfl)]
      exact bus
    · rw [launch_none still]
      exact ended
  | leaves _ _ _ next =>
    rw [← core_succ] at next
    have releases : busAt p g t = some .release := by
      rw [busAt, csn, csn, ← core_eq, ← core_eq, next, SpiMaster.csn, exit]
      rfl
    refine .rest ?_ ?_ busy opened ?_ ?_
    · rw [next]
    · rw [next]
    · rw [log_succ, releases, launch_none still]
      exact bus
    · rw [launch_none still]
      exact ended

lemma transacting (sz : Sizes p 8) (g : Nat → PortIn) (t : Nat) : Transacting p g t := by
  induction t with
  | zero => exact .rest rfl rfl rfl rfl rfl rfl
  | succ t ih =>
    cases ih with
    | rest idle quiet free shut bus ended => exact .next_rest sz idle quiet free shut bus ended
    | word active early quiet busy flag launched sent bus =>
      exact .next_word sz active early quiet busy flag launched sent bus
    | back state full first valid busy flag bus ended =>
      exact .next_back sz state full first valid busy flag bus ended
    | between rxtx full quiet free flag opened bus ended =>
      exact .next_between sz rxtx full quiet free flag opened bus ended
    | leaving exit quiet free shut bus ended =>
      exact .next_leaving sz exit quiet free shut bus ended

/-! ## The port as an instance of the register block -/

/-- The core returns a word only while BUSY is set. -/
lemma busy_of_valid (sz : Sizes p 8) (valid : (port p g t).core.rvalid = true) :
    (port p g t).regs.busy = true := by
  have clash {P : Prop} (quiet : (port p g t).core.rvalid = false) : P := by
    rw [valid] at quiet
    cases quiet
  cases transacting sz g t with
  | rest _ quiet => exact clash quiet
  | word _ _ _ busy => exact busy
  | back _ _ _ _ busy => exact busy
  | between _ _ quiet => exact clash quiet
  | leaving _ quiet => exact clash quiet

lemma seen_eq (sz : Sizes p 8) (g : Nat → PortIn) (t : Nat) :
    (port p g t).system.seen ((port p g t).spiIn p (g t)) = (port p g t).spiIn p (g t) := by
  have returns := busy_of_valid (g := g) (t := t) sz
  have valid : ((port p g t).core.rvalid && decide (0 < (port p g t).system.inFlight)) =
      (port p g t).core.rvalid := by
    cases back : (port p g t).core.rvalid with
    | false => rfl
    | true => simp [SpiPort.system, returns back]
  simp only [SpiSystem.seen, SpiPort.spiIn, SpiPort.coreIn, valid]

lemma system_succ (sz : Sizes p 8) (g : Nat → PortIn) (t : Nat) :
    (port p g (t + 1)).system = (port p g t).system.step ((port p g t).spiIn p (g t)) := by
  have returns := busy_of_valid (g := g) (t := t) sz
  have busy := busy_succ (p := p) (g := g) (t := t)
  rw [SpiSystem.step, seen_eq sz, SpiPort.system, busy]
  refine congrArg₂ _ ?_ ?_
  · rw [port_succ]
    rfl
  · show _ = (if (port p g t).regs.busy then 1 else 0) +
      (if (port p g t).regs.coreWvalid ((port p g t).coreIn p) then 1 else 0) -
        if (port p g t).core.rvalid then 1 else 0
    cases busy_ : (port p g t).regs.busy with
    | true =>
      rw [SpiPort.still_of_busy busy_]
      cases (port p g t).core.rvalid <;> rfl
    | false =>
      have quiet : (port p g t).core.rvalid = false := by
        by_contra back
        rw [returns (Bool.not_eq_false _ ▸ back)] at busy_
        cases busy_
      rw [quiet]
      cases (port p g t).regs.coreWvalid ((port p g t).coreIn p) <;> rfl

/-- What the core shows to the registers, cycle by cycle. -/
def spiStream (p : SpiParams) (g : Nat → PortIn) (t : Nat) : SpiIn := (port p g t).spiIn p (g t)

lemma system_eq (sz : Sizes p 8) (g : Nat → PortIn) (t : Nat) :
    (port p g t).system = spiSystem.atCycle (spiStream p g) t := by
  induction t with
  | zero => rfl
  | succ t ih => rw [system_succ sz, ih, Machine.atCycle_succ]; rfl

end Run

/-- The vendor core keeps what is assumed of the core of `spi_regs`: the registers of the port are
    those of the register block with a core that shows what the vendor core shows, and nothing of
    what the vendor core shows as returned is without a word in flight. -/
theorem spi_port_refines (p : SpiParams) (sz : Sizes p 8) (g : Nat → PortIn) :
    ∀ t, (port p g t).system = spiSystem.atCycle (spiStream p g) t ∧
      (spiSystem.atCycle (spiStream p g) t).seen (spiStream p g t) = spiStream p g t := by
  intro t
  have same := system_eq sz g t
  rw [← same]
  exact ⟨rfl, seen_eq sz g t⟩

/-- An access in every third cycle. -/
theorem spi_port_refines_default :
    (port .default (fun n => { reqValid := n % 3 == 0 }) 100).system =
        spiSystem.atCycle (spiStream .default fun n => { reqValid := n % 3 == 0 }) 100 ∧
      (spiSystem.atCycle (spiStream .default fun n => { reqValid := n % 3 == 0 }) 100).seen
          (spiStream .default (fun n => { reqValid := n % 3 == 0 }) 100) =
        spiStream .default (fun n => { reqValid := n % 3 == 0 }) 100 :=
  spi_port_refines .default sizes_default _ 100

/-! ## Launches and the bus -/

section Bus

variable (p : SpiParams) (g : Nat → PortIn)

/-- What the port launches and receives is what passes on the bus. -/
structure OnTheBus : Prop where
  /-- The bus shows the launches in order, each transaction between its own edges of the chip
      select, up to some event of the last one. -/
  order : ∀ t, log (busAt p g) t <+: script p.msbFirst false (log (launchAt p g) t)
  /-- While BUSY is clear nothing is missing but the release after a final word. -/
  settled : ∀ t, (port p g t).regs.busy = false →
    log (busAt p g) t ++ (if csn p (coreStream p g) t || (port p g t).regs.xferOpen then []
      else [.release]) = script p.msbFirst false (log (launchAt p g) t)
  /-- The bits on MISO are those of the words received. -/
  received : ∀ t, bitsOf p (log (wordAt p g) t) <+: log (misoAt p g) t
  complete : ∀ t, (port p g t).regs.busy = false →
    log (misoAt p g) t = bitsOf p (log (wordAt p g) t) ∧
      (log (wordAt p g) t).length = (log (launchAt p g) t).length
  /-- BUSY is set for a known time, after which RXDATA holds the word received. -/
  due : ∀ t, (launchAt p g t).isSome = true →
    (∀ u, t < u → u ≤ t + latency p (coreStream p g) t → (port p g u).regs.busy = true) ∧
      ∃ x, wordAt p g (t + latency p (coreStream p g) t) = some x ∧
        (port p g (t + latency p (coreStream p g) t + 1)).regs.busy = false ∧
        (port p g (t + latency p (coreStream p g) t + 1)).regs.rxdataReg = x

end Bus

section Run

variable {p : SpiParams} {g : Nat → PortIn} {t : Nat}

lemma csn_core : csn p (coreStream p g) t = decide ((port p g t).core.state = .idle) := by
  rw [csn, ← core_eq, SpiMaster.csn]
  cases (port p g t).core.state <;> rfl

/-- While BUSY is clear every word has been received. -/
lemma complete_of_free (sz : Sizes p 8) (free : (port p g t).regs.busy = false) :
    log (misoAt p g) t = bitsOf p (log (wordAt p g) t) ∧
      (log (wordAt p g) t).length = (log (launchAt p g) t).length := by
  have clash {P : Prop} (busy : (port p g t).regs.busy = true) : P := by
    rw [busy] at free
    cases free
  have ends (quiet : (port p g t).core.rvalid = false)
      (inactive : (port p g t).core.state ≠ .entr)
      (late : (port p g t).core.state = .rxtx → (port p g t).core.cnt = 16) :
      log (misoAt p g) t = bitsOf p (log (wordAt p g) t) ∧
        (log (wordAt p g) t).length = (log (launchAt p g) t).length := by
    rw [core_eq] at quiet inactive late
    have words : log (wordAt p g) (t + 1) = log (wordAt p g) t := by
      rw [log_succ, wordAt, returnedWord, quiet]
      exact List.append_nil _
    cases progress sz (coreStream p g) t with
    | done ov =>
      have returned := ov.returned
      rw [log_taken, List.length_map] at returned
      rw [← words]
      exact ⟨ov.got, returned⟩
    | under un =>
      have early := un.early
      rcases un.active with entr | rxtx
      · exact absurd entr inactive
      · have full := late rxtx
        omega
  cases transacting sz g t with
  | rest idle quiet => exact ends quiet (by simp [idle]) (by simp [idle])
  | word _ _ _ busy => exact clash busy
  | back _ _ _ _ busy => exact clash busy
  | between rxtx full quiet => exact ends quiet (by simp [rxtx]) (fun _ => full)
  | leaving exit quiet => exact ends quiet (by simp [exit]) (by simp [exit])

/-- The bits of the word under way are its first ones. -/
lemma bits_of_word (sz : Sizes p 8) {ws : List Word} {byte : BitVec 8} {finalByte : Bool}
    {bits : List Bool} (active : (port p g t).core.state = .entr ∨ (port p g t).core.state = .rxtx)
    (early : (port p g t).core.cnt < 16)
    (launched : log (launchAt p g) t = ws ++ [(byte, finalByte)])
    (sent : log (sentBit p (coreStream p g)) t = bitsOf p (ws.map Prod.fst) ++ bits) :
    bits <+: serial p.msbFirst byte := by
  have taken := log_taken (p := p) (g := g) t
  rw [launched, List.map_append] at taken
  rw [core_eq] at active early
  cases progress sz (coreStream p g) t with
  | done ov =>
    rcases active with entr | rxtx
    · exact absurd entr ov.inactive
    · have full := ov.late rxtx
      omega
  | under un =>
    obtain ⟨rfl, word⟩ := List.append_inj' (un.taken.symm.trans taken) rfl
    obtain rfl : _ = byte := List.singleton_inj.mp word
    rw [List.append_cancel_left (sent.symm.trans un.sent)]
    exact List.take_prefix _ _

/-- A word launched keeps BUSY set until it has been received. -/
lemma busy_until (sz : Sizes p 8) {w : Word} (launched : launchAt p g t = some w) :
    (∀ u, t < u → u ≤ t + latency p (coreStream p g) t → (port p g u).regs.busy = true) ∧
      ∃ x, wordAt p g (t + latency p (coreStream p g) t) = some x := by
  have fire : (port p g t).regs.coreWvalid ((port p g t).coreIn p) = true := by
    by_contra none
    rw [launchAt, if_neg none] at launched
    cases launched
  have free : (port p g t).regs.busy = false :=
    (SpiRegs.pending_of_launch (i := (port p g t).spiIn p (g t)) fire).2.2.1
  have taken : takenWord p (coreStream p g) t = some w.1 := by
    rw [taken_eq, launched]
    rfl
  obtain ⟨x, back, count⟩ := returned_due sz taken
  have all := (complete_of_free sz free).2
  have later : 0 < latency p (coreStream p g) t := Nat.succ_pos _
  generalize latency p (coreStream p g) t = d at back count later
  rw [log_taken, List.length_map, ← all] at count
  refine ⟨fun u after before => ?_, x, back⟩
  -- no other word is returned meanwhile
  have quiet : ∀ v, t ≤ v → v < t + d → (port p g v).core.rvalid = false := by
    intro v ge lt
    by_contra valid
    have shown : wordAt p g v = some (port p g v).core.rdata := by
      rw [core_eq] at valid ⊢
      exact if_pos (Bool.not_eq_false _ ▸ valid)
    have longer := (log_mono (o := wordAt p g) (show v + 1 ≤ t + d by omega)).length_le
    have older := (log_mono (o := wordAt p g) ge).length_le
    rw [log_succ, shown, List.length_append] at longer
    have same : (log (wordAt p g) (t + d)).length = (log (wordAt p g) t).length := count
    simp at longer
    omega
  obtain ⟨k, rfl⟩ : ∃ k, u = t + 1 + k := ⟨u - (t + 1), by omega⟩
  clear after
  induction k with
  | zero =>
    rw [Nat.add_zero, busy_succ, quiet t (Nat.le_refl t) (by omega), fire]
    rfl
  | succ k ih =>
    have busy := ih (by omega)
    rw [← Nat.add_assoc, busy_succ, quiet _ (by omega) (by omega), busy]
    simp

end Run

/-- The register block with its vendor core, for every mode and divider from 4 on: whatever
    registers are accessed, whenever, and whatever comes in on MISO, what is launched passes on the
    bus as it was launched, transaction by transaction, and what is received is what came in
    meanwhile. -/
theorem spi_port_on_the_bus (p : SpiParams) (sz : Sizes p 8) (g : Nat → PortIn) :
    OnTheBus p g where
  order t := by
    cases transacting sz g t with
    | rest _ _ _ _ bus => rw [bus]
    | word active early _ _ _ launched sent bus =>
      obtain ⟨rest, bits⟩ := bits_of_word sz active early launched sent
      rw [launched, script_snoc, bus, List.append_assoc, ← bits, List.map_append]
      simp
    | back _ _ _ _ _ _ bus =>
      rw [← bus]
      exact List.prefix_append _ _
    | between _ _ _ _ _ _ bus => rw [bus]
    | leaving _ _ _ _ bus =>
      rw [← bus]
      exact List.prefix_append _ _
  settled t free := by
    have clash {P : Prop} (busy : (port p g t).regs.busy = true) : P := by
      rw [busy] at free
      cases free
    cases transacting sz g t with
    | rest idle _ _ _ bus =>
      rw [csn_core, decide_eq_true idle, bus]
      exact List.append_nil _
    | word _ _ _ busy => exact clash busy
    | back _ _ _ _ busy => exact clash busy
    | between _ _ _ _ _ opened bus =>
      rw [opened, Bool.or_true, bus]
      exact List.append_nil _
    | leaving exit _ _ shut bus =>
      rw [csn_core, decide_eq_false (by simp [exit]), shut]
      exact bus
  received t := by
    have older : bitsOf p (log (wordAt p g) t) <+: bitsOf p (log (wordAt p g) (t + 1)) := by
      rw [log_succ, bitsOf, bitsOf, List.flatMap_append]
      exact List.prefix_append _ _
    cases progress sz (coreStream p g) t with
    | done ov =>
      have got : log (misoAt p g) t = bitsOf p (log (wordAt p g) (t + 1)) := ov.got
      rw [got]
      exact older
    | @under ws w bits un =>
      have got : log (misoAt p g) t = bitsOf p (log (wordAt p g) (t + 1)) ++ bits := un.got
      rw [got]
      exact older.trans (List.prefix_append _ _)
  complete t free := complete_of_free sz free
  due t launched := by
    obtain ⟨w, launched⟩ := Option.isSome_iff_exists.mp launched
    obtain ⟨busy, x, back⟩ := busy_until sz launched
    have valid : (port p g (t + latency p (coreStream p g) t)).core.rvalid = true := by
      by_contra none
      rw [core_eq] at none
      rw [wordAt, returnedWord, if_neg none] at back
      cases back
    refine ⟨busy, x, back, ?_, ?_⟩
    · rw [busy_succ, valid]
      rfl
    · rw [core_eq] at valid
      rw [wordAt, returnedWord, if_pos valid, ← core_eq] at back
      rw [← core_eq] at valid
      rw [port_succ, ← Option.some.inj back]
      exact if_pos valid

/-- START is written to CTRL in every second cycle. -/
theorem spi_port_on_the_bus_default : OnTheBus .default fun n =>
    { reqValid := n % 2 == 0, req := ⟨true, REG_CTRL, 0b111, 0b1111⟩, miso := n % 3 == 0 } :=
  spi_port_on_the_bus .default sizes_default _

end ModularControl.Spi
