import ModularControl.Spi.Blocking
import ModularControl.Spi.Port
import ModularControl.Spi.Transaction
import ModularControl.Sync.Nested

/-!
# The SPI driver on the bus

The driver's blocking transfers carried out by the port, down to the bus. The accesses of the driver
do in the port what they do to the register block, in a world that shows what the vendor core has
shown; but nothing has to be assumed of the core any more, as the words under way are returned by
the port itself, which `rank` counts down to.
-/

namespace ModularControl.Spi
open Sync Axi

/-- The port behind the MMIO channels; MISO is its environment. -/
def spiPortBlock (p : SpiParams) : Responder SpiPort Bool MmioReq MmioRsp where
  init := ⟨.reset, .reset⟩
  ready s _ _ := s.regs.reqReady
  valid s := s.regs.rspValid
  rsp s := s.regs.rsp
  answer s _ q := s.regs.answer (s.coreIn p) q
  next s e v q r := s.step p ⟨v, q, r, e⟩

/-- The registers of the port and everything it has seen. -/
abbrev PortBench := Bench SpiPort Bool MmioReq

/-- The driver's accesses. -/
def portVolatile (p : SpiParams) (V : World Bool) : Volatile PortBench where
  load offset := do
    return (← Bench.access (spiPortBlock p) V (loadReq offset)).rdata
  store offset value := do
    let _ ← Bench.access (spiPortBlock p) V (storeReq offset value)

/-- The registers are those of a run from reset. -/
def Reached (p : SpiParams) (s : SpiPort) : Prop := ∃ is, s = (spiPort p).after is

/-- What the port has seen, and then nothing. -/
def busInputs (t : PortBench) (n : Nat) : PortIn :=
  (t.past.map fun x => (⟨x.valid, x.req, x.rspReady, x.env⟩ : PortIn)).getD n {}

/-- What has been seen on the bus so far, and the bits sampled on MISO. -/
def onBus (p : SpiParams) (t : PortBench) : List BusEvent := log (busAt p (busInputs t)) t.now
def onMiso (p : SpiParams) (t : PortBench) : List Bool := log (misoAt p (busInputs t)) t.now

/-- The half periods that a word in flight still takes. -/
def halvesLeft (c : SpiMaster 8) : Nat := if c.state = .entr then 17 else 16 - c.cnt

/-- How many cycles a word needs, at most, to be returned. -/
def rank (p : SpiParams) (s : SpiPort) : Nat :=
  if s.regs.busy then halvesLeft s.core * p.CLKDIVIDE - s.core.clkCnt + 1
  else 17 * p.CLKDIVIDE + 2 + if s.core.state = .idle then 0 else p.CLKDIVIDE - s.core.clkCnt

section Port

variable {p : SpiParams} {s : SpiPort} {i : PortIn}

lemma Reached.step (re : Reached p s) (i : PortIn) : Reached p (s.step p i) := by
  obtain ⟨is, rfl⟩ := re
  exact ⟨is ++ [i], ((spiPort p).after_snoc is i).symm⟩

/-- Any input may come next. -/
lemma Reached.at (re : Reached p s) (i : PortIn) : ∃ g t, port p g t = s ∧ g t = i := by
  obtain ⟨is, rfl⟩ := re
  refine ⟨fun n => (is ++ [i]).getD n {}, is.length, ?_, ?_⟩
  · have taken : (List.range is.length).map (fun n => (is ++ [i]).getD n ({} : PortIn)) = is := by
      apply List.ext_getElem
      · simp
      · intro n lt lt'
        have lt' : n < is.length := lt'
        simp [List.getElem?_append_left lt', lt']
    rw [port, Machine.atCycle, taken]
  · simp

/-- The port is the register block in surroundings of its own. -/
lemma port_nests (sz : Sizes p 8) : Nests (spiPortBlock p) spiBlock (Reached p) SpiPort.system
    fun s _ => s.coreIn p where
  init := ⟨[], rfl⟩
  keep x v q r re := re.step ⟨v, q, r, x⟩
  next x v q r re := by
    obtain ⟨g, t, rfl, at_t⟩ := re.at ⟨v, q, r, x⟩
    have step := system_succ sz g t
    rw [port_succ, at_t] at step
    exact step
  rsp _ := rfl

lemma portBlock_lawful : (spiPortBlock p).Lawful (Reached p) :=
  { init := ⟨[], rfl⟩
    next := fun e v q r re => re.step ⟨v, q, r, e⟩
    idle := rfl
    ready := fun {s} a r _ empty => spiRegs_lawful.ready (s := s.regs) a r trivial empty
    valid := fun {s} _ v q r _ => spiRegs_lawful.valid (s := s.regs) (s.coreIn p) v q r trivial
    rsp := fun {s} _ q r _ empty =>
      spiRegs_lawful.rsp (s := s.regs) (s.coreIn p) q r trivial empty }

lemma portBlock_steady : (spiPortBlock p).Steady := by
  intro s e q full
  exact if_neg (by simp [SpiRegs.reqFire])

/-! ## The time of a word -/

/-- A half period that is not over goes on. -/
lemma early_of_during {c : SpiMaster 8} (wf : c.Wf p) (during : c.clkEn p = false) :
    c.clkCnt + 1 < p.CLKDIVIDE := by
  have clk := wf.clk
  have ne : c.clkCnt ≠ p.CLKDIVIDE - 1 := by
    rw [← SpiMaster.clkEn_iff.ne, during]
    exact Bool.false_ne_true
  omega

/-- A word that waits for the core comes closer to its launch, or is launched. -/
lemma rank_waits (sz : Sizes p 8) (re : Reached p s) (free : s.regs.busy = false) (i : PortIn)
    (pending : s.regs.coreWvalid (s.coreIn p) = s.core.wready p) :
    rank p (s.step p i) < rank p s := by
  have half := sz.half
  obtain ⟨g, t, rfl, rfl⟩ := re.at i
  rw [← port_succ]
  have wf := wf_core sz g t
  have clk := wf.clk
  have ready := wf.wready_eq sz
  have accepts := accepts_iff (p := p) (g := g) (t := t)
  have busy := busy_succ (p := p) (g := g) (t := t)
  have quiet : (port p g t).core.rvalid = false := by
    by_contra valid
    rw [busy_of_valid sz (Bool.not_eq_false _ ▸ valid)] at free
    cases free
  rw [quiet, ← accepts, free] at busy
  rw [pending, ready] at accepts
  have clash {P : Prop} (busy_ : (port p g t).regs.busy = true) : P := by
    rw [free] at busy_
    cases busy_
  -- a launch leaves only the half periods of the word
  have launched (taken : (port p g t).core.accepts p (coreStream p g t) = true) :
      rank p (port p g (t + 1)) < rank p (port p g t) := by
    have least : rank p (port p g (t + 1)) ≤ 17 * p.CLKDIVIDE + 1 := by
      rw [taken] at busy
      have few : halvesLeft (port p g (t + 1)).core ≤ 17 := by
        rw [halvesLeft]
        split_ifs <;> omega
      rw [rank, busy]
      exact Nat.succ_le_succ (Nat.le_trans (Nat.sub_le _ _) (Nat.mul_le_mul_right _ few))
    rw [rank.eq_def p (port p g t), free]
    simp
    omega
  have waits (none : (port p g t).core.accepts p (coreStream p g t) = false) :
      rank p (port p g (t + 1)) = 17 * p.CLKDIVIDE + 2 +
        if (port p g (t + 1)).core.state = .idle then 0
        else p.CLKDIVIDE - (port p g (t + 1)).core.clkCnt := by
    rw [none] at busy
    rw [rank, busy]
    rfl
  have now : rank p (port p g t) = 17 * p.CLKDIVIDE + 2 +
      if (port p g t).core.state = .idle then 0 else p.CLKDIVIDE - (port p g t).core.clkCnt := by
    rw [rank, free]
    rfl
  cases transacting sz g t with
  | rest idle =>
    refine launched ?_
    rw [accepts, idle]
    rfl
  | word _ _ _ busy_ => exact clash busy_
  | back _ _ _ _ busy_ => exact clash busy_
  | between rxtx full =>
    cases taken : (port p g t).core.accepts p (coreStream p g t) with
    | true => exact launched taken
    | false =>
      -- the core would be ready at the end of a half period
      have during : (port p g t).core.clkEn p = false := by
        rw [accepts, rxtx, full] at taken
        simpa using taken
      have early := early_of_during wf during
      cases cycle_core sz g t with
      | waits _ _ _ next =>
        rw [waits taken, now, core_succ, next, rxtx]
        simp
        omega
      | rests idle => simp [rxtx] at idle
      | starts idle => simp [rxtx] at idle
      | enters entr => simp [rxtx] at entr
      | halves _ ends => simp [during] at ends
      | reloads _ ends => simp [during] at ends
      | pauses _ ends => simp [during] at ends
      | leaves exit => simp [rxtx] at exit
  | leaving exit =>
    have none : (port p g t).core.accepts p (coreStream p g t) = false := by
      rw [accepts, exit]
      rfl
    cases cycle_core sz g t with
    | waits _ during _ next =>
      have early := early_of_during wf during
      rw [waits none, now, core_succ, next, exit]
      simp
      omega
    | leaves _ _ _ next =>
      rw [waits none, now, core_succ, next, exit]
      simp
      omega
    | rests idle => simp [exit] at idle
    | starts idle => simp [exit] at idle
    | enters entr => simp [exit] at entr
    | halves rxtx => simp [exit] at rxtx
    | reloads rxtx => simp [exit] at rxtx
    | pauses rxtx => simp [exit] at rxtx

/-- A word in flight comes closer to its return. -/
lemma rank_flies (sz : Sizes p 8) (re : Reached p s) (busy_ : s.regs.busy = true)
    (quiet : s.core.rvalid = false) (i : PortIn) : rank p (s.step p i) < rank p s := by
  have half := sz.half
  obtain ⟨g, t, rfl, rfl⟩ := re.at i
  rw [← port_succ]
  have wf := wf_core sz g t
  have clk := wf.clk
  have still : (port p g t).regs.coreWvalid ((port p g t).coreIn p) = false :=
    SpiPort.still_of_busy busy_
  have busy := busy_succ (p := p) (g := g) (t := t)
  rw [quiet, still, busy_] at busy
  have clash {P : Prop} (free : (port p g t).regs.busy = false) : P := by
    rw [busy_] at free
    cases free
  cases transacting sz g t with
  | rest _ _ free => exact clash free
  | between _ _ _ free => exact clash free
  | leaving _ _ free => exact clash free
  | back _ _ _ valid =>
    rw [quiet] at valid
    cases valid
  | word active early _ =>
    have whole : p.CLKDIVIDE ≤ (16 - (port p g t).core.cnt) * p.CLKDIVIDE :=
      Nat.le_mul_of_pos_left _ (by omega)
    have now : rank p (port p g t) =
        halvesLeft (port p g t).core * p.CLKDIVIDE - (port p g t).core.clkCnt + 1 := by
      rw [rank, busy_]
      rfl
    have next' : rank p (port p g (t + 1)) =
        halvesLeft (port p g (t + 1)).core * p.CLKDIVIDE -
          (port p g (t + 1)).core.clkCnt + 1 := by
      rw [rank, busy]
      rfl
    rw [now, next', halvesLeft, halvesLeft]
    cases cycle_core sz g t with
    | rests idle => exact absurd active (by simp [idle])
    | starts idle => exact absurd active (by simp [idle])
    | leaves exit => exact absurd active (by simp [exit])
    | reloads _ _ _ taken =>
      rw [accepts_iff, still] at taken
      cases taken
    | waits _ during _ next =>
      have sooner := early_of_during wf during
      rw [core_succ, next]
      rcases active with entr | rxtx
      · simp [entr]
        omega
      · simp [rxtx]
        omega
    | enters entr ends _ next =>
      have last := SpiMaster.clkEn_iff.mp ends
      rw [core_succ, next, entr]
      simp
      omega
    | halves rxtx ends within _ next =>
      have last := SpiMaster.clkEn_iff.mp ends
      have less : (16 - (port p g t).core.cnt) * p.CLKDIVIDE =
          (15 - (port p g t).core.cnt) * p.CLKDIVIDE + p.CLKDIVIDE := by
        rw [← Nat.succ_mul]
        congr 1
        omega
      rw [core_succ, next, rxtx]
      simp
      omega
    | pauses rxtx ends _ _ next =>
      have last := SpiMaster.clkEn_iff.mp ends
      rw [core_succ, next, rxtx]
      cases (coreStream p g t).transferEnd <;> simp <;> omega

end Port

/-! ## The accesses of the driver -/

/-- The port has run from reset. -/
abbrev Run (p : SpiParams) (t : PortBench) : Prop :=
  t.Genuine (spiPortBlock p) (Reached p) fun s _ => s.coreIn p

/-- The register block of the port, and what it has seen. -/
abbrev block (p : SpiParams) (t : PortBench) : SpiBench :=
  t.inner (spiPortBlock p) SpiPort.system fun s _ => s.coreIn p

/-- A world that shows what the core shows now. -/
def showing (p : SpiParams) (V : World Bool) (t : PortBench) : World CoreIn where
  env _ := t.regs.coreIn p
  gap := V.gap
  lag := V.lag

/-- The port has run from reset, and no response waits. -/
structure Vacated (p : SpiParams) (t : PortBench) : Prop where
  run : Run p t
  vacant : Vacant (block p t)

/-- A call's word is on its way, and at most `k` cycles from its return. -/
inductive Onway (p : SpiParams) (call : Word) (os : List Event) (k : Nat) (t : PortBench) : Prop
  | waits (recorded : Recorded os (block p t)) (waits : (block p t).regs.Waits call.1 call.2)
    (le : rank p t.regs ≤ k)
  | flies (recorded : Recorded (os ++ [.launch call.1 call.2]) (block p t))
    (flies : (block p t).regs.Flies call.2) (le : rank p t.regs ≤ k)

/-- A call's word is on its way, or has been returned. -/
def Sent (p : SpiParams) (call : Word) (os : List Event) (k : Nat) (t : PortBench) : Prop :=
  Onway p call os k t ∨ ∃ word, Done call os word (block p t)

section Driver

variable {p : SpiParams} {V : World Bool} {os : List Event} {call : Word} {k : Nat} {t : PortBench}
  {v : Bool} {q : MmioReq} {r : Bool} {γ : Type}

lemma block_cycle (sz : Sizes p 8) (run : Run p t) (v : Bool) (q : MmioReq) (r : Bool) :
    block p (t.cycle (spiPortBlock p) V v q r) =
      (block p t).cycle spiBlock (showing p V t) v q r :=
  (Bench.inner_cycle (W := showing p V t) (port_nests sz) run rfl v q r).symm

lemma Vacated.free (va : Vacated p t) : t.Free (spiPortBlock p) (Reached p) :=
  ⟨va.run.inv, va.vacant.empty⟩

lemma vacated_of_free (run : Run p t) (free : t.Free (spiPortBlock p) (Reached p)) : Vacated p t :=
  ⟨run, trivial, free.empty⟩

/-- A read gives what the registers hold in the cycle in which it is taken. -/
lemma load_port (sz : Sizes p 8) {K : PortBench → Prop} {T : BitVec 32 → PortBench → Prop}
    {offset : BitVec 32}
    (wait : ∀ t, Run p t → K t → K (t.cycle (spiPortBlock p) V false (loadReq offset) false))
    (take : ∀ t, Run p t → K t → T (t.regs.regs.answer (t.regs.coreIn p) (loadReq offset)).rdata
      (t.cycle (spiPortBlock p) V true (loadReq offset) false))
    (hold : ∀ x t r, Run p t → T x t →
      T x (t.cycle (spiPortBlock p) V false (loadReq offset) r)) :
    Triple (fun t => Vacated p t ∧ K t) ((portVolatile p V).load offset) fun x t =>
      Vacated p t ∧ T x t := by
  have nests := port_nests sz
  refine (Bench.access_reads (K := fun t => Run p t ∧ K t) (L := fun t => Run p t ∧ K t)
    (T := fun x t => Run p t ∧ T x t) portBlock_lawful portBlock_steady (fun t h => ?_)
    (fun t _ h => ?_) fun x t r h => ?_).conseq (fun t h => ⟨h.1.free, h.1.run, h.2⟩)
    fun x t h => ⟨vacated_of_free h.2.1 h.1, h.2.2⟩
  · exact Bench.waits_keeps (K := fun t => Run p t ∧ K t)
      (fun t h => ⟨h.1.cycle nests _ _ _, wait t h.1 h.2⟩) _ h
  · exact ⟨h.1.cycle nests _ _ _, take t h.1 h.2⟩
  · exact ⟨h.1.cycle nests _ _ _, hold x t r h.1 h.2⟩

/-- A write takes effect in the cycle in which it is taken. -/
lemma store_port (sz : Sizes p 8) {K L : PortBench → Prop} {offset value : BitVec 32}
    (wait : ∀ t, Run p t → K t →
      K (t.cycle (spiPortBlock p) V false (storeReq offset value) false))
    (take : ∀ t, Vacated p t → K t →
      L (t.cycle (spiPortBlock p) V true (storeReq offset value) false))
    (hold : ∀ t r, Run p t → L t →
      L (t.cycle (spiPortBlock p) V false (storeReq offset value) r)) :
    Triple (fun t => Vacated p t ∧ K t) ((portVolatile p V).store offset value) fun _ t =>
      Vacated p t ∧ L t := by
  have nests := port_nests sz
  refine (Bench.access_writes (K := fun t => Run p t ∧ K t) (L := fun t => Run p t ∧ K t)
    (T := fun t => Run p t ∧ L t) portBlock_lawful portBlock_steady (fun t h => ?_)
    (fun t free h => ?_) fun t r h => ?_).conseq (fun t h => ⟨h.1.free, h.1.run, h.2⟩)
    fun _ t h => ⟨vacated_of_free h.2.1 h.1, h.2.2⟩
  · exact Bench.waits_keeps (K := fun t => Run p t ∧ K t)
      (fun t h => ⟨h.1.cycle nests _ _ _, wait t h.1 h.2⟩) _ h
  · exact ⟨h.1.cycle nests _ _ _, take t (vacated_of_free h.1 free) h.2⟩
  · exact ⟨h.1.cycle nests _ _ _, hold t r h.1 h.2⟩

/-- What the driver does to the port, and to the register block alone. -/
abbrev MirroredIn (p : SpiParams) (V : World Bool) (x : StateM PortBench γ)
    (y : World CoreIn → StateM SpiBench γ) : Prop :=
  Bench.Mirrors (spiPortBlock p) (Reached p) SpiPort.system (fun s _ => s.coreIn p) V x y

lemma load_mirrored (sz : Sizes p 8) (offset : BitVec 32) :
    MirroredIn p V ((portVolatile p V).load offset) fun W => (spiVolatile W).load offset :=
  .bind (.access (port_nests sz) _) fun rsp => .pure rsp.rdata

lemma store_mirrored (sz : Sizes p 8) (offset value : BitVec 32) :
    MirroredIn p V ((portVolatile p V).store offset value) fun W =>
      (spiVolatile W).store offset value :=
  .bind (.access (port_nests sz) _) fun _ => .pure ()

instance : Inhabited CoreIn := ⟨{}⟩

/-- A triple of the register block in every world is one of the port. -/
lemma mirrored {x : StateM PortBench γ} {y : World CoreIn → StateM SpiBench γ}
    {P : SpiBench → Prop} {Q : γ → SpiBench → Prop} (mi : MirroredIn p V x y)
    (tr : ∀ W, Triple (fun t => Vacant t ∧ P t) (y W) fun c t => Vacant t ∧ Q c t) :
    Triple (fun t => Vacated p t ∧ P (block p t)) x fun c t => Vacated p t ∧ Q c (block p t) :=
  (mi.triple tr).conseq (fun _ h => ⟨h.1.run, h.1.vacant, h.2⟩) fun _ _ h =>
    ⟨⟨h.1, h.2.1⟩, h.2.2⟩

lemma clear_mirrored (sz : Sizes p 8) : MirroredIn p V (spiClearStatusFlags (portVolatile p V))
    fun W => spiClearStatusFlags (spiVolatile W) :=
  .bind (load_mirrored sz _) fun _ => store_mirrored sz _ _

lemma init_mirrored (sz : Sizes p 8) : MirroredIn p V (spiInit (portVolatile p V))
    fun W => spiInit (spiVolatile W) :=
  .bind (store_mirrored sz _ _) fun _ => .bind (clear_mirrored sz) fun _ =>
    .bind (store_mirrored sz _ _) fun _ => store_mirrored sz _ _

lemma rxdata_mirrored (sz : Sizes p 8) : MirroredIn p V (spiReadRxdata (portVolatile p V))
    fun W => spiReadRxdata (spiVolatile W) :=
  .bind (load_mirrored sz _) fun _ => .pure _

/-! ## A word on its way -/

/-- A word on its way comes closer to its return. -/
lemma Onway.cycle (sz : Sizes p 8) (run : Run p t) (on : Onway p call os k t)
    (reading : v = false ∨ q.write = false) :
    ∃ j < k, Sent p call os j (t.cycle (spiPortBlock p) V v q r) := by
  have same := block_cycle (V := V) sz run v q r
  have reads := noWrite (W := showing p V t) (t := block p t) (r := r) reading
  have regs : (t.cycle (spiPortBlock p) V v q r).regs =
      t.regs.step p ⟨v, q, r, V.env t.now⟩ := rfl
  cases on with
  | waits recorded waits le =>
    have fire : t.regs.regs.coreWvalid (t.regs.coreIn p) = t.regs.core.wready p := by
      have pending : t.regs.regs.startPending = true := waits.pending
      have enabled : t.regs.regs.ctrlEnable = true := waits.enabled
      have idle : t.regs.regs.busy = false := waits.idle
      simp [SpiRegs.coreWvalid, SpiRegs.txFire, SpiRegs.startFire, pending, enabled, idle,
        SpiPort.coreIn]
    have closer := rank_waits sz run.inv waits.idle ⟨v, q, r, V.env t.now⟩ fire
    rw [← regs] at closer
    have turn := waits.step reads
    refine ⟨k - 1, by omega, .inl ?_⟩
    split_ifs at turn with taken
    · refine .flies ?_ ?_ (by omega)
      · rw [same]
        exact recorded.cycle turn.2
      · rw [same]
        exact turn.1
    · have recorded := recorded.cycle turn.2
      rw [List.append_nil, ← same] at recorded
      refine .waits recorded ?_ (by omega)
      rw [same]
      exact turn.1
  | flies recorded flies le =>
    have turn := flies.step reads
    split_ifs at turn with returned
    · have recorded := recorded.cycle turn.2
      rw [List.append_assoc, ← same] at recorded
      have done : Done call os _ (block p (t.cycle (spiPortBlock p) V v q r)) :=
        ⟨recorded, by rw [same]; exact turn.1⟩
      -- a word in flight leaves at least this cycle
      have least : 0 < k := by
        have busy : t.regs.regs.busy = true := flies.busy
        rw [rank, busy, if_pos rfl] at le
        omega
      exact ⟨k - 1, by omega, .inr ⟨_, done⟩⟩
    · have quiet : t.regs.core.rvalid = false := Bool.not_eq_true _ ▸ returned
      have closer := rank_flies sz run.inv flies.busy quiet ⟨v, q, r, V.env t.now⟩
      rw [← regs] at closer
      have recorded := recorded.cycle turn.2
      rw [List.append_nil, ← same] at recorded
      refine ⟨k - 1, by omega, .inl (.flies recorded ?_ (by omega))⟩
      rw [same]
      exact turn.1

lemma Sent.mono {j : Nat} (se : Sent p call os j t) (le : j ≤ k) : Sent p call os k t := by
  rcases se with on | done
  · cases on with
    | waits recorded waits le' => exact .inl (.waits recorded waits (Nat.le_trans le' le))
    | flies recorded flies le' => exact .inl (.flies recorded flies (Nat.le_trans le' le))
  · exact .inr done

lemma Done.port_cycle (sz : Sizes p 8) (run : Run p t) {word : BitVec 8}
    (done : Done call os word (block p t)) (reading : v = false ∨ q.write = false) :
    Done call os word (block p (t.cycle (spiPortBlock p) V v q r)) := by
  rw [block_cycle (V := V) sz run]
  exact done.cycle reading

lemma Sent.cycle (sz : Sizes p 8) (run : Run p t) (se : Sent p call os k t)
    (reading : v = false ∨ q.write = false) :
    Sent p call os k (t.cycle (spiPortBlock p) V v q r) := by
  rcases se with on | ⟨word, done⟩
  · obtain ⟨j, lt, se⟩ := on.cycle (V := V) (r := r) sz run reading
    exact se.mono (Nat.le_of_lt lt)
  · exact .inr ⟨word, done.port_cycle sz run reading⟩

/-- What the flags say of a word that was sent. -/
lemma Sent.flags (se : Sent p call os k t) :
    Onway p call os k t ∧ t.regs.regs.rxValid = false ∨
      t.regs.regs.busy = false ∧ t.regs.regs.rxValid = true ∧
        ∃ word, Done call os word (block p t) := by
  rcases se with on | ⟨word, done⟩
  · refine .inl ⟨on, ?_⟩
    cases on with
    | waits _ waits => exact waits.fresh
    | flies _ flies => exact flies.fresh
  · exact .inr ⟨done.returned.rests.idle, done.returned.valid, word, done⟩

/-- The START of a staged byte is taken. -/
lemma Loaded.start {W : World CoreIn} {t : SpiBench} {byte : BitVec 8} (vacant : Vacant t)
    (lo : Loaded byte os t) (finalByte : Bool) :
    let t' := t.cycle spiBlock W true (storeReq SPI_REG_CTRL_OFFSET (SPI_CTRL_ENABLE |||
      (if finalByte then SPI_CTRL_XFER_END else 0) ||| SPI_CTRL_START)) false
    Recorded os t' ∧ t'.regs.Waits byte finalByte := by
  let value := SPI_CTRL_ENABLE ||| (if finalByte then SPI_CTRL_XFER_END else 0) ||| SPI_CTRL_START
  have bits : value.getLsbD CTRL_ENABLE_BIT = true ∧ value.getLsbD CTRL_START_BIT = true ∧
      value.getLsbD CTRL_XFER_END_BIT = finalByte := by
    cases finalByte <;> decide
  have taken := wrCtrl_taken vacant value
  have cmd : t.regs.regs.startCmdFire true (storeReq SPI_REG_CTRL_OFFSET value) = true := by
    rw [SpiRegs.startCmdFire, taken, Bool.true_and]
    exact bits.2.1
  have kept : t.regs.regs.disables
      ⟨W.env t.now, true, storeReq SPI_REG_CTRL_OFFSET value, false⟩ = false := by
    have enable : (storeReq SPI_REG_CTRL_OFFSET value).wdata.getLsbD CTRL_ENABLE_BIT = true :=
      bits.1
    rw [SpiRegs.disables, enable, Bool.not_true, Bool.and_false]
  have flag : t.regs.regs.xferEndNow
      ⟨W.env t.now, true, storeReq SPI_REG_CTRL_OFFSET value, false⟩ = finalByte :=
    (if_pos taken).trans bits.2.2
  obtain ⟨waits, nothing⟩ := lo.1.1.rests.start
    (i := ⟨W.env t.now, true, storeReq SPI_REG_CTRL_OFFSET value, false⟩)
    lo.1.1.enabled lo.1.2 cmd kept
  have recorded := lo.1.1.recorded.cycle nothing
  rw [lo.2, flag] at waits
  rw [List.append_nil] at recorded
  exact ⟨recorded, waits⟩

/-- The START of a staged byte sends it on its way. -/
lemma start_port (sz : Sizes p 8) (byte : BitVec 8) (finalByte : Bool) :
    Triple (fun t => Vacated p t ∧ Loaded byte os (block p t))
      (spiStartByte (portVolatile p V) finalByte)
      fun _ t => Vacated p t ∧ ∃ k, Sent p (byte, finalByte) os k t := by
  refine store_port sz (fun t run lo => ?_) (fun t va lo => ?_) fun t r run se => ?_
  · rw [block_cycle (V := V) sz run]
    exact lo.idle
  · obtain ⟨recorded, waits⟩ := lo.start (W := showing p V t) va.vacant finalByte
    rw [← block_cycle sz va.run] at recorded waits
    exact ⟨_, .inl (.waits recorded waits (Nat.le_refl _))⟩
  · obtain ⟨k, se⟩ := se
    exact ⟨k, se.cycle sz run (.inl rfl)⟩

/-! ## The calls of the driver -/

section Polls

variable (sz : Sizes p 8) {K : PortBench → Prop} {T : Bool → PortBench → Prop}
  (wait : ∀ t, Run p t → K t →
    K (t.cycle (spiPortBlock p) V false (loadReq SPI_REG_STATUS_OFFSET) false))
  (hold : ∀ b t r, Run p t → T b t →
    T b (t.cycle (spiPortBlock p) V false (loadReq SPI_REG_STATUS_OFFSET) r))
include sz wait hold

lemma isBusy_port (take : ∀ t, Run p t → K t → T t.regs.regs.busy
      (t.cycle (spiPortBlock p) V true (loadReq SPI_REG_STATUS_OFFSET) false)) :
    Triple (fun t => Vacated p t ∧ K t) (spiIsBusy (portVolatile p V)) fun busy t =>
      Vacated p t ∧ T busy t := by
  refine .bind (load_port sz (T := fun x => T (x &&& SPI_STATUS_BUSY != 0)) wait
    (fun t run k => ?_) fun x => hold _) fun x => .pure fun _ h => h
  rw [(status_bits t.regs.regs (t.regs.coreIn p)).1]
  exact take t run k

lemma rxValid_port (take : ∀ t, Run p t → K t → T t.regs.regs.rxValid
      (t.cycle (spiPortBlock p) V true (loadReq SPI_REG_STATUS_OFFSET) false)) :
    Triple (fun t => Vacated p t ∧ K t) (spiRxValid (portVolatile p V)) fun valid t =>
      Vacated p t ∧ T valid t := by
  refine .bind (load_port sz (T := fun x => T (x &&& SPI_STATUS_RX_VALID != 0)) wait
    (fun t run k => ?_) fun x => hold _) fun x => .pure fun _ h => h
  rw [(status_bits t.regs.regs (t.regs.coreIn p)).2]
  exact take t run k

end Polls

lemma Cleared.port_cycle (sz : Sizes p 8) (run : Run p t) (cl : Cleared os (block p t))
    (reading : v = false ∨ q.write = false) :
    Cleared os (block p (t.cycle (spiPortBlock p) V v q r)) := by
  rw [block_cycle (V := V) sz run]
  exact cl.cycle reading

/-- Before a call BUSY reads 0. -/
lemma waitNotBusy_vacated (sz : Sizes p 8) :
    Terminates (fun t => Vacated p t ∧ Cleared os (block p t))
      (spiWaitNotBusy (portVolatile p V)) fun _ t => Vacated p t ∧ Cleared os (block p t) := by
  refine .spin (I := fun _ t => Vacated p t ∧ Cleared os (block p t)) (k := 0) fun k => ?_
  have busy := isBusy_port (V := V) sz (K := fun t => Cleared os (block p t))
    (T := fun busy t => busy = false ∧ Cleared os (block p t))
    (fun t run cl => cl.port_cycle sz run (.inl rfl))
    (fun _ t r run h => ⟨h.1, h.2.port_cycle sz run (.inl rfl)⟩)
    fun t run cl => ⟨cl.1.rests.idle, cl.port_cycle sz run (.inr rfl)⟩
  refine busy.post fun goes t h => ?_
  rw [h.2.1]
  exact ⟨h.1, h.2.2⟩

/-- The driver waits while its word is in flight, and goes on if it still waits for the core. -/
lemma waitNotBusy_sent (sz : Sizes p 8) :
    Terminates (fun t => Vacated p t ∧ ∃ k, Sent p call os k t)
      (spiWaitNotBusy (portVolatile p V)) fun _ t => Vacated p t ∧ ∃ k, Sent p call os k t := by
  rintro t ⟨va, k, se⟩
  refine Terminates.spin (I := fun k t => Vacated p t ∧ Sent p call os k t) (k := k)
    (fun k => ?_) t ⟨va, se⟩
  have busy := isBusy_port (V := V) sz (K := Sent p call os k)
    (T := fun busy t => if busy then ∃ j < k, Sent p call os j t else ∃ k, Sent p call os k t)
    (fun t run se => se.cycle sz run (.inl rfl)) (fun busy t r run h => ?_) fun t run se => ?_
  · refine busy.post fun goes t h => ?_
    cases goes with
    | true =>
      obtain ⟨va, j, lt, se⟩ := h
      exact ⟨j, lt, va, se⟩
    | false => exact h
  · cases busy with
    | true =>
      obtain ⟨j, lt, se⟩ := h
      exact ⟨j, lt, se.cycle sz run (.inl rfl)⟩
    | false =>
      obtain ⟨j, se⟩ := h
      exact ⟨j, se.cycle sz run (.inl rfl)⟩
  · split_ifs with busy
    -- BUSY reads 1 only while the word is in flight
    · obtain ⟨on, -⟩ | ⟨idle, -⟩ := se.flags
      · exact on.cycle sz run (.inr rfl)
      · exact absurd (busy.symm.trans idle) Bool.noConfusion
    · exact ⟨k, se.cycle sz run (.inr rfl)⟩

/-- RX_VALID tells of the call's own word. -/
lemma waitRxValid_sent (sz : Sizes p 8) :
    Terminates (fun t => Vacated p t ∧ ∃ k, Sent p call os k t)
      (spiWaitRxValid (portVolatile p V)) fun _ t =>
        Vacated p t ∧ ∃ word, Done call os word (block p t) := by
  rintro t ⟨va, k, se⟩
  refine Terminates.spin (I := fun k t => Vacated p t ∧ Sent p call os k t) (k := k)
    (fun k => ?_) t ⟨va, se⟩
  have valid := rxValid_port (V := V) sz (K := Sent p call os k)
    (T := fun valid t => if valid then ∃ word, Done call os word (block p t)
      else ∃ j < k, Sent p call os j t)
    (fun t run se => se.cycle sz run (.inl rfl)) (fun valid t r run h => ?_) fun t run se => ?_
  · refine .bind valid fun valid => .pure fun t h => ?_
    cases valid with
    | true => exact h
    | false =>
      obtain ⟨va, j, lt, se⟩ := h
      exact ⟨j, lt, va, se⟩
  · cases valid with
    | true =>
      obtain ⟨word, done⟩ := h
      exact ⟨word, done.port_cycle sz run (.inl rfl)⟩
    | false =>
      obtain ⟨j, lt, se⟩ := h
      exact ⟨j, lt, se.cycle sz run (.inl rfl)⟩
  · obtain ⟨on, fresh⟩ | ⟨-, valid, word, done⟩ := se.flags
    · rw [fresh]
      exact on.cycle sz run (.inr rfl)
    · rw [valid]
      exact ⟨word, done.port_cycle sz run (.inr rfl)⟩

/-- A call launches its word, waits for it and returns it. -/
lemma transfer_port (sz : Sizes p 8) (call : Word) :
    Terminates (fun t => Vacated p t ∧ Ready os (block p t))
      (fun fuel => spiTransferByteBlocking (portVolatile p V) fuel call.1 call.2)
      fun word t => Vacated p t ∧ Done call os word (block p t) := by
  have stage := store_mirrored (V := V) sz SPI_REG_TXDATA_OFFSET (call.1.setWidth 32)
  refine .bind (.lift (mirrored (clear_mirrored sz) fun _ => clear_ready)) fun _ => .bind ?_
    fun _ => .bind (waitNotBusy_sent sz) fun _ => .bind (waitRxValid_sent sz) fun _ =>
      .lift (mirrored (rxdata_mirrored sz) fun _ => rxdata_done)
  exact .bind (waitNotBusy_vacated sz) fun _ =>
    .bind (.lift (mirrored stage fun _ => txdata_cleared call.1)) fun _ =>
      .lift (start_port sz call.1 call.2)

end Driver

/-! ## What the calls show on the bus -/

/-- The word launched in an event. -/
def Event.launched : Event → Option Word
  | .launch byte finalByte => some (byte, finalByte)
  | .word _ => none

section Bus

variable {p : SpiParams} {t : PortBench}

/-- The inputs of the port, as the host and the world give them. -/
def given (i : PortIn) : Sync.Port Bool MmioReq := ⟨i.miso, i.reqValid, i.req, i.rspReady⟩

lemma past_eq (t : PortBench) :
    t.past = (List.range t.now).map fun n => given (busInputs t n) := by
  apply List.ext_getElem
  · rw [List.length_map, List.length_range]
    rfl
  · intro n lt lt'
    simp [busInputs, given, lt]

/-- The machine behind the channels is the port. -/
lemma inside_eq (g : Nat → PortIn) (n : Nat) :
    ((spiPortBlock p).inside fun s _ => s.coreIn p).atCycle (fun n => given (g n)) n =
      port p g n := by
  induction n with
  | zero => rfl
  | succ n ih =>
    rw [Machine.atCycle_succ, ih, port_succ]
    rfl

/-- The registers of a run from reset are those of the port on what it has seen. -/
lemma Run.regs_eq (run : Run p t) : t.regs = port p (busInputs t) t.now := by
  rw [run.run]
  conv_lhs => rw [past_eq t]
  exact inside_eq _ _

/-- What a cycle of the port launches and returns. -/
def portEvents (p : SpiParams) (g : Nat → PortIn) (n : Nat) : List Event :=
  (launchAt p g n).toList.map (fun w => .launch w.1 w.2) ++ (wordAt p g n).toList.map .word

lemma portEvents_eq (sz : Sizes p 8) (g : Nat → PortIn) (n : Nat) :
    (port p g n).system.events ((port p g n).spiIn p (g n)) = portEvents p g n := by
  rw [SpiSystem.events, seen_eq sz, portEvents, launchAt, wordAt, returnedWord, ← core_eq]
  refine congrArg₂ _ ?_ ?_
  · by_cases fire : (port p g n).regs.coreWvalid ((port p g n).coreIn p) = true
    · rw [if_pos fire]
      exact if_pos fire
    · rw [if_neg fire]
      exact if_neg fire
  · by_cases valid : (port p g n).core.rvalid = true
    · rw [if_pos valid]
      exact if_pos valid
    · rw [if_neg valid]
      exact if_neg valid

/-- What the core has taken and returned is what was launched and received. -/
lemma events_log (t : Nat) (g : Nat → PortIn) :
    ((List.range t).map (portEvents p g)).flatten.filterMap Event.launched =
        log (launchAt p g) t ∧
      ((List.range t).map (portEvents p g)).flatten.filterMap Event.returned =
        log (wordAt p g) t := by
  induction t with
  | zero => exact ⟨rfl, rfl⟩
  | succ t ih =>
    have one : (portEvents p g t).filterMap Event.launched = (launchAt p g t).toList ∧
        (portEvents p g t).filterMap Event.returned = (wordAt p g t).toList := by
      rw [portEvents]
      cases launchAt p g t <;> cases wordAt p g t <;> exact ⟨rfl, rfl⟩
    rw [List.range_succ, List.map_append, List.flatten_append, List.filterMap_append,
      List.filterMap_append, ih.1, ih.2, log_succ, log_succ, ← one.1, ← one.2]
    simp

/-- The core of the port has taken and returned what the port has launched and received. -/
lemma shown_eq (sz : Sizes p 8) (t : PortBench) :
    shown (block p t) = ((List.range t.now).map (portEvents p (busInputs t))).flatten := by
  have seen : (block p t).past = (List.range t.now).map fun n =>
      (⟨(port p (busInputs t) n).coreIn p, (busInputs t n).reqValid, (busInputs t n).req,
        (busInputs t n).rspReady⟩ : Sync.Port CoreIn MmioReq) := by
    show ((spiPortBlock p).inside fun s _ => s.coreIn p).trace t.past = _
    conv_lhs => rw [past_eq t]
    rw [Machine.trace_range]
    refine List.map_congr_left fun n _ => ?_
    rw [Machine.outAt, inside_eq]
    rfl
  have regs : ∀ n, spiEvents.atCycle (fun n => (⟨(port p (busInputs t) n).coreIn p,
      (busInputs t n).reqValid, (busInputs t n).req, (busInputs t n).rspReady⟩ :
        Sync.Port CoreIn MmioReq)) n = (port p (busInputs t) n).system := by
    intro n
    induction n with
    | zero => rfl
    | succ n ih =>
      rw [Machine.atCycle_succ, ih, system_succ sz]
      rfl
  rw [shown, seen, Machine.trace_range]
  refine congrArg _ (List.map_congr_left fun n _ => ?_)
  rw [← portEvents_eq sz, Machine.outAt, regs]
  rfl

/-- Between two calls the bus has seen what was launched, except for the release that may follow,
    and the words received are what came in on MISO. -/
structure Settled (p : SpiParams) (calls : List Word) (words : List (BitVec 8)) (t : PortBench) :
    Prop where
  bus : onBus p t ++ (if t.regs.core.csn || leftOpen calls then [] else [.release]) =
    script p.msbFirst false calls
  miso : onMiso p t = bitsOf p words
  length : words.length = calls.length

lemma Vacated.settled (sz : Sizes p 8) {os : List Event} (va : Vacated p t)
    (re : Ready os (block p t)) (even : (os.filterMap Event.returned).length =
      (os.filterMap Event.launched).length) :
    Settled p (os.filterMap Event.launched) (os.filterMap Event.returned) t := by
  have events := (shown_eq sz t).symm.trans re.recorded.history
  obtain ⟨launched, received⟩ := events_log (p := p) t.now (busInputs t)
  rw [events] at launched received
  have regs := va.run.regs_eq
  have free : (port p (busInputs t) t.now).regs.busy = false := by
    rw [← regs]
    exact re.rests.idle
  have clash {P : Prop} (busy : (port p (busInputs t) t.now).regs.busy = true) : P := by
    rw [busy] at free
    cases free
  refine ⟨?_, ?_, even⟩
  · rw [launched, regs, onBus]
    cases transacting sz (busInputs t) t.now with
    | rest idle _ _ _ bus =>
      rw [bus, SpiMaster.csn, idle]
      exact List.append_nil _
    | word _ _ _ busy => exact clash busy
    | back _ _ _ _ busy => exact clash busy
    | between _ _ _ _ _ _ bus ended =>
      rw [bus, ended, Bool.or_true]
      exact List.append_nil _
    | leaving exit _ _ _ bus ended =>
      rw [ended, SpiMaster.csn, exit]
      exact bus
  · rw [received]
    exact (complete_of_free sz free).1

/-- What a list of calls launches, and the words it returns. -/
def exchanged (calls : List Word) (words : List (BitVec 8)) : List Event :=
  (calls.zip words).flatMap fun x => [.launch x.1.1 x.1.2, .word x.2]

lemma exchanged_cons (call : Word) (calls : List Word) (word : BitVec 8)
    (words : List (BitVec 8)) : exchanged (call :: calls) (word :: words) =
      [.launch call.1 call.2, .word word] ++ exchanged calls words := rfl

lemma exchanged_filter {calls : List Word} {words : List (BitVec 8)}
    (length : words.length = calls.length) :
    (exchanged calls words).filterMap Event.launched = calls ∧
      (exchanged calls words).filterMap Event.returned = words := by
  induction calls generalizing words with
  | nil =>
    rw [List.length_eq_zero_iff.mp length]
    exact ⟨rfl, rfl⟩
  | cons call calls ih =>
    cases words with
    | nil => cases length
    | cons word words =>
      obtain ⟨sent, received⟩ := ih (Nat.succ.inj length)
      rw [exchanged_cons]
      refine ⟨?_, ?_⟩
      · exact congrArg (call :: ·) sent
      · exact congrArg (word :: ·) received

/-- A call takes the registers from one rest to the next. -/
lemma call_port (sz : Sizes p 8) {V : World Bool} {os : List Event} (byte : BitVec 8)
    (finalByte : Bool) : Terminates (fun t => Vacated p t ∧ Ready os (block p t))
      (fun fuel => spiTransferByteBlocking (portVolatile p V) fuel byte finalByte)
      fun word t => Vacated p t ∧
        Ready (os ++ [.launch byte finalByte, .word word]) (block p t) :=
  (transfer_port sz (byte, finalByte)).post fun _ _ h => ⟨h.1, h.2.ready⟩

/-- So does any list of calls. -/
lemma calls_port (sz : Sizes p 8) {V : World Bool} (calls : List Word) {os : List Event} :
    Terminates (fun t => Vacated p t ∧ Ready os (block p t))
      (fun fuel => calls.mapM fun call =>
        spiTransferByteBlocking (portVolatile p V) fuel call.1 call.2)
      fun words t => words.length = calls.length ∧ Vacated p t ∧
        Ready (os ++ exchanged calls words) (block p t) := by
  induction calls generalizing os with
  | nil =>
    refine .pure fun t h => ⟨rfl, h.1, ?_⟩
    exact (List.append_nil os).symm ▸ h.2
  | cons call calls ih =>
    have next : ∀ fuel, (call :: calls).mapM (fun call =>
          spiTransferByteBlocking (portVolatile p V) fuel call.1 call.2) = (do
        let word ← spiTransferByteBlocking (portVolatile p V) fuel call.1 call.2
        let words ← calls.mapM fun call =>
          spiTransferByteBlocking (portVolatile p V) fuel call.1 call.2
        pure (word :: words)) := fun fuel => List.mapM_cons
    rw [funext next]
    refine .bind (call_port sz call.1 call.2) fun word => .bind ih fun words => ?_
    refine .pure fun t h => ⟨congrArg Nat.succ h.1, h.2.1, ?_⟩
    rw [exchanged_cons, ← List.append_assoc]
    exact h.2.2

/-- `spi_init` and then the calls. -/
def spiSession (p : SpiParams) (V : World Bool) (calls : List Word) (fuel : Nat) :
    OptionT (StateM PortBench) (List (BitVec 8)) := do
  liftM (spiInit (portVolatile p V))
  calls.mapM fun call => spiTransferByteBlocking (portVolatile p V) fuel call.1 call.2

lemma init_port (sz : Sizes p 8) {V : World Bool} :
    Triple (fun t => t = ⟨⟨.reset, .reset⟩, []⟩) (spiInit (portVolatile p V))
      fun _ t => Vacated p t ∧ Ready [] (block p t) := by
  refine (mirrored (init_mirrored sz) fun W => init_ready (W := W)).pre ?_
  rintro t rfl
  exact ⟨⟨⟨⟨[], rfl⟩, rfl⟩, trivial, rfl⟩, ⟨rfl, rfl⟩, ⟨⟨rfl, Bool.noConfusion⟩, rfl, rfl⟩, rfl⟩

end Bus

/-- The driver over the register block and its vendor core, for every mode and divider from 4 on,
    however long the accesses take and whatever comes in on MISO: after reset and `spi_init` any
    list of calls returns, with turns enough. The bus has then seen the bytes of the calls, each
    transaction from the call after a final one, or the first, to a final one; and the words
    returned are what came in on MISO meanwhile. -/
theorem spi_driver_on_the_bus (p : SpiParams) (sz : Sizes p 8) (V : World Bool)
    (calls : List Word) : Terminates (fun t => t = ⟨⟨.reset, .reset⟩, []⟩)
      (spiSession p V calls) (Settled p calls) := by
  refine .bind (.lift (init_port sz)) fun _ => (calls_port sz calls).post ?_
  rintro words t ⟨length, va, re⟩
  obtain ⟨sent, received⟩ := exchanged_filter length
  have settled := va.settled sz re
  rw [List.nil_append, sent, received] at settled
  exact settled length

/-- MISO is high in every third cycle, and accesses take some time. -/
def dripping : World Bool where
  env n := n % 3 == 0
  gap n := n % 2
  lag _ := 1

/-- Three bytes of one transaction, and one of another. -/
theorem spi_driver_on_the_bus_dripping : Terminates (fun t => t = ⟨⟨.reset, .reset⟩, []⟩)
    (spiSession .default dripping [(0xF2, false), (0x00, false), (0x00, true), (0x80, true)])
    (Settled .default [(0xF2, false), (0x00, false), (0x00, true), (0x80, true)]) :=
  spi_driver_on_the_bus .default sizes_default dripping _

end ModularControl.Spi
