import ModularControl.Lcd.Adapter

/-!
# What is popped is sent

From the first time the controller is ready every entry that the adapter pops from the FIFO is
strobed, in order and once. `Handover` follows an entry from the FIFO to the bus: popped, offered,
latched, sent; there is never more than one on its way. And every entry that waits is popped: none keeps
the one behind it waiting for longer than a transaction.
-/

namespace ModularControl.Lcd
open Sync Common

/-- From cycle `t` on the strobes are the entries popped, in order and each of them once: so far all
    but the last one at most, and in the end all. -/
structure Delivers {α : Type} (popped strobe : Nat → Option α) (t : Nat) : Prop where
  before : log popped t = []
  inOrder : ∀ u, t ≤ u → ∃ ws, log strobe u = log strobe t ++ ws ∧ ws <+: log popped u ∧
    (log popped u).length ≤ ws.length + 1
  complete : ∀ u, t ≤ u → ∃ v, u ≤ v ∧ log strobe v = log strobe t ++ log popped u

/-- Every pulse is in time: with the delay of an entry of the ROM before cycle `t`, and with that of
    the command on the bus from then on. -/
structure InTime (p : LcdParams) (f : Nat → LcdIn) (t : Nat) : Prop where
  init : ∀ u < t, rising (lcdE p f) u = true →
    ∃ v, ∃ x ∈ p.rom.entries, bus p f u = x.pair ∧ Pulse p f u v (p.delayCyc x.isLong)
  host : ∀ u, t ≤ u → rising (lcdE p f) u = true →
    ∃ v, Pulse p f u v (p.delayCyc (isLongCmd (bus p f u).1 (bus p f u).2))

section Run

variable (p : LcdParams) (k : Nat) (mem : BitVec k → BitVec 9) (f : Nat → Write)

/-- The adapter in a cycle. -/
def adapterAt (t : Nat) : AdapterState := ((display p k mem).atCycle f t).adapter

/-- The FIFO in a cycle. -/
def fifoAt (t : Nat) : SyncFifo k 9 := ((display p k mem).atCycle f t).fifo

/-- The pairs strobed before cycle `t`, on what the adapter offers. -/
def strobed (t : Nat) : List (Bool × BitVec 8) := log (strobe p (offered p k mem f)) t

/-- The entries popped before cycle `t`. -/
def taken (t : Nat) : List (Bool × BitVec 8) := log (popped p k mem f) t

/-- Where the entry popped last is. The strobes since the first time the controller was ready are
    the entries popped, but for that one while it is on its way. -/
inductive Handover (t : Nat) : Prop
  | waiting (adapter : adapterAt p k mem f t = .wait)
    (idle : (regs p (offered p k mem f) t).currentState = .idle)
    (done : (regs p (offered p k mem f) t).initDone = true)
    (sent : strobed p k mem f t = strobed p k mem f p.readyAt ++ taken p k mem f t)
  | popping (adapter : adapterAt p k mem f t = .pop)
    (idle : (regs p (offered p k mem f) t).currentState = .idle)
    (done : (regs p (offered p k mem f) t).initDone = true)
    (filled : (fifoAt p k mem f t).empty = false)
    (sent : strobed p k mem f t = strobed p k mem f p.readyAt ++ taken p k mem f t)
  | offering {ws : List (Bool × BitVec 8)} (adapter : adapterAt p k mem f t = .pulse)
    (idle : (regs p (offered p k mem f) t).currentState = .idle)
    (done : (regs p (offered p k mem f) t).initDone = true)
    (last : taken p k mem f t = ws ++ [entry (fifoAt p k mem f t).dout])
    (sent : strobed p k mem f t = strobed p k mem f p.readyAt ++ ws)
  | latched {ws : List (Bool × BitVec 8)} {x : Txn} (adapter : adapterAt p k mem f t = .wait)
    (state : (regs p (offered p k mem f) t).currentState = .txnLatch)
    (done : (regs p (offered p k mem f) t).initDone = true)
    (txn : (regs p (offered p k mem f) t).txnR = x) (long : x.isLong = isLongCmd x.rs x.data)
    (last : taken p k mem f t = ws ++ [x.pair])
    (sent : strobed p k mem f t = strobed p k mem f p.readyAt ++ ws)
  | sending {ws : List (Bool × BitVec 8)} {a n : Nat} {x : Txn}
    (adapter : adapterAt p k mem f t = .wait) (begins : Begins p (offered p k mem f) a x)
    (done : (regs p (offered p k mem f) a).initDone = true) (now : t = a + n)
    (lt : n < p.total x.isLong) (long : x.isLong = isLongCmd x.rs x.data)
    (last : taken p k mem f t = ws ++ [x.pair])
    (sent : strobed p k mem f a = strobed p k mem f p.readyAt ++ ws)

lemma adapter_succ (t : Nat) : adapterAt p k mem f (t + 1) =
    (adapterAt p k mem f t).next (regs p (offered p k mem f) t).initDone
      (hostReady p (offered p k mem f) t) (fifoAt p k mem f t).empty := by
  have step := (display p k mem).atCycle_succ f t
  rw [adapterAt, step, hostReady, ← lcd_display]
  rfl

lemma fifo_succ (t : Nat) : fifoAt p k mem f (t + 1) =
    (fifoAt p k mem f t).step (f t).wrEn (f t).din (adapterAt p k mem f t).fifoRdEn := by
  rw [fifoAt, (display p k mem).atCycle_succ]
  rfl

lemma fifo_wf (t : Nat) : (fifoAt p k mem f t).Wf := by
  induction t with
  | zero => exact SyncFifo.wf_reset mem
  | succ t ih =>
    rw [fifo_succ]
    exact ih.step _ _ _

variable {p k mem f} {t : Nat}

lemma popped_eq (t : Nat) : popped p k mem f t =
    if (fifoAt p k mem f t).doRead (adapterAt p k mem f t).fifoRdEn then
      some (entry (fifoAt p k mem f (t + 1)).dout) else none := by
  rw [fifo_succ]
  exact apply_ite (Option.map entry) _ _ _

/-- Only the adapter pops. -/
lemma taken_quiet (away : adapterAt p k mem f t ≠ .pop) :
    taken p k mem f (t + 1) = taken p k mem f t := by
  have quiet : (adapterAt p k mem f t).fifoRdEn = false := decide_eq_false away
  rw [taken, log_succ, popped_eq, quiet, SyncFifo.doRead, Bool.false_and,
    if_neg Bool.false_ne_true]
  exact List.append_nil _

/-- While `lcd_e` is low nothing is strobed. -/
lemma strobed_quiet (low : lcdE p (offered p k mem f) t = false) :
    strobed p k mem f (t + 1) = strobed p k mem f t := by
  rw [strobed, log_succ, strobe_quiet low]
  exact List.append_nil _

/-- The adapter waits for the controller. -/
lemma adapter_waits (adapter : adapterAt p k mem f t = .wait)
    (busy : hostReady p (offered p k mem f) t = false) : adapterAt p k mem f (t + 1) = .wait := by
  rw [adapter_succ, adapter, busy]
  simp [AdapterState.next]

/-- Nothing is offered but by the pulse of the adapter. -/
lemma offered_quiet (away : adapterAt p k mem f t ≠ .pulse) :
    (offered p k mem f t).hostValid = false :=
  decide_eq_false away

/-- An idle controller that is offered nothing stays so. -/
lemma idle_succ (idle : (regs p (offered p k mem f) t).currentState = .idle)
    (away : adapterAt p k mem f t ≠ .pulse) :
    (regs p (offered p k mem f) (t + 1)).currentState = .idle ∧
      (regs p (offered p k mem f) (t + 1)).initDone = (regs p (offered p k mem f) t).initDone := by
  rw [regs_succ]
  exact Controller.step_idle idle (offered_quiet away)

/-- Before the controller is ready nothing is popped. -/
lemma untouched (p : LcdParams) (k : Nat) (mem : BitVec k → BitVec 9) (f : Nat → Write)
    (le : t ≤ p.readyAt) :
    adapterAt p k mem f t = .wait ∧ taken p k mem f t = [] := by
  induction t with
  | zero => exact ⟨rfl, rfl⟩
  | succ t ih =>
    obtain ⟨adapter, none_⟩ := ih (Nat.le_of_succ_le le)
    refine ⟨adapter_waits adapter ((firstReady p _).before t le), ?_⟩
    rw [taken_quiet (by simp [adapter]), none_]

/-- The adapter that waits pops as soon as there is an entry. -/
lemma handover_waiting (adapter : adapterAt p k mem f t = .wait)
    (idle : (regs p (offered p k mem f) t).currentState = .idle)
    (done : (regs p (offered p k mem f) t).initDone = true)
    (sent : strobed p k mem f t = strobed p k mem f p.readyAt ++ taken p k mem f t) :
    Handover p k mem f (t + 1) := by
  have ready := hostReady_iff.mpr ⟨idle, done⟩
  have next := adapter_succ p k mem f t
  obtain ⟨idle', done'⟩ := idle_succ idle (by simp [adapter])
  have sent' : strobed p k mem f (t + 1) =
      strobed p k mem f p.readyAt ++ taken p k mem f (t + 1) := by
    rw [strobed_quiet (lcdE_low idle (by simp)), taken_quiet (by simp [adapter]), sent]
  rw [adapter, done, ready] at next
  cases empty : (fifoAt p k mem f t).empty with
  | true =>
    rw [empty] at next
    exact .waiting next idle' (done'.trans done) sent'
  | false =>
    rw [empty] at next
    refine .popping next idle' (done'.trans done) ?_ sent'
    -- a cycle without a read only adds to the FIFO
    have kept := (fifo_wf p k mem f t).contents_kept (f t).wrEn (f t).din
      (adapterAt p k mem f t).fifoRdEn (by rw [adapter]; rfl)
    rw [← fifo_succ] at kept
    rw [← Bool.not_eq_true, SyncFifo.empty_iff] at empty ⊢
    rw [kept]
    exact fun none_ => empty (List.append_eq_nil_iff.mp none_).1

/-- The pop finds an entry, which the FIFO presents in the next cycle. -/
lemma handover_popping (adapter : adapterAt p k mem f t = .pop)
    (idle : (regs p (offered p k mem f) t).currentState = .idle)
    (done : (regs p (offered p k mem f) t).initDone = true)
    (filled : (fifoAt p k mem f t).empty = false)
    (sent : strobed p k mem f t = strobed p k mem f p.readyAt ++ taken p k mem f t) :
    Handover p k mem f (t + 1) := by
  obtain ⟨idle', done'⟩ := idle_succ idle (by simp [adapter])
  have read : (fifoAt p k mem f t).doRead (adapterAt p k mem f t).fifoRdEn = true := by
    rw [adapter, SyncFifo.doRead, filled]
    rfl
  have adapter' : adapterAt p k mem f (t + 1) = .pulse := by
    rw [adapter_succ, adapter]
    rfl
  have last : taken p k mem f (t + 1) =
      taken p k mem f t ++ [entry (fifoAt p k mem f (t + 1)).dout] := by
    rw [taken, log_succ, popped_eq, if_pos read]
    rfl
  exact .offering adapter' idle' (done'.trans done) last
    ((strobed_quiet (lcdE_low idle (by simp))).trans sent)

/-- The idle controller latches what the adapter offers. -/
lemma handover_offering {ws : List (Bool × BitVec 8)} (adapter : adapterAt p k mem f t = .pulse)
    (idle : (regs p (offered p k mem f) t).currentState = .idle)
    (done : (regs p (offered p k mem f) t).initDone = true)
    (last : taken p k mem f t = ws ++ [entry (fifoAt p k mem f t).dout])
    (sent : strobed p k mem f t = strobed p k mem f p.readyAt ++ ws) :
    Handover p k mem f (t + 1) := by
  have valid : (offered p k mem f t).hostValid = true := decide_eq_true adapter
  obtain ⟨state, done', txn⟩ := Controller.step_host (p := p) idle valid
  rw [← regs_succ] at state done' txn
  have adapter' : adapterAt p k mem f (t + 1) = .wait := by
    rw [adapter_succ, adapter]
    rfl
  have last' := (taken_quiet (by simp [adapter])).trans last
  exact .latched adapter' state (done'.trans done) txn rfl last'
    ((strobed_quiet (lcdE_low idle (by simp))).trans sent)

lemma handover_latched {ws : List (Bool × BitVec 8)} {x : Txn}
    (adapter : adapterAt p k mem f t = .wait)
    (state : (regs p (offered p k mem f) t).currentState = .txnLatch)
    (done : (regs p (offered p k mem f) t).initDone = true)
    (txn : (regs p (offered p k mem f) t).txnR = x) (long : x.isLong = isLongCmd x.rs x.data)
    (last : taken p k mem f t = ws ++ [x.pair])
    (sent : strobed p k mem f t = strobed p k mem f p.readyAt ++ ws) :
    Handover p k mem f (t + 1) := by
  obtain ⟨begins, -, done'⟩ := begins_latched (.inr state)
  rw [txn] at begins
  have last' := (taken_quiet (by simp [adapter])).trans last
  exact .sending (adapter_waits adapter (notReady_of_busy state (by simp))) begins (done'.trans done)
    (Nat.add_zero _).symm (Nat.zero_lt_of_lt (p.holdAt_lt_total _)) long last'
    ((strobed_quiet (lcdE_low state (by simp))).trans sent)

/-- An entry on the bus goes on, or has had its delay. -/
lemma handover_sending {ws : List (Bool × BitVec 8)} {a n : Nat} {x : Txn}
    (adapter : adapterAt p k mem f t = .wait) (begins : Begins p (offered p k mem f) a x)
    (done : (regs p (offered p k mem f) a).initDone = true) (now : t = a + n)
    (lt : n < p.total x.isLong) (long : x.isLong = isLongCmd x.rs x.data)
    (last : taken p k mem f t = ws ++ [x.pair])
    (sent : strobed p k mem f a = strobed p k mem f p.readyAt ++ ws) :
    Handover p k mem f (t + 1) := by
  have busy : hostReady p (offered p k mem f) t = false := by
    rw [now]
    exact begins.notReady lt
  have adapter' := adapter_waits adapter busy
  have last' : taken p k mem f (t + 1) = ws ++ [x.pair] := by
    rw [taken_quiet (by simp [adapter]), last]
  obtain more | over_ : n + 1 < p.total x.isLong ∨ t + 1 = a + p.total x.isLong := by omega
  · exact .sending adapter' begins done (by rw [now, Nat.add_assoc]) more long last' sent
  · have ended := begins.ended
    have strobes := begins.log_total
    rw [done, if_pos rfl, ← over_] at ended
    refine .waiting adapter' ended.1 ended.2 ?_
    rw [← over_] at strobes
    rw [last', ← List.append_assoc, ← sent]
    exact strobes

lemma Handover.step (ha : Handover p k mem f t) : Handover p k mem f (t + 1) := by
  cases ha with
  | waiting adapter idle done sent => exact handover_waiting adapter idle done sent
  | popping adapter idle done filled sent => exact handover_popping adapter idle done filled sent
  | offering adapter idle done last sent => exact handover_offering adapter idle done last sent
  | latched adapter state done txn long last sent =>
    exact handover_latched adapter state done txn long last sent
  | sending adapter begins done now lt long last sent =>
    exact handover_sending adapter begins done now lt long last sent

/-- From the first time the controller is ready. -/
lemma handover (ge : p.readyAt ≤ t) : Handover p k mem f t := by
  induction t, ge using Nat.le_induction with
  | base =>
    obtain ⟨adapter, none_⟩ := untouched p k mem f (Nat.le_refl p.readyAt)
    have ready := (firstReady p (offered p k mem f)).ready
    obtain ⟨idle, done⟩ := hostReady_iff.mp ready
    exact .waiting adapter idle done (by rw [none_, List.append_nil])
  | succ t _ ih => exact ih.step

/-- What is latched in cycle `t` is strobed within the time of its transaction. -/
lemma strobed_latched (state : (regs p (offered p k mem f) t).currentState = .txnLatch) :
    ∃ u, t ≤ u ∧ strobed p k mem f u =
      strobed p k mem f t ++ [(regs p (offered p k mem f) t).txnR.pair] := by
  have begins := (begins_latched (.inr state)).1
  refine ⟨_, ?_, begins.log_total.trans ?_⟩
  · omega
  · exact congrArg (· ++ _) (strobed_quiet (lcdE_low state (by simp)))

/-- The entry on its way arrives. -/
lemma Handover.arrives (ha : Handover p k mem f t) : ∃ u, t ≤ u ∧
    strobed p k mem f u = strobed p k mem f p.readyAt ++ taken p k mem f t := by
  cases ha with
  | waiting _ _ _ sent => exact ⟨t, Nat.le_refl t, sent⟩
  | popping _ _ _ _ sent => exact ⟨t, Nat.le_refl t, sent⟩
  | @offering ws adapter idle done last sent =>
    have valid : (offered p k mem f t).hostValid = true := decide_eq_true adapter
    obtain ⟨state, -, txn⟩ := Controller.step_host (p := p) idle valid
    rw [← regs_succ] at state txn
    obtain ⟨u, le, strobes⟩ := strobed_latched state
    refine ⟨u, Nat.le_of_succ_le le, ?_⟩
    rw [strobes, strobed_quiet (lcdE_low idle (by simp)), sent, last, txn, List.append_assoc]
    rfl
  | @latched ws x adapter state done txn long last sent =>
    obtain ⟨u, le, strobes⟩ := strobed_latched state
    refine ⟨u, le, ?_⟩
    rw [strobes, sent, last, txn, List.append_assoc]
  | @sending ws a n x adapter begins done now lt long last sent =>
    refine ⟨a + p.total x.isLong, by omega, begins.log_total.trans ?_⟩
    rw [last, ← List.append_assoc, ← sent]
    rfl

/-- While an entry waits to be sent, all but that one have arrived. -/
lemma inOrder_waiting {ws : List (Bool × BitVec 8)} {x : Bool × BitVec 8}
    (last : taken p k mem f t = ws ++ [x])
    (sent : strobed p k mem f t = strobed p k mem f p.readyAt ++ ws) :
    ∃ ws, strobed p k mem f t = strobed p k mem f p.readyAt ++ ws ∧ ws <+: taken p k mem f t ∧
      (taken p k mem f t).length ≤ ws.length + 1 := by
  refine ⟨ws, sent, ?_, ?_⟩
  · rw [last]
    exact List.prefix_append _ _
  · rw [last, List.length_append, List.length_singleton]

/-- All but the entry on its way have arrived. -/
lemma Handover.inOrder (ha : Handover p k mem f t) :
    ∃ ws, strobed p k mem f t = strobed p k mem f p.readyAt ++ ws ∧ ws <+: taken p k mem f t ∧
      (taken p k mem f t).length ≤ ws.length + 1 := by
  cases ha with
  | waiting _ _ _ sent => exact ⟨_, sent, List.prefix_refl _, Nat.le_succ _⟩
  | popping _ _ _ _ sent => exact ⟨_, sent, List.prefix_refl _, Nat.le_succ _⟩
  | offering _ _ _ last sent => exact inOrder_waiting last sent
  | latched _ _ _ _ _ last sent => exact inOrder_waiting last sent
  | @sending ws a n x _ begins _ now lt _ last sent =>
    have strobes := begins.log_at (Nat.le_of_lt lt)
    rw [← now] at strobes
    refine ⟨ws ++ if p.riseAt < n then [x.pair] else [], ?_, ?_, ?_⟩
    · rw [← List.append_assoc, ← sent]
      exact strobes
    · rw [last, List.prefix_append_right_inj]
      split_ifs
      · exact List.prefix_refl _
      · exact List.nil_prefix
    · rw [last, List.length_append, List.length_append, List.length_singleton]
      omega

/-- A pulse is that of the entry on the bus. -/
lemma Handover.pulse (ha : Handover p k mem f t) (fits : p.Fits)
    (edge : rising (lcdE p (offered p k mem f)) t = true) :
    ∃ u, Pulse p (offered p k mem f) t u (p.delayCyc
      (isLongCmd (bus p (offered p k mem f) t).1 (bus p (offered p k mem f) t).2)) := by
  cases ha with
  | waiting _ idle _ _ => exact (no_rise idle (by simp) edge).elim
  | popping _ idle _ _ _ => exact (no_rise idle (by simp) edge).elim
  | offering _ idle _ _ _ => exact (no_rise idle (by simp) edge).elim
  | latched _ state _ _ _ _ _ => exact (no_rise state (by simp) edge).elim
  | @sending ws a n x _ begins _ now lt long _ _ =>
    subst now
    rw [begins.rises lt edge, begins.bus_rise]
    refine ⟨a + p.fallAt, ?_⟩
    show Pulse p _ _ _ (p.delayCyc (isLongCmd x.rs x.data))
    rw [← long]
    exact begins.pulse fits

/-! ## No entry is left waiting -/

/-- The adapter waits in front of a ready controller. -/
structure Rests (p : LcdParams) (k : Nat) (mem : BitVec k → BitVec 9) (f : Nat → Write)
    (t : Nat) : Prop where
  adapter : adapterAt p k mem f t = .wait
  ready : hostReady p (offered p k mem f) t = true

/-- The clocks between an entry and the next one: the pop, the offer and the latch of it, its
    transaction with the longer delay, and the wait for the next pop. -/
def LcdParams.turn (p : LcdParams) : Nat :=
  max (p.total true) (p.total false) + 5

/-- All that has been popped or waits in the FIFO. -/
def queued (p : LcdParams) (k : Nat) (mem : BitVec k → BitVec 9) (f : Nat → Write) (t : Nat) :
    List (Bool × BitVec 8) :=
  taken p k mem f t ++ (fifoAt p k mem f t).contents.map entry

lemma total_le (p : LcdParams) (isLong : Bool) : p.total isLong + 5 ≤ p.turn := by
  apply Nat.add_le_add_right
  cases isLong with
  | true => exact Nat.le_max_left _ _
  | false => exact Nat.le_max_right _ _

/-- An entry that waits is popped, or goes on waiting in its place. -/
lemma queued_mono {u : Nat} (le : t ≤ u) : queued p k mem f t <+: queued p k mem f u := by
  induction le with
  | refl => exact List.prefix_refl _
  | @step u _ ih =>
    refine ih.trans ?_
    have wf := fifo_wf p k mem f u
    rw [queued, queued, taken, taken, log_succ, popped_eq]
    cases read : (fifoAt p k mem f u).doRead (adapterAt p k mem f u).fifoRdEn with
    | true =>
      have moved := wf.dout_step (f u).wrEn (f u).din (adapterAt p k mem f u).fifoRdEn read
      rw [← fifo_succ] at moved
      rw [if_pos rfl, List.append_assoc, List.prefix_append_right_inj, Option.toList_some,
        List.singleton_append, ← List.map_cons, ← moved, List.map_append]
      exact List.prefix_append _ _
    | false =>
      have kept := wf.contents_kept (f u).wrEn (f u).din (adapterAt p k mem f u).fifoRdEn read
      rw [← fifo_succ] at kept
      rw [if_neg Bool.false_ne_true, kept, List.map_append, Option.toList_none, List.append_nil,
        ← List.append_assoc]
      exact List.prefix_append _ _

/-- The adapter waits out a transaction, and then for the next entry. -/
lemma rests_sending {a n : Nat} {x : Txn} (adapter : adapterAt p k mem f (a + n) = .wait)
    (begins : Begins p (offered p k mem f) a x)
    (done : (regs p (offered p k mem f) a).initDone = true) (le : n ≤ p.total x.isLong) :
    Rests p k mem f (a + p.total x.isLong) := by
  have ended := begins.ended
  rw [done, if_pos rfl] at ended
  refine ⟨?_, hostReady_iff.mpr ended⟩
  have waits : ∀ m, n ≤ m → m ≤ p.total x.isLong → adapterAt p k mem f (a + m) = .wait := by
    intro m ge
    induction m, ge using Nat.le_induction with
    | base => exact fun _ => adapter
    | succ m _ ih =>
      intro lt
      exact adapter_waits (ih (Nat.le_of_succ_le lt)) (begins.notReady lt)
  exact waits _ le (Nat.le_refl _)

lemma rests_latched (adapter : adapterAt p k mem f t = .wait)
    (state : (regs p (offered p k mem f) t).currentState = .txnLatch)
    (done : (regs p (offered p k mem f) t).initDone = true) :
    ∃ u, t ≤ u ∧ u + 4 ≤ t + p.turn ∧ Rests p k mem f u := by
  obtain ⟨begins, -, done'⟩ := begins_latched (.inr state)
  have waits := adapter_waits adapter (notReady_of_busy state (by simp))
  refine ⟨_, ?_, ?_, rests_sending (n := 0) waits begins (done'.trans done) (Nat.zero_le _)⟩
  · omega
  · have bound := total_le p (regs p (offered p k mem f) t).txnR.isLong
    omega

lemma rests_offering (adapter : adapterAt p k mem f t = .pulse)
    (idle : (regs p (offered p k mem f) t).currentState = .idle)
    (done : (regs p (offered p k mem f) t).initDone = true) :
    ∃ u, t ≤ u ∧ u + 3 ≤ t + p.turn ∧ Rests p k mem f u := by
  have valid : (offered p k mem f t).hostValid = true := decide_eq_true adapter
  obtain ⟨state, done', -⟩ := Controller.step_host (p := p) idle valid
  rw [← regs_succ] at state done'
  have adapter' : adapterAt p k mem f (t + 1) = .wait := by
    rw [adapter_succ, adapter]
    rfl
  obtain ⟨u, ge, le, rests⟩ := rests_latched adapter' state (done'.trans done)
  exact ⟨u, by omega, by omega, rests⟩

/-- Wherever the entry popped last is, the adapter waits for the next one in time. -/
lemma Handover.rests (ha : Handover p k mem f t) :
    ∃ u, t ≤ u ∧ u + 2 ≤ t + p.turn ∧ Rests p k mem f u := by
  have bound := total_le p true
  cases ha with
  | waiting adapter idle done _ =>
    exact ⟨t, Nat.le_refl t, by omega, adapter, hostReady_iff.mpr ⟨idle, done⟩⟩
  | popping adapter idle done _ _ =>
    obtain ⟨idle', done'⟩ := idle_succ idle (by simp [adapter])
    have adapter' : adapterAt p k mem f (t + 1) = .pulse := by
      rw [adapter_succ, adapter]
      rfl
    obtain ⟨u, ge, le, rests⟩ := rests_offering adapter' idle' (done'.trans done)
    exact ⟨u, by omega, by omega, rests⟩
  | offering adapter idle done _ _ =>
    obtain ⟨u, ge, le, rests⟩ := rests_offering adapter idle done
    exact ⟨u, ge, by omega, rests⟩
  | latched adapter state done _ _ _ _ =>
    obtain ⟨u, ge, le, rests⟩ := rests_latched adapter state done
    exact ⟨u, ge, by omega, rests⟩
  | @sending ws a n x adapter begins done now lt _ _ _ =>
    subst now
    have bound := total_le p x.isLong
    exact ⟨_, by omega, by omega, rests_sending adapter begins done (Nat.le_of_lt lt)⟩

/-- The adapter that rests pops an entry within two clocks. -/
lemma Rests.pops (re : Rests p k mem f t) (some_ : (fifoAt p k mem f t).contents ≠ []) :
    (taken p k mem f t).length < (taken p k mem f (t + 2)).length := by
  obtain ⟨adapter, ready⟩ := re
  have filled : (fifoAt p k mem f t).empty = false := by
    rwa [← Bool.not_eq_true, SyncFifo.empty_iff]
  have adapter' : adapterAt p k mem f (t + 1) = .pop := by
    rw [adapter_succ, adapter, ready, (hostReady_iff.mp ready).2, filled]
    rfl
  have kept := (fifo_wf p k mem f t).contents_kept (f t).wrEn (f t).din
    (adapterAt p k mem f t).fifoRdEn (by rw [adapter]; rfl)
  rw [← fifo_succ] at kept
  have filled' : (fifoAt p k mem f (t + 1)).empty = false := by
    rw [← Bool.not_eq_true, SyncFifo.empty_iff, kept]
    exact fun none_ => some_ (List.append_eq_nil_iff.mp none_).1
  have read : (fifoAt p k mem f (t + 1)).doRead (adapterAt p k mem f (t + 1)).fifoRdEn = true := by
    rw [adapter', SyncFifo.doRead, filled']
    rfl
  have more : taken p k mem f (t + 2) =
      taken p k mem f t ++ [entry (fifoAt p k mem f (t + 2)).dout] := by
    rw [taken, log_succ, popped_eq, if_pos read]
    exact congrArg (· ++ _) (taken_quiet (by simp [adapter]))
  rw [more, List.length_append]
  exact Nat.lt_succ_self _

/-- From the first time the controller is ready on, an entry that waits is followed by a pop in
    time. -/
lemma pops_within (ge : p.readyAt ≤ t) (some_ : (fifoAt p k mem f t).contents ≠ []) :
    (taken p k mem f t).length < (taken p k mem f (t + p.turn)).length := by
  have ha : Handover p k mem f t := handover ge
  obtain ⟨u, le, soon, rests⟩ := ha.rests
  have grows := (log_mono (o := popped p k mem f) le).length_le
  have later := (log_mono (o := popped p k mem f) soon).length_le
  by_cases more : (taken p k mem f t).length < (taken p k mem f u).length
  · exact Nat.lt_of_lt_of_le more (log_mono (by omega)).length_le
  · have waits : (fifoAt p k mem f u).contents ≠ [] := by
      intro none_
      have kept : queued p k mem f t <+: queued p k mem f u := queued_mono le
      have all := kept.length_le
      have pos := List.length_pos_of_ne_nil some_
      rw [queued, queued, none_, List.map_nil, List.append_nil, List.length_append,
        List.length_map] at all
      omega
    exact Nat.lt_of_le_of_lt grows (Nat.lt_of_lt_of_le (rests.pops waits) later)

/-- What waits in the FIFO is popped within a turn for each entry. -/
lemma popped_within {m n : Nat} (ge : p.readyAt ≤ t) (room : m ≤ (queued p k mem f t).length)
    (le : m ≤ (taken p k mem f t).length + n) : m ≤ (taken p k mem f (t + n * p.turn)).length := by
  induction n generalizing t with
  | zero => simpa using le
  | succ n ih =>
    rw [Nat.succ_mul, Nat.add_comm (n * p.turn), ← Nat.add_assoc]
    have grows : queued p k mem f t <+: queued p k mem f (t + p.turn) :=
      queued_mono (Nat.le_add_right t p.turn)
    refine ih (Nat.le_add_right_of_le ge) (Nat.le_trans room grows.length_le) ?_
    cases waiting : (fifoAt p k mem f t).contents with
    | nil =>
      have kept := (log_mono (o := popped p k mem f) (Nat.le_add_right t p.turn)).length_le
      rw [queued, waiting, List.map_nil, List.append_nil] at room
      exact Nat.le_trans room (Nat.le_trans kept (Nat.le_add_right _ n))
    | cons word rest =>
      have some_ : (fifoAt p k mem f t).contents ≠ [] := by
        rw [waiting]
        exact List.cons_ne_nil _ _
      have more := pops_within ge some_
      omega

/-- While the adapter rests, everything popped has been strobed. -/
lemma Rests.sent (re : Rests p k mem f t) (ge : p.readyAt ≤ t) :
    strobed p k mem f t = strobed p k mem f p.readyAt ++ taken p k mem f t := by
  obtain ⟨adapter, ready⟩ := re
  have ha : Handover p k mem f t := handover ge
  cases ha with
  | waiting _ _ _ sent => exact sent
  | popping adapter' _ _ _ _ | offering adapter' _ _ _ _ =>
    rw [adapter] at adapter'
    cases adapter'
  | latched _ state _ _ _ _ _ =>
    rw [notReady_of_busy state (by simp)] at ready
    cases ready
  | sending _ begins _ now lt _ _ _ =>
    rw [now, begins.notReady lt] at ready
    cases ready

end Run

/-- For every clock, every delay, ROM and depth of the FIFO, and whatever is written into it: from
    the first time the controller is ready the pairs strobed are the entries popped, in order and
    each of them once; and if no delay exceeds the range of the timer every pulse is in time. -/
theorem fifo_to_lcd_delivers (p : LcdParams) (k : Nat) (mem : BitVec k → BitVec 9)
    (f : Nat → Write) :
    ∃ t, FirstReady p (offered p k mem f) t ∧
      Delivers (popped p k mem f) (strobe p (offered p k mem f)) t ∧
      (p.Fits → InTime p (offered p k mem f) t) := by
  refine ⟨p.readyAt, firstReady p _, ⟨(untouched p k mem f (Nat.le_refl _)).2, ?_, ?_⟩,
    fun fits => ⟨?_, ?_⟩⟩
  · intro u ge
    exact (handover ge).inOrder
  · intro u ge
    exact (handover ge).arrives
  · intro u lt edge
    exact init_pulse fits edge lt
  · intro u ge edge
    exact (handover ge).pulse fits edge

/-- The delays of the source fit their timer, here with a FIFO of 512 entries that is written in
    every cycle. -/
theorem fifo_to_lcd_delivers_default :
    let f : Nat → Write := fun t => ⟨true, BitVec.ofNat 9 t⟩
    ({} : LcdParams).Fits ∧
      ∃ t, FirstReady {} (offered {} 9 (fun _ => 0) f) t ∧
        Delivers (popped {} 9 (fun _ => 0) f) (strobe {} (offered {} 9 (fun _ => 0) f)) t ∧
        InTime {} (offered {} 9 (fun _ => 0) f) t := by
  intro f
  have fits : ({} : LcdParams).Fits := by
    constructor <;> decide +kernel
  obtain ⟨t, first, delivers, inTime⟩ := fifo_to_lcd_delivers {} 9 (fun _ => 0) f
  exact ⟨fits, t, first, delivers, inTime fits⟩

/-- And the adapter leaves nothing waiting: in whatever cycle from the first ready one on, the
    entries in the FIFO are popped and strobed, in order, within a turn for each of them and one for
    the entry that is on its way. -/
theorem fifo_to_lcd_drains (p : LcdParams) (k : Nat) (mem : BitVec k → BitVec 9) (f : Nat → Write)
    {t : Nat} (ge : p.readyAt ≤ t) : ∃ u, t ≤ u ∧
      u ≤ t + ((fifoAt p k mem f t).contents.length + 1) * p.turn ∧
      taken p k mem f t ++ (fifoAt p k mem f t).contents.map entry <+: taken p k mem f u ∧
      strobed p k mem f u = strobed p k mem f p.readyAt ++ taken p k mem f u := by
  have all : (queued p k mem f t).length ≤
      (taken p k mem f t).length + (fifoAt p k mem f t).contents.length := by
    rw [queued, List.length_append, List.length_map]
  have enough := popped_within ge (Nat.le_refl _) all
  generalize (fifoAt p k mem f t).contents.length = n at enough ⊢
  have later : p.readyAt ≤ t + n * p.turn := Nat.le_add_right_of_le ge
  have ha : Handover p k mem f (t + n * p.turn) := handover later
  obtain ⟨u, le, soon, rests⟩ := ha.rests
  refine ⟨u, by omega, ?_, ?_, rests.sent (Nat.le_trans later le)⟩
  · rw [Nat.succ_mul]
    omega
  · have kept := (log_mono (o := popped p k mem f) le).length_le
    exact List.prefix_of_prefix_length_le (queued_mono (by omega)) (List.prefix_append _ _)
      (Nat.le_trans enough kept)

end ModularControl.Lcd
