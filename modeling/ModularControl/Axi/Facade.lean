import ModularControl.Axi.Words

/-!
# What a driver makes of a device

A driver's calls work on a device that is simpler than the registers behind it. A `Facade` says which
registers are those of such a device and what they show; the rules say what the loads and stores of a
call leave of it, and `calls_course` that a list of calls takes the device from one to the next.
-/

namespace ModularControl.Axi
open Sync

/-- A device in front of the registers `σ`: the registers that are those of a device, and what its
    outputs show in a cycle. -/
structure Facade (σ ε μ : Type) where
  holds : μ → Bench σ ε MmioReq → Prop
  shows : μ → Nat → σ → Prop

variable {σ ε μ κ : Type}

namespace Facade

variable (F : Facade σ ε μ) (R : Responder σ ε MmioReq MmioRsp) (W : World ε) (I : σ → Prop)

/-- The registers change by stores only, and show the device. -/
structure Lawful : Prop where
  law : R.Lawful I
  steady : R.Steady
  run : ∀ {p t}, F.holds p t → t.RunFrom R R.init
  shown : ∀ {p t}, F.holds p t → F.shows p t.now t.regs
  idle : ∀ {p t} q r, F.holds p t → F.holds p (t.cycle R W false q r)
  loads : ∀ {p t} addr, F.holds p t → F.holds p (t.cycle R W true (loadReq addr) false)

/-- A call that began in cycle `a` has not changed what is shown. -/
structure Reading (a : Nat) (p : μ) (t : Bench σ ε MmioReq) : Prop where
  holds : F.holds p t
  begun : a ≤ t.now
  shows : t.Since R a fun u s => F.shows p u s

/-- Between two accesses of such a call, in cycle `b` at the earliest. -/
abbrev Ready (a : Nat) (p : μ) (b : Nat) (t : Bench σ ε MmioReq) : Prop :=
  t.Free R I ∧ Reading F R a p t ∧ b ≤ t.now

/-- A call that began in cycle `a` has changed what is shown once at most. -/
structure Changed (a : Nat) (p p' : μ) (t : Bench σ ε MmioReq) : Prop where
  holds : F.holds p' t
  shows : ∃ x, a ≤ x ∧ x ≤ t.now ∧ t.Since R a fun u s => F.shows (if u < x then p else p') u s

/-- A call that began in cycle `a` has done what it means: the cycles it took, the device before, what
    it returns and the device after. -/
structure Called (does : κ → Nat → Nat → μ → BitVec 32 → μ → Prop) (call : κ) (a : Nat) (p : μ)
    (res : BitVec 32) (p' : μ) (t : Bench σ ε MmioReq) : Prop extends Changed F R a p p' t where
  does : does call a t.now p res p'

/-- Whenever a call is made, it does what it means. -/
def Obeys (run : κ → StateM (Bench σ ε MmioReq) (BitVec 32))
    (does : κ → Nat → Nat → μ → BitVec 32 → μ → Prop) (call : κ) : Prop :=
  ∀ p a, Triple (Ready F R I a p a) (run call) fun res t =>
    t.Free R I ∧ ∃ p', Called F R does call a p res p' t

variable {F R W I} {p p' : μ} {a b : Nat} {t : Bench σ ε MmioReq} {addr value : BitVec 32}

lemma Reading.changed (re : Reading F R a p t) : Changed F R a p p t := by
  refine ⟨re.holds, a, Nat.le_refl _, re.begun, re.shows.imp fun u s _ _ h => ?_⟩
  rw [ite_self]
  exact h

/-- A device that shows what another one shows. -/
lemma Reading.changed_same (re : Reading F R a p' t) : Changed F R a p p' t := by
  refine ⟨re.holds, a, Nat.le_refl _, re.begun, re.shows.imp fun u s ge _ h => ?_⟩
  rw [if_neg (Nat.not_lt.mpr ge)]
  exact h

/-- A change from a device to itself is none. -/
lemma Changed.reading (ch : Changed F R a p p t) : Reading F R a p t := by
  obtain ⟨x, ge, le, shows⟩ := ch.shows
  refine ⟨ch.holds, Nat.le_trans ge le, shows.imp fun u s _ _ h => ?_⟩
  rw [ite_self] at h
  exact h

lemma Changed.begun (ch : Changed F R a p p' t) : a ≤ t.now := by
  obtain ⟨x, ge, le, -⟩ := ch.shows
  exact Nat.le_trans ge le

section Rules

variable (lawful : F.Lawful R W I)
include lawful

lemma reading_start (holds : F.holds p t) : Reading F R t.now p t :=
  ⟨holds, Nat.le_refl _, .now (lawful.run holds) (lawful.shown holds)⟩

/-- A cycle that leaves what is shown. -/
lemma Reading.next (re : Reading F R a p t) {v r : Bool} {q : MmioReq}
    (holds : F.holds p' (t.cycle R W v q r)) (same : ∀ u s, F.shows p u s → F.shows p' u s) :
    Reading F R a p' (t.cycle R W v q r) := by
  have shown := lawful.shown holds
  rw [Bench.now_cycle] at shown
  refine ⟨holds, ?_, (re.shows.imp fun u s _ _ => same u s).cycle (lawful.run re.holds) shown⟩
  rw [Bench.now_cycle]
  exact Nat.le_succ_of_le re.begun

lemma Reading.idle (re : Reading F R a p t) (q : MmioReq) (r : Bool) :
    Reading F R a p (t.cycle R W false q r) :=
  re.next lawful (lawful.idle q r re.holds) fun _ _ h => h

lemma Changed.idle (ch : Changed F R a p p' t) (q : MmioReq) (r : Bool) :
    Changed F R a p p' (t.cycle R W false q r) := by
  obtain ⟨x, ge, le, shows⟩ := ch.shows
  have shown := lawful.shown (lawful.idle q r ch.holds)
  rw [Bench.now_cycle] at shown
  refine ⟨lawful.idle q r ch.holds, x, ge, ?_, shows.cycle (lawful.run ch.holds) ?_⟩
  · rw [Bench.now_cycle]
    exact Nat.le_succ_of_le le
  · rw [if_neg (Nat.not_lt.mpr (Nat.le_succ_of_le le))]
    exact shown

/-- The cycle of a store. -/
lemma Reading.stores (re : Reading F R a p t) {q : MmioReq}
    (holds : F.holds p' (t.cycle R W true q false)) :
    Changed F R a p p' (t.cycle R W true q false) := by
  have shown := lawful.shown holds
  rw [Bench.now_cycle] at shown
  refine ⟨holds, t.now + 1, Nat.le_succ_of_le re.begun, ?_, Bench.Since.cycle ?_ (lawful.run re.holds)
    ?_⟩
  · rw [Bench.now_cycle]
  · refine re.shows.imp fun u s _ le h => ?_
    rw [if_pos (Nat.lt_succ_of_le le)]
    exact h
  · rw [if_neg (Nat.lt_irrefl _)]
    exact shown

/-- A load from cycle `b` on returns what the device holds in a cycle from then on. -/
lemma load_reads {S : Nat → BitVec 32 → Prop}
    (reads : ∀ t, F.holds p t → S t.now (R.answer t.regs (W.env t.now) (loadReq addr)).rdata) :
    Triple (Ready F R I a p b) ((deviceWords R W).load addr) fun x t =>
      t.Free R I ∧ Reading F R a p t ∧ ∃ u, b ≤ u ∧ u < t.now ∧ S u x := by
  refine load_triple lawful.law lawful.steady (fun t ⟨re, ge⟩ => ?_) (fun t free ⟨re, ge⟩ => ?_)
    fun x t r ⟨re, u, ge, lt, known⟩ => ?_
  · refine ⟨re.idle lawful _ _, ?_⟩
    rw [Bench.now_cycle]
    exact Nat.le_succ_of_le ge
  · refine ⟨re.next lawful (lawful.loads addr re.holds) fun _ _ h => h, t.now, ge, ?_,
      reads t re.holds⟩
    rw [Bench.now_cycle]
    exact Nat.lt_succ_self _
  · refine ⟨re.idle lawful _ _, u, ge, ?_, known⟩
    rw [Bench.now_cycle]
    exact Nat.lt_succ_of_lt lt

/-- A load of what the device holds throughout the call. -/
lemma load_known (value : BitVec 32)
    (reads : ∀ t, F.holds p t → (R.answer t.regs (W.env t.now) (loadReq addr)).rdata = value) :
    Triple (Ready F R I a p b) ((deviceWords R W).load addr) fun x t =>
      x = value ∧ Ready F R I a p b t := by
  refine (load_reads lawful (S := fun _ x => x = value) reads).post fun x t known => ?_
  obtain ⟨free, re, u, ge, lt, eq⟩ := known
  exact ⟨eq, free, re, Nat.le_of_lt (Nat.lt_of_le_of_lt ge lt)⟩

/-- A store from cycle `b` on changes the device in a cycle from then on. -/
lemma store_changes {P : Nat → μ} (stores : ∀ t, t.Free R I → F.holds p t →
      F.holds (P t.now) (t.cycle R W true (storeReq addr value) false)) :
    Triple (Ready F R I a p b) ((deviceWords R W).store addr value) fun _ t =>
      t.Free R I ∧ ∃ u, b ≤ u ∧ u < t.now ∧ Changed F R a p (P u) t := by
  refine store_triple lawful.law lawful.steady (fun t ⟨re, ge⟩ => ?_) (fun t free ⟨re, ge⟩ => ?_)
    fun t r ⟨u, ge, lt, ch⟩ => ?_
  · refine ⟨re.idle lawful _ _, ?_⟩
    rw [Bench.now_cycle]
    exact Nat.le_succ_of_le ge
  · refine ⟨t.now, ge, ?_, re.stores lawful (stores t free re.holds)⟩
    rw [Bench.now_cycle]
    exact Nat.lt_succ_self _
  · refine ⟨u, ge, ?_, ch.idle lawful _ _⟩
    rw [Bench.now_cycle]
    exact Nat.lt_succ_of_lt lt

/-- A store that changes nothing that is shown. -/
lemma store_hides {P : Nat → μ} (stores : ∀ t, t.Free R I → F.holds p t →
      F.holds (P t.now) (t.cycle R W true (storeReq addr value) false))
    (same : ∀ x u s, F.shows p u s → F.shows (P x) u s) :
    Triple (Ready F R I a p b) ((deviceWords R W).store addr value) fun _ t =>
      t.Free R I ∧ ∃ u, b ≤ u ∧ u < t.now ∧ Reading F R a (P u) t := by
  refine store_triple lawful.law lawful.steady (fun t ⟨re, ge⟩ => ?_) (fun t free ⟨re, ge⟩ => ?_)
    fun t r ⟨u, ge, lt, re⟩ => ?_
  · refine ⟨re.idle lawful _ _, ?_⟩
    rw [Bench.now_cycle]
    exact Nat.le_succ_of_le ge
  · refine ⟨t.now, ge, ?_, re.next lawful (stores t free re.holds) (same t.now)⟩
    rw [Bench.now_cycle]
    exact Nat.lt_succ_self _
  · refine ⟨u, ge, ?_, re.idle lawful _ _⟩
    rw [Bench.now_cycle]
    exact Nat.lt_succ_of_lt lt

/-- Whatever changes the device in a call changes it. -/
lemma holds_changes {γ : Type} {x : StateM (Bench σ ε MmioReq) γ}
    (changes : ∀ a, Triple (Ready F R I a p a) x fun _ t => t.Free R I ∧ Changed F R a p p' t) :
    Triple (fun t => t.Free R I ∧ F.holds p t) x fun _ t => t.Free R I ∧ F.holds p' t := by
  intro t ⟨free, holds⟩
  obtain ⟨free, ch⟩ := changes t.now t ⟨free, reading_start lawful holds, Nat.le_refl _⟩
  exact ⟨free, ch.holds⟩

end Rules

/-! ## Lists of calls -/

section Calls

variable (run : κ → StateM (Bench σ ε MmioReq) (BitVec 32)) (calls : List κ)

/-- The device after the first `i` of the calls. -/
def calledAt (t : Bench σ ε MmioReq) (i : Nat) : Bench σ ε MmioReq :=
  ((forM (calls.take i) fun call => discard (run call)).run t).2

variable {run calls} {does : κ → Nat → Nat → μ → BitVec 32 → μ → Prop}

lemma calledAt_succ {i : Nat} {call : κ} (at_i : calls[i]? = some call) :
    calledAt run calls t (i + 1) = ((run call).run (calledAt run calls t i)).2 := by
  rw [calledAt, List.take_add_one, at_i, List.forM_append]
  rfl

/-- If each call does what it means, a list of calls does. -/
lemma calls_course (lawful : F.Lawful R W I) (each : ∀ call, Obeys F R I run does call)
    (free : t.Free R I) (holds : F.holds p t) :
    ∃ q : Nat → μ, q 0 = p ∧ ∀ i (lt : i < calls.length),
      Called F R does calls[i] (calledAt run calls t i).now (q i)
        ((run calls[i]).run (calledAt run calls t i)).1 (q (i + 1))
        (calledAt run calls t (i + 1)) := by
  obtain ⟨q, first, -, called⟩ := exists_course
    (P := fun i p => (calledAt run calls t i).Free R I ∧ F.holds p (calledAt run calls t i))
    (R := fun i p p' => ∀ lt : i < calls.length, Called F R does calls[i]
      (calledAt run calls t i).now p ((run calls[i]).run (calledAt run calls t i)).1 p'
      (calledAt run calls t (i + 1))) (k := calls.length) ⟨free, holds⟩ fun i lt p ⟨free, holds⟩ => by
    obtain ⟨free', p', called⟩ := each calls[i] p _ (calledAt run calls t i)
      ⟨free, reading_start lawful holds, Nat.le_refl _⟩
    rw [← calledAt_succ (List.getElem?_eq_getElem lt)] at free' called
    exact ⟨p', ⟨free', called.holds⟩, fun _ => called⟩
  exact ⟨q, first, fun i lt => called i lt lt⟩

end Calls

end Facade

end ModularControl.Axi
