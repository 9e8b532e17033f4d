import ModularControl.Sync.Hoare
import ModularControl.Sync.Responder

/-!
# A host in front of a responder

A program accesses a responder through its channels: it offers a request after some time and takes
the response after some more, while the responder and what surrounds it go on cycle by cycle. The
`Bench` keeps the registers and everything the responder has seen. `access_triple` is the rule for
one access: what holds before it and survives the cycles of waiting, what the cycle in which the
request is taken makes of it, and what is left when the response has been taken.
-/

namespace ModularControl.Sync

variable {σ ε α β : Type}

/-- Everything a responder sees in a cycle. -/
structure Port (ε α : Type) where
  env : ε
  valid : Bool
  req : α
  rspReady : Bool
deriving DecidableEq

/-- A responder as a machine that shows its registers. -/
def Responder.machine (R : Responder σ ε α β) : Machine σ (Port ε α) σ where
  init := R.init
  step s i := R.next s i.env i.valid i.req i.rspReady
  out s _ := s

/-- What surrounds a program and its responder: what the responder's environment shows in each
    cycle, and how long a program takes to offer a request and to take a response. The time is the
    number of cycles gone by. -/
structure World (ε : Type) where
  env : Nat → ε
  gap : Nat → Nat
  lag : Nat → Nat

/-- The registers of a responder, and all it has seen. -/
structure Bench (σ ε α : Type) where
  regs : σ
  past : List (Port ε α)

/-- The requests offered, each with its cycle. -/
def offers (past : List (Port ε α)) : List (Nat × α) :=
  past.zipIdx.filterMap fun p => if p.1.valid then some (p.2, p.1.req) else none

lemma offers_snoc (past : List (Port ε α)) (p : Port ε α) :
    offers (past ++ [p]) = offers past ++ if p.valid then [(past.length, p.req)] else [] := by
  rw [offers, List.zipIdx_append, List.filterMap_append, Nat.zero_add]
  cases h : p.valid <;> simp [offers, h]

lemma mem_offers {past : List (Port ε α)} {u : Nat} {q : α} :
    (u, q) ∈ offers past ↔ ∃ p, past[u]? = some p ∧ p.valid = true ∧ p.req = q := by
  simp only [offers, List.mem_filterMap, Prod.exists, List.mem_zipIdx_iff_getElem?]
  constructor
  · rintro ⟨p, v, at_v, shown⟩
    cases valid : p.valid with
    | false => simp [valid] at shown
    | true =>
      simp only [valid, if_true, Option.some.injEq, Prod.mk.injEq] at shown
      obtain ⟨rfl, rfl⟩ := shown
      exact ⟨p, at_v, valid, rfl⟩
  · rintro ⟨p, at_u, valid, rfl⟩
    exact ⟨p, u, at_u, by simp [valid]⟩

namespace Bench

variable (R : Responder σ ε α β) (W : World ε)

def now (t : Bench σ ε α) : Nat := t.past.length

/-- One cycle. -/
def cycle (v : Bool) (q : α) (r : Bool) (t : Bench σ ε α) : Bench σ ε α where
  regs := R.next t.regs (W.env t.now) v q r
  past := t.past ++ [⟨W.env t.now, v, q, r⟩]

/-- Cycles in which nothing is offered and no response is taken. -/
def waits (q : α) : Nat → Bench σ ε α → Bench σ ε α
  | 0, t => t
  | n + 1, t => waits q n (t.cycle R W false q false)

/-- A whole access: the request is offered for one cycle and the response, once it is taken, read in
    the last. -/
def access (q : α) : StateM (Bench σ ε α) β := fun t =>
  let offered := (t.waits R W q (W.gap t.now)).cycle R W true q false
  let answered := offered.waits R W q (W.lag offered.now)
  (R.rsp answered.regs, answered.cycle R W false q true)

/-- No response waits, so that a request is taken in the cycle it is offered. -/
structure Free (I : σ → Prop) (t : Bench σ ε α) : Prop where
  inv : I t.regs
  empty : R.valid t.regs = false

/-- The registers are those of a run from `s`. -/
def RunFrom (s : σ) (t : Bench σ ε α) : Prop := t.regs = R.machine.runFrom s t.past

variable {R W} {I : σ → Prop} {q : α} {t : Bench σ ε α}

lemma now_cycle {v r : Bool} : (t.cycle R W v q r).now = t.now + 1 := List.length_append

lemma now_waits {n : Nat} : (t.waits R W q n).now = t.now + n := by
  induction n generalizing t with
  | zero => rfl
  | succ n ih =>
    rw [waits, ih, now_cycle]
    omega

lemma now_access : (access R W q t).2.now =
    t.now + W.gap t.now + 1 + W.lag (t.now + W.gap t.now + 1) + 1 := by
  simp only [access, now_cycle, now_waits]

lemma RunFrom.cycle {s : σ} (run : t.RunFrom R s) (v : Bool) (q : α) (r : Bool) :
    (t.cycle R W v q r).RunFrom R s := by
  rw [RunFrom] at run
  rw [RunFrom, Bench.cycle, Machine.runFrom_append, ← run]
  rfl

/-- While a request is not offered the port stays free. -/
lemma Free.idle (law : R.Lawful I) (free : t.Free R I) (q : α) (r : Bool) :
    (t.cycle R W false q r).Free R I := by
  refine ⟨law.next _ _ _ _ free.inv, ?_⟩
  rw [cycle, law.valid _ _ _ _ free.inv, free.empty]
  rfl

lemma waits_keeps {K : Bench σ ε α → Prop} (stay : ∀ t, K t → K (t.cycle R W false q false))
    (n : Nat) (k : K t) : K (t.waits R W q n) := by
  induction n generalizing t with
  | zero => exact k
  | succ n ih => exact ih (stay t k)

/-- Waiting brings about what every cycle brings closer by `μ`. -/
lemma waits_reaches {A B : Bench σ ε α → Prop} (μ : Bench σ ε α → Nat)
    (step : ∀ t, A t → B (t.cycle R W false q false) ∨
      A (t.cycle R W false q false) ∧ μ (t.cycle R W false q false) < μ t)
    (stay : ∀ t, B t → B (t.cycle R W false q false)) {n : Nat} (a : A t) (lt : μ t < n) :
    B (t.waits R W q n) := by
  induction n generalizing t with
  | zero => cases lt
  | succ n ih =>
    obtain b | ⟨a, less⟩ := step t a
    · exact waits_keeps stay n b
    · exact ih a (by omega)

/-- The response of an access under way: presented, and the answer of its request. -/
structure Answered (R : Responder σ ε α β) (I : σ → Prop) (b : β) (t : Bench σ ε α) : Prop where
  inv : I t.regs
  full : R.valid t.regs = true
  rsp : R.rsp t.regs = b

/-- The request is taken in the cycle in which it is offered. -/
lemma Free.taken (law : R.Lawful I) (free : t.Free R I) (q : α) :
    Answered R I (R.answer t.regs (W.env t.now) q) (t.cycle R W true q false) := by
  refine ⟨law.next _ _ _ _ free.inv, ?_, law.rsp _ _ _ free.inv free.empty⟩
  rw [cycle, law.valid _ _ _ _ free.inv, law.ready _ _ free.inv free.empty]
  rfl

/-- The response waits as long as the program does. -/
lemma Answered.waits {b : β} (law : R.Lawful I) (steady : R.Steady) (an : Answered R I b t) (q : α) :
    Answered R I b (t.cycle R W false q false) := by
  refine ⟨law.next _ _ _ _ an.inv, ?_, (steady _ _ _ an.full).trans an.rsp⟩
  rw [cycle, law.valid _ _ _ _ an.inv, an.full]
  simp

/-- When the response is taken the port is free again. -/
lemma Answered.freed {b : β} (law : R.Lawful I) (an : Answered R I b t) (q : α) :
    Free R I (t.cycle R W false q true) := by
  refine ⟨law.next _ _ _ _ an.inv, ?_⟩
  rw [cycle, law.valid _ _ _ _ an.inv, an.full]
  rfl

/-- The rule of an access: what the time until the request is offered leads to, what the cycle in
    which it is taken makes of it, and what is left when the response has been taken. -/
theorem access_triple (law : R.Lawful I) (steady : R.Steady) {K L : Bench σ ε α → Prop}
    {T Q : β → Bench σ ε α → Prop} (reach : ∀ t, K t → L (t.waits R W q (W.gap t.now)))
    (take : ∀ t, Free R I t → L t →
      T (R.answer t.regs (W.env t.now) q) (t.cycle R W true q false))
    (hold : ∀ b t, T b t → T b (t.cycle R W false q false))
    (give : ∀ b t, T b t → Q b (t.cycle R W false q true)) :
    Triple (fun t => Free R I t ∧ K t) (access R W q) fun b t => Free R I t ∧ Q b t := by
  rintro t ⟨free, k⟩
  have free' : Free R I (t.waits R W q (W.gap t.now)) :=
    waits_keeps (fun t free => free.idle law q false) (W.gap t.now) free
  have k' := reach t k
  -- the response is read in the cycle in which it is taken
  show (fun b t => Free R I t ∧ Q b t) (access R W q t).1 (access R W q t).2
  rw [access]
  generalize t.waits R W q (W.gap t.now) = t at free' k'
  have start : Answered R I (R.answer t.regs (W.env t.now) q) (t.cycle R W true q false) ∧
      T (R.answer t.regs (W.env t.now) q) (t.cycle R W true q false) :=
    ⟨free'.taken law q, take t free' k'⟩
  -- from here on the program only waits: the response and what `T` says of it stay
  generalize R.answer t.regs (W.env t.now) q = b, t.cycle R W true q false = t at start
  obtain ⟨an, k⟩ := waits_keeps (R := R) (W := W) (q := q) (K := fun t => Answered R I b t ∧ T b t)
    (fun t h => ⟨h.1.waits law steady q, hold b t h.2⟩) (W.lag t.now) start
  refine ⟨an.freed law q, ?_⟩
  show Q (R.rsp (t.waits R W q (W.lag t.now)).regs) _
  rw [an.rsp]
  exact give b _ k

/-- An access of whose response `f` is used. -/
lemma access_reads {γ : Type} {f : β → γ} (law : R.Lawful I) (steady : R.Steady)
    {K L : Bench σ ε α → Prop} {T : γ → Bench σ ε α → Prop}
    (reach : ∀ t, K t → L (t.waits R W q (W.gap t.now)))
    (take : ∀ t, Free R I t → L t →
      T (f (R.answer t.regs (W.env t.now) q)) (t.cycle R W true q false))
    (hold : ∀ x t r, T x t → T x (t.cycle R W false q r)) :
    Triple (fun t => Free R I t ∧ K t) (access R W q >>= fun b => pure (f b)) fun x t =>
      Free R I t ∧ T x t := by
  refine .bind (access_triple law steady (T := fun b => T (f b)) (Q := fun b => T (f b)) reach take
    (fun b t => hold (f b) t false) fun b t => hold (f b) t true) fun b => ?_
  exact .pure fun _ h => h

/-- An access of whose response nothing is used. -/
lemma access_writes {γ : Type} {c : γ} (law : R.Lawful I) (steady : R.Steady)
    {K L T : Bench σ ε α → Prop} (reach : ∀ t, K t → L (t.waits R W q (W.gap t.now)))
    (take : ∀ t, Free R I t → L t → T (t.cycle R W true q false))
    (hold : ∀ t r, T t → T (t.cycle R W false q r)) :
    Triple (fun t => Free R I t ∧ K t) (access R W q >>= fun _ => pure c) fun _ t =>
      Free R I t ∧ T t :=
  access_reads (f := fun _ => c) (T := fun _ => T) law steady reach take fun _ => hold

/-- An access has led from `t` to `t'`: its request, the only one offered, was taken in cycle `u`,
    and `b` is its answer. -/
structure Accessed (R : Responder σ ε α β) (s : σ) (t : Bench σ ε α) (q : α) (u : Nat) (b : β)
    (t' : Bench σ ε α) : Prop where
  run : t'.RunFrom R s
  ext : t.past <+: t'.past
  from_ : t.now ≤ u
  until_ : u < t'.now
  offered : offers t'.past = offers t.past ++ [(u, q)]
  empty : R.valid (R.machine.runFrom s (t'.past.take u)) = false
  taken : ∃ e, t'.past[u]? = some ⟨e, true, q, false⟩ ∧
    b = R.answer (R.machine.runFrom s (t'.past.take u)) e q

/-- Nothing has been offered from `t` to `t'`. -/
def QuietSince (R : Responder σ ε α β) (s : σ) (t t' : Bench σ ε α) : Prop :=
  t'.RunFrom R s ∧ t.past <+: t'.past ∧ offers t'.past = offers t.past

/-- The cycles after the one in which the request was taken. -/
lemma Accessed.cycle {s : σ} {u : Nat} {b : β} {t t' : Bench σ ε α} (ac : Accessed R s t q u b t')
    (r : Bool) : Accessed R s t q u b (t'.cycle R W false q r) := by
  have lt : u < t'.past.length := ac.until_
  have take : (t'.cycle R W false q r).past.take u = t'.past.take u :=
    List.take_append_of_le_length (Nat.le_of_lt lt)
  obtain ⟨e, at_u, answer⟩ := ac.taken
  refine ⟨ac.run.cycle false q r, ac.ext.trans (List.prefix_append _ _), ac.from_, ?_, ?_, ?_, e,
    ?_, ?_⟩
  · rw [now_cycle]
    exact Nat.lt_succ_of_lt ac.until_
  · rw [Bench.cycle, offers_snoc, ac.offered]
    exact List.append_nil _
  · rw [take]
    exact ac.empty
  · rw [Bench.cycle, List.getElem?_append_left lt, at_u]
  · rw [take]
    exact answer

/-- The request is taken in the cycle in which it is offered. -/
lemma accessed_take {s : σ} {t t' : Bench σ ε α} (free : t'.Free R I)
    (quiet : QuietSince R s t t') :
    Accessed R s t q t'.now (R.answer t'.regs (W.env t'.now) q) (t'.cycle R W true q false) := by
  obtain ⟨run, ext, quiet⟩ := quiet
  have take : (t'.cycle R W true q false).past.take t'.now = t'.past := List.take_left
  refine ⟨run.cycle true q false, ext.trans (List.prefix_append _ _), ext.length_le, ?_, ?_, ?_,
    W.env t'.now, ?_, ?_⟩
  · rw [now_cycle]
    exact Nat.lt_succ_self _
  · rw [Bench.cycle, offers_snoc, quiet]
    rfl
  · rw [take, ← run]
    exact free.empty
  · exact List.getElem?_concat_length
  · rw [take, ← run]

/-- Every access is of this kind. -/
theorem accessed (law : R.Lawful I) (steady : R.Steady) {s : σ} (free : t.Free R I)
    (run : t.RunFrom R s) (q : α) :
    (access R W q t).2.Free R I ∧
      ∃ u, Accessed R s t q u (access R W q t).1 (access R W q t).2 := by
  refine access_triple law steady (K := (· = t)) (T := fun b t' => ∃ u, Accessed R s t q u b t')
    (Q := fun b t' => ∃ u, Accessed R s t q u b t') (L := QuietSince R s t)
    (fun t' same => ?_) (fun t' free' quiet => ?_) (fun b t' ac => ?_) (fun b t' ac => ?_) t
    ⟨free, rfl⟩
  · refine waits_keeps (K := QuietSince R s t) (fun t' quiet => ?_) _ ?_
    · obtain ⟨run, ext, quiet⟩ := quiet
      refine ⟨run.cycle false q false, ext.trans (List.prefix_append _ _), ?_⟩
      rw [cycle, offers_snoc, quiet]
      exact List.append_nil _
    · rw [same]
      exact ⟨run, List.prefix_refl _, rfl⟩
  · exact ⟨_, accessed_take free' quiet⟩
  · obtain ⟨u, ac⟩ := ac
    exact ⟨u, ac.cycle false⟩
  · obtain ⟨u, ac⟩ := ac
    exact ⟨u, ac.cycle true⟩

/-- What survives every cycle of an access survives the access. -/
lemma access_keeps (law : R.Lawful I) (steady : R.Steady) {K : Bench σ ε α → Prop}
    (stay : ∀ t v r, K t → K (t.cycle R W v q r)) :
    Keeps (fun t => Free R I t ∧ K t) (access R W q) :=
  access_triple law steady (T := fun _ => K) (fun _ => waits_keeps (fun t => stay t false false) _)
    (fun t _ => stay t true false) (fun _ t => stay t false false) fun _ t => stay t false true

/-- The registers in a cycle gone by. -/
def atCycle (R : Responder σ ε α β) (t : Bench σ ε α) (u : Nat) : σ := R.machine.after (t.past.take u)

/-- What was so in every cycle from `a` on. -/
def Since (R : Responder σ ε α β) (a : Nat) (P : Nat → σ → Prop) (t : Bench σ ε α) : Prop :=
  ∀ u, a ≤ u → u ≤ t.now → P u (t.atCycle R u)

/-- `E` was so in cycle `u`, which is gone by. -/
def Occurs (R : Responder σ ε α β) (E : σ → Port ε α → Prop) (u : Nat) (t : Bench σ ε α) : Prop :=
  ∃ p, t.past[u]? = some p ∧ E (t.atCycle R u) p

section Since

variable {a u : Nat} {P : Nat → σ → Prop} {E : σ → Port ε α → Prop} {v r : Bool}

lemma atCycle_now (run : t.RunFrom R R.init) : t.atCycle R t.now = t.regs := by
  rw [atCycle, now, List.take_length]
  exact run.symm

lemma atCycle_cycle (le : u ≤ t.now) : (t.cycle R W v q r).atCycle R u = t.atCycle R u := by
  rw [atCycle, cycle, List.take_append_of_le_length le]
  rfl

/-- What is gone by does not change. -/
lemma atCycle_ext {t' : Bench σ ε α} (ext : t.past <+: t'.past) (le : u ≤ t.now) :
    t'.atCycle R u = t.atCycle R u := by
  obtain ⟨later, ext⟩ := ext
  rw [atCycle, ← ext, List.take_append_of_le_length le]
  rfl

lemma Occurs.lt (oc : t.Occurs R E u) : u < t.now := by
  obtain ⟨p, at_u, -⟩ := oc
  exact (List.getElem?_eq_some_iff.mp at_u).1

lemma Occurs.cycle (oc : t.Occurs R E u) : (t.cycle R W v q r).Occurs R E u := by
  have lt := oc.lt
  obtain ⟨p, at_u, e⟩ := oc
  refine ⟨p, (List.getElem?_append_left lt).trans at_u, ?_⟩
  rw [atCycle_cycle (Nat.le_of_lt lt)]
  exact e

/-- What is so in a cycle has occurred after it. -/
lemma occurs_now (run : t.RunFrom R R.init) (e : E t.regs ⟨W.env t.now, v, q, r⟩) :
    (t.cycle R W v q r).Occurs R E t.now := by
  refine ⟨_, List.getElem?_concat_length, ?_⟩
  rw [atCycle_cycle (Nat.le_refl _), atCycle_now run]
  exact e

lemma Since.imp {Q : Nat → σ → Prop} (si : t.Since R a P)
    (imp : ∀ u s, a ≤ u → u ≤ t.now → P u s → Q u s) : t.Since R a Q :=
  fun u ge le => imp u _ ge le (si u ge le)

lemma Since.now (run : t.RunFrom R R.init) (p : P t.now t.regs) : t.Since R t.now P := by
  intro u ge le
  cases Nat.le_antisymm le ge
  rw [atCycle_now run]
  exact p

lemma Since.cycle (si : t.Since R a P) (run : t.RunFrom R R.init)
    (next : P (t.now + 1) (t.cycle R W v q r).regs) : (t.cycle R W v q r).Since R a P := by
  intro u ge le
  rw [now_cycle] at le
  obtain last | before := Nat.eq_or_lt_of_le le
  · have run' := run.cycle (W := W) v q r
    rw [last, ← now_cycle, atCycle_now run', now_cycle]
    exact next
  · rw [atCycle_cycle (Nat.le_of_lt_succ before)]
    exact si u ge (Nat.le_of_lt_succ before)

end Since

end Bench

end ModularControl.Sync
