import ModularControl.Sync.Host

/-!
# Devices on one bus

Responders that share a clock and a bus with one request outstanding: the request lines go to all of
them, and the one that is addressed is selected. A program that accesses one of them does to it what
it does to it alone (`Lifts`), while the others let the same cycles pass, so that what is proved of a
driver and its device holds of them on the bus.
-/

namespace ModularControl.Sync

variable {ι α β γ δ : Type} {σ ε : ι → Type}

/-- The registers of devices on one bus, and the device that was addressed last. -/
structure Shared (σ : ι → Type) where
  owner : ι
  regs : ∀ i, σ i

variable [DecidableEq ι]

/-- The devices behind the bus. -/
def Responder.shared [Inhabited ι] (R : ∀ i, Responder (σ i) (ε i) α β) :
    Responder (Shared σ) (∀ i, ε i) (ι × α) β where
  init := ⟨default, fun i => (R i).init⟩
  ready s q r := !(R s.owner).valid (s.regs s.owner) && (R q.1).ready (s.regs q.1) q.2 r
  valid s := (R s.owner).valid (s.regs s.owner)
  rsp s := (R s.owner).rsp (s.regs s.owner)
  answer s e q := (R q.1).answer (s.regs q.1) (e q.1) q.2
  next s e v q r :=
    let offered := v && !(R s.owner).valid (s.regs s.owner)
    { owner := if offered && (R q.1).ready (s.regs q.1) q.2 r then q.1 else s.owner
      regs := fun i => (R i).next (s.regs i) (e i) (offered && q.1 == i) q.2 r }

/-- Only the device addressed last may have a response. -/
structure Shared.Single (R : ∀ i, Responder (σ i) (ε i) α β) (I : ∀ i, σ i → Prop)
    (s : Shared σ) : Prop where
  inv : ∀ i, I i (s.regs i)
  empty : ∀ i, i ≠ s.owner → (R i).valid (s.regs i) = false

/-- What surrounds one of the devices. -/
def World.part (W : World (∀ i, ε i)) (i : ι) : World (ε i) := ⟨fun n => W.env n i, W.gap, W.lag⟩

/-- The bench of one of the devices. -/
def Bench.part (t : Bench (Shared σ) (∀ i, ε i) (ι × α)) (i : ι) : Bench (σ i) (ε i) α where
  regs := t.regs.regs i
  past := t.past.map fun x => ⟨x.env i, x.valid && x.req.1 == i, x.req.2, x.rspReady⟩

/-- Cycles have passed in which nothing was requested. -/
inductive Bench.Idled {σ ε : Type} (R : Responder σ ε α β) (W : World ε) (t : Bench σ ε α) :
    Bench σ ε α → Prop
  | refl : Idled R W t t
  | step {t' : Bench σ ε α} (id : Idled R W t t') (q : α) (r : Bool) :
    Idled R W t (t'.cycle R W false q r)

section Idled

variable {σ ε : Type} {R : Responder σ ε α β} {W : World ε} {t t' t'' : Bench σ ε α}

lemma Bench.Idled.trans (id : Idled R W t t') (id' : Idled R W t' t'') : Idled R W t t'' := by
  induction id' with
  | refl => exact id
  | step _ q r ih => exact ih.step q r

/-- What nothing but a request changes. -/
lemma Bench.Idled.keeps {P : Bench σ ε α → Prop}
    (idle : ∀ t q r, P t → P (t.cycle R W false q r)) (id : Idled R W t t') (p : P t) : P t' := by
  induction id with
  | refl => exact p
  | step _ q r ih => exact idle _ q r ih

lemma Bench.idled_waits (q : α) (k : Nat) : Idled R W t (t.waits R W q k) := by
  induction k generalizing t with
  | zero => exact .refl
  | succ k ih => exact (Idled.refl.step q false).trans ih

end Idled

variable [Inhabited ι] {R : ∀ i, Responder (σ i) (ε i) α β} {I : ∀ i, σ i → Prop}

section Law

variable (law : ∀ i, (R i).Lawful (I i))
include law

/-- A device that is not addressed has no response. -/
lemma Shared.Single.next {s : Shared σ} (si : s.Single R I) (e : ∀ i, ε i) (v : Bool) (q : ι × α)
    (r : Bool) : ((Responder.shared R).next s e v q r).Single R I := by
  refine ⟨fun i => (law i).next _ _ _ _ (si.inv i), fun i other => ?_⟩
  have turn := (law i).valid (e i) (v && !(R s.owner).valid (s.regs s.owner) && q.1 == i) q.2 r
    (si.inv i)
  refine turn.trans ?_
  cases full : (R s.owner).valid (s.regs s.owner) with
  | true =>
    have owner : ((Responder.shared R).next s e v q r).owner = s.owner := by
      simp [Responder.shared, full]
    rw [owner] at other
    rw [si.empty i other]
    simp
  | false =>
    have empty : (R i).valid (s.regs i) = false := by
      by_cases own : i = s.owner
      · rw [own, full]
      · exact si.empty i own
    rw [empty]
    by_cases sel : q.1 = i
    · subst sel
      have taken := (law q.1).ready q.2 r (si.inv q.1) empty
      cases v with
      | false => simp
      | true =>
        have owner : ((Responder.shared R).next s e true q r).owner = q.1 := by
          simp [Responder.shared, full, taken]
        exact absurd owner.symm other
    · simp [sel]

/-- The devices answer as each of them does alone. -/
lemma shared_lawful : (Responder.shared R).Lawful (Shared.Single R I) where
  init := ⟨fun i => (law i).init, fun i _ => (law i).idle⟩
  next e v q r si := si.next law e v q r
  idle := (law default).idle
  ready := by
    intro s q r si empty
    have empty : (R s.owner).valid (s.regs s.owner) = false := empty
    have free : (R q.1).valid (s.regs q.1) = false := by
      by_cases own : q.1 = s.owner
      · rw [own, empty]
      · exact si.empty _ own
    simp [Responder.shared, empty, (law q.1).ready q.2 r (si.inv q.1) free]
  valid := by
    intro s e v q r si
    cases full : (R s.owner).valid (s.regs s.owner) with
    | true =>
      have turn := (law s.owner).valid (e s.owner) false q.2 r (si.inv s.owner)
      simp [Responder.shared, full, turn]
    | false =>
      have free : (R q.1).valid (s.regs q.1) = false := by
        by_cases own : q.1 = s.owner
        · rw [own, full]
        · exact si.empty _ own
      have taken := (law q.1).ready q.2 r (si.inv q.1) free
      cases v with
      | false =>
        have turn := (law s.owner).valid (e s.owner) false q.2 r (si.inv s.owner)
        simp [Responder.shared, full, turn]
      | true =>
        have turn := (law q.1).valid (e q.1) true q.2 r (si.inv q.1)
        simp [Responder.shared, full, taken, turn]
  rsp := by
    intro s e q r si empty
    have empty : (R s.owner).valid (s.regs s.owner) = false := empty
    have free : (R q.1).valid (s.regs q.1) = false := by
      by_cases own : q.1 = s.owner
      · rw [own, empty]
      · exact si.empty _ own
    have taken := (law q.1).ready q.2 r (si.inv q.1) free
    simp [Responder.shared, empty, taken, (law q.1).rsp (e q.1) q.2 r (si.inv q.1) free]

end Law

lemma shared_steady (steady : ∀ i, (R i).Steady) : (Responder.shared R).Steady := by
  intro s e q full
  have full : (R s.owner).valid (s.regs s.owner) = true := full
  have kept := steady s.owner (s.regs s.owner) (e s.owner) q.2 full
  simp [Responder.shared, kept]

namespace Bench

variable {W : World (∀ i, ε i)} {t : Bench (Shared σ) (∀ i, ε i) (ι × α)} {d i : ι} {q : α}

omit [Inhabited ι] in
lemma now_part : (t.part i).now = t.now := List.length_map _

/-- A cycle on the bus is one of each device; an offer while no response waits goes to the device
    that is addressed. -/
lemma part_cycle {v : Bool} (ok : v = false ∨ (Responder.shared R).valid t.regs = false) (r : Bool) :
    (t.cycle (.shared R) W v (d, q) r).part i =
      (t.part i).cycle (R i) (W.part i) (v && d == i) q r := by
  have gate : (v && !(R t.regs.owner).valid (t.regs.regs t.regs.owner)) = v := by
    obtain rfl | empty := ok
    · rfl
    · have empty : (R t.regs.owner).valid (t.regs.regs t.regs.owner) = false := empty
      rw [empty]
      exact Bool.and_true v
  rw [Bench.part, Bench.cycle, Bench.cycle]
  refine congrArg₂ _ ?_ ?_
  · rw [now_part]
    show (R i).next (t.regs.regs i) (W.env t.now i)
      (v && !(R t.regs.owner).valid (t.regs.regs t.regs.owner) && d == i) q r = _
    rw [gate]
    rfl
  · rw [List.map_append, now_part]
    rfl

lemma part_waits (k : Nat) : (t.waits (.shared R) W (d, q) k).part i =
    (t.part i).waits (R i) (W.part i) q k := by
  induction k generalizing t with
  | zero => rfl
  | succ k ih =>
    rw [waits, waits, ih, part_cycle (.inl rfl)]
    rfl

/-- Waiting leaves the bus to the device that was addressed last. -/
lemma owner_waits (k : Nat) :
    (t.waits (.shared R) W (d, q) k).regs.owner = t.regs.owner := by
  induction k generalizing t with
  | zero => rfl
  | succ k ih => exact ih

lemma Free.part (free : t.Free (.shared R) (Shared.Single R I)) (i : ι) :
    (t.part i).Free (R i) (I i) := by
  refine ⟨free.inv.inv i, ?_⟩
  by_cases own : i = t.regs.owner
  · subst own
    exact free.empty
  · exact free.inv.empty i own

/-- In every cycle gone by the registers on the bus are those of each device alone. -/
structure Split (R : ∀ i, Responder (σ i) (ε i) α β)
    (t : Bench (Shared σ) (∀ i, ε i) (ι × α)) : Prop where
  run : t.RunFrom (.shared R) (Responder.shared R).init
  same : ∀ i u, u ≤ t.now → (t.atCycle (.shared R) u).regs i = (t.part i).atCycle (R i) u

lemma Split.part (sp : t.Split R) (i : ι) : (t.part i).RunFrom (R i) (R i).init := by
  have now := sp.same i t.now (Nat.le_refl _)
  rw [atCycle_now sp.run, atCycle, ← now_part (i := i), Bench.now, List.take_length] at now
  exact now

lemma Split.cycle (sp : t.Split R) {v : Bool}
    (ok : v = false ∨ (Responder.shared R).valid t.regs = false) (r : Bool) :
    (t.cycle (.shared R) W v (d, q) r).Split R := by
  have run := sp.run.cycle (W := W) v (d, q) r
  refine ⟨run, fun i u le => ?_⟩
  rw [part_cycle ok]
  rw [now_cycle] at le
  obtain last | before := Nat.eq_or_lt_of_le le
  · have part := (sp.part i).cycle (W := W.part i) (v && d == i) q r
    have now : ((t.part i).cycle (R i) (W.part i) (v && d == i) q r).now = u := by
      rw [now_cycle, now_part, last]
    rw [← now, atCycle_now part, now, last, ← now_cycle, atCycle_now run, ← part_cycle ok]
    rfl
  · rw [atCycle_cycle (Nat.le_of_lt_succ before), atCycle_cycle, sp.same i u]
    · exact Nat.le_of_lt_succ before
    · rw [now_part]
      exact Nat.le_of_lt_succ before

/-- The bus is free, and each device on it as it would be alone. -/
structure OnBus (R : ∀ i, Responder (σ i) (ε i) α β) (I : ∀ i, σ i → Prop)
    (t : Bench (Shared σ) (∀ i, ε i) (ι × α)) : Prop where
  free : t.Free (.shared R) (Shared.Single R I)
  split : t.Split R

lemma onBus_start (law : ∀ i, (R i).Lawful (I i)) :
    OnBus R I ⟨(Responder.shared R).init, []⟩ := by
  refine ⟨⟨(shared_lawful law).init, (shared_lawful law).idle⟩, rfl, fun i u le => ?_⟩
  cases Nat.le_zero.mp le
  rfl

lemma OnBus.waits (law : ∀ i, (R i).Lawful (I i)) (on : t.OnBus R I) (q : ι × α) (k : Nat) :
    (t.waits (.shared R) W q k).OnBus R I :=
  waits_keeps (K := OnBus R I)
    (fun _ on => ⟨on.free.idle (shared_lawful law) q false, on.split.cycle (.inl rfl) false⟩) k on

/-- What is known of each of the devices, on a bus that has seen `past` before. -/
structure Each (R : ∀ i, Responder (σ i) (ε i) α β) (I : ∀ i, σ i → Prop)
    (past : List (Port (∀ i, ε i) (ι × α))) (F : ∀ i, Bench (σ i) (ε i) α → Prop)
    (t : Bench (Shared σ) (∀ i, ε i) (ι × α)) : Prop where
  bus : t.OnBus R I
  ext : past <+: t.past
  each : ∀ i, F i (t.part i)

/-- The rule of cycles in which nothing is requested. -/
lemma Each.waits (law : ∀ i, (R i).Lawful (I i)) {past : List (Port (∀ i, ε i) (ι × α))}
    {F F' : ∀ i, Bench (σ i) (ε i) α → Prop} {k : Nat}
    (wait : ∀ i t, F i t → F' i (t.waits (R i) (W.part i) q k)) (ea : t.Each R I past F) :
    (t.waits (.shared R) W (d, q) k).Each R I past F' := by
  refine ⟨ea.bus.waits law _ k, ?_, fun i => ?_⟩
  · exact waits_keeps (K := fun t => past <+: t.past)
      (fun _ ext => ext.trans (List.prefix_append _ _)) k ea.ext
  · rw [part_waits]
    exact wait i _ (ea.each i)

end Bench

/-! ## Programs -/

/-- What nothing but a request to a device changes of it. -/
abbrev Stays (R : ∀ i, Responder (σ i) (ε i) α β) (W : World (∀ i, ε i)) (i : ι)
    (P : Bench (σ i) (ε i) α → Prop) : Prop :=
  ∀ t q r, P t → P (t.cycle (R i) (W.part i) false q r)

/-- A program that accesses one of the devices does to it what another one does to it alone, and
    nothing is requested of the others. -/
def Lifts (R : ∀ i, Responder (σ i) (ε i) α β) (I : ∀ i, σ i → Prop) (W : World (∀ i, ε i))
    (d : ι) (x : StateM (Bench (σ d) (ε d) α) γ)
    (y : StateM (Bench (Shared σ) (∀ i, ε i) (ι × α)) γ) : Prop :=
  ∀ t, t.OnBus R I → (y.run t).2.OnBus R I ∧ t.past <+: (y.run t).2.past ∧
    x.run (t.part d) = ((y.run t).1, (y.run t).2.part d) ∧
    ∀ i, i ≠ d → Bench.Idled (R i) (W.part i) (t.part i) ((y.run t).2.part i)

namespace Lifts

variable {W : World (∀ i, ε i)} {d : ι} {x : StateM (Bench (σ d) (ε d) α) γ}
  {y : StateM (Bench (Shared σ) (∀ i, ε i) (ι × α)) γ}

lemma pure (c : γ) : Lifts R I W d (Pure.pure c) (Pure.pure c) :=
  fun _ on => ⟨on, List.prefix_refl _, rfl, fun _ _ => .refl⟩

lemma bind {z : γ → StateM (Bench (σ d) (ε d) α) δ}
    {w : γ → StateM (Bench (Shared σ) (∀ i, ε i) (ι × α)) δ} (first : Lifts R I W d x y)
    (next : ∀ c, Lifts R I W d (z c) (w c)) : Lifts R I W d (x >>= z) (y >>= w) := by
  intro t on
  obtain ⟨on', ext, same, idled⟩ := first t on
  obtain ⟨on'', ext', same', idled'⟩ := next (y.run t).1 _ on'
  refine ⟨on'', ext.trans ext', ?_, fun i other => (idled i other).trans (idled' i other)⟩
  have whole : (x >>= z).run (t.part d) = (z (x.run (t.part d)).1).run (x.run (t.part d)).2 := rfl
  rw [whole, same]
  exact same'

/-- An access to a device takes the same cycles, and finds the same response. -/
lemma access (law : ∀ i, (R i).Lawful (I i)) (steady : ∀ i, (R i).Steady) (q : α) :
    Lifts R I W d (Bench.access (R d) (W.part d) q) (Bench.access (.shared R) W (d, q)) := by
  rintro t ⟨free, split⟩
  have lawful := shared_lawful law
  have keeps := Bench.access_triple (W := W) (q := (d, q)) (K := Bench.Split R)
    (L := Bench.Split R) (T := fun _ => Bench.Split R) (Q := fun _ => Bench.Split R) lawful
    (shared_steady steady) (fun _ => Bench.waits_keeps (fun _ sp => sp.cycle (.inl rfl) false) _)
    (fun _ free sp => sp.cycle (.inr free.empty) false) (fun _ _ sp => sp.cycle (.inl rfl) false)
    (fun _ _ sp => sp.cycle (.inl rfl) true) t ⟨free, split⟩
  -- the four parts of an access
  let t₁ := t.waits (.shared R) W (d, q) (W.gap t.now)
  let t₂ := t₁.cycle (.shared R) W true (d, q) false
  let t₃ := t₂.waits (.shared R) W (d, q) (W.lag t₂.now)
  have free₁ : t₁.Free (.shared R) (Shared.Single R I) :=
    Bench.waits_keeps (fun t free => free.idle lawful (d, q) false) _ free
  have owner : t₃.regs.owner = d := by
    have empty : (R t₁.regs.owner).valid (t₁.regs.regs t₁.regs.owner) = false := free₁.empty
    have taken := (law d).ready q false (free₁.inv.inv d) (free₁.part d).empty
    have taken : (R d).ready (t₁.regs.regs d) q false = true := taken
    rw [Bench.owner_waits]
    simp [t₂, Bench.cycle, Responder.shared, empty, taken]
  have part₁ (i : ι) : t₁.part i = (t.part i).waits (R i) (W.part i) q (W.gap t.now) :=
    Bench.part_waits _
  have part₂ (i : ι) : t₂.part i = (t₁.part i).cycle (R i) (W.part i) (d == i) q false :=
    Bench.part_cycle (.inr free₁.empty) false
  have part₃ (i : ι) : t₃.part i = (t₂.part i).waits (R i) (W.part i) q (W.lag t₂.now) :=
    Bench.part_waits _
  have part₄ (i : ι) : ((Bench.access (.shared R) W (d, q)).run t).2.part i =
      (t₃.part i).cycle (R i) (W.part i) false q true :=
    Bench.part_cycle (.inl rfl) true
  obtain ⟨-, u, accessed⟩ := Bench.accessed (W := W) lawful (shared_steady steady) free split.run (d, q)
  refine ⟨⟨keeps.1, keeps.2⟩, accessed.ext, ?_, fun i other => ?_⟩
  · have rsp : ((Bench.access (.shared R) W (d, q)).run t).1 =
        (R d).rsp (t₃.part d).regs := by
      show (R t₃.regs.owner).rsp (t₃.regs.regs t₃.regs.owner) = _
      rw [owner]
      rfl
    have self : (d == d) = true := beq_self_eq_true d
    have now₂ : (t₂.part d).now = t₂.now := Bench.now_part
    have now : (t.part d).now = t.now := Bench.now_part
    rw [part₄, rsp, part₃, ← now₂, part₂, self, part₁, ← now]
    rfl
  · have other' : (d == i) = false := beq_false_of_ne (Ne.symm other)
    rw [part₄, part₃, part₂, other', part₁]
    have idled₁ := Bench.idled_waits (R := R i) (W := W.part i) (t := t.part i) q (W.gap t.now)
    exact ((idled₁.step q false).trans (Bench.idled_waits q _)).step q true

/-- What is proved of a device and its program holds on the bus, where the others stay as they are as
    long as nothing is requested of them. -/
lemma triple {F : ∀ i, Bench (σ i) (ε i) α → Prop} {F' : γ → ∀ i, Bench (σ i) (ε i) α → Prop}
    {past : List (Port (∀ i, ε i) (ι × α))} (li : Lifts R I W d x y)
    (tr : Triple (fun t => t.Free (R d) (I d) ∧ F d t) x fun c t => t.Free (R d) (I d) ∧ F' c d t)
    (others : ∀ c i, i ≠ d → F' c i = F i) (idle : ∀ i, i ≠ d → Stays R W i (F i)) :
    Triple (Bench.Each R I past F) y fun c => Bench.Each R I past (F' c) := by
  rintro t ⟨on, ext, each⟩
  obtain ⟨on', ext', same, idled⟩ := li t on
  have told := tr (t.part d) ⟨on.free.part d, each d⟩
  rw [same] at told
  refine ⟨on', ext.trans ext', fun i => ?_⟩
  by_cases own : i = d
  · subst own
    exact told.2
  · rw [others _ i own]
    exact (idled i own).keeps (idle i own) (each i)

end Lifts

end ModularControl.Sync
