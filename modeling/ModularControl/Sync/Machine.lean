import Mathlib.Data.List.Induction
import Mathlib.Tactic.Common

/-!
# Synchronous machines

A clocked design is a `Machine`: the registers after reset, their value after the next clock edge,
and what an observer sees in one cycle. A run is the list of inputs, one per cycle. The rules below
package the inductions over runs: `Machine.history_rule` carries a relation between the registers
and everything observed so far, `Machine.along_of_loss` finds the step in which something was lost,
and `Machine.measure_runFrom` bounds the number of cycles a quantity that shrinks every cycle takes
to reach zero.
-/

namespace ModularControl.Sync

variable {σ ι ω : Type*}

/-- A log of what some of the cycles show grows by at most one entry a cycle. -/
lemma filterMap_snoc {α β : Type*} (f : α → Option β) (xs : List α) (x : α) :
    (xs ++ [x]).filterMap f = xs.filterMap f ++ (f x).toList := by
  rw [List.filterMap_append, List.filterMap_cons, List.filterMap_nil]
  cases f x <;> rfl

/-- A clocked machine with registers `σ`, inputs `ι` and observations `ω`. -/
structure Machine (σ ι ω : Type*) where
  /-- The registers when reset is released. -/
  init : σ
  /-- The registers after a clock edge. -/
  step : σ → ι → σ
  /-- What is observed in a cycle, before its clock edge. -/
  out : σ → ι → ω

namespace Machine

variable (M : Machine σ ι ω)

/-- The registers after the run `is` from the registers `s`. -/
def runFrom (s : σ) (is : List ι) : σ := is.foldl M.step s

/-- The registers after the run `is` from reset. -/
def after (is : List ι) : σ := M.runFrom M.init is

/-- The observations of the run `is` from the registers `s`, oldest first. -/
def traceFrom : σ → List ι → List ω
  | _, [] => []
  | s, i :: is => M.out s i :: traceFrom (M.step s i) is

/-- The observations of the run `is` from reset, oldest first. -/
def trace (is : List ι) : List ω := M.traceFrom M.init is

/-- Every step of the run `is` from the registers `s` meets the condition `C`. -/
def AlongFrom (C : σ → ι → Prop) : σ → List ι → Prop
  | _, [] => True
  | s, i :: is => C s i ∧ AlongFrom C (M.step s i) is

/-- Every step of the run `is` from reset meets the condition `C`. -/
def Along (C : σ → ι → Prop) (is : List ι) : Prop := M.AlongFrom C M.init is

instance AlongFrom.decidable (C : σ → ι → Prop) [∀ s i, Decidable (C s i)] :
    ∀ s is, Decidable (M.AlongFrom C s is)
  | _, [] => inferInstanceAs (Decidable True)
  | s, i :: is =>
    have := AlongFrom.decidable C (M.step s i) is
    inferInstanceAs (Decidable (C s i ∧ M.AlongFrom C (M.step s i) is))

instance Along.decidable (C : σ → ι → Prop) [∀ s i, Decidable (C s i)] (is : List ι) :
    Decidable (M.Along C is) :=
  inferInstanceAs (Decidable (M.AlongFrom C M.init is))

@[simp] lemma runFrom_nil (s : σ) : M.runFrom s [] = s := rfl

@[simp] lemma runFrom_cons (s : σ) (i : ι) (is : List ι) :
    M.runFrom s (i :: is) = M.runFrom (M.step s i) is := rfl

@[simp] lemma traceFrom_nil (s : σ) : M.traceFrom s [] = [] := rfl

@[simp] lemma traceFrom_cons (s : σ) (i : ι) (is : List ι) :
    M.traceFrom s (i :: is) = M.out s i :: M.traceFrom (M.step s i) is := rfl

@[simp] lemma alongFrom_nil (C : σ → ι → Prop) (s : σ) : M.AlongFrom C s [] := trivial

@[simp] lemma alongFrom_cons (C : σ → ι → Prop) (s : σ) (i : ι) (is : List ι) :
    M.AlongFrom C s (i :: is) ↔ C s i ∧ M.AlongFrom C (M.step s i) is := Iff.rfl

@[simp] lemma after_nil : M.after [] = M.init := rfl

@[simp] lemma trace_nil : M.trace [] = [] := rfl

lemma runFrom_append (s : σ) (is js : List ι) :
    M.runFrom s (is ++ js) = M.runFrom (M.runFrom s is) js :=
  List.foldl_append

lemma traceFrom_append (s : σ) (is js : List ι) :
    M.traceFrom s (is ++ js) = M.traceFrom s is ++ M.traceFrom (M.runFrom s is) js := by
  induction is generalizing s with
  | nil => rfl
  | cons i is ih => simp [ih]

lemma alongFrom_append (C : σ → ι → Prop) (s : σ) (is js : List ι) :
    M.AlongFrom C s (is ++ js) ↔ M.AlongFrom C s is ∧ M.AlongFrom C (M.runFrom s is) js := by
  induction is generalizing s with
  | nil => simp
  | cons i is ih => simp [ih, and_assoc]

lemma length_traceFrom (s : σ) (is : List ι) : (M.traceFrom s is).length = is.length := by
  induction is generalizing s with
  | nil => rfl
  | cons i is ih => rw [traceFrom_cons, List.length_cons, List.length_cons, ih]

lemma after_append (is js : List ι) : M.after (is ++ js) = M.runFrom (M.after is) js :=
  M.runFrom_append _ is js

lemma trace_append (is js : List ι) :
    M.trace (is ++ js) = M.trace is ++ M.traceFrom (M.after is) js :=
  M.traceFrom_append _ is js

/-- A beginning of what is observed is what a beginning of the run shows. -/
lemma exists_of_trace_eq {is : List ι} {cs ds : List ω} (eq : M.trace is = cs ++ ds) :
    ∃ js ks, is = js ++ ks ∧ M.trace js = cs ∧ M.traceFrom (M.after js) ks = ds := by
  have split := (List.take_append_drop cs.length is).symm
  have len : (M.trace (is.take cs.length)).length = cs.length := by
    have total := congrArg List.length eq
    rw [trace, length_traceFrom, List.length_append] at total
    rw [trace, length_traceFrom, List.length_take]
    omega
  rw [split, trace_append] at eq
  obtain ⟨before, after_⟩ := List.append_inj eq len
  exact ⟨_, _, split, before, after_⟩

lemma along_append (C : σ → ι → Prop) (is js : List ι) :
    M.Along C (is ++ js) ↔ M.Along C is ∧ M.AlongFrom C (M.after is) js :=
  M.alongFrom_append C _ is js

@[simp] lemma after_snoc (is : List ι) (i : ι) : M.after (is ++ [i]) = M.step (M.after is) i :=
  M.after_append is [i]

@[simp] lemma trace_snoc (is : List ι) (i : ι) :
    M.trace (is ++ [i]) = M.trace is ++ [M.out (M.after is) i] :=
  M.traceFrom_append _ is [i]

/-- Once an input leaves the registers as they are, repeating it repeats the observation. -/
lemma trace_append_replicate {is : List ι} {i : ι} (fix : M.step (M.after is) i = M.after is)
    (k : Nat) : M.trace (is ++ List.replicate k i) =
      M.trace is ++ List.replicate k (M.out (M.after is) i) := by
  have stuck : ∀ k, M.traceFrom (M.after is) (List.replicate k i) =
      List.replicate k (M.out (M.after is) i) := by
    intro k
    induction k with
    | zero => rfl
    | succ k ih => rw [List.replicate_succ, traceFrom_cons, fix, ih, List.replicate_succ]
  exact (M.traceFrom_append _ is _).trans (congrArg _ (stuck k))

@[simp] lemma along_nil (C : σ → ι → Prop) : M.Along C [] := trivial

@[simp] lemma along_snoc (C : σ → ι → Prop) (is : List ι) (i : ι) :
    M.Along C (is ++ [i]) ↔ M.Along C is ∧ C (M.after is) i := by
  simp [Along, alongFrom_append, after]

/-- A cycle observed in a run splits the run. -/
lemma trace_split {is : List ι} {pre post : List ω} {o : ω} (e : M.trace is = pre ++ o :: post) :
    ∃ is₁ i is₂, is = is₁ ++ i :: is₂ ∧ M.trace is₁ = pre ∧ M.out (M.after is₁) i = o := by
  induction is using List.reverseRecOn generalizing post with
  | nil => simp at e
  | append_singleton is i ih =>
    rw [trace_snoc] at e
    cases post using List.reverseRecOn with
    | nil =>
      obtain ⟨pre_eq, o_eq⟩ := List.append_inj' e rfl
      exact ⟨is, i, [], rfl, pre_eq, List.singleton_inj.mp o_eq⟩
    | append_singleton post p =>
      rw [← List.cons_append, ← List.append_assoc] at e
      obtain ⟨e', -⟩ := List.append_inj' e rfl
      obtain ⟨is₁, j, is₂, rfl, tr, ob⟩ := ih e'
      exact ⟨is₁, j, is₂ ++ [i], by simp, tr, ob⟩

/-- A machine whose registers contain those of another, stepped on inputs of their own, reaches only
    registers the other reaches. -/
lemma after_project {τ κ ξ : Type*} (N : Machine τ κ ξ) (f : σ → τ) (g : σ → ι → κ)
    (init : f M.init = N.init) (step : ∀ s i, f (M.step s i) = N.step (f s) (g s i))
    (is : List ι) : ∃ js, f (M.after is) = N.after js := by
  induction is using List.reverseRecOn with
  | nil => exact ⟨[], init⟩
  | append_singleton is i ih =>
    obtain ⟨js, e⟩ := ih
    exact ⟨js ++ [g (M.after is) i], by rw [after_snoc, step, e, after_snoc]⟩

/-- The simulation rule: machines whose registers stay related on the same inputs, and which show
    the same while they are, have the same trace. -/
theorem simulation_rule {τ : Type*} (N : Machine τ ι ω) {R : σ → τ → Prop} (init : R M.init N.init)
    (next : ∀ s t i, R s t → R (M.step s i) (N.step t i))
    (shows : ∀ s t i, R s t → M.out s i = N.out t i) (is : List ι) :
    R (M.after is) (N.after is) ∧ M.trace is = N.trace is := by
  induction is using List.reverseRecOn with
  | nil => exact ⟨init, rfl⟩
  | append_singleton is i ih =>
    obtain ⟨rel, same⟩ := ih
    rw [after_snoc, after_snoc, trace_snoc, trace_snoc]
    exact ⟨next _ _ i rel, by rw [same, shows _ _ i rel]⟩

/-- A condition on the registers of another machine that are part of them, stepped on the same
    inputs. -/
lemma alongFrom_project {τ κ : Type*} (N : Machine τ ι κ) (f : σ → τ)
    (step : ∀ s i, f (M.step s i) = N.step (f s) i) (C : τ → ι → Prop) (s : σ) (is : List ι) :
    N.AlongFrom C (f s) is ↔ M.AlongFrom (fun s i => C (f s) i) s is := by
  induction is generalizing s with
  | nil => exact Iff.rfl
  | cons i is ih => rw [alongFrom_cons, alongFrom_cons, ← step, ih]

/-- A condition that always holds is met along every run. -/
lemma alongFrom_of_forall {C : σ → ι → Prop} (h : ∀ s i, C s i) (s : σ) (is : List ι) :
    M.AlongFrom C s is := by
  induction is generalizing s with
  | nil => trivial
  | cons i is ih => exact ⟨h s i, ih _⟩

lemma along_true (is : List ι) : M.Along (fun _ _ => True) is :=
  M.alongFrom_of_forall (fun _ _ => trivial) _ is

/-- A stronger condition is met along fewer runs. -/
lemma AlongFrom.mono {C D : σ → ι → Prop} (h : ∀ s i, C s i → D s i) {s : σ} {is : List ι}
    (al : M.AlongFrom C s is) : M.AlongFrom D s is := by
  induction is generalizing s with
  | nil => trivial
  | cons i is ih => exact ⟨h s i al.1, ih al.2⟩

/-- The first step of a run that misses a condition is one. -/
lemma first_unique {M : Machine σ ι ω} {C : σ → ι → Prop} {s : σ} {pre pre' post post' : List ι}
    {i i' : ι} (e : pre' ++ i' :: post' = pre ++ i :: post) (al : M.AlongFrom C s pre)
    (al' : M.AlongFrom C s pre') (miss : ¬ C (M.runFrom s pre) i)
    (miss' : ¬ C (M.runFrom s pre') i') : pre = pre' ∧ i :: post = i' :: post' := by
  induction pre generalizing s pre' with
  | nil =>
    cases pre' with
    | nil => exact ⟨rfl, e.symm⟩
    | cons j pre' =>
      obtain ⟨rfl, -⟩ := List.cons.inj e
      exact absurd al'.1 miss
  | cons j pre ih =>
    cases pre' with
    | nil =>
      obtain ⟨rfl, -⟩ := List.cons.inj e
      exact absurd al.1 miss'
    | cons j' pre' =>
      obtain ⟨rfl, tail⟩ := List.cons.inj e
      obtain ⟨rfl, same⟩ := ih tail al.2 al'.2 miss miss'
      exact ⟨rfl, same⟩

/-- The history rule: a relation between the registers and the observations so far that holds at
    reset and survives every step meeting `C` holds after every run whose steps all meet `C`. -/
theorem history_rule {P : σ → List ω → Prop} {C : σ → ι → Prop} (init : P M.init [])
    (next : ∀ s os i, P s os → C s i → P (M.step s i) (os ++ [M.out s i]))
    {is : List ι} (al : M.Along C is) : P (M.after is) (M.trace is) := by
  induction is using List.reverseRecOn with
  | nil => exact init
  | append_singleton is i ih =>
    rw [along_snoc] at al
    rw [after_snoc, trace_snoc]
    exact next _ _ _ (ih al.1) al.2

/-- The invariant rule, for a continuation of a run: the history rule without the history. -/
theorem invariant_runFrom {P : σ → Prop} {C : σ → ι → Prop}
    (next : ∀ s i, P s → C s i → P (M.step s i)) {s : σ} {is : List ι} (init : P s)
    (al : M.AlongFrom C s is) : P (M.runFrom s is) := by
  induction is generalizing s with
  | nil => exact init
  | cons i is ih => exact ih (next s i init al.1) al.2

/-- The invariant rule: what holds at reset and survives every step meeting `C` holds after every
    run whose steps all meet `C`. -/
theorem invariant_rule {P : σ → Prop} {C : σ → ι → Prop} (init : P M.init)
    (next : ∀ s i, P s → C s i → P (M.step s i)) {is : List ι} (al : M.Along C is) :
    P (M.after is) :=
  M.invariant_runFrom next init al

/-- Two conditions that agree under an invariant, which either of them keeps, are met along the same
    runs. -/
theorem along_congr {P : σ → Prop} {C D E : σ → ι → Prop} (init : P M.init)
    (next : ∀ s i, P s → C s i → D s i → P (M.step s i))
    (agree : ∀ s i, P s → C s i → (D s i ↔ E s i)) {is : List ι} (al : M.Along C is) :
    M.Along D is ↔ M.Along E is := by
  have keep : ∀ {is : List ι}, M.Along C is → M.Along D is → P (M.after is) := by
    intro is
    induction is using List.reverseRecOn with
    | nil => exact fun _ _ => init
    | append_singleton is i ih =>
      intro c d
      rw [along_snoc] at c d
      rw [after_snoc]
      exact next _ i (ih c.1 d.1) c.2 d.2
  induction is using List.reverseRecOn with
  | nil => simp
  | append_singleton is i ih =>
    rw [along_snoc] at al
    rw [along_snoc, along_snoc]
    have prior := ih al.1
    constructor
    · rintro ⟨d, now⟩
      exact ⟨prior.mp d, (agree _ i (keep al.1 d) al.2).mp now⟩
    · rintro ⟨e, now⟩
      have d := prior.mpr e
      exact ⟨d, (agree _ i (keep al.1 d) al.2).mpr now⟩

/-- A condition that an invariant guarantees is met along every run. -/
lemma along_of_invariant {P : σ → Prop} {C : σ → ι → Prop} (init : P M.init)
    (next : ∀ s i, P s → P (M.step s i)) (imp : ∀ s i, P s → C s i) (is : List ι) :
    M.Along C is := by
  induction is using List.reverseRecOn with
  | nil => trivial
  | append_singleton is i ih =>
    have holds : P (M.after is) :=
      M.invariant_rule (C := C) init (fun s i p _ => next s i p) ih
    exact (M.along_snoc C is i).mpr ⟨ih, imp _ i holds⟩

/-- A property of every moment of a run that, while it has held so far, is kept by exactly the steps
    meeting `C` holds at every moment of exactly the runs whose steps all meet `C`. The relation
    `P` is what such runs establish. -/
theorem along_iff_prefixes {P Q : σ → List ω → Prop} {C : σ → ι → Prop} (init : P M.init [])
    (good : Q M.init [])
    (next : ∀ s os i, P s os → C s i → P (M.step s i) (os ++ [M.out s i]))
    (agree : ∀ s os i, P s os → (C s i ↔ Q (M.step s i) (os ++ [M.out s i]))) (is : List ι) :
    M.Along C is ↔ ∀ js, js <+: is → Q (M.after js) (M.trace js) := by
  induction is using List.reverseRecOn with
  | nil =>
    refine ⟨fun _ js pre => ?_, fun _ => trivial⟩
    rw [List.prefix_nil.mp pre]
    exact good
  | append_singleton is i ih =>
    rw [along_snoc]
    constructor
    · rintro ⟨al, now⟩ js pre
      obtain rfl | pre := List.prefix_concat_iff.mp pre
      · rw [after_snoc, trace_snoc]
        exact (agree _ _ i (M.history_rule init next al)).mp now
      · exact ih.mp al js pre
    · intro all
      have al := ih.mpr fun js pre => all js (pre.trans (List.prefix_append is [i]))
      have now := all (is ++ [i]) (List.prefix_refl _)
      rw [after_snoc, trace_snoc] at now
      exact ⟨al, (agree _ _ i (M.history_rule init next al)).mpr now⟩

/-- The loss rule: what never shrinks and grows in every step that misses `C` is still zero only
    after runs whose steps all meet `C`. -/
theorem along_of_loss {P : σ → List ω → Prop} {C : σ → ι → Prop} (loss : σ → List ω → Nat)
    (init : P M.init []) (next : ∀ s os i, P s os → P (M.step s i) (os ++ [M.out s i]))
    (keep : ∀ s os i, P s os → loss s os ≤ loss (M.step s i) (os ++ [M.out s i]))
    (grow : ∀ s os i, P s os → ¬ C s i → loss s os < loss (M.step s i) (os ++ [M.out s i]))
    {is : List ι} (none : loss (M.after is) (M.trace is) = 0) : M.Along C is := by
  induction is using List.reverseRecOn with
  | nil => trivial
  | append_singleton is i ih =>
    have holds : P (M.after is) (M.trace is) :=
      M.history_rule (C := fun _ _ => True) init (fun s os i p _ => next s os i p)
        (M.along_true is)
    rw [after_snoc, trace_snoc] at none
    rw [along_snoc]
    refine ⟨ih ?_, ?_⟩
    · have k := keep _ _ i holds
      omega
    · by_contra miss
      have g := grow _ _ i holds miss
      omega

/-- A quantity that shrinks in every step meeting `C` until it is zero is used up after as many
    such steps as it counts. -/
theorem measure_runFrom {P : σ → Prop} {C : σ → ι → Prop} (μ : σ → Nat)
    (keep : ∀ s i, P s → C s i → P (M.step s i))
    (drop : ∀ s i, P s → C s i → μ (M.step s i) ≤ μ s - 1) {s : σ} {is : List ι} (init : P s)
    (al : M.AlongFrom C s is) : μ (M.runFrom s is) ≤ μ s - is.length := by
  induction is generalizing s with
  | nil => simp
  | cons i is ih =>
    have h := ih (keep s i init al.1) al.2
    have d := drop s i init al.1
    simp only [runFrom_cons, List.length_cons]
    omega

end Machine

end ModularControl.Sync
