import ModularControl.Sync.Machine

/-!
# Progress

A machine catches up with what has been asked of it in a bounded number of the cycles that let it,
whatever else it is asked in the meantime. Which cycles these are is read off their observations.
`Machine.catches_up` is the rule: a rank that is positive while anything is owed, drops in every
cycle that lets the machine go on, and is thrown back a bounded number of times.
-/

namespace ModularControl.Sync

variable {σ ι ω : Type*}

namespace Machine

variable (M : Machine σ ι ω)

/-- As long as `A` goes on from the registers `s`, at most `n` cycles of the run show `B`. -/
def AtMostWhile (A B : σ → Bool) : Nat → σ → List ι → Prop
  | _, _, [] => True
  | n, s, i :: is =>
    A s = true → (B s).toNat ≤ n ∧ AtMostWhile A B (n - (B s).toNat) (M.step s i) is

instance AtMostWhile.decidable (A B : σ → Bool) :
    ∀ n s is, Decidable (M.AtMostWhile A B n s is)
  | _, _, [] => inferInstanceAs (Decidable True)
  | n, s, i :: is =>
    have := AtMostWhile.decidable A B (n - (B s).toNat) (M.step s i) is
    inferInstanceAs (Decidable (A s = true → (B s).toNat ≤ n ∧ _))

variable {M} {A B : σ → Bool} {s : σ} {is js : List ι} {n : Nat}

/-- Where no cycle of `A` shows `B`, none is counted. -/
lemma atMostWhile_of_along (al : M.AlongFrom (fun s _ => A s = true → B s = false) s is) :
    M.AtMostWhile A B n s is := by
  induction is generalizing s with
  | nil => trivial
  | cons i is ih =>
    intro on
    rw [al.1 on]
    exact ⟨Nat.zero_le n, ih al.2⟩

lemma AtMostWhile.init (few : M.AtMostWhile A B n s (is ++ js)) : M.AtMostWhile A B n s is := by
  induction is generalizing n s with
  | nil => trivial
  | cons i is ih =>
    intro on
    obtain ⟨le, few⟩ := few on
    exact ⟨le, ih few⟩

section Rule

variable {P : σ → List ω → Prop} {C : σ → ι → Prop} {T : ω → Bool} (asked done : List ω → Nat)
  (μ : σ → Nat) {c d : Nat}

/-- The progress rule. `asked` and `done` count what has been asked and what has been done so far;
    `μ` ranks the registers, and the cycles with `T` are those that let the machine go on. A cycle
    with `B` may throw the rank back by `d`. -/
theorem catches_up (keep : ∀ s os i, P s os → C s i → P (M.step s i) (os ++ [M.out s i]))
    (asks : ∀ os o, asked os ≤ asked (os ++ [o])) (does : ∀ os o, done os ≤ done (os ++ [o]))
    (rank : ∀ s os, P s os → μ s ≤ c)
    (owes : ∀ s os, P s os → done os < asked os → A s = true ∧ 0 < μ s)
    (turn : ∀ s os i, P s os → C s i → done os < asked os → done os < done (os ++ [M.out s i]) ∨
      μ (M.step s i) + (T (M.out s i)).toNat ≤ μ s + d * (B s).toNat)
    {os : List ω} {k : Nat} (start : P s os) (owed : asked os ≤ done os + k)
    (al : M.AlongFrom C s is) (few : M.AtMostWhile A B n s is)
    (long : k * c + d * n ≤ (M.traceFrom s is).countP T) :
    asked os ≤ done (os ++ M.traceFrom s is) := by
  have kept : ∀ {is : List ι} {s : σ} {os : List ω}, done os ≤ done (os ++ M.traceFrom s is) := by
    intro is
    induction is with
    | nil => simp
    | cons i is ih =>
      intro s os
      rw [traceFrom_cons, List.append_cons]
      exact Nat.le_trans (does os _) ih
  -- what is left of `m` requests, `c` cycles for each that is not the next one
  have within : ∀ {is : List ι} {s : σ} {os : List ω} {m l n : Nat}, P s os → M.AlongFrom C s is →
      M.AtMostWhile A B n s is → m ≤ asked os → m ≤ done os + l →
      l * c + μ s + d * n ≤ (M.traceFrom s is).countP T + c →
        m ≤ done (os ++ M.traceFrom s is) := by
    intro is
    induction is with
    | nil =>
      intro s os m l n p _ _ le behind room
      by_contra short
      rw [traceFrom_nil, List.append_nil, Nat.not_le] at short
      have pos := (owes s os p (Nat.lt_of_lt_of_le short le)).2
      have some_ : 1 * c ≤ l * c := Nat.mul_le_mul_right c (by omega)
      rw [traceFrom_nil, List.countP_nil, Nat.zero_add] at room
      omega
    | cons i is ih =>
      intro s os m l n p al few le behind room
      by_cases short : done os < m
      · have owing := Nat.lt_of_lt_of_le short le
        obtain ⟨on, pos⟩ := owes s os p owing
        obtain ⟨spent, few⟩ := few on
        have p' := keep s os i p al.1
        have small := rank _ _ p'
        have one := Bool.toNat_le (T (M.out s i))
        have left : d * (n - (B s).toNat) + d * (B s).toNat = d * n := by
          rw [← Nat.mul_add, Nat.sub_add_cancel spent]
        have count : (M.traceFrom s (i :: is)).countP T =
            (M.traceFrom (M.step s i) is).countP T + (T (M.out s i)).toNat := by
          rw [traceFrom_cons, List.countP_cons]
          cases T (M.out s i) <;> rfl
        rw [count] at room
        rw [traceFrom_cons, List.append_cons]
        obtain more | closer := turn s os i p al.1 owing
        · obtain _ | l := l
          · omega
          · rw [Nat.succ_mul] at room
            have behind' : m ≤ done (os ++ [M.out s i]) + l := by omega
            exact ih p' al.2 few (Nat.le_trans le (asks os _)) behind' (by omega)
        · have behind' := Nat.le_trans behind (Nat.add_le_add_right (does os (M.out s i)) l)
          exact ih p' al.2 few (Nat.le_trans le (asks os _)) behind' (by omega)
      · exact Nat.le_trans (Nat.le_of_not_lt short) kept
  have small := rank s os start
  exact within start al few (Nat.le_refl _) owed (by omega)

/-- The progress rule for a rank that nothing throws back, over a run from reset: what has been
    asked by some moment is done within `k * c` of the cycles after it that let the machine go
    on. -/
theorem keeps_up (init : P M.init [])
    (keep : ∀ s os i, P s os → C s i → P (M.step s i) (os ++ [M.out s i]))
    (asks : ∀ os o, asked os ≤ asked (os ++ [o])) (does : ∀ os o, done os ≤ done (os ++ [o]))
    (rank : ∀ s os, P s os → μ s ≤ c) (owes : ∀ s os, P s os → done os < asked os → 0 < μ s)
    (turn : ∀ s os i, P s os → C s i → done os < asked os → done os < done (os ++ [M.out s i]) ∨
      μ (M.step s i) + (T (M.out s i)).toNat ≤ μ s)
    {k : Nat} (owed : ∀ s os, P s os → asked os ≤ done os + k) (al : M.Along C (js ++ is))
    (long : k * c ≤ (M.traceFrom (M.after js) is).countP T) :
    asked (M.trace js) ≤ done (M.trace (js ++ is)) := by
  obtain ⟨before, after⟩ := (M.along_append _ js is).mp al
  have start := M.history_rule init keep before
  rw [M.trace_append]
  exact catches_up (A := fun _ => true) (B := fun _ => false) (n := 0) (d := 0) asked done μ keep
    asks does rank (fun s os p lt => ⟨rfl, owes s os p lt⟩) turn start (owed _ _ start) after
    (atMostWhile_of_along (M.alongFrom_of_forall (fun _ _ _ => rfl) _ is)) long

end Rule

/-- A run with many cycles of a kind has a beginning with as many of them as are asked for. -/
lemma exists_countP_split {T : ω → Bool} {m : Nat} (le : m ≤ (M.traceFrom s is).countP T) :
    ∃ js ds, is = js ++ ds ∧ (M.traceFrom s js).countP T = m ∧
      (M.traceFrom (M.runFrom s js) ds).countP T = (M.traceFrom s is).countP T - m := by
  induction is generalizing s m with
  | nil => exact ⟨[], [], rfl, (Nat.le_zero.mp le).symm, by simp⟩
  | cons i is ih =>
    obtain _ | m := m
    · exact ⟨[], i :: is, rfl, rfl, rfl⟩
    · rw [traceFrom_cons] at le ⊢
      cases on : T (M.out s i) with
      | true =>
        rw [List.countP_cons_of_pos on] at le ⊢
        obtain ⟨js, ds, rfl, count, rest⟩ := ih (Nat.le_of_succ_le_succ le)
        refine ⟨i :: js, ds, rfl, ?_, ?_⟩
        · rw [traceFrom_cons, List.countP_cons_of_pos on, count]
        · rw [runFrom_cons, rest, Nat.add_sub_add_right]
      | false =>
        have off : ¬ T (M.out s i) = true := by simp [on]
        rw [List.countP_cons_of_neg off] at le ⊢
        obtain ⟨js, ds, rfl, count, rest⟩ := ih le
        refine ⟨i :: js, ds, rfl, ?_, rest⟩
        rw [traceFrom_cons, List.countP_cons_of_neg off, count]

end Machine

end ModularControl.Sync
