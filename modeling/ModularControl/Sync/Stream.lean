import ModularControl.Sync.Machine

/-!
# Runs without end

A stream gives the input of every cycle. `Machine.atCycle` is the state of the registers in a cycle,
`log` gathers what the cycles so far have shown, and `count` the cycles so far in which a signal was
high.
-/

namespace ModularControl.Sync

variable {σ τ ι κ ω ξ α : Type*}

/-- What the cycles before `t` show, oldest first. -/
def log (o : Nat → Option α) (t : Nat) : List α := (List.range t).filterMap o

/-- In how many of the cycles before `t` the signal `b` is high. -/
def count (b : Nat → Bool) : Nat → Nat
  | 0 => 0
  | t + 1 => count b t + (b t).toNat

/-- The signal `b` is high, and was low in the cycle before. -/
def rising (b : Nat → Bool) : Nat → Bool
  | 0 => b 0
  | t + 1 => b (t + 1) && !b t

/-- For how many cycles in a row, up to the one before `t`, the signal `b` has been high. -/
def streak (b : Nat → Bool) : Nat → Nat
  | 0 => 0
  | t + 1 => if b t then streak b t + 1 else 0

section Edges

variable {b : Nat → Bool} {t : Nat}

lemma rising_high (edge : rising b t = true) : b t = true := by
  cases t with
  | zero => exact edge
  | succ t =>
    rw [rising, Bool.and_eq_true] at edge
    exact edge.1

lemma rising_low (low : b t = false) : rising b t = false := by
  rw [← Bool.not_eq_true]
  intro edge
  rw [rising_high edge] at low
  cases low

lemma streak_high (high : b t = true) : streak b (t + 1) = streak b t + 1 := if_pos high

lemma streak_low (low : b t = false) : streak b (t + 1) = 0 := if_neg (by simp [low])

end Edges

section Log

variable {o : Nat → Option α} {t u : Nat}

@[simp] lemma log_zero (o : Nat → Option α) : log o 0 = [] := rfl

@[simp] lemma log_succ (o : Nat → Option α) (t : Nat) : log o (t + 1) = log o t ++ (o t).toList := by
  rw [log, List.range_succ, filterMap_snoc]
  rfl

/-- Nothing that has been shown is taken back. -/
lemma log_mono (le : t ≤ u) : log o t <+: log o u := by
  induction le with
  | refl => exact List.prefix_refl _
  | @step u le ih =>
    rw [log_succ]
    exact ih.trans (List.prefix_append _ _)

lemma log_still (le : t ≤ u) (none : ∀ v, t ≤ v → v < u → o v = none) : log o u = log o t := by
  induction le with
  | refl => rfl
  | @step u le ih =>
    rw [log_succ, none u le (Nat.lt_succ_self u), ih fun v ge lt => none v ge (Nat.lt_succ_of_lt lt)]
    exact List.append_nil _

end Log

section Count

variable {b : Nat → Bool} {t u : Nat}

@[simp] lemma count_zero (b : Nat → Bool) : count b 0 = 0 := rfl

@[simp] lemma count_succ (b : Nat → Bool) (t : Nat) : count b (t + 1) = count b t + (b t).toNat := rfl

lemma count_mono (b : Nat → Bool) (le : t ≤ u) : count b t ≤ count b u := by
  induction le with
  | refl => exact Nat.le_refl _
  | @step u le ih => exact Nat.le_trans ih (Nat.le_add_right _ _)

/-- A signal is high at most once a cycle. -/
lemma count_add_le (b : Nat → Bool) (t n : Nat) : count b (t + n) ≤ count b t + n := by
  induction n with
  | zero => exact Nat.le_refl _
  | succ n ih =>
    have one := Bool.toNat_le (b (t + n))
    rw [← Nat.add_assoc, count_succ]
    omega

/-- The signal `b` is high in every `d`-th cycle, first in cycle `d`. -/
def Every (d : Nat) (b : Nat → Bool) : Prop := ∀ t, b t = true ↔ 0 < t ∧ d ∣ t

variable {d : Nat}

lemma Every.count_eq (ev : Every d b) (t : Nat) : count b t = (t - 1) / d := by
  induction t with
  | zero => simp
  | succ t ih =>
    rw [count_succ, ih]
    cases t with
    | zero =>
      have low : b 0 = false := by
        rw [← Bool.not_eq_true, ev]
        exact fun high => Nat.lt_irrefl 0 high.1
      simp [low]
    | succ t =>
      simp only [Nat.add_sub_cancel]
      rw [Nat.succ_div]
      by_cases dvd : d ∣ t + 1
      · rw [(ev _).mpr ⟨Nat.succ_pos t, dvd⟩, if_pos dvd]
        rfl
      · have low : b (t + 1) = false := by
          rw [← Bool.not_eq_true, ev]
          exact fun high => dvd high.2
        rw [low, if_neg dvd]
        rfl

/-- The first pulse is the one in cycle `d`. -/
lemma Every.count_pulse (ev : Every d b) (pos : 0 < d) (k : Nat) : count b (d * (k + 1)) = k := by
  have split : d * (k + 1) - 1 = d * k + (d - 1) := by
    rw [Nat.mul_succ]
    omega
  rw [ev.count_eq, split, Nat.mul_add_div pos, Nat.div_eq_of_lt (by omega), Nat.add_zero]

lemma Every.pulse (ev : Every d b) (pos : 0 < d) (k : Nat) : b (d * (k + 1)) = true :=
  (ev _).mpr ⟨Nat.mul_pos pos (Nat.succ_pos k), Nat.dvd_mul_right d _⟩

/-- A pulse is where its number says. -/
lemma Every.pulse_at (ev : Every d b) (pos : 0 < d) (high : b t = true) :
    t = d * (count b t + 1) := by
  obtain ⟨nonzero, k, rfl⟩ := (ev t).mp high
  cases k with
  | zero => simp at nonzero
  | succ k => rw [ev.count_pulse pos]

/-- The pulses in the `n` cycles after a pulse. -/
lemma Every.count_after (ev : Every d b) (pos : 0 < d) (high : b t = true) (n : Nat) :
    count b (t + 1 + n) = count b t + 1 + n / d := by
  conv_lhs => rw [ev.pulse_at pos high]
  rw [ev.count_eq, show d * (count b t + 1) + 1 + n - 1 = d * (count b t + 1) + n by omega,
    Nat.mul_add_div pos]

/-- The pulse number `k` after a cycle. -/
lemma Every.pulse_after (ev : Every d b) (pos : 0 < d) (x k : Nat) :
    b (d * (x / d + k + 1)) = true ∧ count b (d * (x / d + k + 1)) = count b (x + 1) + k := by
  refine ⟨ev.pulse pos _, ?_⟩
  rw [ev.count_pulse pos, ev.count_eq, Nat.add_sub_cancel]

lemma Every.eq_pulse_after (ev : Every d b) (pos : 0 < d) {x k : Nat} (high : b t = true)
    (at_k : count b t = count b (x + 1) + k) : t = d * (x / d + k + 1) := by
  rw [ev.pulse_at pos high, at_k, ev.count_eq, Nat.add_sub_cancel]

end Count

namespace Machine

variable (M : Machine σ ι ω)

/-- The registers in cycle `t` of the stream `f`. -/
def atCycle (f : Nat → ι) (t : Nat) : σ := M.after ((List.range t).map f)

/-- What is observed in cycle `t` of the stream `f`. -/
def outAt (f : Nat → ι) (t : Nat) : ω := M.out (M.atCycle f t) (f t)

@[simp] lemma atCycle_zero (f : Nat → ι) : M.atCycle f 0 = M.init := rfl

@[simp] lemma atCycle_succ (f : Nat → ι) (t : Nat) :
    M.atCycle f (t + 1) = M.step (M.atCycle f t) (f t) := by
  rw [atCycle, List.range_succ, List.map_append, List.map_singleton, after_snoc]
  rfl

/-- A machine inside another one runs on the stream of inputs that it is given there. -/
lemma atCycle_project (N : Machine τ κ ξ) (g : σ → τ) (k : σ → ι → κ) (init : g M.init = N.init)
    (step : ∀ s i, g (M.step s i) = N.step (g s) (k s i)) (f : Nat → ι) (t : Nat) :
    g (M.atCycle f t) = N.atCycle (fun u => k (M.atCycle f u) (f u)) t := by
  induction t with
  | zero => exact init
  | succ t ih => rw [atCycle_succ, step, ih, atCycle_succ]

/-- What the cycles before `n` of a stream show. -/
lemma trace_range (f : Nat → ι) (n : Nat) :
    M.trace ((List.range n).map f) = (List.range n).map (M.outAt f) := by
  induction n with
  | zero => rfl
  | succ n ih =>
    rw [List.range_succ, List.map_append, List.map_singleton, trace_snoc, ih, List.map_append]
    rfl

end Machine

end ModularControl.Sync
