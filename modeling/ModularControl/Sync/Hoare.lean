import Mathlib.Tactic.Common

/-!
# Programs with a state

Triples for programs in `StateM`, with the rules by which a program's triple is put together from
those of its parts.
-/

namespace ModularControl.Sync

variable {σ α β : Type}

/-- From every state that meets `P` the program `x` comes to a result and a state that meet `Q`. -/
def Triple (P : σ → Prop) (x : StateM σ α) (Q : α → σ → Prop) : Prop :=
  ∀ s, P s → Q (x.run s).1 (x.run s).2

/-- What holds before the program holds after it, whatever its result. -/
abbrev Keeps (P : σ → Prop) (x : StateM σ α) : Prop := Triple P x fun _ => P

namespace Triple

variable {P P' : σ → Prop} {Q Q' : α → σ → Prop} {R : β → σ → Prop} {x y : StateM σ α}

/-- The rule of consequence. -/
lemma conseq (tr : Triple P x Q) (pre : ∀ s, P' s → P s) (post : ∀ a s, Q a s → Q' a s) :
    Triple P' x Q' :=
  fun s p => post _ _ (tr s (pre s p))

lemma pre (tr : Triple P x Q) (pre : ∀ s, P' s → P s) : Triple P' x Q :=
  tr.conseq pre fun _ _ q => q

lemma post (tr : Triple P x Q) (post : ∀ a s, Q a s → Q' a s) : Triple P x Q' :=
  tr.conseq (fun _ p => p) post

/-- Two triples of one program. -/
lemma both (tr : Triple P x Q) (tr' : Triple P' x Q') :
    Triple (fun s => P s ∧ P' s) x fun a s => Q a s ∧ Q' a s :=
  fun s p => ⟨tr s p.1, tr' s p.2⟩

/-- One of them knows the result. -/
lemma known_both {a : α} {S S' : σ → Prop} (tr : Triple P x fun b s => b = a ∧ S s)
    (tr' : Triple P' x fun _ => S') :
    Triple (fun s => P s ∧ P' s) x fun b s => b = a ∧ S s ∧ S' s :=
  (tr.both tr').post fun _ _ h => ⟨h.1.1, h.1.2, h.2⟩

lemma pure {a : α} (h : ∀ s, P s → Q a s) : Triple P (pure a) Q := h

lemma bind {x : StateM σ β} {f : β → StateM σ α} (first : Triple P x R)
    (next : ∀ b, Triple (R b) (f b) Q) : Triple P (x >>= f) Q :=
  fun s p => next _ _ (first s p)

/-- A first part whose result is one of a known form. -/
lemma bind_form {ι : Type} {x : StateM σ β} {f : β → StateM σ α} {g : ι → β} {T : ι → σ → Prop}
    (first : Triple P x fun b s => ∃ i, b = g i ∧ T i s) (next : ∀ i, Triple (T i) (f (g i)) Q) :
    Triple P (x >>= f) Q := by
  intro s p
  obtain ⟨i, known, t⟩ := first s p
  have run : (x >>= f).run s = (f (g i)).run (x.run s).2 := by rw [← known]; rfl
  rw [run]
  exact next i _ t

/-- A first part whose result is known. -/
lemma bind_known {x : StateM σ β} {f : β → StateM σ α} {b : β} {T : σ → Prop}
    (first : Triple P x fun a s => a = b ∧ T s) (next : Triple T (f b) Q) :
    Triple P (x >>= f) Q :=
  bind_form (g := fun _ : Unit => b) (first.post fun _ _ h => ⟨(), h⟩) fun _ => next

lemma ite {c : Prop} [Decidable c] (yes : c → Triple P x Q) (no : ¬ c → Triple P y Q) :
    Triple P (if c then x else y) Q := by
  intro s p
  split_ifs with h
  · exact yes h s p
  · exact no h s p

/-- A first part that is known to succeed, after which the program would stop if it failed. -/
lemma bind_true {x : StateM σ Bool} {y z : StateM σ α} {T : σ → Prop}
    (first : Triple P x fun ok s => ok = true ∧ T s) (next : Triple T y Q) :
    Triple P (x >>= fun ok => if !ok then z else y) Q :=
  bind_known first (ite (fun failed => absurd failed Bool.false_ne_true) fun _ => next)

/-- A first part that is known not to fail, after which the program would stop if it did. -/
lemma bind_false {x : StateM σ Bool} {y z : StateM σ α} {T : σ → Prop}
    (first : Triple P x fun failed s => failed = false ∧ T s) (next : Triple T y Q) :
    Triple P (x >>= fun failed => if failed then z else y) Q :=
  bind_known first (ite (fun failed => absurd failed Bool.false_ne_true) fun _ => next)

/-- A first part of which nothing is used. -/
lemma after {x : StateM σ β} {f : β → StateM σ α} (next : ∀ b, Triple (fun _ => True) (f b) Q) :
    Triple (fun _ => True) (x >>= f) Q :=
  fun _ _ => next _ _ trivial

/-- What a program leaves, whatever its result, it leaves if the result is put in another form. -/
lemma returns {x : StateM σ β} {f : β → α} {T : σ → Prop} (tr : Triple P x fun _ => T) :
    Triple P (x >>= fun b => Pure.pure (f b)) fun _ => T :=
  bind tr fun _ => pure fun _ t => t

lemma of_exists {ι : Type} {P : ι → σ → Prop} (tr : ∀ i, Triple (P i) x Q) :
    Triple (fun s => ∃ i, P i s) x Q :=
  fun s ⟨i, p⟩ => tr i s p

/-- What holds of the state whatever the program does may be assumed. -/
lemma assume {p : Prop} (fact : ∀ s, P s → p) (tr : p → Triple P x Q) : Triple P x Q :=
  fun s h => tr (fact s h) s h

end Triple

namespace Keeps

variable {P : σ → Prop} {x y : StateM σ α}

lemma pure {a : α} : Keeps P (pure a : StateM σ α) := fun _ p => p

lemma bind {x : StateM σ β} {f : β → StateM σ α} (first : Keeps P x) (next : ∀ b, Keeps P (f b)) :
    Keeps P (x >>= f) :=
  Triple.bind first next

lemma ite {c : Prop} [Decidable c] (yes : Keeps P x) (no : Keeps P y) :
    Keeps P (if c then x else y) :=
  Triple.ite (fun _ => yes) fun _ => no

end Keeps

/-- If each of `k` steps leads on from what is known before it, there is one course of what is known
    along all of them. -/
lemma exists_course {P : Nat → α → Prop} {R : Nat → α → α → Prop} {k : Nat} {a : α} (start : P 0 a)
    (step : ∀ i < k, ∀ a, P i a → ∃ b, P (i + 1) b ∧ R i a b) :
    ∃ f : Nat → α, f 0 = a ∧ (∀ i ≤ k, P i (f i)) ∧ ∀ i < k, R i (f i) (f (i + 1)) := by
  induction k with
  | zero =>
    refine ⟨fun _ => a, rfl, fun i le => ?_, fun i lt => absurd lt (Nat.not_lt_zero i)⟩
    rw [Nat.le_zero.mp le]
    exact start
  | succ k ih =>
    obtain ⟨f, first, known, steps⟩ := ih fun i lt => step i (Nat.lt_succ_of_lt lt)
    obtain ⟨b, next, last⟩ := step k (Nat.lt_succ_self k) (f k) (known k (Nat.le_refl k))
    refine ⟨fun i => if i ≤ k then f i else b, ?_, fun i le => ?_, fun i lt => ?_⟩
    · exact (if_pos (Nat.zero_le k)).trans first
    · dsimp only
      split_ifs with before
      · exact known i before
      · rw [show i = k + 1 by omega]
        exact next
    · dsimp only
      rw [if_pos (Nat.le_of_lt_succ lt)]
      split_ifs with before
      · exact steps i before
      · rw [show i = k by omega]
        exact last

end ModularControl.Sync
