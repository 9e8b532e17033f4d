import ModularControl.Sync.Hoare

/-!
# Programs that wait

A loop that waits for its surroundings has no bound of its own. It is run with a number of turns that
it may take, and gives up when they are used up; `Terminates` says that some number of turns is
enough and that any larger one makes no difference. A loop terminates if every turn that goes on
comes closer to the last by a number.
-/

namespace ModularControl.Sync

variable {σ α β : Type}

/-- `while (c) {}` with a number of turns. -/
def spin (c : StateM σ Bool) : Nat → OptionT (StateM σ) Unit
  | 0 => failure
  | n + 1 => do
    if ← c then
      spin c n

/-- A turn of the loop. -/
lemma spin_run (c : StateM σ Bool) (n : Nat) (s : σ) : (spin c (n + 1)).run.run s =
    if (c.run s).1 then (spin c n).run.run (c.run s).2 else (some (), (c.run s).2) := by
  have turn : (spin c (n + 1)).run.run s =
      ((if (c.run s).1 then spin c n else pure () : OptionT (StateM σ) Unit).run.run
        (c.run s).2) := rfl
  rw [turn]
  split_ifs <;> rfl

/-- From every state that meets `P` the program returns if it may take enough turns, with the same
    result and state however many more it may, and these meet `Q`. -/
def Terminates (P : σ → Prop) (x : Nat → OptionT (StateM σ) α) (Q : α → σ → Prop) : Prop :=
  ∀ s, P s → ∃ N a s', Q a s' ∧ ∀ n ≥ N, (x n).run.run s = (some a, s')

namespace Terminates

variable {P : σ → Prop} {Q : α → σ → Prop} {R : β → σ → Prop}
  {x : Nat → OptionT (StateM σ) α}

/-- A program without loops needs no turns. -/
lemma lift {x : StateM σ α} (tr : Triple P x Q) :
    Terminates P (fun _ => (liftM x : OptionT (StateM σ) α)) Q := by
  intro s p
  exact ⟨0, (x.run s).1, (x.run s).2, tr s p, fun _ _ => rfl⟩

/-- The rule of consequence. -/
lemma conseq {P' : σ → Prop} {Q' : α → σ → Prop} (te : Terminates P x Q) (pre : ∀ s, P' s → P s)
    (post : ∀ a s, Q a s → Q' a s) : Terminates P' x Q' := by
  intro s p
  obtain ⟨N, a, s', q, run⟩ := te s (pre s p)
  exact ⟨N, a, s', post a s' q, run⟩

lemma post {Q' : α → σ → Prop} (te : Terminates P x Q) (post : ∀ a s, Q a s → Q' a s) :
    Terminates P x Q' :=
  te.conseq (fun _ p => p) post

lemma pure {a : α} (h : ∀ s, P s → Q a s) :
    Terminates P (fun _ => (Pure.pure a : OptionT (StateM σ) α)) Q :=
  fun s p => ⟨0, a, s, h s p, fun _ _ => rfl⟩

/-- What is known to exist before a program may be fixed, -/
lemma fixed {ι : Sort*} {T : ι → σ → Prop} (te : ∀ i, Terminates (T i) x Q) :
    Terminates (fun s => ∃ i, T i s) x Q :=
  fun s ⟨i, t⟩ => te i s t

/-- and what is known whatever the state assumed. -/
lemma assume {p : Prop} (te : p → Terminates P x Q) : Terminates (fun s => p ∧ P s) x Q :=
  fun s ⟨known, h⟩ => te known s h

lemma ite {c : Prop} [Decidable c] {y : Nat → OptionT (StateM σ) α}
    (yes : c → Terminates P x Q) (no : ¬ c → Terminates P y Q) :
    Terminates P (fun n => if c then x n else y n) Q := by
  split_ifs with h
  · exact yes h
  · exact no h

lemma bind {x : Nat → OptionT (StateM σ) β} {f : Nat → β → OptionT (StateM σ) α}
    (first : Terminates P x R) (next : ∀ b, Terminates (R b) (fun n => f n b) Q) :
    Terminates P (fun n => x n >>= f n) Q := by
  intro s p
  obtain ⟨N, b, s', r, run⟩ := first s p
  obtain ⟨M, a, t, q, rest⟩ := next b s' r
  refine ⟨max N M, a, t, q, fun n enough => ?_⟩
  have first : (x n).run.run s = (some b, s') := run n (by omega)
  have whole : (x n >>= f n).run.run s = (f n b).run.run s' := by
    rw [OptionT.run_bind, Option.elimM, StateT.run_bind, first]
    rfl
  rw [whole]
  exact rest n (by omega)

/-- The rule of a loop that waits: `I k` with at most `k` turns to go. -/
lemma spin {I : Nat → σ → Prop} {T : σ → Prop} {c : StateM σ Bool}
    (turn : ∀ k, Triple (I k) c fun goes s => if goes then ∃ j < k, I j s else T s) {k : Nat} :
    Terminates (I k) (spin c) fun _ => T := by
  -- on the turns to go; a turn may take away more than one
  induction k using Nat.strongRecOn with
  | ind k ih =>
    intro s i
    have told := turn k s i
    cases goes : (c.run s).1 with
    | true =>
      rw [goes, if_pos rfl] at told
      obtain ⟨j, lt, i'⟩ := told
      obtain ⟨N, a, s', t, run⟩ := ih j lt _ i'
      refine ⟨N + 1, a, s', t, fun n enough => ?_⟩
      obtain ⟨n, rfl⟩ : ∃ m, n = m + 1 := ⟨n - 1, by omega⟩
      rw [spin_run, goes, if_pos rfl]
      exact run n (by omega)
    | false =>
      rw [goes, if_neg Bool.false_ne_true] at told
      refine ⟨1, (), (c.run s).2, told, fun n enough => ?_⟩
      obtain ⟨n, rfl⟩ : ∃ m, n = m + 1 := ⟨n - 1, by omega⟩
      rw [spin_run, goes]
      rfl

end Terminates

end ModularControl.Sync
