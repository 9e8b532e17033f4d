import ModularControl.Sync.Host

/-!
# A responder in surroundings of its own

The environment of a responder may itself be a design that the responder is part of. A host that
accesses the larger design then does what it does to the responder alone, in a world whose
environment shows what the rest of the design has shown it. `Mirrors` relates the two runs of a
program, and a triple that is proved for the responder in every world holds in the design.
-/

namespace ModularControl.Sync

variable {σ τ ε κ α β γ δ : Type}

/-- A design whose registers `τ` hold those of a responder, and show it its environment. -/
structure Nests (S : Responder τ κ α β) (R : Responder σ ε α β) (I : τ → Prop) (f : τ → σ)
    (e : τ → κ → ε) : Prop where
  init : I S.init
  keep : ∀ {s} x v q r, I s → I (S.next s x v q r)
  next : ∀ {s} x v q r, I s → f (S.next s x v q r) = R.next (f s) (e s x) v q r
  rsp : ∀ s, R.rsp (f s) = S.rsp s

/-- The design as a machine that shows what the responder sees. -/
def Responder.inside (S : Responder τ κ α β) (e : τ → κ → ε) : Machine τ (Port κ α) (Port ε α) where
  init := S.init
  step s i := S.next s i.env i.valid i.req i.rspReady
  out s i := ⟨e s i.env, i.valid, i.req, i.rspReady⟩

namespace Bench

variable (S : Responder τ κ α β) (R : Responder σ ε α β) (I : τ → Prop) (f : τ → σ)
  (e : τ → κ → ε)

/-- The bench of the responder in that of the design. -/
def inner (b : Bench τ κ α) : Bench σ ε α := ⟨f b.regs, (S.inside e).trace b.past⟩

/-- The design has run from reset. -/
structure Genuine (b : Bench τ κ α) : Prop where
  inv : I b.regs
  run : b.regs = (S.inside e).after b.past

/-- The world shows the responder what the design has shown it so far. -/
structure Agrees (V : World κ) (W : World ε) (b : Bench τ κ α) : Prop where
  gap : W.gap = V.gap
  lag : W.lag = V.lag
  env : ∀ n i, ((S.inside e).trace b.past)[n]? = some i → W.env n = i.env

/-- A program on the design does what another one does on the responder. -/
def Mirrors (V : World κ) (x : StateM (Bench τ κ α) γ) (y : World ε → StateM (Bench σ ε α) γ) :
    Prop :=
  ∀ b, b.Genuine S I e → (x.run b).2.Genuine S I e ∧ b.past <+: (x.run b).2.past ∧
    ∀ W, Agrees S e V W (x.run b).2 →
      (y W).run (b.inner S f e) = ((x.run b).1, (x.run b).2.inner S f e)

variable {S R I f e} {V : World κ} {W : World ε} {b : Bench τ κ α}

lemma now_inner : (b.inner S f e).now = b.now := (S.inside e).length_traceFrom _ _

lemma Genuine.cycle (nests : Nests S R I f e) (ge : b.Genuine S I e) (v : Bool) (q : α) (r : Bool) :
    (b.cycle S V v q r).Genuine S I e := by
  refine ⟨nests.keep _ _ _ _ ge.inv, ?_⟩
  rw [Bench.cycle, Machine.after_snoc, ← ge.run]
  rfl

/-- What a cycle of the design shows the responder is recorded. -/
lemma Genuine.trace_cycle (ge : b.Genuine S I e) (v : Bool) (q : α) (r : Bool) :
    (S.inside e).trace (b.cycle S V v q r).past =
      (S.inside e).trace b.past ++ [⟨e b.regs (V.env b.now), v, q, r⟩] := by
  rw [Bench.cycle, Machine.trace_snoc, ← ge.run]
  rfl

/-- What agrees with a longer run agrees with its beginning. -/
lemma Agrees.of_prefix {b' : Bench τ κ α} (ag : Agrees S e V W b') (ext : b.past <+: b'.past) :
    Agrees S e V W b := by
  refine ⟨ag.gap, ag.lag, fun n i at_n => ag.env n i ?_⟩
  obtain ⟨more, eq⟩ := ext
  have lt := (List.getElem?_eq_some_iff.mp at_n).1
  have split : (S.inside e).trace b'.past = (S.inside e).trace b.past ++
      (S.inside e).traceFrom ((S.inside e).after b.past) more := by
    rw [← eq]
    exact (S.inside e).traceFrom_append _ _ _
  rw [split, List.getElem?_append_left lt]
  exact at_n

/-- What the responder is shown in the cycle to come. -/
lemma Agrees.shown (ge : b.Genuine S I e) {v r : Bool} {q : α}
    (ag : Agrees S e V W (b.cycle S V v q r)) : W.env b.now = e b.regs (V.env b.now) := by
  refine ag.env b.now ⟨_, v, q, r⟩ ?_
  rw [ge.trace_cycle, ← now_inner (S := S) (f := fun s : τ => s) (e := e)]
  exact List.getElem?_concat_length

/-- A cycle of the design is a cycle of the responder. -/
lemma inner_cycle (nests : Nests S R I f e) (ge : b.Genuine S I e)
    (shown : W.env b.now = e b.regs (V.env b.now)) (v : Bool) (q : α) (r : Bool) :
    (b.inner S f e).cycle R W v q r = (b.cycle S V v q r).inner S f e := by
  have past : (b.inner S f e).past = (S.inside e).trace b.past := rfl
  rw [Bench.cycle, now_inner, shown, past, ← ge.trace_cycle]
  exact congrArg₂ _ (nests.next _ v q r ge.inv).symm rfl

lemma inner_waits (nests : Nests S R I f e) (ge : b.Genuine S I e) (q : α) (n : Nat) :
    (b.waits S V q n).Genuine S I e ∧ b.past <+: (b.waits S V q n).past ∧
      ∀ W, Agrees S e V W (b.waits S V q n) →
        (b.inner S f e).waits R W q n = (b.waits S V q n).inner S f e := by
  induction n generalizing b with
  | zero => exact ⟨ge, List.prefix_refl _, fun _ _ => rfl⟩
  | succ n ih =>
    obtain ⟨ge', ext, same⟩ := ih (ge.cycle (V := V) nests false q false)
    refine ⟨ge', (List.prefix_append _ _).trans ext, fun W ag => ?_⟩
    rw [waits, inner_cycle nests ge ((ag.of_prefix ext).shown ge) false q false, same W ag]
    rfl

namespace Mirrors

variable {x : StateM (Bench τ κ α) γ} {y : World ε → StateM (Bench σ ε α) γ}

lemma pure (c : γ) : Mirrors S I f e V (Pure.pure c) (fun _ => Pure.pure c) :=
  fun _ ge => ⟨ge, List.prefix_refl _, fun _ _ => rfl⟩

lemma bind {z : γ → StateM (Bench τ κ α) δ} {w : World ε → γ → StateM (Bench σ ε α) δ}
    (first : Mirrors S I f e V x y) (next : ∀ c, Mirrors S I f e V (z c) fun W => w W c) :
    Mirrors S I f e V (x >>= z) fun W => y W >>= w W := by
  intro b ge
  obtain ⟨ge', ext, same⟩ := first b ge
  obtain ⟨ge'', ext', same'⟩ := next (x.run b).1 _ ge'
  refine ⟨ge'', ext.trans ext', fun W ag => ?_⟩
  have run := same W (ag.of_prefix ext')
  have whole : (y W >>= w W).run (b.inner S f e) =
      (w W ((y W).run (b.inner S f e)).1).run ((y W).run (b.inner S f e)).2 := rfl
  rw [whole, run]
  exact same' W ag

/-- An access takes the same cycles and finds the same response. -/
lemma access (nests : Nests S R I f e) (q : α) :
    Mirrors S I f e V (Bench.access S V q) fun W => Bench.access R W q := by
  intro b ge
  obtain ⟨ge₁, ext₁, same₁⟩ := inner_waits (V := V) nests ge q (V.gap b.now)
  have ge₂ := ge₁.cycle (V := V) nests true q false
  obtain ⟨ge₃, ext₃, same₃⟩ := inner_waits (V := V) nests ge₂ q
    (V.lag ((b.waits S V q (V.gap b.now)).cycle S V true q false).now)
  have ext₂ : (b.waits S V q (V.gap b.now)).past <+:
      ((b.waits S V q (V.gap b.now)).cycle S V true q false).past := List.prefix_append _ _
  have ext₄ : ∀ b : Bench τ κ α, b.past <+: (b.cycle S V false q true).past :=
    fun _ => List.prefix_append _ _
  refine ⟨ge₃.cycle nests false q true, ext₁.trans (ext₂.trans (ext₃.trans (ext₄ _))),
    fun W ag => ?_⟩
  have ag₃ := ag.of_prefix (ext₄ _)
  have ag₂ := ag₃.of_prefix ext₃
  have run₁ := same₁ W (ag₂.of_prefix ext₂)
  have run₂ := inner_cycle nests ge₁ (ag₂.shown ge₁) true q false
  have run₃ := same₃ W ag₃
  have run₄ := inner_cycle nests ge₃ (ag.shown ge₃) false q true
  show Bench.access R W q (b.inner S f e) = _
  rw [Bench.access, now_inner, ag.gap, run₁, run₂, now_inner, ag.lag, run₃, run₄]
  exact congrArg₂ Prod.mk (nests.rsp _) rfl

/-- A triple for the responder in every world is one for the design. -/
lemma triple {P : Bench σ ε α → Prop} {Q : γ → Bench σ ε α → Prop} [Inhabited ε]
    (mi : Mirrors S I f e V x y) (tr : ∀ W, Triple P (y W) Q) :
    Triple (fun b => b.Genuine S I e ∧ P (b.inner S f e)) x fun c b =>
      b.Genuine S I e ∧ Q c (b.inner S f e) := by
  rintro b ⟨ge, p⟩
  obtain ⟨ge', -, same⟩ := mi b ge
  refine ⟨ge', ?_⟩
  -- the world that shows what the design shows in this run
  let shown := (S.inside e).trace (x.run b).2.past
  have run := same ⟨fun n => (shown[n]?.map Port.env).getD default, V.gap, V.lag⟩
    ⟨rfl, rfl, fun n i at_n => by
      show (shown[n]?.map Port.env).getD default = i.env
      rw [at_n]
      rfl⟩
  have told := tr ⟨fun n => (shown[n]?.map Port.env).getD default, V.gap, V.lag⟩ _ p
  rw [run] at told
  exact told

end Mirrors

end Bench

end ModularControl.Sync
