import ModularControl.Sync.Machine

/-!
# Responders

A responder sits behind a valid/ready request channel and answers on a valid/ready response
channel. `Responder.Lawful` collects what a client that keeps one request outstanding may rely on:
a request offered while no response waits is taken at once, its answer is presented from the next
cycle on, and an answer stays until it is taken. The answer is a function of the registers, the
environment and the request in the cycle of acceptance, so that a client can speak of the answer of
a request without a history of the responder.
-/

namespace ModularControl.Sync

variable {σ ε α β : Type*}

/-- A block with registers `σ` that answers requests `α` by responses `β`; `ε` is what else of its
    environment it sees in a cycle. -/
structure Responder (σ ε α β : Type*) where
  /-- The registers when reset is released. -/
  init : σ
  /-- The request channel's ready, given the request lines and the response channel's ready. -/
  ready : σ → α → Bool → Bool
  /-- The response channel's valid. -/
  valid : σ → Bool
  /-- The response lines. -/
  rsp : σ → β
  /-- The response that a request accepted in this cycle gets. -/
  answer : σ → ε → α → β
  /-- The registers after a clock edge, given the request channel and the response ready. -/
  next : σ → ε → Bool → α → Bool → σ

namespace Responder

/-- What a client with one outstanding request relies on, for registers that satisfy `I`. -/
structure Lawful (R : Responder σ ε α β) (I : σ → Prop) : Prop where
  init : I R.init
  next : ∀ {s} e v a r, I s → I (R.next s e v a r)
  idle : R.valid R.init = false
  /-- A request offered while no response waits is taken. -/
  ready : ∀ {s} a r, I s → R.valid s = false → R.ready s a r = true
  /-- A response is presented from the cycle after its request until it is taken. -/
  valid : ∀ {s} e v a r, I s →
    R.valid (R.next s e v a r) = (v && R.ready s a r || R.valid s && !r)
  /-- The response presented is the answer of the request. -/
  rsp : ∀ {s} e a r, I s → R.valid s = false → R.rsp (R.next s e true a r) = R.answer s e a

/-- The response lines stay as they are while a response waits. -/
def Steady (R : Responder σ ε α β) : Prop :=
  ∀ s e a, R.valid s = true → R.rsp (R.next s e false a false) = R.rsp s

/-- A responder with one response slot that takes a request whenever the slot is empty or is being
    emptied is lawful, whatever else its registers hold. -/
lemma lawful_of_slot {R : Responder σ ε α β} (idle : R.valid R.init = false)
    (ready : ∀ s a r, R.ready s a r = (!R.valid s || r))
    (valid : ∀ s e v a r, R.valid (R.next s e v a r) =
      if v && R.ready s a r then true else if R.valid s && r then false else R.valid s)
    (rsp : ∀ s e a r, R.ready s a r = true → R.rsp (R.next s e true a r) = R.answer s e a) :
    R.Lawful fun _ => True where
  init := trivial
  next _ _ _ _ _ := trivial
  idle := idle
  ready := by
    intro s a r _ empty
    rw [ready, empty]
    rfl
  valid := by
    intro s e v a r _
    rw [valid]
    cases v && R.ready s a r <;> cases R.valid s <;> cases r <;> rfl
  rsp := by
    intro s e a r _ empty
    apply rsp
    rw [ready, empty]
    rfl

end Responder

end ModularControl.Sync
