import Mathlib.Data.List.Chain
import ModularControl.Sync.Responder

/-!
# Responders with one response slot

A responder that takes no request while a response waits gives its answers one by one: what it has
been asked for is what it has given so far, followed by the response that waits.
-/

namespace ModularControl.Sync

variable {σ ε α β : Type*}

/-- A cycle of the request and the response channel, as the client drives them. -/
structure ChannelIn (α : Type*) where
  valid : Bool
  req : α
  rspReady : Bool

/-- A cycle of the two channels: the answer of a request that is accepted, and the response that is
    presented, with the client's ready. -/
structure Exchange (β : Type*) where
  asked : Option β
  shown : Option β
  rspReady : Bool

/-- The response handed over in a cycle. -/
def Exchange.given (o : Exchange β) : Option β := if o.rspReady then o.shown else none

/-- A response presented and not taken is presented again in the next cycle. -/
def Exchange.Kept (o o' : Exchange β) : Prop :=
  o.shown.isSome → o.rspReady = false → o'.shown = o.shown

namespace Responder

/-- The answers asked for so far. -/
def asked (os : List (Exchange β)) : List β := os.filterMap Exchange.asked

/-- The responses handed over so far. -/
def given (os : List (Exchange β)) : List β := os.filterMap Exchange.given

lemma asked_snoc (os : List (Exchange β)) (o : Exchange β) :
    asked (os ++ [o]) = asked os ++ o.asked.toList :=
  filterMap_snoc _ _ _

lemma given_snoc (os : List (Exchange β)) (o : Exchange β) :
    given (os ++ [o]) = given os ++ o.given.toList :=
  filterMap_snoc _ _ _

/-- A lawful responder that takes no request while a response waits, and keeps the response until it
    is taken, whatever is requested meanwhile. -/
structure OneSlot (R : Responder σ ε α β) (I : σ → Prop) : Prop extends R.Lawful I where
  one : ∀ {s} a r, I s → R.valid s = true → R.ready s a r = false
  kept : ∀ {s} e v a, I s → R.valid s = true → R.rsp (R.next s e v a false) = R.rsp s

variable (R : Responder σ ε α β)

/-- The response that waits. -/
def waiting (s : σ) : Option β := if R.valid s then some (R.rsp s) else none

def exchange (s : σ) (e : ε) (c : ChannelIn α) : Exchange β where
  asked := if c.valid && R.ready s c.req c.rspReady then some (R.answer s e c.req) else none
  shown := R.waiting s
  rspReady := c.rspReady

/-- A responder with its channels, the client being arbitrary. -/
def exchanges : Machine σ (ε × ChannelIn α) (Exchange β) where
  init := R.init
  step s i := R.next s i.1 i.2.valid i.2.req i.2.rspReady
  out s i := R.exchange s i.1 i.2

variable {R} {I : σ → Prop} {s : σ}

/-- In a cycle the response that waits and the one asked for are given or wait on. -/
lemma OneSlot.exchange_step (slot : R.OneSlot I) (inv : I s) (e : ε) (c : ChannelIn α) :
    (R.waiting s).toList ++ (R.exchange s e c).asked.toList =
      (R.exchange s e c).given.toList ++
        (R.waiting (R.next s e c.valid c.req c.rspReady)).toList := by
  have next := slot.valid e c.valid c.req c.rspReady inv
  cases now : R.valid s with
  | true =>
    have busy := slot.one c.req c.rspReady inv now
    rw [now, busy, Bool.and_false, Bool.false_or, Bool.true_and] at next
    cases taken : c.rspReady with
    | true =>
      rw [taken] at next busy
      simp [waiting, exchange, Exchange.given, now, busy, next, taken]
    | false =>
      have same := slot.kept e c.valid c.req inv now
      rw [taken] at next busy
      simp [waiting, exchange, Exchange.given, now, busy, next, same, taken]
  | false =>
    have free := slot.ready c.req c.rspReady inv now
    rw [now, free, Bool.and_true, Bool.false_and, Bool.or_false] at next
    cases offered : c.valid with
    | true =>
      have answer := slot.rsp e c.req c.rspReady inv now
      rw [offered] at next
      simp [waiting, exchange, Exchange.given, now, free, next, answer, offered]
    | false =>
      rw [offered] at next
      simp [waiting, exchange, Exchange.given, now, next, offered]

/-- A response that is presented and not taken waits on. -/
lemma OneSlot.waiting_kept (slot : R.OneSlot I) (inv : I s) (e : ε) (c : ChannelIn α)
    (present : (R.waiting s).isSome) (stall : c.rspReady = false) :
    R.waiting (R.next s e c.valid c.req c.rspReady) = R.waiting s := by
  have now : R.valid s = true := by
    cases h : R.valid s with
    | true => rfl
    | false => simp [waiting, h] at present
  have next := slot.valid e c.valid c.req c.rspReady inv
  have same := slot.kept e c.valid c.req inv now
  rw [slot.one c.req c.rspReady inv now, now, stall] at next
  rw [waiting, waiting, stall, next, now, same]
  simp

/-- After every run the invariant holds, the responses given and the one that waits are those asked
    for, in order, and each has been presented until it was taken. -/
theorem OneSlot.exchanges_along (slot : R.OneSlot I) (is : List (ε × ChannelIn α)) :
    I (R.exchanges.after is) ∧
      asked (R.exchanges.trace is) =
        given (R.exchanges.trace is) ++ (R.waiting (R.exchanges.after is)).toList ∧
      (R.exchanges.trace is).IsChain Exchange.Kept := by
  -- the last cycle's response is the one that waits in the next cycle, if it was not taken
  have all := R.exchanges.history_rule
    (P := fun s os => I s ∧ asked os = given os ++ (R.waiting s).toList ∧
      os.IsChain Exchange.Kept ∧
      ∀ o ∈ os.getLast?, o.shown.isSome → o.rspReady = false → R.waiting s = o.shown)
    (C := fun _ _ => True) ?_ ?_ (R.exchanges.along_true is)
  · exact ⟨all.1, all.2.1, all.2.2.1⟩
  · refine ⟨slot.init, ?_, .nil, by simp⟩
    simp [asked, given, exchanges, waiting, slot.idle]
  · rintro s os ⟨e, c⟩ ⟨inv, accounts, chain, last⟩ -
    refine ⟨slot.next e c.valid c.req c.rspReady inv, ?_, ?_, ?_⟩
    · have move := slot.exchange_step inv e c
      rw [asked_snoc, given_snoc, accounts, List.append_assoc, List.append_assoc]
      exact congrArg _ move
    · refine List.isChain_append.mpr ⟨chain, by simp, ?_⟩
      intro o ho o' ho'
      cases Option.mem_some_iff.mp ho'
      exact last o ho
    · intro o ho
      rw [List.getLast?_concat] at ho
      cases Option.mem_some_iff.mp ho
      exact slot.waiting_kept inv e c

end Responder

end ModularControl.Sync
