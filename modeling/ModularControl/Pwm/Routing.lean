import ModularControl.Pwm.Subsystem
import ModularControl.Sync.Slot

/-!
# Response routing in the motor subsystem

Each request goes to the block that owns its address, and the routing flag says which of the two
blocks the response comes from.
-/

namespace ModularControl.Pwm
open Sync Axi

variable {w n : Nat}

/-- The two blocks behind the motor subsystem's channels. -/
inductive Block where
  | common
  | ext
deriving DecidableEq, Repr

/-- The block that owns an address: the H-bridge slice owns its three registers, the common block
    everything else. -/
def Block.owner (addr : BitVec 12) : Block := if RegsHbridge.regHit addr then ext else common

namespace Motor

variable (s : Motor w n)

/-- The block has a response. -/
def holds : Block → Bool
  | .common => s.timed.regs.rspValid
  | .ext => s.extRspValidReg

/-- The response lines of the block. -/
def held : Block → MmioRsp
  | .common => ⟨s.timed.regs.rspRdata, s.timed.regs.rspErr⟩
  | .ext => ⟨s.extRspRdataReg, s.extRspErrReg⟩

/-- What the block answers to a request accepted in this cycle. -/
def answerOf (q : MmioReq) : Block → MmioRsp
  | .common => s.timed.regs.answer s.timed.periodEnd s.timed.cnt q
  | .ext => ⟨s.ext.rdata q.addr, false⟩

/-- The block that the routing flag `pending_common` selects. -/
def route : Block := if s.pendingCommon then .common else .ext

/-- The routing flag and the two blocks agree: the response presented is that of the block selected,
    and no other block has one. -/
structure Routed (s : Motor w n) : Prop where
  presented : s.rspValid = s.holds s.route
  lines : s.rsp = s.held s.route
  matching : ∀ b, s.holds b = true → b = s.route
  single : ¬ (s.holds .common = true ∧ s.holds .ext = true)

end Motor

/-- `pwm_subsystem_motor` with the block that each answer and each response comes from. -/
def pwmMotorRouted (w n : Nat) (applyOnPeriodEnd : Bool) :
    Responder (Motor w n) Unit MmioReq (Block × MmioRsp) where
  init := .reset w n
  ready s q r := s.reqReady q r
  valid s := s.rspValid
  rsp s := (s.route, s.held s.route)
  answer s _ q := (Block.owner q.addr, s.answerOf q (Block.owner q.addr))
  next s _ v q r := s.step applyOnPeriodEnd v q r

namespace Motor

variable {s : Motor w n} (applyOnPeriodEnd : Bool)

lemma rsp_eq (s : Motor w n) : s.rsp = s.held s.route := by
  cases h : s.pendingCommon <;> simp [rsp, route, held, h]

lemma answer_eq (s : Motor w n) (q : MmioReq) :
    s.answer q = s.answerOf q (Block.owner q.addr) := by
  cases h : RegsHbridge.regHit q.addr <;> simp [answer, routeToExt, Block.owner, answerOf, h]

lemma Tracked.routed (tr : s.Tracked) : s.Routed := by
  have common := tr.common
  refine ⟨?_, s.rsp_eq, fun b has => ?_, ?_⟩
  · cases h : s.pendingCommon <;> simp [rspValid, holds, route, h]
  · cases b with
    | common =>
      have pending : s.pendingCommon = true := by rw [← common]; exact has
      simp [route, pending]
    | ext =>
      have pending : s.pendingCommon = false := by
        rw [← Bool.not_eq_true]
        intro p
        have none := tr.one p
        rw [show s.extRspValidReg = true from has] at none
        cases none
      simp [route, pending]
  · rintro ⟨c, e⟩
    have none := tr.one (by rw [← common]; exact c)
    rw [show s.extRspValidReg = true from e] at none
    cases none

/-- A request is only accepted by an idle subsystem. -/
lemma busy (valid : s.rspValid = true) (tr : s.Tracked) : s.idle = false := by
  rw [tr.rspValid_eq] at valid
  cases hp : s.pendingCommon <;> cases he : s.extRspValidReg <;> simp [hp, he] at valid <;>
    simp [idle, hp, he]

/-- The flag and both responses stay while a response is not taken. -/
lemma step_kept (busy : s.idle = false) (v : Bool) (q : MmioReq) :
    (s.step applyOnPeriodEnd v q false).route = s.route ∧
      (s.step applyOnPeriodEnd v q false).held s.route = s.held s.route := by
  have quiet : s.reqFire v q false = false := by simp [reqFire, reqReady, busy]
  have quiet' : s.timed.regs.reqFire (s.commonReqValid v q) (s.commonRspReady false) = false := by
    simp [RegsCommon.reqFire, commonReqValid, busy]
  cases hp : s.pendingCommon <;>
    simp [route, held, step, Timed.step, RegsCommon.step, quiet, quiet', hp]

/-- The flag shows the owner of the request that is accepted. -/
lemma route_step (free : s.rspValid = false) (tr : s.Tracked) (q : MmioReq) (r : Bool) :
    (s.step applyOnPeriodEnd true q r).route = Block.owner q.addr := by
  have common := tr.common
  rw [tr.rspValid_eq, Bool.or_eq_false_iff] at free
  cases hx : RegsHbridge.regHit q.addr <;>
    simp [route, Block.owner, step, reqFire, reqReady, idle, routeToExt, RegsCommon.reqReady,
      common, free, hx]

end Motor

/-- The motor subsystem keeps one request outstanding. -/
lemma pwmMotorRouted_oneSlot (applyOnPeriodEnd : Bool) :
    (pwmMotorRouted w n applyOnPeriodEnd).OneSlot Motor.Tracked where
  init := (pwmSubsystemMotor_lawful applyOnPeriodEnd).init
  next := (pwmSubsystemMotor_lawful applyOnPeriodEnd).next
  idle := rfl
  ready := (pwmSubsystemMotor_lawful applyOnPeriodEnd).ready
  valid := (pwmSubsystemMotor_lawful applyOnPeriodEnd).valid
  rsp := by
    intro s e q r tr free
    have route := Motor.route_step applyOnPeriodEnd free tr q r
    have answer := (pwmSubsystemMotor_lawful applyOnPeriodEnd).rsp e q r tr free
    have answer : (s.step applyOnPeriodEnd true q r).rsp = s.answer q := answer
    rw [Motor.rsp_eq, Motor.answer_eq, route] at answer
    simp only [pwmMotorRouted, route, answer]
  one := by
    intro s q r tr valid
    have busy := Motor.busy valid tr
    simp [pwmMotorRouted, Motor.reqReady, busy]
  kept := by
    intro s e v q tr valid
    obtain ⟨route, held⟩ := Motor.step_kept applyOnPeriodEnd (Motor.busy valid tr) v q
    simp only [pwmMotorRouted, route, held]

/-- For every counter width, number of channels, commit mode and run of requests and readies: the
    responses handed over, followed by the one that waits, are the answers of the accepted requests
    by the owners of their addresses, in order; a response presented is kept until it is taken; and
    the routing flag agrees with the blocks. -/
theorem motor_routes_responses (applyOnPeriodEnd : Bool) (is : List (Unit × ChannelIn MmioReq)) :
    let M := (pwmMotorRouted w n applyOnPeriodEnd).exchanges
    Responder.asked (M.trace is) = Responder.given (M.trace is) ++
        ((pwmMotorRouted w n applyOnPeriodEnd).waiting (M.after is)).toList ∧
      (M.trace is).IsChain Exchange.Kept ∧ (M.after is).Routed := by
  obtain ⟨tr, accounts, chain⟩ :=
    (pwmMotorRouted_oneSlot (w := w) (n := n) applyOnPeriodEnd).exchanges_along is
  exact ⟨accounts, chain, tr.routed⟩

end ModularControl.Pwm
