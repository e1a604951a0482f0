import TurbocableServer.Connection.SessionQueues
import TurbocableServer.Gateway.NodeRuns

/-!
# Where deliveries come from

In every reachable state a connection is on a subscriber list, and message
frames are in its live queue, only for streams its client has subscribed to by
an identifier the token allows.
-/

namespace TurbocableServer.Gateway.Node

open Foundations Protocol Pubsub Connection

variable {env : Environment} {node next : Node} {action : NodeAction}

structure Traced (env : Environment) (node : Node) : Prop where
  sound : node.sys.Sound
  scanned :
    ∀ stream todo evicted, node.sys.fan = .scanning stream todo evicted →
      ∃ message, node.current = some message ∧ message.stream = stream
  wanted :
    ∀ conn stream, node.sys.Wants conn stream →
      (node.sessions conn).Subscribed env stream
  sessions : ∀ conn, (node.sessions conn).Traced env

theorem traced_initial (env : Environment) (log : MessageLog) (cursor : Nat) :
    (initial env log cursor).Traced env where
  sound := RegSystem.initial_sound
  scanned := by
    intro stream todo evicted scanning
    cases scanning
  wanted := by
    rintro conn stream (wants | ⟨todo, evicted, scanning, -⟩)
    · simp [ConnView.Wants, RegSystem.view, initial, RegSystem.initial,
        Registry.new, Registry.subscribers] at wants
    · cases scanning
  sessions := fun _ => Session.traced_unborn env

private theorem scanned_step (traced : node.Traced env)
    (steps : Steps env node action next)
    {stream : String} {todo evicted : List ConnId}
    (scanning : next.sys.fan = .scanning stream todo evicted) :
    ∃ message, next.current = some message ∧ message.stream = stream := by
  rcases steps.scanning scanning with
    ⟨before, refused, was, sameCurrent, -⟩ | ⟨message, isCurrent, isStream, -⟩
  · rw [sameCurrent]
    exact traced.scanned stream before refused was
  · exact ⟨message, isCurrent, isStream⟩

/-- What the fan-out loop delivers, the client has asked for. -/
theorem Traced.delivers (traced : node.Traced env) {conn : ConnId}
    {move : SessionAction} (isMove : SessionMove env node conn action move) :
    (node.sessions conn).DeliversSubscribed env move := by
  intro frame stream isDeliver ofStream
  cases isMove with
  | delivered scanned todo evicted message scanning current =>
      cases isDeliver
      obtain ⟨busyWith, isCurrent, isStream⟩ :=
        traced.scanned scanned _ evicted scanning
      obtain rfl : message = busyWith :=
        Option.some.inj (current.symm.trans isCurrent)
      obtain rfl : message.stream = stream := Option.some.inj ofStream
      apply traced.wanted conn
      rw [isStream]
      exact Or.inr ⟨_, evicted, scanning, List.mem_cons_self ..⟩
  | onSession _ _ isLocal => cases isLocal <;> cases isDeliver
  | _ => cases isDeliver

/-- A step keeps what the client of a session has asked for. -/
theorem Traced.subscribed_step (traced : node.Traced env)
    (steps : Steps env node action next) {conn : ConnId} {stream : String}
    (subscribed : (node.sessions conn).Subscribed env stream) :
    (next.sessions conn).Subscribed env stream := by
  rcases steps.session_cases conn with same | ⟨move, -, stepped⟩
  · rw [same]
    exact subscribed
  · exact subscribed.of_steps (traced.sessions conn).fresh
      (Session.steps_of_step stepped)

private theorem wanted_step (traced : node.Traced env)
    (steps : Steps env node action next) {conn : ConnId} {stream : String}
    (wants : next.sys.Wants conn stream) :
    (next.sessions conn).Subscribed env stream := by
  apply traced.subscribed_step steps
  cases steps.sysMove with
  | same unchanged =>
      rw [unchanged] at wants
      exact traced.wanted conn stream wants
  | call caller succeeds effect rest call _ todo isCall accessed =>
      rcases wants.of_step traced.sound accessed with before | rfl
      · exact traced.wanted conn stream before
      · rcases registryCall_cases isCall with
          ⟨asked, isEffect, isSubscribe⟩ | ⟨asked, -, isUnsubscribe⟩ |
            ⟨-, isDeregister⟩
        · cases isSubscribe
          apply (traced.sessions conn).planned
          simp [todo, isEffect]
        · cases isUnsubscribe
        · cases isDeregister
  | other call notCommand _ accessed =>
      rcases wants.of_step traced.sound accessed with before | rfl
      · exact traced.wanted conn stream before
      · cases notCommand

theorem Traced.step (traced : node.Traced env)
    (moved : node.step env action = some next) : next.Traced env := by
  have steps := steps_of_step moved
  refine ⟨steps.sysMove.sound traced.sound, ?_, ?_, ?_⟩
  · intro stream todo evicted
    exact scanned_step traced steps
  · intro conn stream
    exact wanted_step traced steps
  · intro conn
    rcases steps.session_cases conn with same | ⟨move, isMove, stepped⟩
    · rw [same]
      exact traced.sessions conn
    · exact (traced.sessions conn).step (traced.delivers isMove)
        (Session.steps_of_step stepped)

theorem traced_of_reaches {allowed : Node → NodeAction → Prop}
    {log : MessageLog} {cursor : Nat}
    (run : Reaches (step env) allowed (initial env log cursor) node) :
    node.Traced env :=
  run.invariant (fun _ _ _ _ moved traced => traced.step moved)
    (traced_initial env log cursor)

/-- What the fan-out loop delivers is a live frame. -/
theorem SessionMove.deliversLive {conn : ConnId} {move : SessionAction}
    (isMove : SessionMove env node conn action move) :
    Session.DeliversLive env move := by
  intro frame isDeliver
  cases isMove with
  | delivered scanned todo evicted message scanning current =>
      cases isDeliver
      exact ⟨message, rfl⟩
  | onSession _ _ isLocal => cases isLocal <;> cases isDeliver
  | _ => cases isDeliver

theorem regular_of_reaches {allowed : Node → NodeAction → Prop}
    {log : MessageLog} {cursor : Nat}
    (run : Reaches (step env) allowed (initial env log cursor) node)
    (conn : ConnId) : (node.sessions conn).Regular env := by
  refine session_invariant (Session.Regular env) ?_ run (Session.regular_unborn env)
  intro source label move next before _ isMove steps regular
  exact regular.step ((traced_of_reaches before).delivers isMove)
    isMove.deliversLive steps

end TurbocableServer.Gateway.Node
