import TurbocableServer.Connection.RegistryProvenance
import TurbocableServer.Connection.SessionFacts
import TurbocableServer.Gateway.Node

/-!
# Runs of a node, seen from its parts

A step of a node is at most one registry access and at most one step of each
session.  A run of the node therefore projects to a run of the interleaved
registry and to a run of every session, and invariants of the parts carry over.
-/

namespace TurbocableServer.Gateway.Node

open Foundations Protocol Pubsub Connection

variable {env : Environment} {node next : Node} {action : NodeAction}

/-! ## The registry -/

/-- The calls a connection task makes for a client command. -/
def isCommand : RegAction → Bool
  | .subscribe _ _ => true
  | .unsubscribe _ _ => true
  | .deregister _ => true
  | _ => false

/-- What a step does to the registry and its tasks. -/
inductive SysMove (node : Node) (action : NodeAction) (sys : RegSystem) :
    Prop
  | same : sys = node.sys → SysMove node action sys
  | call (conn : ConnId) (succeeds : Bool) (effect : Effect)
      (rest : List Effect) (call : RegAction) :
      action = .effect conn succeeds →
      (node.sessions conn).todo = effect :: rest →
      registryCall conn effect = some call →
      node.sys.step call = some sys →
      SysMove node action sys
  | other (call : RegAction) :
      isCommand call = false → (call = .evict → action = .fanEvict) →
      node.sys.step call = some sys →
      SysMove node action sys

theorem registryCall_cases {conn : ConnId} {effect : Effect}
    {call : RegAction} (isCall : registryCall conn effect = some call) :
    (∃ stream, effect = .registrySubscribe stream ∧
        call = .subscribe conn stream) ∨
      (∃ stream, effect = .registryUnsubscribe stream ∧
        call = .unsubscribe conn stream) ∨
      effect = .registryDeregister ∧ call = .deregister conn := by
  cases effect <;> simp_all [registryCall]

theorem Steps.sysMove (steps : Steps env node action next) :
    SysMove node action next.sys := by
  cases steps with
  | call conn succeeds effect rest call sys session todo isCall ready accessed
      stepped =>
      exact .call conn succeeds effect rest call rfl todo isCall accessed
  | accept conn ctx sys session registered stepped =>
      exact .other _ rfl (by simp) registered
  | advance conn sys accessed kept
  | advanceForget conn sys session accessed present removed stepped
  | fanNext message sys idle present accessed
  | delivered stream conn todo evicted message sys session scanning current
      present stepped accessed
  | refused stream conn todo evicted message sys session scanning current
      present noRoom stepped accessed
  | absent stream conn todo evicted message sys scanning current missing
      accessed
  | fanRelease sys accessed
  | fanEvict conn pc rest sys evicting accessed kept
  | fanForget conn pc rest sys session evicting accessed present removed
      stepped =>
      exact .other _ rfl (by simp) accessed
  | _ => exact .same rfl

/-- A step makes at most one access to the registry. -/
theorem SysMove.access {sys : RegSystem} (move : SysMove node action sys) :
    sys = node.sys ∨ ∃ call, node.sys.step call = some sys := by
  cases move with
  | same unchanged => exact Or.inl unchanged
  | call _ _ _ _ call _ _ _ accessed | other call _ _ accessed =>
      exact Or.inr ⟨call, accessed⟩

theorem SysMove.sound {sys : RegSystem} (move : SysMove node action sys)
    (sound : node.sys.Sound) : sys.Sound := by
  rcases move.access with unchanged | ⟨call, accessed⟩
  · rw [unchanged]
    exact sound
  · exact sound.step accessed

/-! ## The scan under way -/

private theorem scanning_of_call {call : RegAction} {sys : RegSystem}
    (accessed : node.sys.step call = some sys)
    (notFanout : ∀ stream, call ≠ .fanout stream)
    {stream : String} {todo evicted : List ConnId}
    (scanning : sys.fan = .scanning stream todo evicted) :
    ∃ before refused, node.sys.fan = .scanning stream before refused := by
  rcases (RegSystem.steps_of_step accessed).scanning_cases scanning with
    ⟨-, isFanout, -⟩ | ⟨before, refused, was, -⟩
  · exact absurd isFanout (notFanout stream)
  · exact ⟨before, refused, was⟩

/-- A scan was already under way, for the same message, or it starts with the
next message of the log. -/
theorem Steps.scanning (steps : Steps env node action next)
    {stream : String} {todo evicted : List ConnId}
    (scanning : next.sys.fan = .scanning stream todo evicted) :
    (∃ before refused,
        node.sys.fan = .scanning stream before refused ∧
          next.current = node.current ∧ next.cursor = node.cursor) ∨
      ∃ message,
        next.current = some message ∧ message.stream = stream ∧
          node.log.messages[node.cursor]? = some message ∧
          next.cursor = node.cursor + 1 ∧ next.log = node.log ∧
          next.fanned = node.fanned ++ [message] := by
  have kept :
      ∀ {call : RegAction} {sys : RegSystem},
        node.sys.step call = some sys → (∀ stream, call ≠ .fanout stream) →
          sys.fan = .scanning stream todo evicted →
            ∃ before refused,
              node.sys.fan = .scanning stream before refused ∧
                node.current = node.current ∧ node.cursor = node.cursor := by
    intro call sys accessed notFanout scanning
    obtain ⟨before, refused, was⟩ :=
      scanning_of_call accessed notFanout scanning
    exact ⟨before, refused, was, rfl, rfl⟩
  cases steps with
  | fanNext message sys idle present accessed =>
      rcases (RegSystem.steps_of_step accessed).scanning_cases scanning with
        ⟨-, isFanout, -⟩ | ⟨before, refused, was, -⟩
      · exact Or.inr ⟨message, rfl, RegAction.fanout.inj isFanout, present,
          rfl, rfl, rfl⟩
      · rw [idle] at was
        cases was
  | seek position idle within | fanSkip message idle present =>
      cases idle.symm.trans scanning
  | accept conn ctx sys session registered stepped =>
      exact Or.inl (kept registered (by simp) scanning)
  | advance conn sys accessed stays
  | advanceForget conn sys session accessed present removed stepped =>
      exact Or.inl (kept accessed (by simp) scanning)
  | call conn succeeds effect rest call sys session todo isCall ready accessed
      stepped =>
      refine Or.inl (kept accessed ?_ scanning)
      rcases registryCall_cases isCall with
        ⟨-, -, rfl⟩ | ⟨-, -, rfl⟩ | ⟨-, rfl⟩ <;> simp
  | delivered _ conn todo evicted message sys session _ current present stepped
      accessed
  | refused _ conn todo evicted message sys session _ current present noRoom
      stepped accessed
  | absent _ conn todo evicted message sys _ current missing accessed
  | fanRelease sys accessed
  | fanEvict conn pc rest sys evicting accessed stays
  | fanForget conn pc rest sys session evicting accessed present removed
      stepped =>
      exact Or.inl (kept accessed (by simp) scanning)
  | _ => exact Or.inl ⟨todo, evicted, scanning, rfl, rfl⟩

/-! ## A session -/

/-- The step of the session of `conn` that is part of a step of the node. -/
inductive SessionMove (env : Environment) (node : Node) (conn : ConnId) :
    NodeAction → SessionAction → Prop
  | accept (ctx : ConnContext) :
      SessionMove env node conn (.accept conn ctx) (.accept ctx)
  | onSession (label : NodeAction) (action : SessionAction) :
      LocalMove node label conn action →
      SessionMove env node conn label action
  | call (succeeds : Bool) (effect : Effect) (rest : List Effect)
      (call : RegAction) :
      (node.sessions conn).todo = effect :: rest →
      registryCall conn effect = some call →
      SessionMove env node conn (.effect conn succeeds) .effect
  | published (identifier data : String) (rest : List Effect) :
      (node.sessions conn).todo = .publish identifier data :: rest →
      SessionMove env node conn (.effect conn true) .effect
  | delivered (stream : String) (todo evicted : List ConnId)
      (message : StoredMessage) :
      node.sys.fan = .scanning stream (conn :: todo) evicted →
      node.current = some message →
      SessionMove env node conn .fanDeliver
        (.deliver (liveFrame env.decodePayload message))
  | refused (stream : String) (todo evicted : List ConnId) :
      node.sys.fan = .scanning stream (conn :: todo) evicted →
      SessionMove env node conn .fanDeliver .refuse
  | forgetOwn : SessionMove env node conn (.advance conn) .forget
  | forgetEvicted : SessionMove env node conn .fanEvict .forget

@[simp]
theorem setSession_sessions_self (node : Node) (conn : ConnId)
    (session : Session) :
    (node.setSession conn session).sessions conn = session :=
  Function.update_self ..

theorem setSession_sessions_of_ne (node : Node) {conn other : ConnId}
    (different : other ≠ conn) (session : Session) :
    (node.setSession conn session).sessions other = node.sessions other :=
  Function.update_of_ne different ..

/-- A step of the node leaves a session alone or is a step of it. -/
theorem Steps.session_cases (steps : Steps env node action next)
    (conn : ConnId) :
    next.sessions conn = node.sessions conn ∨
      ∃ move, SessionMove env node conn action move ∧
        (node.sessions conn).step env move = some (next.sessions conn) := by
  have moved :
      ∀ {base : Node} {target : ConnId} {session : Session}
        {move : SessionAction},
        base.sessions = node.sessions →
        (SessionMove env node target action move) →
        (node.sessions target).step env move = some session →
          (base.setSession target session).sessions conn =
              node.sessions conn ∨
            ∃ move, SessionMove env node conn action move ∧
              (node.sessions conn).step env move =
                some ((base.setSession target session).sessions conn) := by
    intro base target session move sameSessions isMove stepped
    by_cases same : conn = target
    · subst same
      refine Or.inr ⟨move, isMove, ?_⟩
      rw [setSession_sessions_self, stepped]
    · left
      rw [setSession_sessions_of_ne base same, sameSessions]
  cases steps with
  | accept target ctx sys session registered stepped =>
      exact moved rfl (.accept ctx) stepped
  | advanceForget target sys session accessed present removed stepped =>
      exact moved rfl .forgetOwn stepped
  | onSession label target move session isLocal stepped =>
      exact moved rfl (.onSession _ _ isLocal) stepped
  | call target succeeds effect rest call sys session todo isCall ready
      accessed stepped =>
      exact moved rfl (.call succeeds effect rest call todo isCall) stepped
  | published target identifier data rest session todo ready stepped =>
      exact moved rfl (.published identifier data rest todo) stepped
  | delivered stream target todo evicted message sys session scanning current
      present stepped accessed =>
      exact moved rfl (.delivered stream todo evicted message scanning current)
        stepped
  | refused stream target todo evicted message sys session scanning current
      present noRoom stepped accessed =>
      exact moved rfl (.refused stream todo evicted scanning) stepped
  | fanForget target pc rest sys session evicting accessed present removed
      stepped =>
      exact moved rfl .forgetEvicted stepped
  | _ => exact Or.inl rfl

/-- The connection task of `conn` performs an effect. -/
def effectOf (conn : ConnId) : NodeAction → Bool
  | .effect target _ => target == conn
  | _ => false

theorem SessionMove.effectOf_eq_true {conn : ConnId}
    (isMove : SessionMove env node conn action .effect) :
    effectOf conn action = true := by
  cases isMove with
  | onSession _ _ isLocal =>
      cases isLocal
      exact beq_self_eq_true conn
  | call succeeds effect rest call todo isCall
  | published identifier data rest todo => exact beq_self_eq_true conn

/-! ## Runs -/

section Runs

variable {allowed : Node → NodeAction → Prop} {start : Node}

/-- The invariant rule for one session: what its steps keep holds of it along
every run of the node. -/
theorem session_invariant {conn : ConnId} (holds : Session → Prop)
    (kept :
      ∀ {source label move next},
        Reaches (step env) allowed start source → allowed source label →
          SessionMove env source conn label move →
            Session.Steps env (source.sessions conn) move next →
              holds (source.sessions conn) → holds next)
    (run : Reaches (step env) allowed start node)
    (initially : holds (start.sessions conn)) :
    holds (node.sessions conn) := by
  induction run with
  | refl =>
      exact initially
  | tail before last ih =>
      obtain ⟨label, isAllowed, moved⟩ := last
      rcases (steps_of_step moved).session_cases conn with
        same | ⟨move, isMove, stepped⟩
      · rw [same]
        exact ih
      · exact kept before isAllowed isMove (Session.steps_of_step stepped) ih

end Runs

end TurbocableServer.Gateway.Node
