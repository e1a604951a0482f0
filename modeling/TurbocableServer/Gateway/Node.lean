import TurbocableServer.Connection.RegistryTasks
import TurbocableServer.Connection.Session
import TurbocableServer.Pubsub.MessageLog

/-!
# A gateway node

The sessions of a node, the registry they share, the JetStream log and the
fan-out loop, interleaved at the suspension points of the tasks and at single
registry accesses.  An action names the task that moves and what its
environment answers.

The durable consumer of the fan-out loop delivers at least once: it may hand out
a message again that was not acknowledged, and pass over messages that have left
the stream or were acknowledged before.  Both are a `seek` of the loop.
-/

namespace TurbocableServer.Gateway

open Foundations Protocol Pubsub Connection

/-- The fan-out loop is handed the message at place `cursor` of the log next,
and `current` is the one it is busy with.  The `expired` oldest messages of the
log have left the stream.  `fanned` records the messages that went to the
registry; nothing reads it. -/
structure Node where
  sys : RegSystem
  sessions : ConnId → Session
  log : MessageLog
  expired : Nat
  cursor : Nat
  current : Option StoredMessage
  fanned : List StoredMessage
  shutdown : Bool

/-- What a replay task waits for, as far as the node does not determine it. -/
inductive ReplayInput where
  | permit (granted : Bool)
  | info (failure : Option String)
  | opened (failure : Option String)
  | fetched (event : FetchEvent)
  | answer

inductive NodeAction where
  | publish (subject : String) (payload : ByteArray)
  | accept (conn : ConnId) (ctx : ConnContext)
  | advance (conn : ConnId)
  | frame (conn : ConnId) (frame : Option ClientFrame)
  | ping (conn : ConnId) (timestamp : Nat)
  | hangup (conn : ConnId)
  | effect (conn : ConnId) (succeeds : Bool)
  | outbound (conn : ConnId) (ok : Bool)
  | replay (conn : ConnId) (index : Nat) (input : ReplayInput)
  | expire
  | seek (position : Nat)
  | fanNext (allow : Bool)
  | fanDeliver
  | fanRelease
  | fanEvict
  | shutdown

/-- The registry call an effect stands for. -/
def registryCall (conn : ConnId) : Effect → Option RegAction
  | .registrySubscribe stream => some (.subscribe conn stream)
  | .registryUnsubscribe stream => some (.unsubscribe conn stream)
  | .registryDeregister => some (.deregister conn)
  | _ => none

/-- The point of the registry task at which the connection task is free to
perform an effect. -/
def effectPoint : Effect → TaskPc
  | .dropSenders => .gone
  | _ => .ready

namespace Node

/-- A node before its first connection. -/
def initial (env : Environment) (log : MessageLog) (cursor : Nat) :
    Node where
  sys := RegSystem.initial
  sessions := fun _ => Session.unborn env
  log := log
  expired := 0
  cursor := cursor
  current := none
  fanned := []
  shutdown := false

def publish (node : Node) (subject : String) (payload : ByteArray) : Node :=
  { node with log := node.log.publish subject payload }

/-- The messages the stream still has. -/
def stock (node : Node) : MessageLog :=
  node.log.retained node.expired

def stimulus (node : Node) : ReplayInput → ReplayStimulus
  | .permit granted => .permit granted
  | .info none => .info (.ok node.stock.info)
  | .info (some reason) => .info (.error reason)
  | .opened none => .opened (.ok ()) node.log.messages.length
  | .opened (some reason) => .opened (.error reason) node.log.messages.length
  | .fetched event => .fetched event
  | .answer => .answer

def setSession (node : Node) (conn : ConnId) (session : Session) : Node :=
  { node with sessions := Function.update node.sessions conn session }

section

variable (env : Environment) (node : Node)

/-- Only the session of `conn` moves. -/
def onSession (conn : ConnId) (action : SessionAction) : Option Node :=
  ((node.sessions conn).step env action).map (node.setSession conn)

/-- A registry access; when it removes the entry of `conn`, the senders in the
entry are dropped. -/
def access (conn : ConnId) (action : RegAction) : Option Node :=
  match node.sys.step action with
  | none => none
  | some sys =>
      if conn ∈ node.sys.reg.connections ∧ conn ∉ sys.reg.connections then
        onSession env { node with sys := sys } conn .forget
      else
        some { node with sys := sys }

/-- The first effect of a connection task that is at the point for it. -/
def performEffect (conn : ConnId) (succeeds : Bool) : Effect → Option Node
  | .publish identifier data =>
      onSession env
        (if succeeds then node.publish (subjectOf identifier) data.toUTF8
        else node)
        conn .effect
  | effect =>
      match registryCall conn effect with
      | some call =>
          match node.sys.step call with
          | none => none
          | some sys => onSession env { node with sys := sys } conn .effect
      | none => onSession env node conn .effect

/-- The next subscriber of the scan. -/
def deliver : Option Node :=
  match node.sys.fan, node.current with
  | .scanning _ (conn :: _) _, some message =>
      if conn ∈ node.sys.reg.connections then
        match onSession env node conn
            (.deliver (liveFrame env.decodePayload message)) with
        | some delivered =>
            (node.sys.step (.deliver true)).map
              (fun sys => { delivered with sys := sys })
        | none =>
            (onSession env node conn .refuse).bind (fun refused =>
              (node.sys.step (.deliver false)).map
                (fun sys => { refused with sys := sys }))
      else
        (node.sys.step (.deliver true)).map
          (fun sys => { node with sys := sys })
  | _, _ => none

/-- The fan-out loop takes its next message; the rate limiter may drop it. -/
def takeNext (allow : Bool) : Option Node :=
  if node.sys.fan = .idle then
    match node.log.messages[node.cursor]? with
    | none => none
    | some message =>
        if allow then
          (node.sys.step (.fanout message.stream)).map (fun sys =>
            { node with
              sys := sys
              cursor := node.cursor + 1
              current := some message
              fanned := node.fanned ++ [message] })
        else
          some { node with cursor := node.cursor + 1 }
  else
    none

def step : NodeAction → Option Node
  | .publish subject payload => some (node.publish subject payload)
  | .accept conn ctx =>
      match node.sys.step (.register conn ⟨conn, conn, ctx.isBinary⟩) with
      | none => none
      | some sys =>
          onSession env { node with sys := sys } conn (.accept ctx)
  | .advance conn => access env node conn (.advance conn)
  | .frame conn frame =>
      if node.sys.task conn = .ready then
        onSession env node conn (.frame frame)
      else
        none
  | .ping conn timestamp =>
      if node.sys.task conn = .ready then
        onSession env node conn (.ping timestamp)
      else
        none
  | .hangup conn =>
      if node.sys.task conn = .ready then
        onSession env node conn .hangup
      else
        none
  | .effect conn succeeds =>
      match (node.sessions conn).todo with
      | [] => none
      | effect :: _ =>
          if node.sys.task conn = effectPoint effect then
            performEffect env node conn succeeds effect
          else
            none
  | .outbound conn ok => onSession env node conn (.outbound ok node.shutdown)
  | .replay conn index input =>
      onSession env node conn (.replay index (node.stimulus input))
  | .expire =>
      if node.expired < node.log.messages.length then
        some { node with expired := node.expired + 1 }
      else
        none
  | .seek position =>
      if node.sys.fan = .idle ∧ position ≤ node.log.messages.length then
        some { node with cursor := position }
      else
        none
  | .fanNext allow => takeNext node allow
  | .fanDeliver => deliver env node
  | .fanRelease =>
      (node.sys.step .release).map (fun sys => { node with sys := sys })
  | .fanEvict =>
      match node.sys.fan with
      | .evicting conn _ _ => access env node conn .evict
      | _ => none
  | .shutdown => some { node with shutdown := true }

end

/-! ## Inversion -/

/-- The actions that move one session and nothing else. -/
inductive LocalMove (node : Node) :
    NodeAction → ConnId → SessionAction → Prop
  | frame (conn : ConnId) (frame : Option ClientFrame) :
      node.sys.task conn = .ready →
      LocalMove node (.frame conn frame) conn (.frame frame)
  | ping (conn : ConnId) (timestamp : Nat) :
      node.sys.task conn = .ready →
      LocalMove node (.ping conn timestamp) conn (.ping timestamp)
  | hangup (conn : ConnId) :
      node.sys.task conn = .ready →
      LocalMove node (.hangup conn) conn .hangup
  | effect (conn : ConnId) (succeeds : Bool) (effect : Effect)
      (rest : List Effect) :
      (node.sessions conn).todo = effect :: rest →
      node.sys.task conn = effectPoint effect →
      registryCall conn effect = none →
      LocalMove node (.effect conn succeeds) conn .effect
  | outbound (conn : ConnId) (ok : Bool) :
      LocalMove node (.outbound conn ok) conn (.outbound ok node.shutdown)
  | replay (conn : ConnId) (index : Nat) (input : ReplayInput) :
      LocalMove node (.replay conn index input) conn
        (.replay index (node.stimulus input))

/-- The moves of a node. -/
inductive Steps (env : Environment) (node : Node) :
    NodeAction → Node → Prop
  | publish (subject : String) (payload : ByteArray) :
      Steps env node (.publish subject payload) (node.publish subject payload)
  | accept (conn : ConnId) (ctx : ConnContext) (sys : RegSystem)
      (session : Session) :
      node.sys.step (.register conn ⟨conn, conn, ctx.isBinary⟩) = some sys →
      (node.sessions conn).step env (.accept ctx) = some session →
      Steps env node (.accept conn ctx)
        ({ node with sys := sys }.setSession conn session)
  | advance (conn : ConnId) (sys : RegSystem) :
      node.sys.step (.advance conn) = some sys →
      (conn ∈ node.sys.reg.connections → conn ∈ sys.reg.connections) →
      Steps env node (.advance conn) { node with sys := sys }
  | advanceForget (conn : ConnId) (sys : RegSystem) (session : Session) :
      node.sys.step (.advance conn) = some sys →
      conn ∈ node.sys.reg.connections → conn ∉ sys.reg.connections →
      (node.sessions conn).step env .forget = some session →
      Steps env node (.advance conn)
        ({ node with sys := sys }.setSession conn session)
  | onSession (label : NodeAction) (conn : ConnId) (action : SessionAction)
      (session : Session) :
      LocalMove node label conn action →
      (node.sessions conn).step env action = some session →
      Steps env node label (node.setSession conn session)
  | call (conn : ConnId) (succeeds : Bool) (effect : Effect)
      (rest : List Effect) (call : RegAction) (sys : RegSystem)
      (session : Session) :
      (node.sessions conn).todo = effect :: rest →
      registryCall conn effect = some call →
      node.sys.task conn = .ready →
      node.sys.step call = some sys →
      (node.sessions conn).step env .effect = some session →
      Steps env node (.effect conn succeeds)
        ({ node with sys := sys }.setSession conn session)
  | published (conn : ConnId) (identifier data : String)
      (rest : List Effect) (session : Session) :
      (node.sessions conn).todo = .publish identifier data :: rest →
      node.sys.task conn = .ready →
      (node.sessions conn).step env .effect = some session →
      Steps env node (.effect conn true)
        ((node.publish (subjectOf identifier) data.toUTF8).setSession conn
          session)
  | expire :
      node.expired < node.log.messages.length →
      Steps env node .expire { node with expired := node.expired + 1 }
  | seek (position : Nat) :
      node.sys.fan = .idle → position ≤ node.log.messages.length →
      Steps env node (.seek position) { node with cursor := position }
  | fanSkip (message : StoredMessage) :
      node.sys.fan = .idle → node.log.messages[node.cursor]? = some message →
      Steps env node (.fanNext false) { node with cursor := node.cursor + 1 }
  | fanNext (message : StoredMessage) (sys : RegSystem) :
      node.sys.fan = .idle → node.log.messages[node.cursor]? = some message →
      node.sys.step (.fanout message.stream) = some sys →
      Steps env node (.fanNext true)
        { node with
          sys := sys
          cursor := node.cursor + 1
          current := some message
          fanned := node.fanned ++ [message] }
  | delivered (stream : String) (conn : ConnId) (todo evicted : List ConnId)
      (message : StoredMessage) (sys : RegSystem) (session : Session) :
      node.sys.fan = .scanning stream (conn :: todo) evicted →
      node.current = some message →
      conn ∈ node.sys.reg.connections →
      (node.sessions conn).step env
          (.deliver (liveFrame env.decodePayload message)) = some session →
      node.sys.step (.deliver true) = some sys →
      Steps env node .fanDeliver
        ({ node with sys := sys }.setSession conn session)
  | refused (stream : String) (conn : ConnId) (todo evicted : List ConnId)
      (message : StoredMessage) (sys : RegSystem) (session : Session) :
      node.sys.fan = .scanning stream (conn :: todo) evicted →
      node.current = some message →
      conn ∈ node.sys.reg.connections →
      (node.sessions conn).step env
          (.deliver (liveFrame env.decodePayload message)) = none →
      (node.sessions conn).step env .refuse = some session →
      node.sys.step (.deliver false) = some sys →
      Steps env node .fanDeliver
        ({ node with sys := sys }.setSession conn session)
  | absent (stream : String) (conn : ConnId) (todo evicted : List ConnId)
      (message : StoredMessage) (sys : RegSystem) :
      node.sys.fan = .scanning stream (conn :: todo) evicted →
      node.current = some message →
      conn ∉ node.sys.reg.connections →
      node.sys.step (.deliver true) = some sys →
      Steps env node .fanDeliver { node with sys := sys }
  | fanRelease (sys : RegSystem) :
      node.sys.step .release = some sys →
      Steps env node .fanRelease { node with sys := sys }
  | fanEvict (conn : ConnId) (pc : DeregPc) (rest : List ConnId)
      (sys : RegSystem) :
      node.sys.fan = .evicting conn pc rest →
      node.sys.step .evict = some sys →
      (conn ∈ node.sys.reg.connections → conn ∈ sys.reg.connections) →
      Steps env node .fanEvict { node with sys := sys }
  | fanForget (conn : ConnId) (pc : DeregPc) (rest : List ConnId)
      (sys : RegSystem) (session : Session) :
      node.sys.fan = .evicting conn pc rest →
      node.sys.step .evict = some sys →
      conn ∈ node.sys.reg.connections → conn ∉ sys.reg.connections →
      (node.sessions conn).step env .forget = some session →
      Steps env node .fanEvict
        ({ node with sys := sys }.setSession conn session)
  | shutdown : Steps env node .shutdown { node with shutdown := true }

section

variable {env : Environment} {node next : Node}

private theorem onSession_eq_some {conn : ConnId} {action : SessionAction}
    (moved : onSession env node conn action = some next) :
    ∃ session,
      (node.sessions conn).step env action = some session ∧
        next = node.setSession conn session := by
  obtain ⟨session, stepped, rfl⟩ := Option.map_eq_some_iff.mp moved
  exact ⟨session, stepped, rfl⟩

private theorem access_eq_some {conn : ConnId} {action : RegAction}
    (moved : access env node conn action = some next) :
    ∃ sys, node.sys.step action = some sys ∧
      ((conn ∈ node.sys.reg.connections → conn ∈ sys.reg.connections) ∧
          next = { node with sys := sys } ∨
        ∃ session,
          conn ∈ node.sys.reg.connections ∧ conn ∉ sys.reg.connections ∧
            (node.sessions conn).step env .forget = some session ∧
            next = { node with sys := sys }.setSession conn session) := by
  unfold access at moved
  split at moved
  · cases moved
  · rename_i sys accessed
    refine ⟨sys, accessed, ?_⟩
    split at moved
    · rename_i removed
      obtain ⟨session, stepped, isNext⟩ := onSession_eq_some moved
      exact Or.inr ⟨session, removed.1, removed.2, stepped, isNext⟩
    · rename_i kept
      refine Or.inl ⟨?_, (Option.some.inj moved).symm⟩
      intro present
      by_contra missing
      exact kept ⟨present, missing⟩

private theorem steps_of_performEffect {conn : ConnId} {succeeds : Bool}
    {effect : Effect} {rest : List Effect}
    (todo : (node.sessions conn).todo = effect :: rest)
    (point : node.sys.task conn = effectPoint effect)
    (moved : performEffect env node conn succeeds effect = some next) :
    Steps env node (.effect conn succeeds) next := by
  unfold performEffect at moved
  split at moved
  · rename_i identifier data
    split at moved
    · rename_i published
      obtain ⟨session, stepped, rfl⟩ := onSession_eq_some moved
      rw [published]
      exact .published conn identifier data rest session todo point stepped
    · obtain ⟨session, stepped, rfl⟩ := onSession_eq_some moved
      exact .onSession _ conn .effect session
        (.effect conn succeeds _ rest todo point rfl) stepped
  · split at moved
    · rename_i call isCall
      split at moved
      · cases moved
      · rename_i sys accessed
        obtain ⟨session, stepped, rfl⟩ := onSession_eq_some moved
        have ready : node.sys.task conn = .ready := by
          rw [point]
          cases effect <;> first | rfl | cases isCall
        exact .call conn succeeds effect rest call sys session todo isCall
          ready accessed stepped
    · rename_i notCall
      obtain ⟨session, stepped, rfl⟩ := onSession_eq_some moved
      exact .onSession _ conn .effect session
        (.effect conn succeeds effect rest todo point notCall) stepped

private theorem steps_of_deliver (moved : deliver env node = some next) :
    Steps env node .fanDeliver next := by
  unfold deliver at moved
  split at moved
  · rename_i stream conn todo evicted message scanning current
    split at moved
    · rename_i present
      split at moved
      · rename_i delivered accepted
        obtain ⟨session, stepped, rfl⟩ := onSession_eq_some accepted
        obtain ⟨sys, accessed, rfl⟩ := Option.map_eq_some_iff.mp moved
        exact .delivered stream conn todo evicted message sys session scanning
          current present stepped accessed
      · rename_i declined
        obtain ⟨refused, signalled, moved⟩ := Option.bind_eq_some_iff.mp moved
        obtain ⟨session, stepped, rfl⟩ := onSession_eq_some signalled
        obtain ⟨sys, accessed, rfl⟩ := Option.map_eq_some_iff.mp moved
        have noRoom := Option.map_eq_none_iff.mp declined
        exact .refused stream conn todo evicted message sys session scanning
          current present noRoom stepped accessed
    · rename_i missing
      obtain ⟨sys, accessed, rfl⟩ := Option.map_eq_some_iff.mp moved
      exact .absent stream conn todo evicted message sys scanning current
        missing accessed
  · cases moved

private theorem steps_of_takeNext {allow : Bool}
    (moved : takeNext node allow = some next) :
    Steps env node (.fanNext allow) next := by
  unfold takeNext at moved
  split at moved
  · rename_i idle
    split at moved
    · cases moved
    · rename_i message present
      split at moved
      · rename_i allowed
        obtain ⟨sys, accessed, rfl⟩ := Option.map_eq_some_iff.mp moved
        rw [allowed]
        exact .fanNext message sys idle present accessed
      · rename_i dropped
        obtain rfl := Option.some.inj moved
        rw [show allow = false by simpa using dropped]
        exact .fanSkip message idle present
  · cases moved

theorem steps_of_step {action : NodeAction}
    (moved : node.step env action = some next) :
    Steps env node action next := by
  cases action with
  | publish subject payload =>
      obtain rfl := Option.some.inj moved
      exact .publish subject payload
  | accept conn ctx =>
      simp only [step] at moved
      split at moved
      · cases moved
      · rename_i sys registered
        obtain ⟨session, stepped, rfl⟩ := onSession_eq_some moved
        exact .accept conn ctx sys session registered stepped
  | advance conn =>
      obtain ⟨sys, accessed, ⟨kept, rfl⟩ |
        ⟨session, present, removed, stepped, rfl⟩⟩ := access_eq_some moved
      · exact .advance conn sys accessed kept
      · exact .advanceForget conn sys session accessed present removed stepped
  | frame conn frame =>
      simp only [step] at moved
      split at moved
      · rename_i ready
        obtain ⟨session, stepped, rfl⟩ := onSession_eq_some moved
        exact .onSession _ conn _ session (.frame conn frame ready) stepped
      · cases moved
  | ping conn timestamp =>
      simp only [step] at moved
      split at moved
      · rename_i ready
        obtain ⟨session, stepped, rfl⟩ := onSession_eq_some moved
        exact .onSession _ conn _ session (.ping conn timestamp ready) stepped
      · cases moved
  | hangup conn =>
      simp only [step] at moved
      split at moved
      · rename_i ready
        obtain ⟨session, stepped, rfl⟩ := onSession_eq_some moved
        exact .onSession _ conn _ session (.hangup conn ready) stepped
      · cases moved
  | effect conn succeeds =>
      simp only [step] at moved
      split at moved
      · cases moved
      · rename_i effect rest todo
        split at moved
        · rename_i point
          exact steps_of_performEffect todo point moved
        · cases moved
  | outbound conn ok =>
      obtain ⟨session, stepped, rfl⟩ := onSession_eq_some moved
      exact .onSession _ conn _ session (.outbound conn ok) stepped
  | replay conn index input =>
      obtain ⟨session, stepped, rfl⟩ := onSession_eq_some moved
      exact .onSession _ conn _ session (.replay conn index input) stepped
  | expire =>
      simp only [step] at moved
      split at moved
      · rename_i present
        obtain rfl := Option.some.inj moved
        exact .expire present
      · cases moved
  | seek position =>
      simp only [step] at moved
      split at moved
      · rename_i idle
        obtain rfl := Option.some.inj moved
        exact .seek position idle.1 idle.2
      · cases moved
  | fanNext allow =>
      exact steps_of_takeNext moved
  | fanDeliver =>
      exact steps_of_deliver moved
  | fanRelease =>
      obtain ⟨sys, accessed, rfl⟩ := Option.map_eq_some_iff.mp moved
      exact .fanRelease sys accessed
  | fanEvict =>
      simp only [step] at moved
      split at moved
      · rename_i conn pc rest evicting
        obtain ⟨sys, accessed, ⟨kept, rfl⟩ |
          ⟨session, present, removed, stepped, rfl⟩⟩ := access_eq_some moved
        · exact .fanEvict conn pc rest sys evicting accessed kept
        · exact .fanForget conn pc rest sys session evicting accessed present
            removed stepped
      · cases moved
  | shutdown =>
      obtain rfl := Option.some.inj moved
      exact .shutdown

end

end Node

end TurbocableServer.Gateway
