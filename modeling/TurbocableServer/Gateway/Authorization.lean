import TurbocableServer.Gateway.Origins

/-!
# Stream authorization

The token of a connection is checked against the identifier a client sends,
while the registry and the fan-out work with the stream key inside it.  What a
connection is registered for and what is enqueued to it is therefore covered by
the token exactly when the patterns of the token allow the key of every
identifier they allow.
-/

namespace TurbocableServer.Gateway.Node

open Foundations Protocol Pubsub Connection Auth

/-- The streams `conn` is registered for and the messages enqueued to it are
allowed by `patterns`. -/
structure CoveredBy (patterns : List String) (node : Node) (conn : ConnId) :
    Prop where
  registered :
    ∀ stream,
      conn ∈ node.sys.reg.subscribers stream ∨
          stream ∈ node.sys.reg.streamsOf conn →
        isAllowed patterns stream = true
  enqueued :
    ∀ frame stream, frame ∈ (node.sessions conn).out.live.sent →
      identifierField frame = some stream →
        isAllowed patterns stream = true

/-- Whatever its clients send, a node registers and serves connections whose
token carries `patterns` only for streams that `patterns` allow. -/
def DeliveryAuthorized (env : Environment) (patterns : List String) : Prop :=
  ∀ log cursor node conn,
    Reaches (step env) (fun _ _ => True) (initial env log cursor) node →
      (node.sessions conn).ctx.allowedStreams = patterns →
        node.CoveredBy patterns conn

variable {env : Environment} {node : Node} {conn : ConnId}

theorem Traced.coveredBy {patterns : List String} (traced : node.Traced env)
    (token : (node.sessions conn).ctx.allowedStreams = patterns)
    (closed :
      ∀ identifier, isAllowed patterns identifier = true →
        isAllowed patterns (env.streamKey identifier) = true) :
    node.CoveredBy patterns conn := by
  have covered :
      ∀ {stream}, (node.sessions conn).Subscribed env stream →
        isAllowed patterns stream = true := by
    rintro stream ⟨identifier, -, allowed, rfl⟩
    rw [token] at allowed
    exact closed identifier allowed
  constructor
  · rintro stream (listed | held)
    · exact covered (traced.wanted conn stream (Or.inl (Or.inl listed)))
    · exact covered
        (traced.wanted conn stream (Or.inl (Or.inr (Or.inl held))))
  · intro frame stream member ofStream
    exact covered ((traced.sessions conn).enqueued frame stream member ofStream)

/-! ## A client subscribes -/

theorem step_frame (ready : node.sys.task conn = .ready)
    (idle : (node.sessions conn).Idle) (frame : Option ClientFrame) :
    node.step env (.frame conn frame) =
      some (node.setSession conn
        ((node.sessions conn).receive env frame)) := by
  simp [step, onSession, Session.step, ready, idle]

/-- The first access of `subscribe`. -/
theorem step_subscribe {stream : String} {rest : List Effect}
    {held : List String}
    (todo : (node.sessions conn).todo = .registrySubscribe stream :: rest)
    (ready : node.sys.task conn = .ready)
    (present : node.sys.reg.connStreams.lookup conn = some held)
    (absent : stream ∉ held) (succeeds : Bool) :
    node.step env (.effect conn succeeds) =
      some ({ node with
          sys := node.sys.move conn node.sys.reg (.pushing stream) }.setSession
        conn { node.sessions conn with todo := rest }) := by
  simp [step, performEffect, todo, effectPoint, ready, registryCall,
    RegSystem.step, present, absent, onSession, Session.step,
    Session.performEffect]

/-- The access of `subscribe` that puts the connection on the list. -/
theorem step_push {stream : String}
    (pushing : node.sys.task conn = .pushing stream)
    (idle : node.sys.fan = .idle) :
    node.step env (.advance conn) =
      some { node with
        sys := node.sys.move conn (node.sys.reg.pushSubscriber stream conn)
          (.recording stream) } := by
  simp [step, access, RegSystem.step, RegSystem.advance, pushing,
    RegSystem.readLocked, idle, RegSystem.move]

/-- An effect of the connection task that needs neither the registry nor the
log. -/
theorem step_effect {effect : Effect} {rest : List Effect} {session : Session}
    (todo : (node.sessions conn).todo = effect :: rest)
    (ready : node.sys.task conn = .ready)
    (point : effectPoint effect = .ready)
    (isOwn : node.performEffect env conn true effect =
      onSession env node conn .effect)
    (performed :
      (node.sessions conn).performEffect env rest effect = some session) :
    node.step env (.effect conn true) =
      some (node.setSession conn session) := by
  simp [step, todo, ready, point, isOwn, onSession, Session.step, performed]

/-- A client can connect. -/
theorem exists_connected (env : Environment) (ctx : ConnContext) :
    ∃ node,
      Reaches (step env) (fun _ _ => True) (initial env .empty 0) node ∧
        node.sys.task 0 = .ready ∧ node.sys.fan = .idle ∧
        node.sys.reg.connStreams.lookup 0 = some [] ∧
        (node.sessions 0).Idle ∧ (node.sessions 0).ctx = ctx := by
  have accepted :
      ∃ node,
        execute (step env) (fun _ _ => True) (initial env .empty 0)
            [.accept 0 ctx, .advance 0, .advance 0] = some node ∧
          node.sys.task 0 = .ready ∧ node.sys.fan = .idle ∧
          node.sys.reg.connStreams.lookup 0 = some [] ∧
          (node.sessions 0).phase = .serving ∧
          (node.sessions 0).todo = [.sendLive .welcome, .spawnOutbound] ∧
          (node.sessions 0).out.live = .new env.liveCapacity 2 ∧
          (node.sessions 0).ctx = ctx :=
    ⟨_, rfl, rfl, rfl, Finmap.lookup_insert _, rfl, rfl, rfl, rfl⟩
  obtain ⟨node, completed, ready, idleFan, held, serving, todo, live, isCtx⟩ :=
    accepted
  have sends :
      (node.sessions 0).out.live.send .welcome =
        some ((node.sessions 0).out.live.push .welcome, true) := by
    rw [live]
    simp [Channel.send, Channel.hasRoom, Channel.new, env.liveCapacity_pos]
  have welcomed :=
    (reaches_of_execute completed).tail trivial
      (step_effect todo ready rfl rfl
        (congrArg (Option.map _) sends))
  have spawned :=
    welcomed.tail trivial
      (step_effect (congrArg Session.todo (setSession_sessions_self ..)) ready
        rfl rfl rfl)
  refine ⟨_, spawned, ready, idleFan, held, ?_⟩
  rw [setSession_sessions_self, setSession_sessions_self]
  exact ⟨⟨serving, rfl⟩, isCtx⟩

/-- A client can connect and announce that it understands replay. -/
theorem exists_greeted (env : Environment) (ctx : ConnContext) :
    ∃ node,
      Reaches (step env) (fun _ _ => True) (initial env .empty 0) node ∧
        node.sys.task 0 = .ready ∧ node.sys.fan = .idle ∧
        node.sys.reg.connStreams.lookup 0 = some [] ∧
        (node.sessions 0).Idle ∧ (node.sessions 0).ctx = ctx ∧
        (node.sessions 0).inbound.connState = .active ∧
        (node.sessions 0).inbound.replayCapable = true := by
  obtain ⟨connected, run, ready, idleFan, held, idle, isCtx⟩ :=
    exists_connected env ctx
  have greeted :=
    run.tail trivial
      (step_frame ready idle (some (.hello ⟨none, ["replay_v1"]⟩)))
  refine ⟨_, greeted, ready, idleFan, held, ?_⟩
  rw [setSession_sessions_self]
  exact ⟨⟨idle.1, rfl⟩, isCtx, rfl, rfl⟩

/-- After a hello that announces replay, no mode refuses an allowed
Subscribe. -/
theorem handleClientFrame_subscribe {ctx : ConnContext}
    {state : InboundState} {identifier : String}
    (active : state.connState = .active)
    (capable : state.replayCapable = true)
    (allowed : isAllowed ctx.allowedStreams identifier = true) :
    ∃ rest,
      (handleClientFrame env ctx state
          (some (.command (.subscribe identifier)))).2 =
        .registrySubscribe (env.streamKey identifier) :: rest := by
  cases user : presenceUser env ctx <;>
    simp [handleClientFrame, active, dispatchCommand, dispatchSubscribe,
      capable, allowed, user]

/-- A client whose token allows an identifier can register under its stream
key. -/
theorem exists_subscriber (env : Environment) {patterns : List String}
    {identifier : String} (allowed : isAllowed patterns identifier = true) :
    ∃ node,
      Reaches (step env) (fun _ _ => True) (initial env .empty 0) node ∧
        (node.sessions 0).ctx.allowedStreams = patterns ∧
        0 ∈ node.sys.reg.subscribers (env.streamKey identifier) := by
  obtain ⟨greeted, run, ready, idleFan, held, idle, isCtx, active, capable⟩ :=
    exists_greeted env ⟨false, patterns, none⟩
  have covered :
      isAllowed (greeted.sessions 0).ctx.allowedStreams identifier = true := by
    rw [isCtx]
    exact allowed
  obtain ⟨rest, effects⟩ :=
    @handleClientFrame_subscribe env _ _ identifier active capable covered
  have asked :=
    run.tail trivial
      (step_frame ready idle (some (.command (.subscribe identifier))))
  have todo :
      ((greeted.setSession 0 ((greeted.sessions 0).receive env
          (some (.command (.subscribe identifier))))).sessions 0).todo =
        .registrySubscribe (env.streamKey identifier) :: rest := by
    rw [setSession_sessions_self]
    exact effects
  have begun :=
    asked.tail trivial
      (step_subscribe todo ready held List.not_mem_nil true)
  have pushed :=
    begun.tail trivial (step_push (RegSystem.move_task_self ..) idleFan)
  refine ⟨_, pushed, ?_, ?_⟩
  · simp [Session.receive, isCtx]
  · simp [RegSystem.move, Registry.mem_subscribers_pushSubscriber]

/-- Deliveries are authorized exactly when the patterns allow the stream key of
every identifier they allow. -/
theorem deliveryAuthorized_iff (env : Environment) (patterns : List String) :
    DeliveryAuthorized env patterns ↔
      ∀ identifier, isAllowed patterns identifier = true →
        isAllowed patterns (env.streamKey identifier) = true := by
  constructor
  · intro authorized identifier allowed
    obtain ⟨node, run, token, listed⟩ := exists_subscriber env allowed
    have covered := authorized .empty 0 node 0 run token
    exact covered.registered _ (Or.inl listed)
  · intro closed log cursor node conn run token
    exact (traced_of_reaches run).coveredBy token closed

/-! ## An identifier that hides its stream -/

/-- An ActionCable identifier for the stream `secret`. -/
def secretIdentifier : String := "\x7b\"stream\":\"secret\"\x7d"

/-- A node in the strictest mode, whose JSON parser knows this one text. -/
def secretEnv : Environment :=
  { Environment.fourSlots with
    enforcement := .hardEnforce
    fromStr := fun text =>
      if text = secretIdentifier then
        some (.object [("stream", .string "secret")])
      else
        none }

/-- The token allows every identifier with a leading brace and not `secret`. -/
def bracePatterns : List String := ["\x7b*"]

def secretRun : List NodeAction :=
  [.accept 0 ⟨false, bracePatterns, none⟩, .advance 0, .advance 0,
    .effect 0 true, .effect 0 true,
    .frame 0 (some (.hello ⟨none, ["replay_v1"]⟩)),
    .frame 0 (some (.command (.subscribe secretIdentifier))),
    .effect 0 true, .advance 0, .advance 0,
    .publish (subjectOf "secret") ByteArray.empty,
    .fanNext true, .fanDeliver]

def secretNode : Node :=
  (execute (step secretEnv) (fun _ _ => True) (initial secretEnv .empty 0)
    secretRun).get (by decide)

/-- The connection is registered for a stream its token does not allow, and a
message of that stream is enqueued to it. -/
theorem secret_stream_delivered :
    0 ∈ secretNode.sys.reg.subscribers "secret" ∧
      some "secret" ∈
        (secretNode.sessions 0).out.live.sent.map identifierField ∧
      isAllowed bracePatterns "secret" = false ∧
      ¬ DeliveryAuthorized secretEnv bracePatterns := by
  have listed : 0 ∈ secretNode.sys.reg.subscribers "secret" := by decide
  have refused : isAllowed bracePatterns "secret" = false := by decide
  refine ⟨listed, by decide, refused, fun authorized => ?_⟩
  have covered :=
    authorized .empty 0 secretNode 0 (reaches_execute_get _) (by decide)
  have granted := covered.registered "secret" (Or.inl listed)
  rw [refused] at granted
  cases granted

end TurbocableServer.Gateway.Node
