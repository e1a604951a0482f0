import TurbocableServer.Connection.RegistryFeeds
import TurbocableServer.Gateway.Origins

/-!
# The live feed of a connection

What one step of a node means for the live queue of one connection, and the
invariant that follows: while a connection stays subscribed to a stream, the
frames of the stream enqueued to it are those of the messages fanned out, in
order and without omission, until the connection is served no more.
-/

namespace TurbocableServer.Gateway.Node

open Foundations Protocol Pubsub Connection

variable {env : Environment} {node next begun : Node} {action : NodeAction}
variable {conn : ConnId} {stream : String}

/-- All that was ever put into the live queue of `conn`. -/
def liveSent (node : Node) (conn : ConnId) : List ServerMessage :=
  (node.sessions conn).out.live.sent

/-- The next delivery is to `conn`, and its live queue has no room for it. -/
def refuses (env : Environment) (conn : ConnId) (node : Node) : Bool :=
  match node.sys.fan, node.current with
  | .scanning _ (target :: _) _, some message =>
      target == conn && decide (conn ∈ node.sys.reg.connections) &&
        ((node.sessions conn).out.live.trySend
          (liveFrame env.decodePayload message)).isNone
  | _, _ => false

theorem refuses_of_step {scanned : String} {todo evicted : List ConnId}
    {message : StoredMessage}
    (scanning : node.sys.fan = .scanning scanned (conn :: todo) evicted)
    (current : node.current = some message)
    (present : conn ∈ node.sys.reg.connections)
    (noRoom : (node.sessions conn).step env
      (.deliver (liveFrame env.decodePayload message)) = none) :
    refuses env conn node = true := by
  have full := Option.map_eq_none_iff.mp noRoom
  simp [refuses, scanning, current, present, full]

/-- What a step means for the live queue of `conn`: its frame is delivered, or
the scan passes it by, or the fan-out loop takes a new message, or none of
this. -/
inductive Serves (env : Environment) (node : Node) (action : NodeAction)
    (conn : ConnId) (next : Node) : Prop
  | delivered (scanned : String) (todo evicted : List ConnId)
      (message : StoredMessage) :
      node.sys.fan = .scanning scanned (conn :: todo) evicted →
      node.current = some message →
      conn ∈ node.sys.reg.connections →
      next.sys = { node.sys with fan := .scanning scanned todo evicted } →
      next.fanned = node.fanned →
      next.liveSent conn =
        node.liveSent conn ++ [liveFrame env.decodePayload message] →
      Serves env node action conn next
  | passed (scanned : String) (todo evicted : List ConnId) :
      action = .fanDeliver →
      node.sys.fan = .scanning scanned (conn :: todo) evicted →
      (conn ∈ node.sys.reg.connections →
        refuses env conn node = true ∧
          next.sys =
            { node.sys with
              fan := .scanning scanned todo (evicted ++ [conn]) }) →
      next.fanned = node.fanned →
      next.liveSent conn = node.liveSent conn →
      Serves env node action conn next
  | taken (message : StoredMessage) :
      node.sys.fan = .idle →
      node.sys.step (.fanout message.stream) = some next.sys →
      next.fanned = node.fanned ++ [message] →
      next.current = some message →
      next.liveSent conn = node.liveSent conn →
      Serves env node action conn next
  | quiet (added : List ServerMessage) :
      (∀ stream,
        next.sys.Awaits conn stream ↔ node.sys.Awaits conn stream) →
      next.fanned = node.fanned →
      next.current = node.current →
      next.liveSent conn = node.liveSent conn ++ added →
      (∀ frame, frame ∈ added → identifierField frame = none) →
      Serves env node action conn next

theorem liveSent_setSession_of_ne {other : ConnId}
    (different : conn ≠ other) (session : Session) :
    (node.setSession other session).liveSent conn = node.liveSent conn := by
  rw [liveSent, liveSent, setSession_sessions_of_ne node different]

/-- A step that is no delivery puts no message frame into a live queue. -/
theorem Traced.liveSent_of_not_fanDeliver (traced : node.Traced env)
    (steps : Steps env node action next) (notFan : action ≠ .fanDeliver)
    (conn : ConnId) :
    ∃ added,
      next.liveSent conn = node.liveSent conn ++ added ∧
        ∀ frame, frame ∈ added → identifierField frame = none := by
  rcases steps.session_cases conn with same | ⟨move, isMove, stepped⟩
  · exact ⟨[], by simp [liveSent, same], by simp⟩
  · apply (traced.sessions conn).live_sent (Session.steps_of_step stepped)
    rintro frame rfl
    cases isMove with
    | onSession _ _ isLocal => cases isLocal
    | delivered => exact notFan rfl

private theorem serves_of_call (traced : node.Traced env)
    (steps : Steps env node action next) (notFan : action ≠ .fanDeliver)
    {call : RegAction} (accessed : node.sys.step call = some next.sys)
    (noScan : ∀ wanted, call ≠ .fanout wanted)
    (noDelivery : ∀ accepted, call ≠ .deliver accepted)
    (sameFanned : next.fanned = node.fanned)
    (sameCurrent : next.current = node.current) :
    Serves env node action conn next := by
  obtain ⟨added, extended, noMessages⟩ :=
    traced.liveSent_of_not_fanDeliver steps notFan conn
  refine .quiet added ?_ sameFanned sameCurrent extended noMessages
  intro stream
  exact RegSystem.awaits_iff_of_step accessed noScan
    (fun accepted _ _ _ isDeliver => absurd isDeliver (noDelivery accepted))

private theorem serves_of_same_sys (traced : node.Traced env)
    (steps : Steps env node action next) (notFan : action ≠ .fanDeliver)
    (sameSys : next.sys = node.sys)
    (sameFanned : next.fanned = node.fanned)
    (sameCurrent : next.current = node.current) :
    Serves env node action conn next := by
  obtain ⟨added, extended, noMessages⟩ :=
    traced.liveSent_of_not_fanDeliver steps notFan conn
  exact .quiet added (fun _ => by rw [sameSys]) sameFanned sameCurrent extended
    noMessages

/-- A delivery to another connection. -/
private theorem serves_of_other_delivery {scanned : String}
    {target : ConnId} {todo evicted : List ConnId} {accepted : Bool}
    (different : conn ≠ target)
    (scanning : node.sys.fan = .scanning scanned (target :: todo) evicted)
    (accessed : node.sys.step (.deliver accepted) = some next.sys)
    (sameFanned : next.fanned = node.fanned)
    (sameCurrent : next.current = node.current)
    (sameSent : next.liveSent conn = node.liveSent conn) :
    Serves env node action conn next := by
  refine .quiet [] ?_ sameFanned sameCurrent (by simp [sameSent]) (by simp)
  intro stream
  refine RegSystem.awaits_iff_of_step accessed (by simp) ?_
  intro _ _ _ _ _ other
  rw [scanning] at other
  cases other
  exact different rfl

theorem Traced.serves (traced : node.Traced env)
    (steps : Steps env node action next) (conn : ConnId) :
    Serves env node action conn next := by
  have whole := steps
  cases steps with
  | delivered scanned target todo evicted message sys session scanning current
      present stepped accessed =>
      by_cases same : conn = target
      · subst same
        refine .delivered scanned todo evicted message scanning current present
          ?_ rfl ?_
        · exact Option.some.inj
            (accessed.symm.trans (RegSystem.step_deliver_true scanning))
        · cases Session.steps_of_step stepped with
          | deliver _ live accepted =>
              rw [liveSent, setSession_sessions_self, liveSent,
                ← Channel.sent_push, ← Channel.trySend_eq_some accepted]
              rfl
      · exact serves_of_other_delivery same scanning accessed rfl rfl
          (liveSent_setSession_of_ne same _)
  | refused scanned target todo evicted message sys session scanning current
      present noRoom stepped accessed =>
      by_cases same : conn = target
      · subst same
        refine .passed scanned todo evicted rfl scanning ?_ rfl ?_
        · intro _
          exact ⟨refuses_of_step scanning current present noRoom,
            Option.some.inj (accessed.symm.trans
              (RegSystem.step_deliver_false scanning present))⟩
        · cases Session.steps_of_step stepped with
          | refuse evict =>
              rw [liveSent, setSession_sessions_self]
              rfl
      · exact serves_of_other_delivery same scanning accessed rfl rfl
          (liveSent_setSession_of_ne same _)
  | absent scanned target todo evicted message sys scanning current missing
      accessed =>
      by_cases same : conn = target
      · subst same
        exact .passed scanned todo evicted rfl scanning
          (fun present => absurd present missing) rfl rfl
      · exact serves_of_other_delivery same scanning accessed rfl rfl rfl
  | fanNext message sys idle present accessed =>
      exact .taken message idle accessed rfl rfl rfl
  | accept target ctx sys session registered stepped =>
      exact serves_of_call traced whole (by simp) registered (by simp)
        (by simp) rfl rfl
  | advance target sys accessed kept
  | advanceForget target sys session accessed present removed stepped =>
      exact serves_of_call traced whole (by simp) accessed (by simp)
        (by simp) rfl rfl
  | call target succeeds effect rest call sys session todo isCall ready
      accessed stepped =>
      refine serves_of_call traced whole (by simp) accessed ?_ ?_ rfl rfl <;>
        rcases registryCall_cases isCall with
          ⟨-, -, rfl⟩ | ⟨-, -, rfl⟩ | ⟨-, rfl⟩ <;> simp
  | fanRelease sys accessed
  | fanEvict target pc rest sys evicting accessed kept
  | fanForget target pc rest sys session evicting accessed present removed
      stepped =>
      exact serves_of_call traced whole (by simp) accessed (by simp)
        (by simp) rfl rfl
  | onSession label target move session isLocal stepped =>
      refine serves_of_same_sys traced whole ?_ rfl rfl rfl
      rintro rfl
      cases isLocal
  | _ => exact serves_of_same_sys traced whole (by simp) rfl rfl rfl

/-! ## Frames of a stream -/

/-- The frames fanned out for the messages of `stream`. -/
def feedOf (env : Environment) (stream : String)
    (messages : List StoredMessage) : List ServerMessage :=
  (messages.filter (fun message => message.stream = stream)).map
    (liveFrame env.decodePayload)

@[simp]
theorem feedOf_append (left right : List StoredMessage) :
    feedOf env stream (left ++ right) =
      feedOf env stream left ++ feedOf env stream right := by
  simp [feedOf]

theorem feedOf_of_stream {message : StoredMessage}
    (ofStream : message.stream = stream) :
    feedOf env stream [message] = [liveFrame env.decodePayload message] := by
  simp [feedOf, ofStream]

theorem feedOf_of_other {message : StoredMessage}
    (other : message.stream ≠ stream) : feedOf env stream [message] = [] := by
  simp [feedOf, other]

/-- The live frames of `stream` among the frames of a queue. -/
def liveOf (stream : String) (frames : List ServerMessage) :
    List ServerMessage :=
  frames.filter (isLiveOf stream)

@[simp]
theorem liveOf_append (left right : List ServerMessage) :
    liveOf stream (left ++ right) =
      liveOf stream left ++ liveOf stream right := by
  simp [liveOf]

theorem liveOf_liveFrame (message : StoredMessage) :
    liveOf stream [liveFrame env.decodePayload message] =
      feedOf env stream [message] := by
  by_cases ofStream : message.stream = stream <;>
    simp [liveOf, feedOf, isLiveOf, liveFrame, ofStream]

theorem liveOf_eq_nil {frames : List ServerMessage}
    (noMessages : ∀ frame, frame ∈ frames → identifierField frame = none) :
    liveOf stream frames = [] := by
  rw [liveOf, List.filter_eq_nil_iff]
  intro frame member
  rw [Session.isLiveOf_eq_false (noMessages frame member)]
  exact Bool.false_ne_true

/-! ## Following a stream -/

/-- `conn` is on the list of `stream`, and `frames` is what the fan-out of
`messages` owes it, up to a scan that has yet to serve it. -/
structure InStep (env : Environment) (conn : ConnId) (stream : String)
    (node : Node) (frames : List ServerMessage)
    (messages : List StoredMessage) : Prop where
  attached : node.sys.Attached conn stream
  served :
    ¬ node.sys.Awaits conn stream →
      liveOf stream frames = feedOf env stream messages
  awaited :
    node.sys.Awaits conn stream →
      ∃ message,
        node.current = some message ∧
          liveOf stream frames ++ [liveFrame env.decodePayload message] =
            feedOf env stream messages

/-- `frames` is the beginning of what the fan-out of `messages` owes, and
nothing of `stream` will be enqueued any more. -/
structure Stopped (env : Environment) (conn : ConnId) (stream : String)
    (node : Node) (frames : List ServerMessage)
    (messages : List StoredMessage) : Prop where
  halted : node.sys.Halted conn stream
  isPrefix : liveOf stream frames <+: feedOf env stream messages

/-- Since the state `begun`, the live queue of `conn` has been following the
fan-out of `stream`. -/
def Following (env : Environment) (conn : ConnId) (stream : String)
    (begun node : Node) : Prop :=
  ∃ frames messages,
    node.liveSent conn = begun.liveSent conn ++ frames ∧
      node.fanned = begun.fanned ++ messages ∧
      (InStep env conn stream node frames messages ∨
        Stopped env conn stream node frames messages)

section

variable {frames : List ServerMessage} {messages : List StoredMessage}

theorem InStep.isPrefix (inStep : InStep env conn stream node frames messages) :
    liveOf stream frames <+: feedOf env stream messages := by
  by_cases awaits : node.sys.Awaits conn stream
  · obtain ⟨message, -, owed⟩ := inStep.awaited awaits
    rw [← owed]
    exact List.prefix_append _ _
  · rw [inStep.served awaits]

/-- A scan for another stream owes nothing. -/
theorem not_awaits_of_scanning {scanned : String} {todo evicted : List ConnId}
    {sys : RegSystem} (scanning : sys.fan = .scanning scanned todo evicted)
    (absent : scanned = stream → conn ∉ todo) :
    ¬ sys.Awaits conn stream := by
  rintro ⟨waiting, refused, isScan, inTodo⟩
  rw [scanning] at isScan
  cases isScan
  exact absent rfl inTodo

private theorem InStep.delivered
    (inStep : InStep env conn stream node frames messages)
    (traced : node.Traced env) (nodup : node.sys.ScanNodup)
    {scanned : String} {todo evicted : List ConnId} {message : StoredMessage}
    (scanning : node.sys.fan = .scanning scanned (conn :: todo) evicted)
    (current : node.current = some message)
    (isNext : next.sys =
      { node.sys with fan := .scanning scanned todo evicted }) :
    InStep env conn stream next
      (frames ++ [liveFrame env.decodePayload message]) messages := by
  have notInTodo : conn ∉ todo :=
    (List.nodup_cons.mp (nodup scanned _ evicted scanning)).1
  have notAwaited : ¬ next.sys.Awaits conn stream :=
    not_awaits_of_scanning (by rw [isNext]) (fun _ => notInTodo)
  refine ⟨?_, fun _ => ?_, fun awaits => absurd awaits notAwaited⟩
  · rw [isNext]
    exact inStep.attached
  · obtain ⟨busyWith, isCurrent, isStream⟩ :=
      traced.scanned scanned _ evicted scanning
    obtain rfl : message = busyWith :=
      Option.some.inj (current.symm.trans isCurrent)
    rw [liveOf_append, liveOf_liveFrame]
    by_cases ofStream : scanned = stream
    · obtain ⟨same, isSame, owed⟩ :=
        inStep.awaited
          ⟨_, evicted, ofStream ▸ scanning, List.mem_cons_self ..⟩
      obtain rfl : message = same :=
        Option.some.inj (current.symm.trans isSame)
      rw [feedOf_of_stream (isStream.trans ofStream), owed]
    · rw [feedOf_of_other (isStream ▸ ofStream), List.append_nil]
      exact inStep.served
        (not_awaits_of_scanning scanning (fun same => absurd same ofStream))

private theorem InStep.taken
    (inStep : InStep env conn stream node frames messages)
    {message : StoredMessage} (idle : node.sys.fan = .idle)
    (accessed : node.sys.step (.fanout message.stream) = some next.sys)
    (isCurrent : next.current = some message) :
    InStep env conn stream next frames (messages ++ [message]) := by
  have caughtUp :
      liveOf stream frames = feedOf env stream messages := by
    apply inStep.served
    rintro ⟨todo, evicted, scanning, -⟩
    rw [idle] at scanning
    cases scanning
  cases lookup : node.sys.reg.streams.lookup message.stream with
  | none =>
      -- Nobody is on the list, so the message is of another stream.
      have isNext : next.sys = node.sys := by
        simpa [RegSystem.step, idle, lookup] using accessed.symm
      have other : message.stream ≠ stream := by
        rintro rfl
        have listed := inStep.attached.2
        simp [Registry.subscribers, lookup] at listed
      refine ⟨isNext ▸ inStep.attached, fun _ => ?_, fun awaits => ?_⟩
      · rw [feedOf_append, feedOf_of_other other, List.append_nil, caughtUp]
      · rw [isNext] at awaits
        obtain ⟨todo, evicted, scanning, -⟩ := awaits
        rw [idle] at scanning
        cases scanning
  | some subscribers =>
      have isNext :
          next.sys =
            { node.sys with
              fan := .scanning message.stream subscribers [] } := by
        simpa [RegSystem.step, idle, lookup] using accessed.symm
      refine ⟨by rw [isNext]; exact inStep.attached, ?_, ?_⟩
      · intro notAwaited
        have other : message.stream ≠ stream := by
          rintro rfl
          apply notAwaited
          refine ⟨subscribers, [], by rw [isNext], ?_⟩
          have listed := inStep.attached.2
          simpa [Registry.subscribers, lookup] using listed
        rw [feedOf_append, feedOf_of_other other, List.append_nil, caughtUp]
      · rintro ⟨todo, evicted, scanning, -⟩
        rw [isNext] at scanning
        cases scanning
        exact ⟨message, isCurrent, by
          rw [feedOf_append, feedOf_of_stream rfl, caughtUp]⟩

private theorem Stopped.step
    (stopped : Stopped env conn stream node frames messages)
    (traced : node.Traced env) (haltedNext : next.sys.Halted conn stream)
    (serves : Serves env node action conn next) :
    ∃ frames' messages',
      next.liveSent conn = node.liveSent conn ++ frames' ∧
        next.fanned = node.fanned ++ messages' ∧
        Stopped env conn stream next (frames ++ frames')
          (messages ++ messages') := by
  cases serves with
  | delivered scanned todo evicted message scanning current present _
      sameFanned extended =>
      refine ⟨_, [], extended, by rw [sameFanned, List.append_nil], haltedNext,
        ?_⟩
      obtain ⟨busyWith, isCurrent, isStream⟩ :=
        traced.scanned scanned _ evicted scanning
      obtain rfl : message = busyWith :=
        Option.some.inj (current.symm.trans isCurrent)
      have other : message.stream ≠ stream := by
        intro ofStream
        rw [isStream.symm.trans ofStream] at scanning
        exact stopped.halted.not_served scanning present
      rw [liveOf_append, liveOf_liveFrame, feedOf_of_other other]
      simpa using stopped.isPrefix
  | passed scanned todo evicted _ scanning _ sameFanned same =>
      exact ⟨[], [], by rw [same, List.append_nil],
        by rw [sameFanned, List.append_nil], haltedNext,
        by simpa using stopped.isPrefix⟩
  | taken message _ _ extended _ same =>
      refine ⟨[], [message], by rw [same, List.append_nil], extended,
        haltedNext, ?_⟩
      rw [List.append_nil, feedOf_append]
      exact stopped.isPrefix.trans (List.prefix_append _ _)
  | quiet added _ sameFanned _ extended noMessages =>
      refine ⟨added, [], extended, by rw [sameFanned, List.append_nil],
        haltedNext, ?_⟩
      rw [liveOf_append, liveOf_eq_nil noMessages]
      simpa using stopped.isPrefix

theorem InStep.step
    (inStep : InStep env conn stream node frames messages)
    (traced : node.Traced env) (nodup : node.sys.ScanNodup)
    (onList :
      next.sys.Attached conn stream ∨ next.sys.Halted conn stream)
    (serves : Serves env node action conn next) :
    ∃ frames' messages',
      next.liveSent conn = node.liveSent conn ++ frames' ∧
        next.fanned = node.fanned ++ messages' ∧
        (InStep env conn stream next (frames ++ frames')
            (messages ++ messages') ∨
          Stopped env conn stream next (frames ++ frames')
              (messages ++ messages') ∧
            (action = .fanDeliver ∧ refuses env conn node = true ∨
              ¬ next.sys.Attached conn stream)) := by
  cases serves with
  | delivered scanned todo evicted message scanning current _ isNext sameFanned
      extended =>
      refine ⟨_, [], extended, by rw [sameFanned, List.append_nil],
        Or.inl ?_⟩
      rw [List.append_nil]
      exact inStep.delivered traced nodup scanning current isNext
  | passed scanned todo evicted isDeliver scanning refused sameFanned same =>
      -- The connection is registered, so its queue has refused the frame.
      obtain ⟨isRefused, isNext⟩ := refused inStep.attached.1
      refine ⟨[], [], by rw [same, List.append_nil],
        by rw [sameFanned, List.append_nil],
        Or.inr ⟨⟨Or.inl ⟨?_, ?_⟩, ?_⟩, Or.inl ⟨isDeliver, isRefused⟩⟩⟩
      · rw [isNext]
        exact (traced.sound.coherent conn).born_of_listed inStep.attached.2
      · rw [isNext]
        exact Or.inr ⟨List.mem_append_right _ (List.mem_singleton_self conn),
          (List.nodup_cons.mp (nodup scanned _ evicted scanning)).1⟩
      · simpa using inStep.isPrefix
  | taken message idle accessed extended isCurrent same =>
      refine ⟨[], [message], by rw [same, List.append_nil], extended,
        Or.inl ?_⟩
      rw [List.append_nil]
      exact inStep.taken idle accessed isCurrent
  | quiet added sameAwaits sameFanned sameCurrent extended noMessages =>
      refine ⟨added, [], extended, by rw [sameFanned, List.append_nil], ?_⟩
      have sameLive :
          liveOf stream (frames ++ added) = liveOf stream frames := by
        rw [liveOf_append, liveOf_eq_nil noMessages, List.append_nil]
      rw [List.append_nil]
      by_cases attached : next.sys.Attached conn stream
      · left
        refine ⟨attached, ?_, ?_⟩
        · rw [sameAwaits, sameLive]
          exact inStep.served
        · rw [sameAwaits, sameLive, sameCurrent]
          exact inStep.awaited
      · right
        have halted := onList.resolve_left attached
        exact ⟨⟨halted, sameLive ▸ inStep.isPrefix⟩, Or.inr attached⟩

end

/-! ## Runs -/

/-- The next effect of the connection task unsubscribes from `stream`. -/
def unsubscribesNext (stream : String) (session : Session) : Bool :=
  match session.todo with
  | .registryUnsubscribe wanted :: _ => wanted == stream
  | _ => false

/-- The connection task of `conn` does not unsubscribe from `stream`. -/
def StaysSubscribed (conn : ConnId) (stream : String) (node : Node)
    (action : NodeAction) : Prop :=
  effectOf conn action = true →
    unsubscribesNext stream (node.sessions conn) = false

instance (conn : ConnId) (stream : String) (node : Node)
    (action : NodeAction) :
    Decidable (StaysSubscribed conn stream node action) :=
  inferInstanceAs (Decidable (_ → _))

/-- What the registry does in such a step. -/
theorem StaysSubscribed.sys_cases
    (stays : StaysSubscribed conn stream node action)
    (steps : Steps env node action next) :
    next.sys = node.sys ∨
      ∃ call, node.sys.step call = some next.sys ∧
        call ≠ .unsubscribe conn stream := by
  cases steps.sysMove with
  | same unchanged => exact Or.inl unchanged
  | other call notCommand _ accessed =>
      refine Or.inr ⟨call, accessed, ?_⟩
      rintro rfl
      cases notCommand
  | call caller succeeds effect rest call isEffect todo isCall accessed =>
      refine Or.inr ⟨call, accessed, ?_⟩
      rintro rfl
      rcases registryCall_cases isCall with
        ⟨wanted, -, isSubscribe⟩ | ⟨wanted, rfl, isUnsubscribe⟩ |
          ⟨-, isDeregister⟩
      · cases isSubscribe
      · cases isUnsubscribe
        have kept := stays (by simp [isEffect, effectOf])
        simp [unsubscribesNext, todo] at kept
      · cases isDeregister

theorem Following.step (following : Following env conn stream begun node)
    (traced : node.Traced env) (nodup : node.sys.ScanNodup)
    (stays : StaysSubscribed conn stream node action)
    (moved : node.step env action = some next) :
    Following env conn stream begun next := by
  have steps := steps_of_step moved
  have serves := traced.serves steps conn
  have sysCases := stays.sys_cases steps
  obtain ⟨frames, messages, isSent, isFanned, inStep | stopped⟩ := following
  · have onList :
        next.sys.Attached conn stream ∨ next.sys.Halted conn stream := by
      rcases sysCases with same | ⟨call, accessed, notUnsubscribe⟩
      · rw [same]
        exact Or.inl inStep.attached
      · exact inStep.attached.step traced.sound accessed notUnsubscribe
    obtain ⟨frames', messages', sentNext, fannedNext, state⟩ :=
      inStep.step traced nodup onList serves
    exact ⟨frames ++ frames', messages ++ messages',
      by rw [sentNext, isSent, List.append_assoc],
      by rw [fannedNext, isFanned, List.append_assoc],
      state.imp_right And.left⟩
  · have halted : next.sys.Halted conn stream := by
      rcases sysCases with same | ⟨call, accessed, -⟩
      · rw [same]
        exact stopped.halted
      · exact stopped.halted.step traced.sound accessed
    obtain ⟨frames', messages', sentNext, fannedNext, state⟩ :=
      stopped.step traced halted serves
    exact ⟨frames ++ frames', messages ++ messages',
      by rw [sentNext, isSent, List.append_assoc],
      by rw [fannedNext, isFanned, List.append_assoc], Or.inr state⟩

end TurbocableServer.Gateway.Node
