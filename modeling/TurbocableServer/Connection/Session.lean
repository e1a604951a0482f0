import Mathlib.Tactic.Simps.Basic
import TurbocableServer.Connection.Handler
import TurbocableServer.Connection.OutboundLoop
import TurbocableServer.Pubsub.Replay

/-!
# Sessions

One connection with all its tasks: the connection task that reads client frames
and works off their effects, the outbound task, and the replay tasks it has
started.  The registry and the log of messages lie outside: what they do to the
connection (a fan-out delivery, an eviction signal, the loss of its registry
entry) enters as an action.

Frames are kept unencoded.  A session remembers the frames it has handled and
the length of the socket history at its latest hello; nothing reads these.
-/

namespace TurbocableServer.Connection

open Foundations Protocol Pubsub

/-! ## Replay tasks -/

/-- What a replay task enqueues when the replay is over. -/
inductive ReplayAnswer where
  | confirm
  | disconnect (reason : String)
  deriving DecidableEq, Repr

/-- Where the task of a replay stands.  `stored` is the number of messages the
log held when the consumer was created. -/
inductive ReplayPc where
  | queued
  | checking
  | opening
  | streaming (stored : Nat) (cursor : ReplayCursor)
  | answering (answer : ReplayAnswer)
  | ended (confirmed : Bool)
  deriving DecidableEq, Repr

structure ReplayTask where
  identifier : String
  lastSeq : Nat
  pc : ReplayPc
  deriving DecidableEq, Repr

/-- What a replay task waited for. -/
inductive ReplayStimulus where
  | permit (granted : Bool)
  | info (answer : Except String StreamInfo)
  | opened (answer : Except String Unit) (stored : Nat)
  | fetched (event : FetchEvent)
  | answer

/-- The `match result` of the replay task. -/
def replayAnswer : Except ReplayError ReplayDelivery → Option ReplayAnswer
  | .ok delivery => if delivery.peerGone then none else some .confirm
  | .error (.windowExceeded _ _ _) =>
      some (.disconnect "replay_window_exceeded")
  | .error (.truncated _ _ _) => some (.disconnect "replay_truncated")
  | .error (.jetStream _) => some .confirm

/-- The program point after `replay_since` has returned. -/
def concludePc (result : Except ReplayError ReplayDelivery) : ReplayPc :=
  match replayAnswer result with
  | none => .ended false
  | some answer => .answering answer

/-- What a replay task does next: go on by itself, or await a send on the
replay queue or on the urgent queue. -/
inductive TaskMove where
  | go (pc : ReplayPc)
  | enqueue (frame : ServerMessage) (sent gone : ReplayPc)
  | enqueueUrgent (frame : ServerMessage) (after : ReplayPc)

/-- The points a move can lead to. -/
def TaskMove.LeadsTo : TaskMove → ReplayPc → Prop
  | .go pc, target => target = pc
  | .enqueue _ sent gone, target => target = sent ∨ target = gone
  | .enqueueUrgent _ after, target => target = after

/-- One step of a replay task.  A fetched message is taken from the consumer
together with the send of its frame. -/
def taskMove (env : Environment) (task : ReplayTask) :
    ReplayStimulus → Option TaskMove
  | .permit granted =>
      if task.pc = .queued then
        some (.go (if granted then .checking else .ended false))
      else
        none
  | .info answer =>
      if task.pc = .checking then
        match answer with
        | .error reason => some (.go (concludePc (.error (.jetStream reason))))
        | .ok info =>
            match checkWindow task.identifier task.lastSeq info with
            | .error refused => some (.go (concludePc (.error refused)))
            | .ok () => some (.go .opening)
      else
        none
  | .opened answer stored =>
      if task.pc = .opening then
        match answer with
        | .error reason => some (.go (concludePc (.error (.jetStream reason))))
        | .ok () => some (.go (.streaming stored ⟨0, task.lastSeq⟩))
      else
        none
  | .fetched event =>
      match task.pc with
      | .streaming stored cursor =>
          match replayTurn env.decodePayload task.identifier cursor event with
          | .again next => some (.go (.streaming stored next))
          | .send frame next =>
              some (.enqueue frame (.streaming stored next)
                (concludePc (.ok ⟨cursor.count, true⟩)))
          | .finish result => some (.go (concludePc result))
      | _ => none
  | .answer =>
      match task.pc with
      | .answering .confirm =>
          some (.enqueue (.confirmSubscription task.identifier)
            (.ended true) (.ended false))
      | .answering (.disconnect reason) =>
          some (.enqueueUrgent (.disconnect reason (some true))
            (.ended false))
      | _ => none

/-- The moves of a replay task, one constructor for each branch of
`taskMove`. -/
inductive TaskMoves (env : Environment) (task : ReplayTask) :
    ReplayStimulus → TaskMove → Prop
  | permit (granted : Bool) :
      task.pc = .queued →
      TaskMoves env task (.permit granted)
        (.go (if granted then .checking else .ended false))
  | infoFailed (reason : String) :
      task.pc = .checking →
      TaskMoves env task (.info (.error reason)) (.go (.answering .confirm))
  | windowRefused (info : StreamInfo) (refused : ReplayError) :
      task.pc = .checking →
      checkWindow task.identifier task.lastSeq info = .error refused →
      TaskMoves env task (.info (.ok info))
        (.go (concludePc (.error refused)))
  | windowOpen (info : StreamInfo) :
      task.pc = .checking →
      checkWindow task.identifier task.lastSeq info = .ok () →
      TaskMoves env task (.info (.ok info)) (.go .opening)
  | openFailed (reason : String) (stored : Nat) :
      task.pc = .opening →
      TaskMoves env task (.opened (.error reason) stored)
        (.go (.answering .confirm))
  | opened (stored : Nat) :
      task.pc = .opening →
      TaskMoves env task (.opened (.ok ()) stored)
        (.go (.streaming stored ⟨0, task.lastSeq⟩))
  | skipped (stored : Nat) (cursor : ReplayCursor) (seq : Nat)
      (payload : ByteArray) :
      task.pc = .streaming stored cursor →
      seq ≤ cursor.prevSeq →
      TaskMoves env task (.fetched (.message (some seq) payload))
        (.go (.streaming stored cursor))
  | replayed (stored : Nat) (cursor : ReplayCursor) (seq : Nat)
      (payload : ByteArray) :
      task.pc = .streaming stored cursor →
      cursor.prevSeq < seq →
      TaskMoves env task (.fetched (.message (some seq) payload))
        (.enqueue
          (replayedFrame env.decodePayload task.identifier seq payload)
          (.streaming stored ⟨cursor.count + 1, seq⟩) (.ended false))
  | finished (stored : Nat) (cursor : ReplayCursor) (event : FetchEvent)
      (result : Except ReplayError ReplayDelivery) :
      task.pc = .streaming stored cursor →
      replayTurn env.decodePayload task.identifier cursor event =
        .finish result →
      TaskMoves env task (.fetched event) (.go (concludePc result))
  | confirmed :
      task.pc = .answering .confirm →
      TaskMoves env task .answer
        (.enqueue (.confirmSubscription task.identifier) (.ended true)
          (.ended false))
  | disconnected (reason : String) :
      task.pc = .answering (.disconnect reason) →
      TaskMoves env task .answer
        (.enqueueUrgent (.disconnect reason (some true)) (.ended false))

theorem taskMoves_of_taskMove {env : Environment} {task : ReplayTask}
    {stimulus : ReplayStimulus} {move : TaskMove}
    (moved : taskMove env task stimulus = some move) :
    TaskMoves env task stimulus move := by
  cases stimulus with
  | permit granted =>
      simp only [taskMove] at moved
      split at moved
      · rename_i queued
        cases moved
        exact .permit granted queued
      · cases moved
  | info answer =>
      simp only [taskMove] at moved
      split at moved
      · rename_i checking
        split at moved
        · cases moved
          exact .infoFailed _ checking
        · split at moved
          · rename_i refused isRefused
            cases moved
            exact .windowRefused _ refused checking isRefused
          · rename_i isOpen
            cases moved
            exact .windowOpen _ checking isOpen
      · cases moved
  | opened answer stored =>
      simp only [taskMove] at moved
      split at moved
      · rename_i opening
        split at moved
        · cases moved
          exact .openFailed _ stored opening
        · cases moved
          exact .opened stored opening
      · cases moved
  | fetched event =>
      simp only [taskMove] at moved
      split at moved
      · rename_i stored cursor streaming
        split at moved
        · rename_i next again
          obtain ⟨rfl, seq, payload, rfl, older⟩ := replayTurn_eq_again again
          cases moved
          exact .skipped stored next seq payload streaming older
        · rename_i frame next sends
          obtain ⟨seq, payload, rfl, -, newer, rfl, rfl⟩ :=
            replayTurn_eq_send sends
          cases moved
          exact .replayed stored cursor seq payload streaming newer
        · rename_i result finishes
          cases moved
          exact .finished stored cursor event result streaming finishes
      · cases moved
  | answer =>
      simp only [taskMove] at moved
      split at moved
      · rename_i answering
        cases moved
        exact .confirmed answering
      · rename_i reason answering
        cases moved
        exact .disconnected reason answering
      · cases moved

/-! ## Sessions -/

inductive SessionPhase where
  | unborn
  | serving
  | leaving
  | closed
  deriving DecidableEq, Repr

abbrev Outbound := OutboundState ServerMessage ServerMessage

structure Session where
  ctx : ConnContext
  phase : SessionPhase
  inbound : InboundState
  todo : List Effect
  tasks : List ReplayTask
  out : Outbound
  frames : List ClientFrame
  helloAt : Nat

/-- What happens in a session. -/
inductive SessionAction where
  | accept (ctx : ConnContext)
  | frame (frame : Option ClientFrame)
  | ping (timestamp : Nat)
  | hangup
  | effect
  | outbound (ok shutdown : Bool)
  | replay (index : Nat) (stimulus : ReplayStimulus)
  | deliver (frame : ServerMessage)
  | refuse
  | forget

/-- The frame an evicted client receives. -/
def backpressureFrame : ServerMessage :=
  .disconnect "backpressure_reconnect_required" (some true)

/-- The channels of a new connection.  The registry entry holds one live sender
and the eviction sender. -/
def freshOutbound (env : Environment) : Outbound where
  evict := Channel.new 1 1
  urgent := Channel.new 1 1
  replay := Channel.new env.replayCapacity 1
  live := Channel.new env.liveCapacity 2
  evictOpen := true
  urgentOpen := true
  pc := .unspawned
  socket := []

namespace Session

def unborn (env : Environment) : Session where
  ctx := ⟨false, [], none⟩
  phase := .unborn
  inbound := .initial
  todo := []
  tasks := []
  out := freshOutbound env
  frames := []
  helloAt := 0

def withLive (session : Session) (live : Channel ServerMessage) : Session :=
  { session with out := { session.out with live := live } }

/-- `inbound_loop` ends. -/
def leave (env : Environment) (session : Session) : Session :=
  { session with
    phase := .leaving
    todo := leaveEffects env session.ctx session.inbound }

/-- When a replay task returns, its senders go. -/
def releaseTask (pc : ReplayPc) (out : Outbound) : Outbound :=
  match pc with
  | .ended _ =>
      { out with
        replay := out.replay.dropSender
        urgent := out.urgent.dropSender }
  | _ => out

@[simps]
def setTask (session : Session) (index : Nat) (task : ReplayTask)
    (pc : ReplayPc) : Session :=
  { session with
    tasks := session.tasks.set index { task with pc := pc }
    out := releaseTask pc session.out }

def stepTask (env : Environment) (session : Session) (index : Nat)
    (stimulus : ReplayStimulus) : Option Session :=
  match session.tasks[index]? with
  | none => none
  | some task =>
      match taskMove env task stimulus with
      | none => none
      | some (.go pc) => some (session.setTask index task pc)
      | some (.enqueue frame sent gone) =>
          (session.out.replay.send frame).map (fun (replay, accepted) =>
            ({ session with
                out := { session.out with replay := replay } } : Session)
              |>.setTask index task (if accepted then sent else gone))
      | some (.enqueueUrgent frame after) =>
          (session.out.urgent.send frame).map (fun (urgent, _) =>
            ({ session with
                out := { session.out with urgent := urgent } } : Session)
              |>.setTask index task after)

/-- Perform the first effect of the list, as far as the session is concerned;
the rest of the list is `rest`. -/
def performEffect (env : Environment) (session : Session)
    (rest : List Effect) : Effect → Option Session
  | .sendLive frame =>
      (session.out.live.send frame).map (fun (live, _) =>
        { session.withLive live with todo := rest })
  | .sendPing timestamp =>
      (session.out.live.send (.ping timestamp)).map
        (fun (live, accepted) =>
          if accepted then
            { session.withLive live with todo := rest }
          else
            session.leave env)
  | .spawnReplay identifier lastSeq =>
      some { session with
        todo := rest
        tasks := session.tasks ++ [⟨identifier, lastSeq, .queued⟩]
        out :=
          { session.out with
            replay := session.out.replay.cloneSender
            urgent := session.out.urgent.cloneSender } }
  | .spawnOutbound =>
      some { session with
        todo := rest
        out := { session.out with pc := .select } }
  | .dropSenders =>
      some { session with
        todo := rest
        phase := .closed
        out :=
          { session.out with
            live := session.out.live.dropSender
            replay := session.out.replay.dropSender
            urgent := session.out.urgent.dropSender } }
  | _ => some { session with todo := rest }

/-- The connection task waits for the next frame. -/
def Idle (session : Session) : Prop :=
  session.phase = .serving ∧ session.todo = []

instance (session : Session) : Decidable session.Idle :=
  match todo : session.todo with
  | [] =>
      decidable_of_iff (session.phase = .serving) (by simp [Idle, todo])
  | _ :: _ => isFalse (by simp [Idle, todo])

/-- The session after a client frame has been handled. -/
def receive (env : Environment) (session : Session)
    (frame : Option ClientFrame) : Session :=
  let handled := handleClientFrame env session.ctx session.inbound frame
  { session with
    inbound := handled.1
    todo := handled.2
    frames := session.frames ++ frame.toList
    helloAt :=
      match frame with
      | some (.hello _) => session.out.socket.length
      | _ => session.helloAt }

def step (env : Environment) (session : Session) :
    SessionAction → Option Session
  | .accept ctx =>
      if session.phase = .unborn then
        some { session with
          ctx := ctx
          phase := .serving
          todo := [.sendLive .welcome, .spawnOutbound] }
      else
        none
  | .frame frame =>
      if session.Idle then some (session.receive env frame) else none
  | .ping timestamp =>
      if session.Idle then
        some { session with todo := [.sendPing timestamp] }
      else
        none
  | .hangup => if session.Idle then some (session.leave env) else none
  | .effect =>
      match session.todo with
      | [] => none
      | effect :: rest => performEffect env session rest effect
  | .outbound ok shutdown =>
      (session.out.step some ok backpressureFrame shutdown).map
        (fun out => { session with out := out })
  | .replay index stimulus => stepTask env session index stimulus
  | .deliver frame =>
      (session.out.live.trySend frame).map session.withLive
  | .refuse =>
      match session.out.evict.trySend () with
      | some signalled =>
          some { session with out := { session.out with evict := signalled } }
      | none => some session
  | .forget =>
      some { session with
        out :=
          { session.out with
            live := session.out.live.dropSender
            evict := session.out.evict.dropSender } }

end Session

/-! ## Inversion -/

/-- Effects that do nothing to the session itself: registry calls, presence
and publishing. -/
def Effect.isExternal : Effect → Bool
  | .sendLive _ => false
  | .sendPing _ => false
  | .spawnReplay _ _ => false
  | .spawnOutbound => false
  | .dropSenders => false
  | _ => true

namespace Session

/-- The moves of a session, one constructor for each branch of `step`. -/
inductive Steps (env : Environment) (session : Session) :
    SessionAction → Session → Prop
  | accept (ctx : ConnContext) :
      session.phase = .unborn →
      Steps env session (.accept ctx)
        { session with
          ctx := ctx
          phase := .serving
          todo := [.sendLive .welcome, .spawnOutbound] }
  | frame (frame : Option ClientFrame) :
      session.Idle →
      Steps env session (.frame frame) (session.receive env frame)
  | ping (timestamp : Nat) :
      session.Idle →
      Steps env session (.ping timestamp)
        { session with todo := [.sendPing timestamp] }
  | hangup :
      session.Idle → Steps env session .hangup (session.leave env)
  | sendLive (frame : ServerMessage) (rest : List Effect)
      (live : Channel ServerMessage) (accepted : Bool) :
      session.todo = .sendLive frame :: rest →
      session.out.live.send frame = some (live, accepted) →
      Steps env session .effect { session.withLive live with todo := rest }
  | sendPing (timestamp : Nat) (rest : List Effect)
      (live : Channel ServerMessage) :
      session.todo = .sendPing timestamp :: rest →
      session.out.live.send (.ping timestamp) = some (live, true) →
      Steps env session .effect { session.withLive live with todo := rest }
  | pingFailed (timestamp : Nat) (rest : List Effect)
      (live : Channel ServerMessage) :
      session.todo = .sendPing timestamp :: rest →
      session.out.live.send (.ping timestamp) = some (live, false) →
      Steps env session .effect (session.leave env)
  | spawnReplay (identifier : String) (lastSeq : Nat) (rest : List Effect) :
      session.todo = .spawnReplay identifier lastSeq :: rest →
      Steps env session .effect
        { session with
          todo := rest
          tasks := session.tasks ++ [⟨identifier, lastSeq, .queued⟩]
          out :=
            { session.out with
              replay := session.out.replay.cloneSender
              urgent := session.out.urgent.cloneSender } }
  | spawnOutbound (rest : List Effect) :
      session.todo = .spawnOutbound :: rest →
      Steps env session .effect
        { session with
          todo := rest
          out := { session.out with pc := .select } }
  | dropSenders (rest : List Effect) :
      session.todo = .dropSenders :: rest →
      Steps env session .effect
        { session with
          todo := rest
          phase := .closed
          out :=
            { session.out with
              live := session.out.live.dropSender
              replay := session.out.replay.dropSender
              urgent := session.out.urgent.dropSender } }
  | external (effect : Effect) (rest : List Effect) :
      session.todo = effect :: rest → effect.isExternal = true →
      Steps env session .effect { session with todo := rest }
  | outbound (ok shutdown : Bool) (out : Outbound) :
      session.out.step some ok backpressureFrame shutdown = some out →
      Steps env session (.outbound ok shutdown) { session with out := out }
  | taskGo (index : Nat) (stimulus : ReplayStimulus) (task : ReplayTask)
      (pc : ReplayPc) :
      session.tasks[index]? = some task →
      TaskMoves env task stimulus (.go pc) →
      Steps env session (.replay index stimulus)
        (session.setTask index task pc)
  | taskEnqueue (index : Nat) (stimulus : ReplayStimulus) (task : ReplayTask)
      (frame : ServerMessage) (sent gone : ReplayPc)
      (replay : Channel ServerMessage) (accepted : Bool) :
      session.tasks[index]? = some task →
      TaskMoves env task stimulus (.enqueue frame sent gone) →
      session.out.replay.send frame = some (replay, accepted) →
      Steps env session (.replay index stimulus)
        (({ session with
            out := { session.out with replay := replay } } : Session).setTask
          index task (if accepted then sent else gone))
  | taskUrgent (index : Nat) (stimulus : ReplayStimulus) (task : ReplayTask)
      (frame : ServerMessage) (after : ReplayPc)
      (urgent : Channel ServerMessage) (accepted : Bool) :
      session.tasks[index]? = some task →
      TaskMoves env task stimulus (.enqueueUrgent frame after) →
      session.out.urgent.send frame = some (urgent, accepted) →
      Steps env session (.replay index stimulus)
        (({ session with
            out := { session.out with urgent := urgent } } : Session).setTask
          index task after)
  | deliver (frame : ServerMessage) (live : Channel ServerMessage) :
      session.out.live.trySend frame = some live →
      Steps env session (.deliver frame) (session.withLive live)
  | refuse (evict : Channel Unit) :
      Steps env session .refuse
        { session with out := { session.out with evict := evict } }
  | forget :
      Steps env session .forget
        { session with
          out :=
            { session.out with
              live := session.out.live.dropSender
              evict := session.out.evict.dropSender } }

variable {env : Environment} {session next : Session}

private theorem steps_of_performEffect {effect : Effect}
    {rest : List Effect} (todo : session.todo = effect :: rest)
    (moved : performEffect env session rest effect = some next) :
    Steps env session .effect next := by
  cases effect with
  | sendLive frame =>
      obtain ⟨⟨live, accepted⟩, sent, rfl⟩ := Option.map_eq_some_iff.mp moved
      exact .sendLive frame rest live accepted todo sent
  | sendPing timestamp =>
      obtain ⟨⟨live, accepted⟩, sent, rfl⟩ := Option.map_eq_some_iff.mp moved
      cases accepted with
      | true =>
          exact .sendPing timestamp rest live todo sent
      | false =>
          exact .pingFailed timestamp rest live todo sent
  | spawnReplay identifier lastSeq =>
      obtain rfl := Option.some.inj moved
      exact .spawnReplay identifier lastSeq rest todo
  | spawnOutbound =>
      obtain rfl := Option.some.inj moved
      exact .spawnOutbound rest todo
  | dropSenders =>
      obtain rfl := Option.some.inj moved
      exact .dropSenders rest todo
  | _ =>
      obtain rfl := Option.some.inj moved
      exact .external _ rest todo rfl

private theorem steps_of_stepTask {index : Nat} {stimulus : ReplayStimulus}
    (moved : stepTask env session index stimulus = some next) :
    Steps env session (.replay index stimulus) next := by
  unfold stepTask at moved
  split at moved
  · cases moved
  · rename_i task present
    split at moved
    · cases moved
    · rename_i pc goes
      obtain rfl := Option.some.inj moved
      exact .taskGo index stimulus task pc present
        (taskMoves_of_taskMove goes)
    · rename_i frame sent gone enqueues
      obtain ⟨⟨replay, accepted⟩, offered, rfl⟩ :=
        Option.map_eq_some_iff.mp moved
      exact .taskEnqueue index stimulus task frame sent gone replay accepted
        present (taskMoves_of_taskMove enqueues) offered
    · rename_i frame after enqueues
      obtain ⟨⟨urgent, accepted⟩, offered, rfl⟩ :=
        Option.map_eq_some_iff.mp moved
      exact .taskUrgent index stimulus task frame after urgent accepted
        present (taskMoves_of_taskMove enqueues) offered

theorem steps_of_step {action : SessionAction}
    (moved : session.step env action = some next) :
    Steps env session action next := by
  cases action with
  | accept ctx =>
      simp only [step] at moved
      split at moved
      · rename_i unborn
        obtain rfl := Option.some.inj moved
        exact .accept ctx unborn
      · cases moved
  | frame frame =>
      simp only [step] at moved
      split at moved
      · rename_i idle
        obtain rfl := Option.some.inj moved
        exact .frame frame idle
      · cases moved
  | ping timestamp =>
      simp only [step] at moved
      split at moved
      · rename_i idle
        obtain rfl := Option.some.inj moved
        exact .ping timestamp idle
      · cases moved
  | hangup =>
      simp only [step] at moved
      split at moved
      · rename_i idle
        obtain rfl := Option.some.inj moved
        exact .hangup idle
      · cases moved
  | effect =>
      simp only [step] at moved
      split at moved
      · cases moved
      · rename_i effect rest todo
        exact steps_of_performEffect todo moved
  | outbound ok shutdown =>
      obtain ⟨out, stepped, rfl⟩ := Option.map_eq_some_iff.mp moved
      exact .outbound ok shutdown out stepped
  | replay index stimulus =>
      exact steps_of_stepTask moved
  | deliver frame =>
      obtain ⟨live, accepted, rfl⟩ := Option.map_eq_some_iff.mp moved
      exact .deliver frame live accepted
  | refuse =>
      simp only [step] at moved
      split at moved
      · rename_i signalled accepted
        obtain rfl := Option.some.inj moved
        exact .refuse signalled
      · obtain rfl := Option.some.inj moved
        exact .refuse session.out.evict
  | forget =>
      obtain rfl := Option.some.inj moved
      exact .forget

end Session

end TurbocableServer.Connection
