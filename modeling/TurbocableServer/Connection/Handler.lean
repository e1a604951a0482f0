import TurbocableServer.Auth.StreamPatterns
import TurbocableServer.Protocol.Types

/-!
# Client frames

`handle_client_frame` and `dispatch_command` of `connection/handler.rs`.  A
frame changes the variables of `inbound_loop` and makes the handler perform a
list of effects, in the order of the source: queueing a frame, calling the
registry, writing presence, starting a replay task, publishing a message.
Metrics and log lines are left out.
-/

namespace TurbocableServer.Connection

open Protocol Auth

/-- `ReplayEnforcement` of `config.rs`. -/
inductive ReplayEnforcement where
  | compat
  | softEnforce
  | hardEnforce
  deriving DecidableEq, Repr

namespace ReplayEnforcement

def requiresHelloFirst : ReplayEnforcement → Bool
  | .softEnforce => true
  | .hardEnforce => true
  | .compat => false

def rejectsNonReplaySubscribe : ReplayEnforcement → Bool
  | .hardEnforce => true
  | _ => false

end ReplayEnforcement

/-- The order in which the keys of a `HashMap` are visited. -/
structure KeyOrder where
  list : List String → List String
  perm : ∀ keys, (list keys).Perm keys

namespace KeyOrder

def asInserted : KeyOrder where
  list := id
  perm := List.Perm.refl

theorem mem_list {order : KeyOrder} {keys : List String} {key : String} :
    key ∈ order.list keys ↔ key ∈ keys :=
  (order.perm keys).mem_iff

end KeyOrder

/-- What a node is configured with: the fields of `AppState` that the handlers
read, `serde_json::from_str` for identifiers and the decoding of message
payloads.  A tokio channel has at least one slot, and the map of heartbeats is
iterated in some order. -/
structure Environment where
  enforcement : ReplayEnforcement
  natsAvailable : Bool
  presenceAvailable : Bool
  liveCapacity : Nat
  replayCapacity : Nat
  fromStr : String → Option Json
  decodePayload : ByteArray → Json
  heartbeatOrder : KeyOrder := .asInserted
  liveCapacity_pos : 0 < liveCapacity := by decide
  replayCapacity_pos : 0 < replayCapacity := by decide

/-- No identifier is JSON, and the queues have four slots. -/
def Environment.fourSlots : Environment where
  enforcement := .compat
  natsAvailable := true
  presenceAvailable := false
  liveCapacity := 4
  replayCapacity := 4
  fromStr := fun _ => none
  decodePayload := fun _ => .null

/-- The registry key of an identifier. -/
def Environment.streamKey (env : Environment) (identifier : String) : String :=
  streamKeyFromIdentifier env.fromStr identifier

inductive ConnectionState where
  | awaitingHello
  | active
  deriving DecidableEq, Repr

/-- What is fixed for the lifetime of a connection. -/
structure ConnContext where
  isBinary : Bool
  allowedStreams : List String
  userId : Option String
  deriving DecidableEq, Repr

/-- The variables of `inbound_loop`.  Of the heartbeat map only the keys
matter here. -/
structure InboundState where
  connState : ConnectionState
  replayCapable : Bool
  lastSeq : Option Nat
  heartbeats : List String
  deriving DecidableEq, Repr

def InboundState.initial : InboundState where
  connState := .awaitingHello
  replayCapable := false
  lastSeq := none
  heartbeats := []

/-- What the connection task does, one suspension point each.  The last four
stand for the statements of `handle_socket` around the loop. -/
inductive Effect where
  | sendLive (frame : ServerMessage)
  | sendPing (timestamp : Nat)
  | registrySubscribe (stream : String)
  | registryUnsubscribe (stream : String)
  | presencePut (identifier user : String)
  | presenceDelete (identifier user : String)
  | startHeartbeat (identifier user : String)
  | stopHeartbeat (identifier : String)
  | spawnReplay (identifier : String) (lastSeq : Nat)
  | publish (identifier data : String)
  | spawnOutbound
  | registryDeregister
  | dropSenders

section

variable (env : Environment) (ctx : ConnContext)

/-- The user whose presence is recorded, if presence is recorded at all. -/
def presenceUser : Option String :=
  if env.presenceAvailable then ctx.userId else none

/-- The last statement of the Subscribe branch: a replay task that will
confirm, or the confirmation itself. -/
def confirmEffect (lastSeq : Option Nat) (identifier : String) : Effect :=
  match lastSeq with
  | some seq =>
      if env.natsAvailable then
        .spawnReplay identifier seq
      else
        .sendLive (.confirmSubscription identifier)
  | none => .sendLive (.confirmSubscription identifier)

def rejectEffect (identifier : String) : Effect :=
  .sendLive (.rejectSubscription identifier)

def dispatchSubscribe (state : InboundState) (identifier : String) :
    InboundState × List Effect :=
  if env.enforcement.rejectsNonReplaySubscribe && !state.replayCapable then
    (state, [rejectEffect identifier])
  else if !isAllowed ctx.allowedStreams identifier then
    (state, [rejectEffect identifier])
  else
    match presenceUser env ctx with
    | some user =>
        ({ state with heartbeats := state.heartbeats.insert identifier },
          [.registrySubscribe (env.streamKey identifier),
            .presencePut identifier user, .startHeartbeat identifier user,
            confirmEffect env state.lastSeq identifier])
    | none =>
        (state,
          [.registrySubscribe (env.streamKey identifier),
            confirmEffect env state.lastSeq identifier])

def dispatchUnsubscribe (state : InboundState) (identifier : String) :
    InboundState × List Effect :=
  match presenceUser env ctx with
  | some user =>
      ({ state with heartbeats := state.heartbeats.erase identifier },
        [.registryUnsubscribe (env.streamKey identifier),
          .stopHeartbeat identifier, .presenceDelete identifier user])
  | none => (state, [.registryUnsubscribe (env.streamKey identifier)])

def dispatchCommand (state : InboundState) :
    ClientCommand → InboundState × List Effect
  | .subscribe identifier => dispatchSubscribe env ctx state identifier
  | .unsubscribe identifier => dispatchUnsubscribe env ctx state identifier
  | .message identifier data =>
      (state, if env.natsAvailable then [.publish identifier data] else [])

/-- One client frame; `none` is a frame that does not decode. -/
def handleClientFrame (state : InboundState) :
    Option ClientFrame → InboundState × List Effect
  | none => (state, [])
  | some (.hello hello) =>
      ({ state with
          lastSeq := hello.lastSeq
          replayCapable := hello.isReplayCapable
          connState := .active },
        [])
  | some (.command command) =>
      if state.connState = .awaitingHello then
        if env.enforcement.requiresHelloFirst then
          match command with
          | .subscribe identifier => (state, [rejectEffect identifier])
          | _ => (state, [])
        else
          dispatchCommand env ctx { state with connState := .active } command
      else
        dispatchCommand env ctx state command

/-- What follows when `inbound_loop` ends: the presence clean-up, and the rest
of `handle_socket`. -/
def leaveEffects (state : InboundState) : List Effect :=
  (match presenceUser env ctx with
    | some user =>
        (env.heartbeatOrder.list state.heartbeats).map
          (fun stream => .presenceDelete stream user)
    | none => []) ++
    [.registryDeregister, .dropSenders]

end

/-! ## What a frame can cause -/

/-- Effects on presence only. -/
def Effect.isPresence : Effect → Bool
  | .presencePut _ _ => true
  | .presenceDelete _ _ => true
  | .startHeartbeat _ _ => true
  | .stopHeartbeat _ => true
  | _ => false

/-- The ways a frame can be handled: the replay position of the connection
before and after it, and the effects, up to presence. -/
inductive Handled (env : Environment) (ctx : ConnContext)
    (lastSeq : Option Nat) :
    Option ClientFrame → Option Nat → List Effect → Prop
  | undecodable : Handled env ctx lastSeq none lastSeq []
  | hello (hello : HelloCommand) :
      Handled env ctx lastSeq (some (.hello hello)) hello.lastSeq []
  | rejected (identifier : String) :
      Handled env ctx lastSeq (some (.command (.subscribe identifier)))
        lastSeq [rejectEffect identifier]
  | ignored (command : ClientCommand) :
      Handled env ctx lastSeq (some (.command command)) lastSeq []
  | subscribed (identifier : String) (presence : List Effect) :
      isAllowed ctx.allowedStreams identifier = true →
      presence.all Effect.isPresence = true →
      Handled env ctx lastSeq (some (.command (.subscribe identifier)))
        lastSeq
        (.registrySubscribe (env.streamKey identifier) ::
          (presence ++ [confirmEffect env lastSeq identifier]))
  | unsubscribed (identifier : String) (presence : List Effect) :
      presence.all Effect.isPresence = true →
      Handled env ctx lastSeq (some (.command (.unsubscribe identifier)))
        lastSeq (.registryUnsubscribe (env.streamKey identifier) :: presence)
  | published (identifier data : String) :
      Handled env ctx lastSeq (some (.command (.message identifier data)))
        lastSeq [.publish identifier data]

section

variable (env : Environment) (ctx : ConnContext) (state : InboundState)

private theorem handled_dispatchSubscribe (identifier : String) :
    Handled env ctx state.lastSeq
      (some (.command (.subscribe identifier)))
      (dispatchSubscribe env ctx state identifier).1.lastSeq
      (dispatchSubscribe env ctx state identifier).2 := by
  unfold dispatchSubscribe
  split
  · exact .rejected identifier
  · split
    · exact .rejected identifier
    · rename_i allowed
      have isAllowed : isAllowed ctx.allowedStreams identifier = true := by
        simpa using allowed
      split
      · rename_i user present
        exact .subscribed identifier
          [.presencePut identifier user, .startHeartbeat identifier user]
          isAllowed rfl
      · exact .subscribed identifier [] isAllowed rfl

private theorem handled_dispatchCommand (command : ClientCommand) :
    Handled env ctx state.lastSeq (some (.command command))
      (dispatchCommand env ctx state command).1.lastSeq
      (dispatchCommand env ctx state command).2 := by
  cases command with
  | subscribe identifier =>
      exact handled_dispatchSubscribe env ctx state identifier
  | unsubscribe identifier =>
      simp only [dispatchCommand, dispatchUnsubscribe]
      split
      · rename_i user present
        exact .unsubscribed identifier
          [.stopHeartbeat identifier, .presenceDelete identifier user] rfl
      · exact .unsubscribed identifier [] rfl
  | message identifier data =>
      simp only [dispatchCommand]
      split
      · exact .published identifier data
      · exact .ignored _

theorem handled_handleClientFrame (frame : Option ClientFrame) :
    Handled env ctx state.lastSeq frame
      (handleClientFrame env ctx state frame).1.lastSeq
      (handleClientFrame env ctx state frame).2 := by
  rcases frame with _ | frame
  · exact .undecodable
  · cases frame with
    | hello hello =>
        exact .hello hello
    | command command =>
        simp only [handleClientFrame]
        split
        · split
          · cases command with
            | subscribe identifier =>
                exact .rejected identifier
            | unsubscribe identifier | message identifier data =>
                exact .ignored _
          · exact
              handled_dispatchCommand env ctx
                { state with connState := .active } command
        · exact handled_dispatchCommand env ctx state command

end

/-! ## Where effects come from -/

section

variable {env : Environment} {ctx : ConnContext} {lastSeq lastSeq' : Option Nat}
variable {frame : Option ClientFrame} {effects : List Effect}

theorem mem_leaveEffects {state : InboundState} {effect : Effect}
    (member : effect ∈ leaveEffects env ctx state) :
    (∃ identifier user, effect = .presenceDelete identifier user) ∨
      effect = .registryDeregister ∨ effect = .dropSenders := by
  rcases List.mem_append.mp member with inPresence | inRest
  · split at inPresence
    · obtain ⟨identifier, -, rfl⟩ := List.mem_map.mp inPresence
      exact Or.inl ⟨identifier, _, rfl⟩
    · cases inPresence
  · right
    simpa using inRest

theorem confirmEffect_cases (env : Environment) (lastSeq : Option Nat)
    (identifier : String) :
    confirmEffect env lastSeq identifier =
        .sendLive (.confirmSubscription identifier) ∨
      ∃ since, lastSeq = some since ∧
        confirmEffect env lastSeq identifier =
          .spawnReplay identifier since := by
  unfold confirmEffect
  split
  · split
    · exact Or.inr ⟨_, rfl, rfl⟩
    · exact Or.inl rfl
  · exact Or.inl rfl

/-- The effects of a frame other than those on presence. -/
theorem Handled.mem_cases
    (handled : Handled env ctx lastSeq frame lastSeq' effects)
    {effect : Effect} (member : effect ∈ effects)
    (notPresence : effect.isPresence = false) :
    (∃ identifier,
        frame = some (.command (.subscribe identifier)) ∧
          (effect = rejectEffect identifier ∨
            isAllowed ctx.allowedStreams identifier = true ∧
              (effect = .registrySubscribe (env.streamKey identifier) ∨
                effect = confirmEffect env lastSeq identifier))) ∨
      (∃ identifier,
        frame = some (.command (.unsubscribe identifier)) ∧
          effect = .registryUnsubscribe (env.streamKey identifier)) ∨
      ∃ identifier data, effect = .publish identifier data := by
  have absent :
      ∀ {presence : List Effect},
        presence.all Effect.isPresence = true → effect ∉ presence := by
    intro presence onlyPresence inPresence
    have isPresence := List.all_eq_true.mp onlyPresence effect inPresence
    rw [notPresence] at isPresence
    cases isPresence
  cases handled with
  | rejected identifier =>
      exact Or.inl ⟨identifier, rfl, Or.inl (List.mem_singleton.mp member)⟩
  | subscribed identifier presence allowed onlyPresence =>
      refine Or.inl ⟨identifier, rfl, Or.inr ⟨allowed, ?_⟩⟩
      rcases List.mem_cons.mp member with isSubscribe | inRest
      · exact Or.inl isSubscribe
      · rcases List.mem_append.mp inRest with inPresence | isLast
        · exact absurd inPresence (absent onlyPresence)
        · exact Or.inr (List.mem_singleton.mp isLast)
  | unsubscribed identifier presence onlyPresence =>
      rcases List.mem_cons.mp member with isUnsubscribe | inPresence
      · exact Or.inr (Or.inl ⟨identifier, rfl, isUnsubscribe⟩)
      · exact absurd inPresence (absent onlyPresence)
  | published identifier data =>
      exact Or.inr (Or.inr
        ⟨identifier, data, List.mem_singleton.mp member⟩)
  | _ => cases member

theorem Handled.allowed_of_registrySubscribe
    (handled : Handled env ctx lastSeq frame lastSeq' effects)
    {stream : String} (member : .registrySubscribe stream ∈ effects) :
    ∃ identifier,
      frame = some (.command (.subscribe identifier)) ∧
        isAllowed ctx.allowedStreams identifier = true ∧
        env.streamKey identifier = stream := by
  rcases handled.mem_cases member rfl with
    ⟨identifier, isFrame, isReject | ⟨allowed, isSubscribe | isConfirm⟩⟩ |
      ⟨identifier, -, isUnsubscribe⟩ | ⟨identifier, data, isPublish⟩
  · cases isReject
  · exact ⟨identifier, isFrame, allowed,
      (Effect.registrySubscribe.inj isSubscribe).symm⟩
  · rcases confirmEffect_cases env lastSeq identifier with
      direct | ⟨since, -, replayed⟩
    · simp [direct] at isConfirm
    · simp [replayed] at isConfirm
  · cases isUnsubscribe
  · cases isPublish

/-- The handler itself queues the answers to a Subscribe and nothing else. -/
theorem Handled.subscribe_of_sendLive
    (handled : Handled env ctx lastSeq frame lastSeq' effects)
    {answer : ServerMessage} (member : .sendLive answer ∈ effects) :
    ∃ identifier,
      frame = some (.command (.subscribe identifier)) ∧
        (answer = .rejectSubscription identifier ∨
          answer = .confirmSubscription identifier) := by
  rcases handled.mem_cases member rfl with
    ⟨identifier, isFrame, isReject | ⟨-, isSubscribe | isConfirm⟩⟩ |
      ⟨identifier, -, isUnsubscribe⟩ | ⟨identifier, data, isPublish⟩
  · exact ⟨identifier, isFrame, Or.inl (Effect.sendLive.inj isReject)⟩
  · cases isSubscribe
  · rcases confirmEffect_cases env lastSeq identifier with
      direct | ⟨since, -, replayed⟩
    · rw [direct] at isConfirm
      exact ⟨identifier, isFrame, Or.inr (Effect.sendLive.inj isConfirm)⟩
    · simp [replayed] at isConfirm
  · cases isUnsubscribe
  · cases isPublish

theorem Handled.identifierField_of_sendLive
    (handled : Handled env ctx lastSeq frame lastSeq' effects)
    {answer : ServerMessage} (member : .sendLive answer ∈ effects) :
    identifierField answer = none := by
  obtain ⟨identifier, -, rfl | rfl⟩ := handled.subscribe_of_sendLive member
  · rfl
  · rfl

theorem Handled.subscribe_of_spawnReplay
    (handled : Handled env ctx lastSeq frame lastSeq' effects)
    {identifier : String} {since : Nat}
    (member : .spawnReplay identifier since ∈ effects) :
    frame = some (.command (.subscribe identifier)) ∧
      lastSeq = some since := by
  rcases handled.mem_cases member rfl with
    ⟨named, isFrame, isReject | ⟨-, isSubscribe | isConfirm⟩⟩ |
      ⟨named, -, isUnsubscribe⟩ | ⟨named, data, isPublish⟩
  · cases isReject
  · cases isSubscribe
  · rcases confirmEffect_cases env lastSeq named with
      direct | ⟨from_, isSince, replayed⟩
    · simp [direct] at isConfirm
    · rw [replayed] at isConfirm
      cases isConfirm
      exact ⟨isFrame, isSince⟩
  · cases isUnsubscribe
  · cases isPublish

end

end TurbocableServer.Connection
