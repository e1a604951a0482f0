import Mathlib.Data.List.Nodup
import TurbocableServer.Connection.AcceptedCommands

/-!
# Presence in a session

What the connection task does for presence, as a plan it works off: the effects
of a Subscribe, those of an Unsubscribe, or the clean-up at the end of
`inbound_loop`.  The keys of the heartbeat map are the identifiers whose last
accepted command was a Subscribe.
-/

namespace TurbocableServer.Connection

open Foundations Protocol

/-- What an effect writes for an identifier and a user: the key is put or
deleted. -/
def Effect.write : Effect → Option ((String × String) × Bool)
  | .presencePut identifier user => some ((identifier, user), true)
  | .presenceDelete identifier user => some ((identifier, user), false)
  | _ => none

/-- Neither on presence nor part of the end of `handle_socket`. -/
def Effect.isQuiet : Effect → Bool
  | .presencePut _ _ => false
  | .presenceDelete _ _ => false
  | .startHeartbeat _ _ => false
  | .stopHeartbeat _ => false
  | .registryDeregister => false
  | .dropSenders => false
  | _ => true

theorem Effect.write_of_isQuiet {effect : Effect}
    (isQuiet : effect.isQuiet = true) : effect.write = none := by
  cases effect <;> first | rfl | cases isQuiet

/-! ## Frames -/

section Frames

variable {env : Environment} {ctx : ConnContext} {user : String}

/-- What a frame does for the presence of a user: nothing, or everything that a
Subscribe or an Unsubscribe does.  The lists are the heartbeats before and
after. -/
inductive Attended (env : Environment) (user : String)
    (beats : List String) : ClientFrame → List String → List Effect → Prop
  | silent (frame : ClientFrame) (effects : List Effect) :
      (∀ effect, effect ∈ effects → effect.isQuiet = true) →
      acceptedSwitch effects frame = [] →
      Attended env user beats frame beats effects
  | subscribed (identifier : String) (answer : Effect) :
      answer.isQuiet = true →
      Attended env user beats (.command (.subscribe identifier))
        (beats.insert identifier)
        [.registrySubscribe (env.streamKey identifier),
          .presencePut identifier user, .startHeartbeat identifier user,
          answer]
  | unsubscribed (identifier : String) :
      Attended env user beats (.command (.unsubscribe identifier))
        (beats.erase identifier)
        [.registryUnsubscribe (env.streamKey identifier),
          .stopHeartbeat identifier, .presenceDelete identifier user]

theorem isQuiet_confirmEffect (lastSeq : Option Nat) (identifier : String) :
    (confirmEffect env lastSeq identifier).isQuiet = true := by
  rcases confirmEffect_cases env lastSeq identifier with
    direct | ⟨since, -, replayed⟩
  · rw [direct]
    rfl
  · rw [replayed]
    rfl

private theorem attended_rejected (beats : List String)
    (identifier : String) :
    Attended env user beats (.command (.subscribe identifier)) beats
      [rejectEffect identifier] :=
  .silent _ _ (fun effect member => by
    rw [List.mem_singleton.mp member]
    rfl) rfl

private theorem attended_dispatchCommand
    (isUser : presenceUser env ctx = some user) (state : InboundState)
    (command : ClientCommand) :
    Attended env user state.heartbeats (.command command)
      (dispatchCommand env ctx state command).1.heartbeats
      (dispatchCommand env ctx state command).2 := by
  cases command with
  | subscribe identifier =>
      simp only [dispatchCommand, dispatchSubscribe]
      split
      · exact attended_rejected _ identifier
      · split
        · exact attended_rejected _ identifier
        · rw [isUser]
          exact .subscribed identifier _ (isQuiet_confirmEffect _ _)
  | unsubscribe identifier =>
      simp only [dispatchCommand, dispatchUnsubscribe, isUser]
      exact .unsubscribed identifier
  | message identifier data =>
      refine .silent _ _ (fun effect member => ?_) rfl
      simp only [dispatchCommand] at member
      split at member
      · rw [List.mem_singleton.mp member]
        rfl
      · cases member

theorem attended_handleClientFrame
    (isUser : presenceUser env ctx = some user) (state : InboundState)
    (frame : ClientFrame) :
    Attended env user state.heartbeats frame
      (handleClientFrame env ctx state (some frame)).1.heartbeats
      (handleClientFrame env ctx state (some frame)).2 := by
  have nothing :
      ∀ {effect : Effect}, effect ∈ [] → effect.isQuiet = true := by
    intro effect member
    cases member
  cases frame with
  | hello hello => exact .silent _ _ (fun _ => nothing) rfl
  | command command =>
      simp only [handleClientFrame]
      split
      · split
        · cases command with
          | subscribe identifier => exact attended_rejected _ identifier
          | unsubscribe identifier | message identifier data =>
              exact .silent _ _ (fun _ => nothing) rfl
        · exact attended_dispatchCommand isUser
            { state with connState := .active } command
      · exact attended_dispatchCommand isUser state command

/-- The heartbeats are those of the identifiers that are on. -/
theorem heartbeats_inboundAfter
    (isUser : presenceUser env ctx = some user) (frames : List ClientFrame) :
    (inboundAfter env ctx frames).heartbeats.Nodup ∧
      ∀ identifier,
        identifier ∈ (inboundAfter env ctx frames).heartbeats ↔
          isOn (accepted env ctx frames) identifier = true := by
  induction frames using List.reverseRecOn with
  | nil =>
      simp [inboundAfter, InboundState.initial, accepted, acceptedFrom]
  | append_singleton frames frame ih =>
      obtain ⟨nodup, isOn_iff⟩ := ih
      have attended :=
        attended_handleClientFrame isUser (inboundAfter env ctx frames) frame
      rw [inboundAfter_append, accepted_append]
      generalize (handleClientFrame env ctx (inboundAfter env ctx frames)
        (some frame)).1.heartbeats = beats at attended ⊢
      generalize (handleClientFrame env ctx (inboundAfter env ctx frames)
        (some frame)).2 = effects at attended ⊢
      cases attended with
      | silent _ _ quiet noSwitch =>
          rw [noSwitch, List.append_nil]
          exact ⟨nodup, isOn_iff⟩
      | subscribed identifier answer isQuiet =>
          refine ⟨List.Nodup.insert nodup, fun tested => ?_⟩
          rw [List.mem_insert_iff, isOn_iff]
          exact isOn_turnedOn_iff.symm
      | unsubscribed identifier =>
          refine ⟨List.Nodup.erase _ nodup, fun tested => ?_⟩
          rw [List.Nodup.mem_erase_iff nodup, isOn_iff]
          exact isOn_turnedOff_iff.symm

end Frames

/-! ## Sessions -/

namespace Session

variable {env : Environment} {user : String} {session next : Session}
variable {action : SessionAction}

/-- The last accepted command for the identifier was a Subscribe. -/
def SubscribedTo (env : Environment) (session : Session) (identifier : String) :
    Prop :=
  isOn (session.accepted env) identifier = true

instance (identifier : String) :
    Decidable (session.SubscribedTo env identifier) :=
  inferInstanceAs (Decidable (_ = true))

/-- The keys that the connection task has still to write. -/
def pendingWrites (session : Session) : List ((String × String) × Bool) :=
  session.todo.filterMap Effect.write

theorem mem_pendingWrites {write : (String × String) × Bool} :
    write ∈ session.pendingWrites ↔
      ∃ effect, effect ∈ session.todo ∧ effect.write = some write :=
  List.mem_filterMap

theorem pendingWrites_of_quiet
    (quiet : ∀ effect, effect ∈ session.todo → effect.isQuiet = true) :
    session.pendingWrites = [] := by
  rw [pendingWrites, List.filterMap_eq_nil_iff]
  exact fun effect member => Effect.write_of_isQuiet (quiet effect member)

theorem pendingWrites_of_todo {effect : Effect}
    (todo : session.todo = effect :: next.todo) :
    session.pendingWrites = effect.write.toList ++ next.pendingWrites := by
  rw [pendingWrites, todo, pendingWrites]
  cases isWrite : effect.write with
  | none => rw [List.filterMap_cons_none isWrite]; rfl
  | some write => rw [List.filterMap_cons_some isWrite]; rfl

/-- The key of the stream has still to be deleted. -/
def Deletes (session : Session) (stream : String) : Prop :=
  ∃ write, write ∈ session.pendingWrites ∧
    write.1.1 = stream ∧ write.2 = false

instance (stream : String) : Decidable (session.Deletes stream) :=
  inferInstanceAs
    (Decidable (∃ write, write ∈ session.pendingWrites ∧ _))

/-! ### What a step means for presence -/

/-- The parts of a session that matter for presence are the same, up to the
effects to perform. -/
structure SamePresence (session next : Session) : Prop where
  ctx : next.ctx = session.ctx
  phase : next.phase = session.phase
  frames : next.frames = session.frames
  inbound : next.inbound = session.inbound

theorem SamePresence.subscribedTo (same : SamePresence session next)
    (identifier : String) :
    next.SubscribedTo env identifier ↔ session.SubscribedTo env identifier := by
  rw [SubscribedTo, SubscribedTo, accepted, accepted, same.ctx, same.frames]

/-- The moves of a session, as far as presence is concerned. -/
inductive PresenceMove (env : Environment) (session : Session) :
    SessionAction → Session → Prop
  | same (action : SessionAction) (next : Session) :
      action ≠ .effect → SamePresence session next →
      next.todo = session.todo →
      PresenceMove env session action next
  | performed (effect : Effect) (next : Session) :
      session.todo = effect :: next.todo → effect ≠ .dropSenders →
      SamePresence session next →
      PresenceMove env session .effect next
  | framed (frame : Option ClientFrame) :
      session.Idle →
      PresenceMove env session (.frame frame) (session.receive env frame)
  | asked (timestamp : Nat) (next : Session) :
      session.Idle → SamePresence session next →
      next.todo = [.sendPing timestamp] →
      PresenceMove env session (.ping timestamp) next
  | born (ctx : ConnContext) (next : Session) :
      session.phase = .unborn → next.phase = .serving →
      next.todo = [.sendLive .welcome, .spawnOutbound] →
      next.frames = session.frames →
      PresenceMove env session (.accept ctx) next
  | left (action : SessionAction) (next : Session) :
      (session.Idle ∧ action ≠ .effect ∨
        ∃ timestamp rest, session.todo = .sendPing timestamp :: rest) →
      next.ctx = session.ctx → next.phase = .leaving →
      next.inbound = session.inbound →
      next.todo = leaveEffects env session.ctx session.inbound →
      PresenceMove env session action next
  | finished (next : Session) :
      session.todo = .dropSenders :: next.todo → next.ctx = session.ctx →
      next.phase = .closed → next.inbound = session.inbound →
      PresenceMove env session .effect next

theorem Steps.presenceMove (steps : Steps env session action next) :
    PresenceMove env session action next := by
  cases steps with
  | accept ctx isUnborn => exact .born ctx _ isUnborn rfl rfl rfl
  | frame frame idle => exact .framed frame idle
  | ping timestamp idle =>
      exact .asked timestamp _ idle ⟨rfl, rfl, rfl, rfl⟩ rfl
  | hangup idle =>
      exact .left _ _ (Or.inl ⟨idle, by simp⟩) rfl rfl rfl rfl
  | pingFailed timestamp rest live todo failed =>
      exact .left _ _ (Or.inr ⟨timestamp, rest, todo⟩) rfl rfl rfl rfl
  | dropSenders rest todo => exact .finished _ todo rfl rfl rfl
  | sendLive frame rest live accepted todo sent
  | sendPing timestamp rest live todo sent
  | spawnReplay identifier lastSeq rest todo | spawnOutbound rest todo =>
      exact .performed _ _ todo (by simp) ⟨rfl, rfl, rfl, rfl⟩
  | external effect rest todo isExternal =>
      have notLast : effect ≠ .dropSenders := by
        rintro rfl
        cases isExternal
      exact .performed effect _ todo notLast ⟨rfl, rfl, rfl, rfl⟩
  | _ => exact .same _ _ (by simp) ⟨rfl, rfl, rfl, rfl⟩ rfl

/-- How a connection comes to a state after the end of `inbound_loop`, or goes on
there. -/
theorem PresenceMove.left_cases (move : PresenceMove env session action next)
    (left : next.phase ≠ .serving) :
    (action ≠ .effect ∧ SamePresence session next ∧
        next.todo = session.todo) ∨
      (∃ effect, action = .effect ∧ session.todo = effect :: next.todo ∧
        SamePresence session next) ∨
      (next.ctx = session.ctx ∧
        next.todo = leaveEffects env next.ctx next.inbound) ∨
      (action = .effect ∧ session.todo = .dropSenders :: next.todo ∧
        next.ctx = session.ctx ∧ next.inbound = session.inbound) := by
  cases move with
  | same _ _ notEffect same sameTodo =>
      exact Or.inl ⟨notEffect, same, sameTodo⟩
  | performed effect _ todo notLast same =>
      exact Or.inr (Or.inl ⟨effect, rfl, todo, same⟩)
  | framed frame idle => exact absurd idle.1 left
  | asked timestamp _ idle same isTodo =>
      exact absurd (same.phase.trans idle.1) left
  | born ctx _ isUnborn serving isTodo sameFrames => exact absurd serving left
  | left _ _ wasServing sameCtx isLeaving sameInbound isTodo =>
      rw [← sameCtx, ← sameInbound] at isTodo
      exact Or.inr (Or.inr (Or.inl ⟨sameCtx, isTodo⟩))
  | finished _ todo sameCtx isClosed sameInbound =>
      exact Or.inr (Or.inr (Or.inr ⟨rfl, todo, sameCtx, sameInbound⟩))

/-- What a frame does to the plan and to the subscriptions. -/
inductive Received (env : Environment) (user : String)
    (session next : Session) : Prop
  | quiet :
      (∀ effect, effect ∈ next.todo → effect.isQuiet = true) →
      (∀ tested,
        next.SubscribedTo env tested ↔ session.SubscribedTo env tested) →
      Received env user session next
  | subscribed (identifier : String) (answer : Effect) :
      answer.isQuiet = true →
      next.todo =
        [.registrySubscribe (env.streamKey identifier),
          .presencePut identifier user, .startHeartbeat identifier user,
          answer] →
      (∀ tested,
        next.SubscribedTo env tested ↔
          tested = identifier ∨ session.SubscribedTo env tested) →
      Received env user session next
  | unsubscribed (identifier : String) :
      next.todo =
        [.registryUnsubscribe (env.streamKey identifier),
          .stopHeartbeat identifier, .presenceDelete identifier user] →
      (∀ tested,
        next.SubscribedTo env tested ↔
          tested ≠ identifier ∧ session.SubscribedTo env tested) →
      Received env user session next

theorem received_receive (replays : session.Replays env)
    (isUser : presenceUser env session.ctx = some user)
    (frame : Option ClientFrame) :
    Received env user session (session.receive env frame) := by
  cases frame with
  | none =>
      refine .quiet (fun effect member => by cases member) (fun tested => ?_)
      simp only [SubscribedTo, accepted, receive, Option.toList_none,
        List.append_nil]
  | some frame =>
      have attended := attended_handleClientFrame isUser session.inbound frame
      have isAccepted :
          (session.receive env (some frame)).accepted env =
            session.accepted env ++
              acceptedSwitch (session.receive env (some frame)).todo
                frame := by
        simp only [accepted, receive, Option.toList_some]
        rw [accepted_append, ← replays.inbound]
      generalize (handleClientFrame env session.ctx session.inbound
        (some frame)).1.heartbeats = beats at attended
      generalize isEffects :
        (handleClientFrame env session.ctx session.inbound (some frame)).2 =
          effects at attended
      have isTodo : (session.receive env (some frame)).todo = effects :=
        isEffects
      rw [isTodo] at isAccepted
      cases attended with
      | silent _ _ quiet noSwitch =>
          refine .quiet (by rwa [isTodo]) (fun tested => ?_)
          rw [SubscribedTo, isAccepted, noSwitch, List.append_nil,
            SubscribedTo]
      | subscribed identifier answer isQuiet =>
          refine .subscribed identifier answer isQuiet isTodo
            (fun tested => ?_)
          rw [SubscribedTo, isAccepted, SubscribedTo]
          exact isOn_turnedOn_iff
      | unsubscribed identifier =>
          refine .unsubscribed identifier isTodo (fun tested => ?_)
          rw [SubscribedTo, isAccepted, SubscribedTo]
          exact isOn_turnedOff_iff

/-! ### The plan of the connection task -/

/-- What the connection task of a user works off, in each phase. -/
inductive WorksOff (env : Environment) (user : String) (session : Session) :
    Prop
  | unborn : session.phase = .unborn → session.todo = [] →
      WorksOff env user session
  | quiet : session.phase = .serving →
      (∀ effect, effect ∈ session.todo → effect.isQuiet = true) →
      WorksOff env user session
  | subscribing (identifier stream : String) (answer : Effect) :
      session.phase = .serving → session.SubscribedTo env identifier →
      answer.isQuiet = true →
      session.todo <:+
        [.registrySubscribe stream, .presencePut identifier user,
          .startHeartbeat identifier user, answer] →
      WorksOff env user session
  | unsubscribing (identifier stream : String) :
      session.phase = .serving → ¬ session.SubscribedTo env identifier →
      session.todo <:+
        [.registryUnsubscribe stream, .stopHeartbeat identifier,
          .presenceDelete identifier user] →
      WorksOff env user session
  | leaving (streams : List String) :
      session.phase = .leaving →
      session.todo =
        streams.map (fun stream => .presenceDelete stream user) ++
          [.registryDeregister, .dropSenders] →
      WorksOff env user session
  | returned : session.phase = .leaving → session.todo = [.dropSenders] →
      WorksOff env user session
  | closed : session.phase = .closed → session.todo = [] →
      WorksOff env user session

theorem WorksOff.congr (works : session.WorksOff env user)
    (same : SamePresence session next) (sameTodo : next.todo = session.todo) :
    next.WorksOff env user := by
  have samePhase := same.phase
  cases works with
  | unborn isUnborn noTodo =>
      exact .unborn (samePhase.trans isUnborn) (sameTodo.trans noTodo)
  | quiet serving quiet =>
      exact .quiet (samePhase.trans serving) (by rwa [sameTodo])
  | subscribing identifier stream answer serving on isQuiet part =>
      exact .subscribing identifier stream answer (samePhase.trans serving)
        ((same.subscribedTo identifier).mpr on) isQuiet (by rwa [sameTodo])
  | unsubscribing identifier stream serving off part =>
      exact .unsubscribing identifier stream (samePhase.trans serving)
        (mt (same.subscribedTo identifier).mp off) (by rwa [sameTodo])
  | leaving streams isLeaving isTodo =>
      exact .leaving streams (samePhase.trans isLeaving)
        (sameTodo.trans isTodo)
  | returned isLeaving isTodo =>
      exact .returned (samePhase.trans isLeaving) (sameTodo.trans isTodo)
  | closed isClosed noTodo =>
      exact .closed (samePhase.trans isClosed) (sameTodo.trans noTodo)

/-- The rest of a plan is worked off like the plan. -/
theorem WorksOff.rest (works : session.WorksOff env user) {effect : Effect}
    (todo : session.todo = effect :: next.todo)
    (notLast : effect ≠ .dropSenders) (same : SamePresence session next) :
    next.WorksOff env user := by
  have samePhase := same.phase
  have isPart : next.todo <:+ session.todo := by
    rw [todo]
    exact List.suffix_cons effect next.todo
  cases works with
  | unborn isUnborn noTodo => cases noTodo.symm.trans todo
  | quiet serving quiet =>
      exact .quiet (samePhase.trans serving)
        (fun later member => quiet later (isPart.mem member))
  | subscribing identifier stream answer serving on isQuiet part =>
      exact .subscribing identifier stream answer (samePhase.trans serving)
        ((same.subscribedTo identifier).mpr on) isQuiet (isPart.trans part)
  | unsubscribing identifier stream serving off part =>
      exact .unsubscribing identifier stream (samePhase.trans serving)
        (mt (same.subscribedTo identifier).mp off) (isPart.trans part)
  | leaving streams isLeaving isTodo =>
      rw [todo] at isTodo
      cases streams with
      | nil =>
          exact .returned (samePhase.trans isLeaving)
            (List.cons.inj isTodo).2
      | cons stream streams =>
          exact .leaving streams (samePhase.trans isLeaving)
            (List.cons.inj isTodo).2
  | returned isLeaving isTodo =>
      rw [todo] at isTodo
      exact absurd (List.cons.inj isTodo).1 notLast
  | closed isClosed noTodo => cases noTodo.symm.trans todo

/-- What is known of an effect that the connection task has to perform. -/
inductive Planned (env : Environment) (user : String) (session : Session) :
    Effect → Prop
  | quiet (effect : Effect) :
      effect.isQuiet = true → Planned env user session effect
  | put (identifier : String) :
      session.phase = .serving → session.SubscribedTo env identifier →
      Planned env user session (.presencePut identifier user)
  | start (identifier : String) :
      session.phase = .serving → session.SubscribedTo env identifier →
      Planned env user session (.startHeartbeat identifier user)
  | stop (identifier : String) :
      .presenceDelete identifier user ∈ session.todo →
      Planned env user session (.stopHeartbeat identifier)
  | delete (identifier : String) :
      (session.phase = .serving → ¬ session.SubscribedTo env identifier) →
      Planned env user session (.presenceDelete identifier user)
  | deregister :
      session.phase = .leaving → Planned env user session .registryDeregister
  | drop :
      session.phase = .leaving → Planned env user session .dropSenders

theorem WorksOff.planned (works : session.WorksOff env user) {effect : Effect}
    (member : effect ∈ session.todo) : session.Planned env user effect := by
  cases works with
  | unborn isUnborn noTodo =>
      rw [noTodo] at member
      cases member
  | quiet serving quiet => exact .quiet effect (quiet effect member)
  | subscribing identifier stream answer serving on isQuiet part =>
      have inPlan := part.mem member
      simp only [List.mem_cons, List.not_mem_nil, or_false] at inPlan
      rcases inPlan with rfl | rfl | rfl | rfl
      · exact .quiet _ rfl
      · exact .put identifier serving on
      · exact .start identifier serving on
      · exact .quiet effect isQuiet
  | unsubscribing identifier stream serving off part =>
      have inPlan := part.mem member
      simp only [List.mem_cons, List.not_mem_nil, or_false] at inPlan
      rcases inPlan with rfl | rfl | rfl
      · exact .quiet _ rfl
      · -- The stop stands before the delete in every part of the plan.
        refine .stop identifier ?_
        simp only [List.suffix_cons_iff, List.suffix_nil] at part
        rcases part with isTodo | isTodo | isTodo | isTodo <;>
          simp_all
      · exact .delete identifier (fun _ => off)
  | leaving streams isLeaving isTodo =>
      rw [isTodo] at member
      simp only [List.mem_append, List.mem_map, List.mem_cons,
        List.not_mem_nil, or_false] at member
      rcases member with ⟨stream, -, rfl⟩ | rfl | rfl
      · refine .delete stream (fun serving => ?_)
        cases isLeaving.symm.trans serving
      · exact .deregister isLeaving
      · exact .drop isLeaving
  | returned isLeaving isTodo =>
      rw [isTodo] at member
      rw [List.mem_singleton.mp member]
      exact .drop isLeaving
  | closed isClosed noTodo =>
      rw [noTodo] at member
      cases member

/-- A connection writes only keys of its own user. -/
theorem WorksOff.user_of_pending (works : session.WorksOff env user)
    {stream writer : String} {on : Bool}
    (pending : ((stream, writer), on) ∈ session.pendingWrites) :
    writer = user := by
  obtain ⟨effect, member, isWrite⟩ := mem_pendingWrites.mp pending
  cases works.planned member with
  | put identifier serving subscribed | delete identifier off =>
      cases isWrite
      rfl
  | quiet _ isQuiet => cases (Effect.write_of_isQuiet isQuiet).symm.trans isWrite
  | _ => cases isWrite

theorem WorksOff.leaving_of_dropSenders (works : session.WorksOff env user)
    {rest : List Effect} (todo : session.todo = .dropSenders :: rest) :
    session.phase = .leaving := by
  have member : .dropSenders ∈ session.todo := by
    rw [todo]
    exact List.mem_cons_self
  cases works.planned member with
  | quiet _ isQuiet => cases isQuiet
  | drop isLeaving => exact isLeaving

/-- A ping is not sent before the writes of a plan. -/
theorem WorksOff.pendingWrites_of_sendPing (works : session.WorksOff env user)
    {timestamp : Nat} {rest : List Effect}
    (todo : session.todo = .sendPing timestamp :: rest) :
    session.pendingWrites = [] := by
  cases works with
  | quiet serving quiet => exact pendingWrites_of_quiet quiet
  | subscribing identifier stream answer serving on isQuiet part =>
      rw [todo] at part
      simp only [List.suffix_cons_iff, List.suffix_nil, List.cons.injEq,
        reduceCtorEq, false_and, false_or, or_false] at part
      rw [pendingWrites, todo, part.2]
      rfl
  | unsubscribing identifier stream serving off part =>
      rw [todo] at part
      simp [List.suffix_cons_iff] at part
  | leaving streams isLeaving isTodo =>
      rw [todo] at isTodo
      cases streams <;> cases isTodo
  | returned isLeaving isTodo => cases todo.symm.trans isTodo
  | unborn isUnborn noTodo => cases todo.symm.trans noTodo
  | closed isClosed noTodo => cases todo.symm.trans noTodo

theorem WorksOff.todo_of_closed (works : session.WorksOff env user)
    (isClosed : session.phase = .closed) : session.todo = [] := by
  cases works with
  | closed _ noTodo => exact noTodo
  | unborn _ noTodo => exact noTodo
  | quiet phase _ | subscribing _ _ _ phase _ _ _
  | unsubscribing _ _ phase _ _ | leaving _ phase _ | returned phase _ =>
      cases phase.symm.trans isClosed

theorem WorksOff.dropSenders_last (works : session.WorksOff env user)
    {rest : List Effect} (todo : session.todo = .dropSenders :: rest) :
    rest = [] := by
  have isLeaving := works.leaving_of_dropSenders todo
  cases works with
  | leaving streams _ isTodo =>
      rw [todo] at isTodo
      cases streams <;> cases isTodo
  | returned _ isTodo =>
      rw [todo] at isTodo
      exact (List.cons.inj isTodo).2
  | unborn phase _ | quiet phase _ | subscribing _ _ _ phase _ _ _
  | unsubscribing _ _ phase _ _ | closed phase _ =>
      cases phase.symm.trans isLeaving

private theorem WorksOff.of_received (received : Received env user session next)
    (serving : next.phase = .serving) : next.WorksOff env user := by
  cases received with
  | quiet quiet sameOn => exact .quiet serving quiet
  | subscribed identifier answer isQuiet isTodo isOn =>
      exact .subscribing identifier _ answer serving
        ((isOn identifier).mpr (Or.inl rfl)) isQuiet ⟨[], isTodo⟩
  | unsubscribed identifier isTodo isOn =>
      exact .unsubscribing identifier _ serving
        (fun on => ((isOn identifier).mp on).1 rfl) ⟨[], isTodo⟩

theorem WorksOff.step (replays : session.Replays env)
    (works :
      ∀ user, presenceUser env session.ctx = some user →
        session.WorksOff env user)
    (steps : Steps env session action next)
    (isUser : presenceUser env next.ctx = some user) :
    next.WorksOff env user := by
  cases steps.presenceMove with
  | same _ _ notEffect same sameTodo =>
      rw [same.ctx] at isUser
      exact (works user isUser).congr same sameTodo
  | performed effect _ todo notLast same =>
      rw [same.ctx] at isUser
      exact (works user isUser).rest todo notLast same
  | framed frame idle =>
      have sameUser : presenceUser env session.ctx = some user := isUser
      exact .of_received (received_receive replays sameUser frame) idle.1
  | asked timestamp _ idle same isTodo =>
      refine .quiet (same.phase.trans idle.1) (fun effect member => ?_)
      rw [isTodo] at member
      rw [List.mem_singleton.mp member]
      rfl
  | born ctx _ isUnborn serving isTodo sameFrames =>
      refine .quiet serving (fun effect member => ?_)
      rw [isTodo] at member
      simp only [List.mem_cons, List.not_mem_nil, or_false] at member
      rcases member with rfl | rfl
      · rfl
      · rfl
  | left _ _ wasServing sameCtx isLeaving sameInbound isTodo =>
      refine .leaving (env.heartbeatOrder.list session.inbound.heartbeats)
        isLeaving ?_
      rw [isTodo, leaveEffects, ← sameCtx, isUser]
  | finished _ todo sameCtx isClosed sameInbound =>
      rw [sameCtx] at isUser
      exact .closed isClosed ((works user isUser).dropSenders_last todo)

/-- The variables of the connection task follow its frames, and what it has to
do for its user is the rest of a plan. -/
structure Attends (env : Environment) (session : Session) : Prop where
  replays : session.Replays env
  works :
    ∀ user, presenceUser env session.ctx = some user →
      session.WorksOff env user

theorem attends_unborn (env : Environment) : (unborn env).Attends env where
  replays := replays_unborn env
  works := fun _ _ => .unborn rfl rfl

theorem Attends.step (attends : session.Attends env)
    (steps : Steps env session action next) : next.Attends env where
  replays := attends.replays.step steps
  works := fun _ isUser => WorksOff.step attends.replays attends.works steps isUser

/-- The identifiers in the heartbeat map are the subscribed ones. -/
theorem Attends.mem_heartbeats (attends : session.Attends env)
    (isUser : presenceUser env session.ctx = some user) (identifier : String) :
    identifier ∈ session.inbound.heartbeats ↔
      session.SubscribedTo env identifier := by
  rw [attends.replays.inbound]
  exact (heartbeats_inboundAfter isUser session.frames).2 identifier

/-! ### Heartbeats -/

/-- The effect that an action performs. -/
def performs (session : Session) : SessionAction → Option Effect
  | .effect => session.todo.head?
  | _ => none

theorem performs_eq_none (notEffect : action ≠ .effect) :
    session.performs action = none := by
  cases action <;> first | rfl | exact absurd rfl notEffect

theorem performs_eq_some {effect : Effect} :
    session.performs action = some effect ↔
      action = .effect ∧ ∃ rest, session.todo = effect :: rest := by
  cases action with
  | effect => simp [performs, List.head?_eq_some_iff]
  | _ => simp [performs]

theorem performs_of_todo {effect : Effect} {rest : List Effect}
    (todo : session.todo = effect :: rest) :
    session.performs .effect = some effect :=
  performs_eq_some.mpr ⟨rfl, rest, todo⟩

theorem mem_todo_of_performs {effect : Effect}
    (performs : session.performs action = some effect) :
    effect ∈ session.todo := by
  obtain ⟨-, rest, todo⟩ := performs_eq_some.mp performs
  rw [todo]
  exact List.mem_cons_self

/-- The connection can have a heartbeat of the stream: it is subscribed, or
about to stop it, or it has not yet returned from `inbound_loop`. -/
def Beating (env : Environment) (session : Session) (stream : String) : Prop :=
  session.phase = .serving ∧
      (session.SubscribedTo env stream ∨
        .stopHeartbeat stream ∈ session.todo) ∨
    session.phase = .leaving ∧ .registryDeregister ∈ session.todo

private theorem Beating.of_received {stream : String}
    (received : Received env user session next)
    (serving : next.phase = .serving)
    (on : session.SubscribedTo env stream) : next.Beating env stream := by
  refine Or.inl ⟨serving, ?_⟩
  cases received with
  | quiet quiet sameOn => exact Or.inl ((sameOn stream).mpr on)
  | subscribed identifier answer isQuiet isTodo isOn =>
      exact Or.inl ((isOn stream).mpr (Or.inr on))
  | unsubscribed identifier isTodo isOn =>
      by_cases same : stream = identifier
      · right
        rw [isTodo, same]
        simp
      · exact Or.inl ((isOn stream).mpr ⟨same, on⟩)

/-- A heartbeat lasts until it is stopped or all are dropped. -/
theorem Beating.step {stream : String} (beating : session.Beating env stream)
    (attends : session.Attends env)
    (isUser : presenceUser env session.ctx = some user)
    (steps : Steps env session action next) :
    next.Beating env stream ∨
      session.performs action = some (.stopHeartbeat stream) ∨
      session.performs action = some .registryDeregister := by
  cases steps.presenceMove with
  | same _ _ notEffect same sameTodo =>
      left
      rwa [Beating, same.phase, same.subscribedTo, sameTodo]
  | performed effect _ todo notLast same =>
      rw [Beating, same.phase, same.subscribedTo, performs_of_todo todo]
      rw [Beating, todo] at beating
      rcases beating with ⟨serving, on | stops⟩ | ⟨isLeaving, deregisters⟩
      · exact Or.inl (Or.inl ⟨serving, Or.inl on⟩)
      · rcases List.mem_cons.mp stops with rfl | later
        · exact Or.inr (Or.inl rfl)
        · exact Or.inl (Or.inl ⟨serving, Or.inr later⟩)
      · rcases List.mem_cons.mp deregisters with rfl | later
        · exact Or.inr (Or.inr rfl)
        · exact Or.inl (Or.inr ⟨isLeaving, later⟩)
  | framed frame idle =>
      left
      rcases beating with ⟨serving, on | stops⟩ | ⟨isLeaving, -⟩
      · exact .of_received (received_receive attends.replays isUser frame)
          idle.1 on
      · rw [idle.2] at stops
        cases stops
      · cases idle.1.symm.trans isLeaving
  | asked timestamp _ idle same isTodo =>
      left
      rcases beating with ⟨serving, on | stops⟩ | ⟨isLeaving, -⟩
      · exact Or.inl ⟨same.phase.trans serving,
          Or.inl ((same.subscribedTo stream).mpr on)⟩
      · rw [idle.2] at stops
        cases stops
      · cases idle.1.symm.trans isLeaving
  | born ctx _ isUnborn serving isTodo sameFrames =>
      rcases beating with ⟨wasServing, -⟩ | ⟨isLeaving, -⟩
      · cases isUnborn.symm.trans wasServing
      · cases isUnborn.symm.trans isLeaving
  | left _ _ wasServing sameCtx isLeaving sameInbound isTodo =>
      refine Or.inl (Or.inr ⟨isLeaving, ?_⟩)
      rw [isTodo, leaveEffects]
      simp
  | finished _ todo sameCtx isClosed sameInbound =>
      have works := attends.works user isUser
      have isLeaving := works.leaving_of_dropSenders todo
      rw [works.dropSenders_last todo] at todo
      rcases beating with ⟨serving, -⟩ | ⟨-, deregisters⟩
      · cases isLeaving.symm.trans serving
      · rw [todo] at deregisters
        simp at deregisters

end Session

end TurbocableServer.Connection
