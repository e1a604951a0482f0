import TurbocableServer.Connection.SessionDelivery
import TurbocableServer.Connection.Wire

/-!
# Sessions on the wire

The sessions of this development keep their frames unencoded.  Here every run of
a session is followed by a run of an encoded connection: at each point the
queues and the socket of the connection are those of the session, frame by frame
in the codec of the connection.
-/

namespace TurbocableServer.Connection

open Foundations Protocol

/-! ## The outbound task under a renaming of frames -/

def SocketFrame.map {μ ν : Type} (g : μ → ν) : SocketFrame μ → SocketFrame ν
  | .data message => .data (g message)
  | .goingAway => .goingAway
  | .closing => .closing

namespace OutboundState

variable {β γ μ ν : Type}

def map (f : β → γ) (g : μ → ν) (state : OutboundState β μ) :
    OutboundState γ ν where
  evict := state.evict
  urgent := state.urgent.map f
  replay := state.replay.map f
  live := state.live.map f
  evictOpen := state.evictOpen
  urgentOpen := state.urgentOpen
  pc := state.pc
  socket := state.socket.map (SocketFrame.map g)

section

variable (f : β → γ) (g : μ → ν) (state : OutboundState β μ) (ok : Bool)

theorem map_emit (frame : SocketFrame μ) :
    (state.map f g).emit ok (frame.map g) = (state.emit ok frame).map f g := by
  cases ok with
  | false =>
      rfl
  | true =>
      simp [emit, map]

theorem map_hangUp : (state.map f g).hangUp ok = (state.hangUp ok).map f g :=
  congrArg exit (map_emit f g state ok .closing)

variable {f g} {toMsg : β → Option μ} {toMsg' : γ → Option ν}

theorem map_writeThen
    (named : ∀ frame, toMsg' (f frame) = (toMsg frame).map g) (frame : β)
    {onward failed : OutboundState β μ → OutboundState β μ}
    {onward' failed' : OutboundState γ ν → OutboundState γ ν}
    (onwardNamed : ∀ source, onward' (source.map f g) = (onward source).map f g)
    (failedNamed :
      ∀ source, failed' (source.map f g) = (failed source).map f g) :
    writeThen toMsg' ok (state.map f g) (f frame) onward' failed' =
      (writeThen toMsg ok state frame onward failed).map f g := by
  unfold writeThen
  rw [named]
  cases toMsg frame with
  | none =>
      exact onwardNamed state
  | some message =>
      simp only [Option.map_some]
      split
      · rw [← onwardNamed, ← map_emit]
        rfl
      · exact failedNamed state

theorem map_closeWith
    (named : ∀ frame, toMsg' (f frame) = (toMsg frame).map g) (frame : β) :
    closeWith toMsg' ok (state.map f g) (f frame) =
      (closeWith toMsg ok state frame).map f g := by
  rw [closeWith, closeWith,
    map_writeThen state ok named frame (fun _ => rfl) (fun _ => rfl),
    map_hangUp]
  rfl

private theorem map_liveBranch
    (named : ∀ frame, toMsg' (f frame) = (toMsg frame).map g) :
    liveBranch toMsg' ok (state.map f g) =
      (liveBranch toMsg ok state).map (map f g) := by
  unfold liveBranch
  rw [show (state.map f g).live.recv =
    Channel.mapResult f state.live.recv from Channel.map_recv f state.live]
  cases state.live.recv with
  | item frame rest =>
      exact congrArg some
        (map_writeThen { state with live := rest } ok named frame
          (fun _ => rfl) (fun source => map_hangUp f g source ok))
  | closed =>
      exact congrArg some (map_hangUp f g state ok)
  | pending =>
      rfl

private theorem map_replayBranch
    (named : ∀ frame, toMsg' (f frame) = (toMsg frame).map g) :
    replayBranch toMsg' ok (state.map f g) =
      (replayBranch toMsg ok state).map (map f g) := by
  unfold replayBranch
  rw [show (state.map f g).replay.recv =
    Channel.mapResult f state.replay.recv from Channel.map_recv f state.replay]
  cases state.replay.recv with
  | item frame rest =>
      exact congrArg some
        (map_writeThen { state with replay := rest } ok named frame
          (fun _ => rfl) (fun source => map_hangUp f g source ok))
  | closed =>
      rfl
  | pending =>
      exact map_liveBranch state ok named

variable (shutdown : Bool)

private theorem map_shutdownBranch
    (named : ∀ frame, toMsg' (f frame) = (toMsg frame).map g) :
    shutdownBranch toMsg' ok shutdown (state.map f g) =
      (shutdownBranch toMsg ok shutdown state).map (map f g) := by
  unfold shutdownBranch
  split
  · rfl
  · exact map_replayBranch state ok named

private theorem map_urgentBranch
    (named : ∀ frame, toMsg' (f frame) = (toMsg frame).map g) :
    urgentBranch toMsg' ok shutdown (state.map f g) =
      (urgentBranch toMsg ok shutdown state).map (map f g) := by
  unfold urgentBranch
  rw [show (state.map f g).urgentOpen = state.urgentOpen from rfl,
    show (state.map f g).urgent.recv =
      Channel.mapResult f state.urgent.recv from
        Channel.map_recv f state.urgent]
  split
  · cases state.urgent.recv with
    | item frame rest =>
        exact congrArg some
          (map_closeWith { state with urgent := rest } ok named frame)
    | closed =>
        rfl
    | pending =>
        exact map_shutdownBranch state ok shutdown named
  · exact map_shutdownBranch state ok shutdown named

private theorem map_selectStep
    (named : ∀ frame, toMsg' (f frame) = (toMsg frame).map g)
    (disconnectFrame : β) :
    selectStep toMsg' ok (f disconnectFrame) shutdown (state.map f g) =
      (selectStep toMsg ok disconnectFrame shutdown state).map (map f g) := by
  unfold selectStep
  rw [show (state.map f g).evictOpen = state.evictOpen from rfl,
    show (state.map f g).evict = state.evict from rfl]
  split
  · cases state.evict.recv with
    | item signal rest =>
        exact congrArg some
          (map_closeWith { state with evict := rest } ok named
            disconnectFrame)
    | closed =>
        rfl
    | pending =>
        exact map_urgentBranch state ok shutdown named
  · exact map_urgentBranch state ok shutdown named

/-- A step of the task on renamed frames. -/
theorem map_step
    (named : ∀ frame, toMsg' (f frame) = (toMsg frame).map g)
    (disconnectFrame : β) :
    step toMsg' ok (f disconnectFrame) shutdown (state.map f g) =
      (step toMsg ok disconnectFrame shutdown state).map (map f g) := by
  unfold step
  rw [show (state.map f g).pc = state.pc from rfl]
  cases state.pc with
  | unspawned =>
      rfl
  | select =>
      exact map_selectStep state ok shutdown named disconnectFrame
  | burst left =>
      refine congrArg some ?_
      unfold burstStep
      rw [show (state.map f g).replay.tryRecv =
        (state.replay.tryRecv).map (Prod.map f (Channel.map f)) from
          Channel.map_tryRecv f state.replay]
      cases state.replay.tryRecv with
      | none =>
          rfl
      | some taken =>
          exact map_writeThen { state with replay := taken.2 } ok named
            taken.1 (fun _ => rfl) (fun source => map_hangUp f g source ok)
  | drainReplay =>
      refine congrArg some ?_
      unfold drainReplayStep
      rw [show (state.map f g).replay.tryRecv =
        (state.replay.tryRecv).map (Prod.map f (Channel.map f)) from
          Channel.map_tryRecv f state.replay]
      cases state.replay.tryRecv with
      | none =>
          rfl
      | some taken =>
          exact map_writeThen { state with replay := taken.2 } ok named
            taken.1 (fun _ => rfl) (fun _ => rfl)
  | drainLive =>
      have closes :
          ∀ source : OutboundState β μ,
            ((source.map f g).emit ok .goingAway).exit =
              ((source.emit ok .goingAway).exit).map f g :=
        fun source =>
          congrArg exit (map_emit f g source ok .goingAway)
      refine congrArg some ?_
      unfold drainLiveStep
      rw [show (state.map f g).live.tryRecv =
        (state.live.tryRecv).map (Prod.map f (Channel.map f)) from
          Channel.map_tryRecv f state.live]
      cases state.live.tryRecv with
      | none =>
          exact closes state
      | some taken =>
          exact map_writeThen { state with live := taken.2 } ok named
            taken.1 (fun _ => rfl) closes
  | exited =>
      rfl

end

end OutboundState

/-! ## The simulation -/

/-- The queues and the socket of a session in the codec of a connection. -/
def encodedOut (format : WireFormat) (codec : Codec) (out : Outbound) :
    OutboundState ByteArray WsMessage :=
  out.map (codec.encode format) (wsMessage format codec)

namespace Wire

/-- The connection shows what the session holds. -/
structure Follows (format : WireFormat) (wire : Wire) (out : Outbound) :
    Prop where
  agrees : wire.Agrees format
  shows : wire.out = encodedOut format wire.codec out

/-- Some steps of the connection lead to what `out` holds. -/
def Leads (format : WireFormat) (wire : Wire) (out : Outbound) : Prop :=
  ∃ next, Reaches (step format) WritesSucceed wire next ∧
    next.Follows format out

section

variable {format : WireFormat} {wire : Wire} {out next : Outbound}

theorem Follows.leads (follows : wire.Follows format out) :
    wire.Leads format out :=
  ⟨wire, Reaches.refl wire, follows⟩

theorem Leads.trans (leads : wire.Leads format out)
    (onward : ∀ middle : Wire, middle.Follows format out →
      middle.Leads format next) : wire.Leads format next := by
  obtain ⟨middle, toMiddle, follows⟩ := leads
  obtain ⟨last, toLast, isLast⟩ := onward middle follows
  exact ⟨last, toMiddle.trans toLast, isLast⟩

/-- One step of the connection. -/
theorem Follows.leads_of_step (follows : wire.Follows format out)
    {action : WireAction} {target : OutboundState ByteArray WsMessage}
    (succeeds : wire.WritesSucceed action)
    (moved : wire.step format action = some (wire.withOut target))
    (shows : target = encodedOut format wire.codec next) :
    wire.Leads format next :=
  ⟨wire.withOut target, (Reaches.refl wire).tail succeeds moved,
    follows.agrees.step moved, shows⟩

theorem Follows.answer (follows : wire.Follows format out)
    {frame : ServerMessage} {live : Channel ServerMessage} {accepted : Bool}
    (sent : out.live.send frame = some (live, accepted)) :
    wire.Leads format { out with live := live } := by
  refine @Follows.leads_of_step format wire out _ follows (.answer frame)
    (encodedOut format wire.codec { out with live := live }) trivial ?_ rfl
  rw [step, follows.shows]
  simp only [encodedOut, OutboundState.map]
  rw [Channel.map_send, sent]
  rfl

theorem Follows.fanOut (follows : wire.Follows format out)
    {frame : ServerMessage} {live : Channel ServerMessage}
    (accepted : out.live.trySend frame = some live) :
    wire.Leads format { out with live := live } := by
  refine @Follows.leads_of_step format wire out _ follows (.fanOut frame)
    (encodedOut format wire.codec { out with live := live }) trivial ?_ rfl
  rw [step, follows.agrees.fanOutPayload, follows.shows]
  simp only [encodedOut, OutboundState.map]
  rw [Channel.map_trySend, accepted]
  rfl

theorem Follows.replay (follows : wire.Follows format out)
    {frame : ServerMessage} {replay : Channel ServerMessage} {accepted : Bool}
    (sent : out.replay.send frame = some (replay, accepted)) :
    wire.Leads format { out with replay := replay } := by
  refine @Follows.leads_of_step format wire out _ follows (.replay frame)
    (encodedOut format wire.codec { out with replay := replay }) trivial ?_ rfl
  rw [step, follows.shows]
  simp only [encodedOut, OutboundState.map]
  rw [Channel.map_send, sent]
  rfl

theorem Follows.urgent (follows : wire.Follows format out)
    {frame : ServerMessage} {urgent : Channel ServerMessage} {accepted : Bool}
    (sent : out.urgent.send frame = some (urgent, accepted)) :
    wire.Leads format { out with urgent := urgent } := by
  refine @Follows.leads_of_step format wire out _ follows (.urgent frame)
    (encodedOut format wire.codec { out with urgent := urgent }) trivial ?_ rfl
  rw [step, follows.shows]
  simp only [encodedOut, OutboundState.map]
  rw [Channel.map_send, sent]
  rfl

theorem Follows.release (follows : wire.Follows format out)
    (pc : ReplayPc) : wire.Leads format (Session.releaseTask pc out) := by
  cases pc with
  | ended confirmed =>
      refine @Follows.leads_of_step format wire out _ follows .endTask _
        trivial rfl ?_
      rw [follows.shows]
      rfl
  | _ => exact follows.leads

theorem Follows.outbound (follows : wire.Follows format out)
    {shutdown : Bool}
    (stepped : out.step some true backpressureFrame shutdown = some next) :
    wire.Leads format next := by
  have named :
      ∀ frame,
        bytesToWsMsg wire.isBinary (wire.codec.encode format frame) =
          (some frame).map (wsMessage format wire.codec) :=
    bytesToWsMsg_encode format follows.agrees.written
  have moved :=
    OutboundState.map_step out true shutdown named backpressureFrame
  refine @Follows.leads_of_step format wire out _ follows
    (.outbound true shutdown) (encodedOut format wire.codec next) rfl ?_ rfl
  rw [step, follows.shows, follows.agrees.disconnect, encodedOut, moved,
    stepped]
  rfl

end

variable {env : Environment} {format : WireFormat} {wire : Wire}
variable {session next : Session} {action : SessionAction}

/-- Every step of the session is followed. -/
theorem Follows.sessionStep (follows : wire.Follows format session.out)
    (launched : session.Launched)
    (succeeds : Session.WritesSucceed env session action)
    (moved : session.step env action = some next) :
    wire.Leads format next.out := by
  by_cases isRefusal : action = .refuse
  · subst isRefusal
    simp only [Session.step] at moved
    split at moved
    · rename_i signalled accepted
      obtain rfl := Option.some.inj moved
      refine @Follows.leads_of_step format wire _ _ follows .refuse
        { wire.out with evict := signalled } trivial ?_ ?_
      · rw [step, follows.shows]
        simp only [encodedOut, OutboundState.map]
        rw [accepted]
      · rw [follows.shows]
        rfl
    · obtain rfl := Option.some.inj moved
      exact follows.leads
  · cases Session.steps_of_step moved with
    | sendLive frame rest live accepted todo sent => exact follows.answer sent
    | sendPing timestamp rest live todo sent => exact follows.answer sent
    | spawnReplay identifier lastSeq rest todo =>
        refine @Follows.leads_of_step format wire _ _ follows .startTask _
          trivial rfl ?_
        rw [follows.shows]
        rfl
    | spawnOutbound rest todo =>
        have unspawned := (launched.planned (by simp [todo])).1
        refine @Follows.leads_of_step format wire _ _ follows .spawnOutbound
          { wire.out with pc := .select } trivial ?_ ?_
        · have here :
              (encodedOut format wire.codec session.out).pc = .unspawned :=
            unspawned
          rw [step, follows.shows, if_pos here]
        · rw [follows.shows]
          rfl
    | dropSenders rest todo =>
        refine @Follows.leads_of_step format wire _ _ follows .dropSenders _
          trivial rfl ?_
        rw [follows.shows]
        rfl
    | outbound ok shutdown out stepped =>
        obtain rfl : ok = true := succeeds
        exact follows.outbound stepped
    | taskGo index stimulus task pc present moves => exact follows.release pc
    | taskEnqueue index stimulus task frame sent gone replay accepted present
        moves offered =>
        exact (follows.replay offered).trans
          (fun middle isMiddle => isMiddle.release _)
    | taskUrgent index stimulus task frame after urgent accepted present moves
        offered =>
        exact (follows.urgent offered).trans
          (fun middle isMiddle => isMiddle.release _)
    | deliver frame live accepted => exact follows.fanOut accepted
    | refuse evict => exact absurd rfl isRefusal
    | forget =>
        refine @Follows.leads_of_step format wire _ _ follows .forget _
          trivial rfl ?_
        rw [follows.shows]
        rfl
    | _ => exact follows.leads

/-- A run of a session, on whichever sub-protocol was negotiated. -/
theorem follows_of_reaches {header : Option String} {opened : Wire}
    (accepted : accept format env header = some opened)
    (run :
      Reaches (Session.step env) (Session.WritesSucceed env)
        (Session.unborn env) session) :
    opened.Leads format session.out := by
  induction run with
  | refl =>
      obtain ⟨wire, isWire, agrees, isOut⟩ := accept_agrees format env header
      obtain rfl : wire = opened :=
        Option.some.inj (isWire.symm.trans accepted)
      exact Follows.leads ⟨agrees, isOut⟩
  | tail before last ih =>
      obtain ⟨label, succeeds, moved⟩ := last
      exact ih.trans (fun middle isMiddle =>
        isMiddle.sessionStep
          (Session.launched_of_reaches before (Session.launched_unborn env))
          succeeds moved)

end Wire

end TurbocableServer.Connection
