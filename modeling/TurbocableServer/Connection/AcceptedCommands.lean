import TurbocableServer.Connection.Handshake
import TurbocableServer.Connection.SessionFacts
import TurbocableServer.Foundations.SwitchLog

/-!
# Accepted commands

A Subscribe or Unsubscribe is accepted when the handler calls the registry for
it.  The accepted commands of a connection are a log of switches for its
identifiers; the calls they lead to are the same log with every identifier
replaced by its stream key.
-/

namespace TurbocableServer.Connection

open Foundations Protocol

/-- The stream a call of the registry turns on or off. -/
def registrySwitch : Effect → Option (String × Bool)
  | .registrySubscribe stream => some (stream, true)
  | .registryUnsubscribe stream => some (stream, false)
  | _ => none

/-- The identifier a frame turns on or off if its effects reach the registry. -/
def acceptedSwitch (effects : List Effect) :
    ClientFrame → List (String × Bool)
  | .command (.subscribe identifier) =>
      if effects.any (fun effect => (registrySwitch effect).isSome) then
        [(identifier, true)]
      else
        []
  | .command (.unsubscribe identifier) =>
      if effects.any (fun effect => (registrySwitch effect).isSome) then
        [(identifier, false)]
      else
        []
  | _ => []

section

variable (env : Environment) (ctx : ConnContext)

/-- The accepted commands among some frames, from a state of the variables
on. -/
def acceptedFrom : InboundState → List ClientFrame → List (String × Bool)
  | _, [] => []
  | state, frame :: rest =>
      let handled := handleClientFrame env ctx state (some frame)
      acceptedSwitch handled.2 frame ++ acceptedFrom handled.1 rest

def accepted (frames : List ClientFrame) : List (String × Bool) :=
  acceptedFrom env ctx .initial frames

end

section

variable {env : Environment} {ctx : ConnContext}

theorem acceptedFrom_append (state : InboundState) (frames : List ClientFrame)
    (frame : ClientFrame) :
    acceptedFrom env ctx state (frames ++ [frame]) =
      acceptedFrom env ctx state frames ++
        acceptedSwitch
          (handleClientFrame env ctx
            (frames.foldl
              (fun state frame =>
                (handleClientFrame env ctx state (some frame)).1)
              state)
            (some frame)).2
          frame := by
  induction frames generalizing state with
  | nil =>
      simp [acceptedFrom]
  | cons first rest ih =>
      simp only [List.cons_append, acceptedFrom, List.foldl_cons,
        ih, List.append_assoc]

theorem accepted_append (frames : List ClientFrame) (frame : ClientFrame) :
    accepted env ctx (frames ++ [frame]) =
      accepted env ctx frames ++
        acceptedSwitch
          (handleClientFrame env ctx (inboundAfter env ctx frames)
            (some frame)).2
          frame :=
  acceptedFrom_append .initial frames frame

theorem registrySwitch_of_isPresence {effect : Effect}
    (isPresence : effect.isPresence = true) : registrySwitch effect = none := by
  cases effect <;> first | rfl | cases isPresence

theorem filterMap_presence {presence : List Effect}
    (onlyPresence : presence.all Effect.isPresence = true) :
    presence.filterMap registrySwitch = [] := by
  rw [List.filterMap_eq_nil_iff]
  intro effect member
  exact registrySwitch_of_isPresence
    (List.all_eq_true.mp onlyPresence effect member)

theorem registrySwitch_confirmEffect (lastSeq : Option Nat)
    (identifier : String) :
    registrySwitch (confirmEffect env lastSeq identifier) = none := by
  rcases confirmEffect_cases env lastSeq identifier with
    direct | ⟨since, -, replayed⟩
  · rw [direct]
    rfl
  · rw [replayed]
    rfl

/-- The handler calls the registry for the accepted commands, under their
stream keys, and for nothing else. -/
theorem filterMap_handleClientFrame (state : InboundState)
    (frame : ClientFrame) :
    (handleClientFrame env ctx state (some frame)).2.filterMap
        registrySwitch =
      merged env.streamKey
        (acceptedSwitch (handleClientFrame env ctx state (some frame)).2
          frame) := by
  have handled := handled_handleClientFrame env ctx state (some frame)
  generalize (handleClientFrame env ctx state (some frame)).2 = effects at *
  generalize (handleClientFrame env ctx state (some frame)).1.lastSeq =
    lastSeq at *
  cases handled with
  | hello hello => rfl
  | rejected identifier => rfl
  | ignored command => cases command <;> rfl
  | subscribed identifier presence allowed onlyPresence =>
      have confirmed := @registrySwitch_confirmEffect env state.lastSeq
        identifier
      have call :
          registrySwitch (.registrySubscribe (env.streamKey identifier)) =
            some (env.streamKey identifier, true) :=
        rfl
      rw [List.filterMap_cons_some call, List.filterMap_append,
        filterMap_presence onlyPresence, List.filterMap_cons_none confirmed]
      rfl
  | unsubscribed identifier presence onlyPresence =>
      have call :
          registrySwitch (.registryUnsubscribe (env.streamKey identifier)) =
            some (env.streamKey identifier, false) :=
        rfl
      rw [List.filterMap_cons_some call, filterMap_presence onlyPresence]
      rfl
  | published identifier data => rfl

end

/-! ## Sessions -/

namespace Session

variable {env : Environment} {session next : Session} {action : SessionAction}

/-- The accepted commands of a session. -/
def accepted (env : Environment) (session : Session) : List (String × Bool) :=
  Connection.accepted env session.ctx session.frames

/-- The calls of the registry that the connection task has still to make. -/
def plannedSwitches (session : Session) : List (String × Bool) :=
  session.todo.filterMap registrySwitch

/-- The variables of the connection task are determined by its frames. -/
structure Replays (env : Environment) (session : Session) : Prop where
  fresh : session.phase = .unborn → session.frames = [] ∧ session.todo = []
  inbound :
    session.inbound = inboundAfter env session.ctx session.frames

theorem replays_unborn (env : Environment) : (unborn env).Replays env where
  fresh := fun _ => ⟨rfl, rfl⟩
  inbound := rfl

private theorem replays_fresh_step (replays : session.Replays env)
    (steps : Steps env session action next)
    (unborn : next.phase = .unborn) :
    next.frames = [] ∧ next.todo = [] := by
  have wasUnborn := steps.phase unborn
  have fresh := replays.fresh wasUnborn
  have busy :
      ∀ {effect : Effect} {rest : List Effect},
        session.todo ≠ effect :: rest := by
    intro effect rest todo
    rw [fresh.2] at todo
    cases todo
  cases steps with
  | accept ctx isUnborn => cases unborn
  | frame frame idle | ping timestamp idle => cases idle.1.symm.trans wasUnborn
  | hangup idle => cases unborn
  | sendLive frame rest live accepted todo sent
  | sendPing timestamp rest live todo sent
  | pingFailed timestamp rest live todo failed
  | spawnReplay identifier lastSeq rest todo | spawnOutbound rest todo
  | dropSenders rest todo | external effect rest todo isExternal =>
      exact absurd todo busy
  | _ => exact fresh

theorem Replays.step (replays : session.Replays env)
    (steps : Steps env session action next) : next.Replays env where
  fresh := replays_fresh_step replays steps
  inbound := by
    have inbound := replays.inbound
    cases steps with
    | accept ctx isUnborn =>
        rw [(replays.fresh isUnborn).1] at inbound ⊢
        exact inbound
    | frame frame idle =>
        cases frame with
        | none =>
            simpa [receive, handleClientFrame] using inbound
        | some frame =>
            simp only [receive, Option.toList_some]
            rw [inboundAfter_append, ← inbound]
    | _ => exact inbound

/-- The call of the registry that an action makes. -/
def madeSwitch (session : Session) :
    SessionAction → Option (String × Bool)
  | .effect => session.todo.head?.bind registrySwitch
  | _ => none

private theorem plannedSwitches_of_todo {effect : Effect} {rest : List Effect}
    (todo : session.todo = effect :: rest) :
    session.plannedSwitches =
      (session.madeSwitch .effect).toList ++
        rest.filterMap registrySwitch := by
  rw [plannedSwitches, madeSwitch, todo, List.head?_cons, Option.bind_some]
  cases isSwitch : registrySwitch effect with
  | none => rw [List.filterMap_cons_none isSwitch]; rfl
  | some switch => rw [List.filterMap_cons_some isSwitch]; rfl

private theorem switches_frame (replays : session.Replays env)
    (idle : session.Idle) (frame : Option ClientFrame) :
    ∃ added,
      (session.receive env frame).accepted env =
          session.accepted env ++ added ∧
        session.plannedSwitches ++ merged env.streamKey added =
          (session.receive env frame).plannedSwitches := by
  have noneLeft : session.plannedSwitches = [] := by
    rw [plannedSwitches, idle.2, List.filterMap_nil]
  cases frame with
  | none =>
      refine ⟨[], by simp [accepted, receive], ?_⟩
      rw [noneLeft]
      rfl
  | some frame =>
      refine
        ⟨acceptedSwitch
          (handleClientFrame env session.ctx session.inbound (some frame)).2
          frame, ?_, ?_⟩
      · simp only [accepted, receive, Option.toList_some]
        rw [accepted_append, ← replays.inbound]
      · rw [noneLeft, List.nil_append]
        exact (filterMap_handleClientFrame session.inbound frame).symm

/-- A step makes the next planned call, or plans the call of a command it
accepts, or does neither. -/
theorem Steps.switches (replays : session.Replays env)
    (steps : Steps env session action next)
    (serving : next.phase = .serving) :
    ∃ added,
      next.accepted env = session.accepted env ++ added ∧
        session.plannedSwitches ++ merged env.streamKey added =
          (session.madeSwitch action).toList ++ next.plannedSwitches := by
  have kept :
      next.frames = session.frames → next.ctx = session.ctx →
        session.plannedSwitches =
            (session.madeSwitch action).toList ++ next.plannedSwitches →
          ∃ added,
            next.accepted env = session.accepted env ++ added ∧
              session.plannedSwitches ++ merged env.streamKey added =
                (session.madeSwitch action).toList ++
                  next.plannedSwitches := by
    intro sameFrames sameCtx split
    refine ⟨[], ?_, ?_⟩
    · rw [accepted, sameFrames, sameCtx, List.append_nil, accepted]
    · rw [← split]
      exact List.append_nil _
  cases steps with
  | accept ctx isUnborn =>
      obtain ⟨noFrames, noTodo⟩ := replays.fresh isUnborn
      refine ⟨[], ?_, ?_⟩
      · simp [accepted, noFrames, Connection.accepted, acceptedFrom]
      · simp [plannedSwitches, noTodo, registrySwitch, merged, madeSwitch]
  | frame frame idle => exact switches_frame replays idle frame
  | ping timestamp idle =>
      refine kept rfl rfl ?_
      rw [plannedSwitches, idle.2]
      rfl
  | hangup idle | pingFailed timestamp rest live todo failed
  | dropSenders rest todo => cases serving
  | sendLive frame rest live accepted todo sent
  | sendPing timestamp rest live todo sent
  | spawnReplay identifier lastSeq rest todo | spawnOutbound rest todo
  | external effect rest todo isExternal =>
      exact kept rfl rfl (plannedSwitches_of_todo todo)
  | _ => exact kept rfl rfl rfl

end Session

end TurbocableServer.Connection
