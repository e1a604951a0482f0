import TurbocableServer.Connection.AcceptedCommands
import TurbocableServer.Connection.RegistryMembership
import TurbocableServer.Gateway.NodeRuns

/-!
# Subscription bookkeeping

The registry knows streams, the client knows identifiers.  In a node, whatever
the other tasks do, the streams that list a connection are those its accepted
commands leave switched on under their stream keys; this follows the identifiers
as long as no identifier is undercut by another one for the same stream.
-/

namespace TurbocableServer.Gateway.Node

open Foundations Protocol Pubsub Connection

variable {env : Environment} {node next : Node} {action : NodeAction}
variable {conn : ConnId}

/-! ## A step, for one connection -/

/-- What a step means for one connection: at most one access to the registry
and at most one step of its session, and the two agree on the call of the
registry that the connection makes. -/
structure ConnMove (env : Environment) (node : Node) (conn : ConnId)
    (next : Node) (switch : Option (String × Bool)) : Prop where
  registry :
    next.sys = node.sys ∧ switch = none ∨
      ∃ call, node.sys.step call = some next.sys ∧
        call.switchOf conn = switch
  session :
    next.sessions conn = node.sessions conn ∧ switch = none ∨
      ∃ move,
        (node.sessions conn).step env move = some (next.sessions conn) ∧
          (node.sessions conn).madeSwitch move = switch

theorem switchOf_registryCall {effect : Effect} {call : RegAction}
    (isCall : registryCall conn effect = some call) :
    call.switchOf conn = registrySwitch effect := by
  rcases registryCall_cases isCall with
    ⟨stream, rfl, rfl⟩ | ⟨stream, rfl, rfl⟩ | ⟨rfl, rfl⟩
  · exact if_pos rfl
  · exact if_pos rfl
  · rfl

theorem registrySwitch_of_not_call {effect : Effect}
    (notCall : registryCall conn effect = none) :
    registrySwitch effect = none := by
  cases effect <;> first | rfl | cases notCall

theorem switchOf_of_ne {caller : ConnId} {effect : Effect} {call : RegAction}
    (isCall : registryCall caller effect = some call)
    (different : caller ≠ conn) : call.switchOf conn = none := by
  rcases registryCall_cases isCall with
    ⟨stream, -, rfl⟩ | ⟨stream, -, rfl⟩ | ⟨-, rfl⟩
  · exact if_neg different
  · exact if_neg different
  · rfl

theorem switchOf_of_not_command {call : RegAction}
    (notCommand : isCommand call = false) : call.switchOf conn = none := by
  cases call <;> first | rfl | cases notCommand

/-- The connection task makes this call of the registry. -/
private def MakesCall (node : Node) (conn : ConnId) (action : NodeAction) :
    Prop :=
  ∃ succeeds effect rest call, action = .effect conn succeeds ∧
    (node.sessions conn).todo = effect :: rest ∧
      registryCall conn effect = some call

private theorem connMove_of_makesCall (steps : Steps env node action next)
    (makesCall : MakesCall node conn action) :
    ∃ switch, ConnMove env node conn next switch := by
  obtain ⟨succeeds, effect, rest, call, rfl, todo, isCall⟩ := makesCall
  have sameHead :
      ∀ {first : Effect} {later : List Effect},
        (node.sessions conn).todo = first :: later → first = effect := by
    intro first later isFirst
    rw [todo] at isFirst
    exact (List.cons.inj isFirst).1.symm
  cases steps with
  | onSession _ _ move session isLocal stepped =>
      cases isLocal with
      | effect _ _ first later isFirst point notCall =>
          rw [sameHead isFirst, isCall] at notCall
          cases notCall
  | call _ _ first later made sys session isFirst isMade ready accessed
      stepped =>
      refine ⟨registrySwitch first,
        Or.inr ⟨made, accessed, switchOf_registryCall isMade⟩,
        Or.inr ⟨.effect, ?_, ?_⟩⟩
      · rw [setSession_sessions_self, stepped]
      · simp [Session.madeSwitch, isFirst]
  | published _ identifier data later session isFirst ready stepped =>
      rw [← sameHead isFirst] at isCall
      cases isCall

private theorem connMove_of_not_makesCall
    (steps : Steps env node action next)
    (notCall : ¬ MakesCall node conn action) :
    ConnMove env node conn next none where
  registry := by
    cases steps.sysMove with
    | same unchanged => exact Or.inl ⟨unchanged, rfl⟩
    | call caller succeeds effect rest call isEffect todo isCall accessed =>
        have different : caller ≠ conn := by
          rintro rfl
          exact notCall
            ⟨succeeds, effect, rest, call, isEffect, todo, isCall⟩
        exact Or.inr ⟨call, accessed, switchOf_of_ne isCall different⟩
    | other call notCommand _ accessed =>
        exact Or.inr ⟨call, accessed, switchOf_of_not_command notCommand⟩
  session := by
    rcases steps.session_cases conn with same | ⟨move, isMove, stepped⟩
    · exact Or.inl ⟨same, rfl⟩
    · refine Or.inr ⟨move, stepped, ?_⟩
      cases move with
      | effect =>
          cases isTodo : (node.sessions conn).todo with
          | nil => simp [Session.madeSwitch, isTodo]
          | cons effect rest =>
              have noCall : registryCall conn effect = none := by
                cases isCall : registryCall conn effect with
                | none => rfl
                | some call =>
                    have ofConn := isMove.effectOf_eq_true
                    cases action with
                    | effect caller succeeds =>
                        obtain rfl : caller = conn := beq_iff_eq.mp ofConn
                        exact absurd
                          ⟨succeeds, effect, rest, call, rfl, isTodo, isCall⟩
                          notCall
                    | _ => cases ofConn
              simp [Session.madeSwitch, isTodo,
                registrySwitch_of_not_call noCall]
      | _ => rfl

theorem Steps.connMove (steps : Steps env node action next)
    (conn : ConnId) : ∃ switch, ConnMove env node conn next switch := by
  by_cases makesCall : MakesCall node conn action
  · exact connMove_of_makesCall steps makesCall
  · exact ⟨none, connMove_of_not_makesCall steps makesCall⟩

/-! ## The invariant -/

/-- The calls made so far leave the connection on the lists it has joined. -/
def Tracked (env : Environment) (conn : ConnId) (node : Node) : Prop :=
  ∃ performed,
    merged env.streamKey ((node.sessions conn).accepted env) =
        performed ++ (node.sessions conn).plannedSwitches ∧
      ∀ stream, (node.sys.view conn).Joined stream ↔
        isOn performed stream = true

/-- The calls of a connection are tracked while it is served and not
evicted. -/
structure Bookkept (env : Environment) (conn : ConnId) (node : Node) :
    Prop where
  sound : node.sys.Sound
  replays : (node.sessions conn).Replays env
  tracked :
    (node.sessions conn).phase = .serving → (node.sys.view conn).Present →
      node.Tracked env conn

theorem bookkept_initial (env : Environment) (conn : ConnId)
    (log : MessageLog) (cursor : Nat) :
    (initial env log cursor).Bookkept env conn where
  sound := RegSystem.initial_sound
  replays := Session.replays_unborn env
  tracked := by
    intro serving
    cases serving

/-- A new connection is on no list and has accepted nothing. -/
private theorem tracked_accept {ctx : ConnContext}
    (bookkept : node.Bookkept env conn)
    (steps : Steps env node (.accept conn ctx) next)
    (present : (next.sys.view conn).Present) : next.Tracked env conn := by
  cases steps with
  | accept _ _ sys session registered stepped =>
      have regSteps := RegSystem.steps_of_step registered
      have unlisted :
          ∀ stream, (node.sys.view conn).Joined stream ↔
            isOn ([] : List (String × Bool)) stream = true := by
        cases regSteps with
        | register _ _ unborn =>
            intro stream
            have isUnborn : (node.sys.view conn).task = .unborn := unborn
            simp only [isOn_nil, Bool.false_eq_true, iff_false]
            rintro (isListed | pushing)
            · have born := (bookkept.sound.coherent conn).born_of_listed isListed
              rw [isUnborn] at born
              exact born
            · cases isUnborn.symm.trans pushing
      refine ⟨[], ?_,
        regSteps.joined_isOn bookkept.sound present unlisted⟩
      cases Session.steps_of_step stepped with
      | accept _ isUnborn =>
          obtain ⟨noFrames, -⟩ := bookkept.replays.fresh isUnborn
          simp [Session.accepted, noFrames, accepted, acceptedFrom, merged,
            Session.plannedSwitches, registrySwitch]
  | onSession _ _ _ _ isLocal _ => cases isLocal

private theorem Tracked.step {switch : Option (String × Bool)}
    (tracked : node.Tracked env conn) (sound : node.sys.Sound)
    (replays : (node.sessions conn).Replays env)
    (move : ConnMove env node conn next switch)
    (serving : (next.sessions conn).phase = .serving)
    (present : (next.sys.view conn).Present) : next.Tracked env conn := by
  obtain ⟨performed, isPerformed, joined⟩ := tracked
  refine ⟨performed ++ switch.toList, ?_, ?_⟩
  · rcases move.session with ⟨same, rfl⟩ | ⟨action, stepped, rfl⟩
    · rw [same, isPerformed, Option.toList_none, List.append_nil]
    · obtain ⟨added, isAccepted, isPlanned⟩ :=
        (Session.steps_of_step stepped).switches replays serving
      rw [isAccepted, merged_append, isPerformed, List.append_assoc, isPlanned,
        List.append_assoc]
  · rcases move.registry with ⟨same, rfl⟩ | ⟨call, accessed, rfl⟩
    · simpa [same] using joined
    · exact (RegSystem.steps_of_step accessed).joined_isOn sound present joined

theorem Bookkept.step (bookkept : node.Bookkept env conn)
    (steps : Steps env node action next) : next.Bookkept env conn where
  sound := steps.sysMove.sound bookkept.sound
  replays := by
    rcases steps.session_cases conn with same | ⟨move, -, stepped⟩
    · rw [same]
      exact bookkept.replays
    · exact bookkept.replays.step (Session.steps_of_step stepped)
  tracked := by
    intro serving present
    have presentBefore : (node.sys.view conn).Present := by
      rcases steps.sysMove.access with same | ⟨call, accessed⟩
      · rw [← same]
        exact present
      · exact (RegSystem.steps_of_step accessed).present bookkept.sound present
    by_cases served : (node.sessions conn).phase = .serving
    · obtain ⟨switch, move⟩ := steps.connMove conn
      exact (bookkept.tracked served presentBefore).step bookkept.sound
        bookkept.replays move serving present
    · rcases steps.session_cases conn with same | ⟨move, isMove, stepped⟩
      · rw [same] at serving
        exact absurd serving served
      · rcases (Session.steps_of_step stepped).serving serving with
          already | ⟨ctx, rfl⟩
        · exact absurd already served
        · cases isMove with
          | accept _ => exact tracked_accept bookkept steps present
          | onSession _ _ isLocal => cases isLocal

theorem bookkept_of_reaches {allowed : Node → NodeAction → Prop}
    {log : MessageLog} {cursor : Nat}
    (run : Reaches (step env) allowed (initial env log cursor) node)
    (conn : ConnId) : node.Bookkept env conn := by
  induction run with
  | refl =>
      exact bookkept_initial env conn log cursor
  | tail before last ih =>
      obtain ⟨label, -, moved⟩ := last
      exact ih.step (steps_of_step moved)

/-! ## Identifiers and streams -/

/-- The stream lists the connection iff the last accepted command of some
identifier for it was a Subscribe. -/
def FollowsIdentifiers (env : Environment) (node : Node) (conn : ConnId)
    (stream : String) : Prop :=
  conn ∈ node.sys.reg.subscribers stream ↔
    ∃ identifier, env.streamKey identifier = stream ∧
      isOn ((node.sessions conn).accepted env) identifier = true

/-- The streams that list an idle connection are those its accepted commands
leave on, under their stream keys. -/
theorem Bookkept.listed_iff (bookkept : node.Bookkept env conn)
    (idle : (node.sessions conn).Idle) (ready : node.sys.task conn = .ready)
    (present : conn ∈ node.sys.reg.connStreams) (stream : String) :
    conn ∈ node.sys.reg.subscribers stream ↔
      isOn (merged env.streamKey ((node.sessions conn).accepted env))
        stream = true := by
  have isPresent : (node.sys.view conn).Present :=
    Or.inl (Option.isSome_iff_ne_none.mp
      ((Table.mem_iff_isSome _ conn).mp present))
  obtain ⟨performed, isPerformed, joined⟩ :=
    bookkept.tracked idle.1 isPresent
  have nonePlanned : (node.sessions conn).plannedSwitches = [] := by
    rw [Session.plannedSwitches, idle.2, List.filterMap_nil]
  rw [isPerformed, nonePlanned, List.append_nil, ← joined]
  constructor
  · exact Or.inl
  · rintro (isListed | pushing)
    · exact isListed
    · cases ready.symm.trans pushing

/-- The bookkeeping follows the identifiers exactly as long as none that is on
was undercut. -/
theorem followsIdentifiers_iff {allowed : Node → NodeAction → Prop}
    {log : MessageLog} {cursor : Nat}
    (run : Reaches (step env) allowed (initial env log cursor) node)
    (idle : (node.sessions conn).Idle) (ready : node.sys.task conn = .ready)
    (present : conn ∈ node.sys.reg.connStreams) (stream : String) :
    FollowsIdentifiers env node conn stream ↔
      NeverUndercut env.streamKey ((node.sessions conn).accepted env)
        stream := by
  have listed :=
    (bookkept_of_reaches run conn).listed_iff idle ready present stream
  rw [FollowsIdentifiers, listed, isOn_merged_iff]

/-! ## Two identifiers for one stream -/

def benchEnv : Environment :=
  { Environment.fourSlots with fromStr := benchFromStr }

/-- Subscribe to both identifiers, then unsubscribe from one. -/
def benchRun : List NodeAction :=
  [.accept 0 ⟨false, ["*"], none⟩, .advance 0, .advance 0,
    .effect 0 true, .effect 0 true,
    .frame 0 (some (.command (.subscribe "bench"))),
    .effect 0 true, .advance 0, .advance 0, .effect 0 true,
    .frame 0 (some (.command (.subscribe benchIdentifier))),
    .effect 0 true, .effect 0 true,
    .frame 0 (some (.command (.unsubscribe benchIdentifier))),
    .effect 0 true, .advance 0, .advance 0]

def benchNode : Node :=
  (execute (step benchEnv) (fun _ _ => True) (initial benchEnv .empty 0)
    benchRun).get (by decide)

theorem followsIdentifiers_iff_bench :
    FollowsIdentifiers benchEnv benchNode 0 "bench" ↔
      NeverUndercut benchEnv.streamKey
        ((benchNode.sessions 0).accepted benchEnv) "bench" :=
  followsIdentifiers_iff (reaches_execute_get _) (by decide) (by decide)
    (by decide) "bench"

/-- The last command for `bench` was its Subscribe, and yet the connection is
not on the list. -/
theorem bench_unlisted :
    Reaches (step benchEnv) (fun _ _ => True) (initial benchEnv .empty 0)
        benchNode ∧
      (benchNode.sessions 0).Idle ∧ benchNode.sys.task 0 = .ready ∧
      0 ∈ benchNode.sys.reg.connStreams ∧
      isOn ((benchNode.sessions 0).accepted benchEnv) "bench" = true ∧
      ¬ FollowsIdentifiers benchEnv benchNode 0 "bench" := by
  have on :
      isOn ((benchNode.sessions 0).accepted benchEnv) "bench" = true := by
    decide
  have unlisted : 0 ∉ benchNode.sys.reg.subscribers "bench" := by decide
  refine ⟨reaches_execute_get _, by decide, by decide, by decide, on, ?_⟩
  intro follows
  exact unlisted (follows.mpr ⟨"bench", by decide, on⟩)

end TurbocableServer.Gateway.Node
