import TurbocableServer.Connection.Muting
import TurbocableServer.Connection.RegistryMembership
import TurbocableServer.Gateway.SocketOrder

/-!
# After an Unsubscribe

An `unsubscribe` call takes the connection off the list of a stream, and as long
as no Subscribe for the stream is accepted nothing brings it back: neither the
fan-out loop nor the connection task enqueues a frame of the stream.  The replay
tasks are another matter.  Nothing stops them, so a replay of the stream that is
still under way goes on to enqueue its frames and its confirmation.
-/

namespace TurbocableServer.Gateway.Node

open Foundations Protocol Pubsub Connection

/-- The connection gets no Subscribe for `stream` accepted, under whatever
identifier. -/
def Refrains (env : Environment) (conn : ConnId) (stream : String)
    (node : Node) (action : NodeAction) : Prop :=
  ∀ frame, action = .frame conn frame →
    .registrySubscribe stream ∉
      (handleClientFrame env (node.sessions conn).ctx
        (node.sessions conn).inbound frame).2

/-- Since `begun`, no message frame and no confirmation for `stream` has been
enqueued to the connection. -/
def SilentSince (begun node : Node) (conn : ConnId) (stream : String) :
    Prop :=
  (node.sessions conn).out.live.sent.filter (isOf stream) =
      (begun.sessions conn).out.live.sent.filter (isOf stream) ∧
    (node.sessions conn).out.replay.sent.filter (isOf stream) =
      (begun.sessions conn).out.replay.sent.filter (isOf stream)

variable {env : Environment} {node next begun : Node} {action : NodeAction}
variable {conn : ConnId} {stream : String}

theorem Refrains.session {move : SessionAction}
    (refrains : Refrains env conn stream node action)
    (isMove : SessionMove env node conn action move) :
    (node.sessions conn).Refrains env stream move := by
  rintro frame rfl
  cases isMove with
  | onSession _ _ isLocal =>
      cases isLocal
      exact refrains frame rfl

/-! ## Off the list -/

/-- Neither the registry, nor the scan under way, nor the connection task
connects the connection with the stream. -/
structure Unjoined (env : Environment) (conn : ConnId) (stream : String)
    (node : Node) : Prop where
  traced : node.Traced env
  unlisted : ¬ (node.sys.view conn).Joined stream
  unscanned : ¬ node.sys.Awaits conn stream
  muted : (node.sessions conn).Muted stream

/-- A muted connection does not call `subscribe` for the stream. -/
private theorem access_of_muted {sys : RegSystem}
    (muted : (node.sessions conn).Muted stream)
    (move : SysMove node action sys) :
    sys = node.sys ∨
      ∃ call, node.sys.step call = some sys ∧
        call ≠ .subscribe conn stream := by
  cases move with
  | same unchanged => exact Or.inl unchanged
  | call caller succeeds effect rest call _ todo isCall accessed =>
      refine Or.inr ⟨call, accessed, ?_⟩
      rintro rfl
      rcases registryCall_cases isCall with
        ⟨asked, rfl, isSubscribe⟩ | ⟨asked, -, isUnsubscribe⟩ | ⟨-, isDereg⟩
      · cases isSubscribe
        exact muted.noCall (todo ▸ List.mem_cons_self ..)
      · cases isUnsubscribe
      · cases isDereg
  | other call notCommand _ accessed =>
      refine Or.inr ⟨call, accessed, ?_⟩
      rintro rfl
      cases notCommand

private theorem muted_step (muted : (node.sessions conn).Muted stream)
    (plain : env.streamKey stream = stream)
    (refrains : Refrains env conn stream node action)
    (steps : Steps env node action next) :
    (next.sessions conn).Muted stream := by
  rcases steps.session_cases conn with same | ⟨move, isMove, stepped⟩
  · rw [same]
    exact muted
  · exact muted.step plain (refrains.session isMove)
      (Session.steps_of_step stepped)

theorem Unjoined.step (unjoined : node.Unjoined env conn stream)
    (plain : env.streamKey stream = stream)
    (refrains : Refrains env conn stream node action)
    (moved : node.step env action = some next) :
    next.Unjoined env conn stream := by
  have steps := steps_of_step moved
  have access := access_of_muted unjoined.muted steps.sysMove
  refine ⟨unjoined.traced.step moved, ?_, ?_,
    muted_step unjoined.muted plain refrains steps⟩
  · intro joined
    rcases access with same | ⟨call, accessed, notSubscribe⟩
    · rw [same] at joined
      exact unjoined.unlisted joined
    · rcases (RegSystem.steps_of_step accessed).joined_of_step
          unjoined.traced.sound joined with
        before | isSubscribe
      · exact unjoined.unlisted before
      · exact notSubscribe isSubscribe
  · intro awaits
    rcases access with same | ⟨call, accessed, -⟩
    · rw [same] at awaits
      exact unjoined.unscanned awaits
    · rcases awaits.of_step (RegSystem.steps_of_step accessed) with
        before | ⟨-, listed⟩
      · exact unjoined.unscanned before
      · exact unjoined.unlisted (Or.inl listed)

/-- The call takes the connection off the list while no scan of the stream is
under way. -/
private theorem unlisted_of_unsubscribe {sys : RegSystem}
    (accessed : node.sys.step (.unsubscribe conn stream) = some sys) :
    ¬ (sys.view conn).Joined stream ∧ ¬ sys.Awaits conn stream := by
  cases RegSystem.steps_of_step accessed with
  | unsubscribe _ _ ready unlocked =>
      constructor
      · rw [RegSystem.view_move_self]
        rintro (isListed | pushing)
        · simp [RegSystem.viewAt,
            Registry.mem_subscribers_retainSubscribers] at isListed
        · simp only [RegSystem.viewAt] at pushing
          split at pushing <;> cases pushing
      · rintro ⟨todo, evicted, scanning, -⟩
        exact RegSystem.fan_ne_scanning unlocked todo evicted scanning

theorem unjoined_of_unsubscribe {succeeds : Bool} {rest : List Effect}
    (traced : node.Traced env)
    (last : (node.sessions conn).UnsubscribesLast)
    (todo : (node.sessions conn).todo = .registryUnsubscribe stream :: rest)
    (moved : node.step env (.effect conn succeeds) = some next) :
    next.Unjoined env conn stream := by
  have onlyPresence : rest.all Effect.isPresence = true :=
    last [] stream rest todo
  have nextTraced := traced.step moved
  cases steps_of_step moved with
  | onSession _ _ _ session isLocal stepped =>
      cases isLocal with
      | effect _ _ first later isFirst point notCall =>
          rw [todo] at isFirst
          cases isFirst
          cases notCall
  | call _ _ first later call sys session isFirst isCall ready accessed
      stepped =>
      rw [todo] at isFirst
      cases isFirst
      cases isCall
      obtain ⟨unlisted, unscanned⟩ := unlisted_of_unsubscribe accessed
      refine ⟨nextTraced, unlisted, unscanned, ?_⟩
      rw [setSession_sessions_self]
      apply Session.muted_of_presence
      have performed : session.todo = rest := by
        simp only [Session.step, todo, Session.performEffect] at stepped
        rw [← Option.some.inj stepped]
      rw [performed]
      exact onlyPresence
  | published _ identifier data later session isFirst ready stepped =>
      rw [todo] at isFirst
      cases isFirst

/-! ## Silence -/

/-- No frame of the stream is enqueued in a step. -/
theorem Unjoined.silent_step (unjoined : node.Unjoined env conn stream)
    (replayOver : (node.sessions conn).ReplayOver stream)
    (steps : Steps env node action next) : SilentSince node next conn stream := by
  rcases steps.session_cases conn with same | ⟨move, isMove, stepped⟩
  · rw [SilentSince, same]
    exact ⟨rfl, rfl⟩
  · have sessionSteps := Session.steps_of_step stepped
    refine ⟨unjoined.muted.live_sent sessionSteps ?_,
      replayOver.replay_sent sessionSteps⟩
    rintro frame rfl
    cases isMove with
    | delivered scanned todo evicted message scanning isCurrent =>
        obtain ⟨busyWith, isBusy, ofScan⟩ :=
          unjoined.traced.scanned scanned _ evicted scanning
        obtain rfl : message = busyWith :=
          Option.some.inj (isCurrent.symm.trans isBusy)
        refine beq_eq_false_iff_ne.mpr ?_
        intro ofStream
        refine unjoined.unscanned
          ⟨conn :: todo, evicted, ?_, List.mem_cons_self ..⟩
        rw [scanning, ← ofScan, ofStream]
    | onSession _ _ isLocal => cases isLocal

private theorem replayOver_step
    (replayOver : (node.sessions conn).ReplayOver stream)
    (plain : env.streamKey stream = stream)
    (refrains : Refrains env conn stream node action)
    (steps : Steps env node action next) :
    (next.sessions conn).ReplayOver stream := by
  rcases steps.session_cases conn with same | ⟨move, isMove, stepped⟩
  · rw [same]
    exact replayOver
  · exact replayOver.step plain (refrains.session isMove)
      (Session.steps_of_step stepped)

section Runs

variable {log : MessageLog} {cursor : Nat}

theorem unsubscribesLast_of_reaches {allowed : Node → NodeAction → Prop}
    (run : Reaches (step env) allowed (initial env log cursor) node)
    (conn : ConnId) : (node.sessions conn).UnsubscribesLast := by
  refine session_invariant Session.UnsubscribesLast ?_ run ?_
  · intro source label move next _ _ _ steps unsubscribesLast
    exact unsubscribesLast.step steps
  · intro before unsubscribed rest split
    cases before <;> cases split

/-- Once an Unsubscribe has been processed and the replays of the stream are
over, the connection hears nothing more of the stream until a Subscribe for it
is accepted. -/
theorem unsubscribe_silences {asked called : Node} {succeeds : Bool}
    {rest : List Effect} (plain : env.streamKey stream = stream)
    (before : Reaches (step env) (fun _ _ => True) (initial env log cursor)
      asked)
    (todo : (asked.sessions conn).todo = .registryUnsubscribe stream :: rest)
    (calls : asked.step env (.effect conn succeeds) = some called)
    (processed : Reaches (step env) (Refrains env conn stream) called begun)
    (replayOver : (begun.sessions conn).ReplayOver stream)
    (run : Reaches (step env) (Refrains env conn stream) begun node) :
    SilentSince begun node conn stream := by
  have calledUnjoined : called.Unjoined env conn stream :=
    unjoined_of_unsubscribe (traced_of_reaches before)
      (unsubscribesLast_of_reaches before conn) todo calls
  have begunUnjoined : begun.Unjoined env conn stream :=
    processed.invariant
      (fun _ _ _ refrains moved unjoined =>
        unjoined.step plain refrains moved)
      calledUnjoined
  suffices muted :
      node.Unjoined env conn stream ∧
        (node.sessions conn).ReplayOver stream ∧
        SilentSince begun node conn stream from muted.2.2
  induction run with
  | refl =>
      exact ⟨begunUnjoined, replayOver, rfl, rfl⟩
  | tail earlier last ih =>
      obtain ⟨label, refrains, moved⟩ := last
      obtain ⟨unjoined, stillOver, silent⟩ := ih
      have steps := steps_of_step moved
      have silentStep := unjoined.silent_step stillOver steps
      exact ⟨unjoined.step plain refrains moved,
        replayOver_step stillOver plain refrains steps,
        silentStep.1.trans silent.1, silentStep.2.trans silent.2⟩

end Runs

/-! ## Runs -/

/-- The client unsubscribes from `news`. -/
def newsUnsubscribe : NodeAction :=
  .frame 1 (some (.command (.unsubscribe "news")))

def newsReplay : List NodeAction :=
  newsOpen 0 ++ [newsFetch 0 1] ++ newsConfirm

/-- A list of steps without a frame from the client. -/
theorem reaches_of_no_frame {actions : List NodeAction}
    (noFrame : ∀ action, action ∈ actions → ∀ frame, action ≠ .frame 1 frame)
    (completes : (actions.foldlM (step newsEnv) node).isSome) :
    Reaches (step newsEnv) (Refrains newsEnv 1 "news") node
      ((actions.foldlM (step newsEnv) node).get completes) := by
  refine reaches_of_foldlM ?_ (Option.some_get completes).symm
  intro _ action member frame isFrame
  exact absurd isFrame (noFrame action member frame)

/-- The replay is over when the client unsubscribes. -/
def patientAsked : Node :=
  (newsRun (fun _ _ => True)
    ([newsPublish] ++ newsConnect ++ newsSubscribe ++ [.effect 1 true] ++
      newsReplay ++ [newsUnsubscribe])).get (by decide)

def patientCalled : Node :=
  (patientAsked.step newsEnv (.effect 1 true)).get (by decide)

def patientBegun : Node :=
  ([.advance 1, .advance 1].foldlM (step newsEnv) patientCalled).get
    (by decide)

def patientNode : Node :=
  ([newsPublish, .fanNext true].foldlM (step newsEnv) patientBegun).get
    (by decide)

theorem unsubscribe_silences_patient :
    SilentSince patientBegun patientNode 1 "news" :=
  @unsubscribe_silences newsEnv patientNode patientBegun 1 "news" .empty 0
    patientAsked patientCalled true [] rfl (reaches_execute_get _) rfl
    (Option.some_get _).symm (reaches_of_no_frame (by simp) _) (by decide)
    (reaches_of_no_frame (by simp [newsPublish]) _)

/-- The replay task is waiting for its permit when the client unsubscribes. -/
def hastilyUnsubscribed : Node :=
  (newsRun (fun _ _ => True)
    ([newsPublish] ++ newsConnect ++ newsSubscribe ++ [.effect 1 true] ++
      [newsUnsubscribe, .effect 1 true, .advance 1, .advance 1])).get
    (by decide)

/-- The replay runs to its end. -/
def stillReplayed : Node :=
  (newsReplay.foldlM (step newsEnv) hastilyUnsubscribed).get (by decide)

/-- After the Unsubscribe the replay task enqueues a message frame and a
confirmation. -/
theorem replay_outlives_unsubscribe :
    Reaches (step newsEnv) (fun _ _ => True) (initial newsEnv .empty 0)
        hastilyUnsubscribed ∧
      (hastilyUnsubscribed.sessions 1).Idle ∧
      hastilyUnsubscribed.sys.task 1 = .ready ∧
      (hastilyUnsubscribed.sessions 1).frames.getLast? =
        some (.command (.unsubscribe "news")) ∧
      Reaches (step newsEnv) (Refrains newsEnv 1 "news") hastilyUnsubscribed
        stillReplayed ∧
      ¬ SilentSince hastilyUnsubscribed stillReplayed 1 "news" := by
  refine ⟨reaches_execute_get _, by decide, by decide, rfl,
    reaches_of_no_frame (by simp [newsReplay, newsOpen, newsFetch, newsConfirm])
      _, ?_⟩
  intro silent
  have sameCount := congrArg List.length silent.2
  revert sameCount
  decide

end TurbocableServer.Gateway.Node
