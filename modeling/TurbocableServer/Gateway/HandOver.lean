import TurbocableServer.Connection.ReplayCoverage
import TurbocableServer.Gateway.Backpressure

/-!
# From replay to live delivery

A Subscribe puts the connection on the list of the stream before the replay
task creates its consumer.  So every message the fan-out loop had processed by
then was stored when the consumer was created, and every later one is fanned out
to the connection: no message falls between the two, unless it has left the
stream in the meantime.
-/

namespace TurbocableServer.Gateway.Node

open Foundations Protocol Pubsub Connection

variable {env : Environment} {node next start begun later : Node}
variable {action : NodeAction} {conn : ConnId} {stream : String}

/-! ## Steps without disturbance -/

/-- The rate limiter drops a message. -/
def dropsMessage : NodeAction → Bool
  | .fanNext allow => !allow
  | _ => false

/-- The fan-out task gives up `conn` or takes it off the registry. -/
def evicts (env : Environment) (conn : ConnId) (node : Node) :
    NodeAction → Bool
  | .fanDeliver => refuses env conn node
  | .fanEvict =>
      match node.sys.fan with
      | .evicting target _ _ => target == conn
      | _ => false
  | _ => false

/-- The next effect of the connection task takes the connection off the
registry. -/
def deregistersNext (session : Session) : Bool :=
  match session.todo with
  | .registryDeregister :: _ => true
  | _ => false

/-- The consumers of `conn` for `stream` answer without error, from the messages
in `stock`. -/
def faithfulReplay (conn : ConnId) (stream : String) (stock : MessageLog)
    (node : Node) : NodeAction → Bool
  | .replay target index input =>
      match (node.sessions target).tasks[index]? with
      | some task =>
          target != conn || task.identifier != stream ||
            faithfulStimulus stock node.log task (node.stimulus input)
      | none => true
  | _ => true

/-- Nothing comes between `conn` and `stream`: no rate limit, no eviction, no
unsubscribe, no deregistration and no failing consumer.  Messages may leave the
stream and be handed out again. -/
structure Undisturbed (env : Environment) (conn : ConnId) (stream : String)
    (node : Node) (action : NodeAction) : Prop where
  unlimited : dropsMessage action = false
  unevicted : evicts env conn node action = false
  subscribed : StaysSubscribed conn stream node action
  registered :
    effectOf conn action = true →
      deregistersNext (node.sessions conn) = false
  faithful : faithfulReplay conn stream node.stock node action = true

instance (env : Environment) (conn : ConnId) (stream : String) (node : Node)
    (action : NodeAction) :
    Decidable (Undisturbed env conn stream node action) :=
  decidable_of_iff
    (dropsMessage action = false ∧ evicts env conn node action = false ∧
      StaysSubscribed conn stream node action ∧
      (effectOf conn action = true →
        deregistersNext (node.sessions conn) = false) ∧
      faithfulReplay conn stream node.stock node action = true)
    ⟨fun ⟨unlimited, unevicted, subscribed, registered, faithful⟩ =>
      ⟨unlimited, unevicted, subscribed, registered, faithful⟩,
    fun undisturbed =>
      ⟨undisturbed.unlimited, undisturbed.unevicted, undisturbed.subscribed,
        undisturbed.registered, undisturbed.faithful⟩⟩

theorem SessionMove.faithful {stock : MessageLog}
    (faithful : faithfulReplay conn stream stock node action = true)
    {move : SessionAction} (isMove : SessionMove env node conn action move) :
    (node.sessions conn).FaithfulReplay stock node.log stream move := by
  rintro index stimulus task rfl present ofStream
  cases isMove with
  | onSession _ _ isLocal =>
      cases isLocal
      simpa [faithfulReplay, present, ofStream] using faithful

/-- What a session keeps in its own steps, and keeps when a message is
published, it keeps in the steps of the node. -/
theorem Steps.session_log_kept {motive : Session → MessageLog → Prop}
    (steps : Steps env node action next)
    (holds : motive (node.sessions conn) node.log)
    (session : ∀ move after,
      SessionMove env node conn action move →
      Session.Steps env (node.sessions conn) move after →
      motive after node.log)
    (publish : ∀ after subject payload, motive after node.log →
      motive after (node.log.publish subject payload)) :
    motive (next.sessions conn) next.log := by
  have onOldLog : motive (next.sessions conn) node.log := by
    rcases steps.session_cases conn with same | ⟨move, isMove, stepped⟩
    · rw [same]
      exact holds
    · exact session move _ isMove (Session.steps_of_step stepped)
  rcases steps.logMove.log_cases with same | ⟨subject, payload, isPublish⟩
  · exact same ▸ onOldLog
  · rw [isPublish]
    exact publish _ subject payload onOldLog

/-! ## Replays from what is left -/

/-- No message of `stream` above `bound` has left the JetStream stream. -/
def KeptAbove (bound : Nat) (stream : String) (node : Node) : Prop :=
  ∀ message, message ∈ node.gone → message.stream = stream →
    message.seq ≤ bound

theorem KeptAbove.before {bound : Nat} (kept : next.KeptAbove bound stream)
    (steps : Steps env node action next) : node.KeptAbove bound stream :=
  fun message member ofStream =>
    kept message (mem_gone_step member steps) ofStream

/-- The replays that start at `bound` or later are fed. -/
theorem SessionMove.fed {bound : Nat} (kept : node.KeptAbove bound stream)
    (faithful : faithfulReplay conn stream node.stock node action = true)
    {move : SessionAction} (isMove : SessionMove env node conn action move) :
    (node.sessions conn).FedReplay node.log stream bound move := by
  refine (isMove.faithful faithful).fed ?_ ?_
  · intro message member
    exact List.mem_of_mem_drop member
  · intro message member ofStream above
    rcases mem_gone_or_stock member with isGone | retained
    · exact absurd above (Nat.not_lt_of_le (kept message isGone ofStream))
    · exact retained

/-- Replays stay covered. -/
theorem replaysCovered_step {floor first bound : Nat}
    (covered :
      (node.sessions conn).ReplaysCovered env node.log floor first bound stream)
    (within : floor ≤ node.log.messages.length)
    (kept : node.KeptAbove bound stream)
    (faithful : faithfulReplay conn stream node.stock node action = true)
    (steps : Steps env node action next) :
    (next.sessions conn).ReplaysCovered env next.log floor first bound
      stream := by
  apply steps.session_log_kept
    (motive := fun session log =>
      session.ReplaysCovered env log floor first bound stream) covered
  · intro move after isMove moved
    exact covered.step within (isMove.fed kept faithful) moved
  · intro after subject payload onOldLog
    exact onOldLog.publish within subject payload

theorem log_grows_of_reaches {allowed : Node → NodeAction → Prop}
    (run : Reaches (step env) allowed begun node) :
    begun.log.messages <+: node.log.messages := by
  induction run with
  | refl =>
      exact List.prefix_rfl
  | tail _ last ih =>
      obtain ⟨label, -, moved⟩ := last
      exact ih.trans (steps_of_step moved).logMove.log_grows

/-- The replays started since `begun` cover what was stored then. -/
theorem replaysCovered_of_reaches {bound : Nat}
    (run : Reaches (step env) (Undisturbed env conn stream) begun node) :
    node.KeptAbove bound stream →
      (node.sessions conn).ReplaysCovered env node.log
        begun.log.messages.length (begun.sessions conn).tasks.length bound
        stream := by
  induction run with
  | refl =>
      intro _ index task started present
      exact absurd (List.getElem?_eq_some_iff.mp present).1
        (Nat.not_lt_of_le started)
  | tail earlier last ih =>
      intro kept
      obtain ⟨label, undisturbed, moved⟩ := last
      have steps := steps_of_step moved
      have keptBefore := kept.before steps
      exact replaysCovered_step (ih keptBefore)
        (log_grows_of_reaches earlier).length_le keptBefore
        undisturbed.faithful steps

/-! ## The invariant -/

/-- What the registry does in an undisturbed step. -/
theorem Undisturbed.attached
    (undisturbed : Undisturbed env conn stream node action)
    (attached : node.sys.Attached conn stream)
    (active : ∀ pc, node.sys.task conn ≠ .deregistering pc)
    (steps : Steps env node action next) :
    next.sys.Attached conn stream ∧
      ∀ pc, next.sys.task conn ≠ .deregistering pc := by
  cases steps.sysMove with
  | same unchanged =>
      rw [unchanged]
      exact ⟨attached, active⟩
  | call caller succeeds effect rest call isEffect todo isCall accessed =>
      have own :
          caller = conn →
            unsubscribesNext stream (node.sessions conn) = false ∧
              deregistersNext (node.sessions conn) = false := by
        rintro rfl
        have performs : effectOf caller action = true := by
          simp [isEffect, effectOf]
        exact ⟨undisturbed.subscribed performs,
          undisturbed.registered performs⟩
      have kept :=
        attached.kept active (RegSystem.steps_of_step accessed)
      rcases registryCall_cases isCall with
        ⟨asked, isSubscribe, rfl⟩ | ⟨asked, isUnsubscribe, rfl⟩ |
          ⟨isDeregister, rfl⟩
      · refine kept ?_ ?_ ?_
        · rintro ⟨⟩
        · rintro ⟨⟩
        · rintro pc rest ⟨⟩
      · refine kept ?_ ?_ ?_
        · rintro ⟨⟩
          simp [unsubscribesNext, todo, isUnsubscribe] at own
        · rintro ⟨⟩
        · rintro pc rest ⟨⟩
      · refine kept ?_ ?_ ?_
        · rintro ⟨⟩
        · rintro ⟨⟩
          simp [deregistersNext, todo, isDeregister] at own
        · rintro pc rest ⟨⟩
  | other call notCommand isEvict accessed =>
      refine attached.kept active (RegSystem.steps_of_step accessed) ?_ ?_ ?_
      · rintro rfl
        cases notCommand
      · rintro rfl
        cases notCommand
      · rintro pc rest rfl evicting
        have unevicted := undisturbed.unevicted
        rw [isEvict rfl] at unevicted
        simp [evicts, evicting] at unevicted

/-- Since the subscription at `begun`, the live feed of `conn` is complete. -/
structure HandedOver (env : Environment) (conn : ConnId) (stream : String)
    (begun node : Node) : Prop where
  active : ∀ pc, node.sys.task conn ≠ .deregistering pc
  inStep :
    ∃ frames messages,
      node.liveSent conn = begun.liveSent conn ++ frames ∧
        node.fanned = begun.fanned ++ messages ∧
        InStep env conn stream node frames messages
  started :
    ∀ todo evicted, node.sys.fan = .scanning stream todo evicted →
      begun.fanned.length < node.fanned.length

theorem HandedOver.step (handed : HandedOver env conn stream begun node)
    (traced : node.Traced env) (nodup : node.sys.ScanNodup)
    (undisturbed : Undisturbed env conn stream node action)
    (moved : node.step env action = some next) :
    HandedOver env conn stream begun next := by
  have steps := steps_of_step moved
  obtain ⟨frames, messages, isSent, isFanned, inStep⟩ := handed.inStep
  obtain ⟨attached, active⟩ :=
    undisturbed.attached inStep.attached handed.active steps
  obtain ⟨frames', messages', sentNext, fannedNext, state⟩ :=
    inStep.step traced nodup (Or.inl attached) (traced.serves steps conn)
  refine ⟨active, ⟨frames ++ frames', messages ++ messages', ?_, ?_, ?_⟩, ?_⟩
  · rw [sentNext, isSent, List.append_assoc]
  · rw [fannedNext, isFanned, List.append_assoc]
  · rcases state with inStepNext | ⟨-, ⟨rfl, refused⟩ | detached⟩
    · exact inStepNext
    · exact absurd refused (by simpa [evicts] using undisturbed.unevicted)
    · exact absurd attached detached
  · intro todo evicted scanning
    rcases steps.scanning scanning with
      ⟨before, given, was, -, -⟩ | ⟨message, -, -, -, -, -, extended⟩
    · have more := handed.started before given was
      rw [fannedNext, List.length_append]
      omega
    · rw [extended, isFanned, List.length_append, List.length_append,
        List.length_singleton]
      omega

/-- The push of `subscribe` is where the invariant begins. -/
theorem handedOver_of_push (traced : start.Traced env)
    (pushing : start.sys.task conn = .pushing stream)
    (begins : start.step env (.advance conn) = some begun) :
    HandedOver env conn stream begun begun := by
  obtain ⟨unlocked, isNext⟩ := push_of_step pushing begins
  refine ⟨?_, ⟨[], [], (List.append_nil _).symm, (List.append_nil _).symm,
    inStep_of_push traced pushing begins⟩, ?_⟩
  · intro pc
    rw [isNext, RegSystem.move_task_self]
    simp
  · intro todo evicted scanning
    rw [isNext] at scanning
    exact absurd scanning (RegSystem.fan_ne_scanning unlocked todo evicted)

section Runs

variable {log : MessageLog} {cursor : Nat}

theorem handedOver_of_reaches
    (before : Reaches (step env) (fun _ _ => True) (initial env log cursor)
      begun)
    (handed : HandedOver env conn stream begun begun)
    (run : Reaches (step env) (Undisturbed env conn stream) begun node) :
    HandedOver env conn stream begun node := by
  induction run with
  | refl =>
      exact handed
  | tail earlier last ih =>
      obtain ⟨label, undisturbed, moved⟩ := last
      have reached := before.extend earlier
      exact ih.step (traced_of_reaches reached)
        (scanNodup_of_reaches reached) undisturbed moved

end Runs

/-! ## Messages processed by the fan-out loop -/

/-- The messages the fan-out loop has processed: it is not done with the one it
is scanning the subscribers for. -/
def processed (node : Node) : List StoredMessage :=
  match node.sys.fan with
  | .scanning _ _ _ => node.fanned.dropLast
  | _ => node.fanned

theorem processed_of_scanning {scanned : String} {todo evicted : List ConnId}
    (scanning : node.sys.fan = .scanning scanned todo evicted) :
    node.processed = node.fanned.dropLast := by
  simp only [processed, scanning]

theorem mem_fanned_of_processed {message : StoredMessage}
    (done : message ∈ node.processed) : message ∈ node.fanned := by
  unfold processed at done
  split at done
  · exact List.mem_of_mem_dropLast done
  · exact done

/-- A message that was fanned out is processed, unless there is a scan for it. -/
theorem processed_or_current (traced : node.Traced env)
    (busy : node.BusyWithLast) {message : StoredMessage}
    (member : message ∈ node.fanned) :
    message ∈ node.processed ∨
      ∃ todo evicted, node.sys.fan = .scanning message.stream todo evicted := by
  by_cases done : message ∈ node.processed
  · exact Or.inl done
  · right
    unfold processed at done
    split at done
    · rename_i scanned todo evicted scanning
      obtain ⟨current, isCurrent, isStream⟩ :=
        traced.scanned scanned todo evicted scanning
      have isLast := (busy scanned todo evicted scanning).trans isCurrent
      rw [← List.dropLast_append_getLast? current isLast] at member
      rcases List.mem_append.mp member with earlier | same
      · exact absurd earlier done
      · rw [List.mem_singleton.mp same, isStream]
        exact ⟨todo, evicted, scanning⟩
    · exact absurd member done

/-! ## No gap -/

/-- A processed message was fanned out before the subscription, or is in the
live queue. -/
theorem HandedOver.live_of_processed
    (handed : HandedOver env conn stream begun node)
    (traced : node.Traced env) (busy : node.BusyWithLast)
    {message : StoredMessage} (done : message ∈ node.processed)
    (ofStream : message.stream = stream) :
    message ∈ begun.fanned ∨
      liveFrame env.decodePayload message ∈ node.liveSent conn := by
  obtain ⟨frames, messages, isSent, isFanned, inStep⟩ := handed.inStep
  have enqueued :
      ∀ earlier, liveOf stream frames = feedOf env stream earlier →
        message ∈ earlier →
          liveFrame env.decodePayload message ∈ node.liveSent conn := by
    intro earlier isFeed member
    have owed : liveFrame env.decodePayload message ∈ liveOf stream frames := by
      rw [isFeed]
      exact List.mem_map_of_mem
        (List.mem_filter.mpr ⟨member, by simpa using ofStream⟩)
    rw [isSent]
    exact List.mem_append_right _ (List.mem_filter.mp owed).1
  by_cases awaits : node.sys.Awaits conn stream
  · -- All but the message of the scan have been enqueued.
    obtain ⟨current, isCurrent, isFeed⟩ := inStep.awaited awaits
    obtain ⟨todo, evicted, scanning, -⟩ := awaits
    obtain ⟨busyWith, isBusy, currentStream⟩ :=
      traced.scanned stream todo evicted scanning
    obtain rfl : current = busyWith :=
      Option.some.inj (isCurrent.symm.trans isBusy)
    have isLast := (busy stream todo evicted scanning).trans isCurrent
    rw [processed_of_scanning scanning, isFanned] at done
    rcases List.eq_nil_or_concat' messages with rfl | ⟨earlier, last, rfl⟩
    · simp [feedOf] at isFeed
    · rw [isFanned, ← List.append_assoc, List.getLast?_concat] at isLast
      obtain rfl := Option.some.inj isLast
      rw [← List.append_assoc, List.dropLast_concat] at done
      rw [feedOf_append, feedOf_of_stream currentStream] at isFeed
      rcases List.mem_append.mp done with before | since
      · exact Or.inl before
      · exact Or.inr
          (enqueued earlier (List.append_cancel_right isFeed) since)
  · have member := mem_fanned_of_processed done
    rw [isFanned] at member
    rcases List.mem_append.mp member with before | since
    · exact Or.inl before
    · exact Or.inr (enqueued messages (inStep.served awaits) since)

/-- What was fanned out before the subscription is processed, as far as the
stream is concerned. -/
theorem HandedOver.processed_of_before
    (handed : HandedOver env conn stream begun node)
    (traced : node.Traced env) (busy : node.BusyWithLast)
    {message : StoredMessage} (earlier : message ∈ begun.fanned)
    (ofStream : message.stream = stream) : message ∈ node.processed := by
  obtain ⟨frames, messages, -, isFanned, -⟩ := handed.inStep
  have member : message ∈ node.fanned := by
    rw [isFanned]
    exact List.mem_append_left _ earlier
  rcases processed_or_current traced busy member with
    done | ⟨todo, evicted, scanning⟩
  · exact done
  · -- The scan for the stream began after the subscription.
    rw [ofStream] at scanning
    have more := handed.started todo evicted scanning
    have isMore : messages ≠ [] := by
      rintro rfl
      rw [isFanned, List.append_nil] at more
      exact Nat.lt_irrefl _ more
    rw [processed_of_scanning scanning, isFanned,
      List.dropLast_append_of_ne_nil isMore]
    exact List.mem_append_left _ earlier

section Runs

variable {log : MessageLog} {cursor : Nat}

/-- Once a replay has confirmed, every newer message of the stream that was
stored when the subscription began, and every one the fan-out loop has
processed, is enqueued, replayed or live, if none of them has left the stream.
Every other one is enqueued live when it is processed. -/
theorem no_gap_at_handOver
    (before : Reaches (step env) (fun _ _ => True) (initial env log cursor)
      start)
    (pushing : start.sys.task conn = .pushing stream)
    (begins : start.step env (.advance conn) = some begun)
    (run : Reaches (step env) (Undisturbed env conn stream) begun node)
    {index : Nat} {task : ReplayTask}
    (started : (begun.sessions conn).tasks.length ≤ index)
    (present : (node.sessions conn).tasks[index]? = some task)
    (ofStream : task.identifier = stream)
    (confirmed : task.pc = .ended true)
    (kept : node.KeptAbove task.lastSeq stream) :
    (∀ message,
      message ∈ begun.log.messages ∨ message ∈ node.processed →
        message.stream = stream → task.lastSeq < message.seq →
          liveFrame env.decodePayload message ∈ node.liveSent conn ∨
            catchUpFrame env message ∈
              (node.sessions conn).out.replay.sent) ∧
      ∀ later,
        Reaches (step env) (Undisturbed env conn stream) node later →
          ∀ message, message ∈ later.processed → message ∉ node.processed →
            message.stream = stream →
              liveFrame env.decodePayload message ∈ later.liveSent conn := by
  have reached := before.tail trivial begins
  have reachedNode := reached.extend run
  have begunHanded :=
    handedOver_of_push (traced_of_reaches before) pushing begins
  have handed := handedOver_of_reaches reached begunHanded run
  have replayed :
      ∀ message, message ∈ begun.log.messages → message.stream = stream →
        task.lastSeq < message.seq →
          catchUpFrame env message ∈
            (node.sessions conn).out.replay.sent := by
    intro message stored inStream newer
    have covered := replaysCovered_of_reaches run kept index task started
      present ofStream (Nat.le_refl _)
    apply covered.answered (Or.inr confirmed) message _
      (inStream.trans ofStream.symm) newer
    rw [List.prefix_iff_eq_take.mp (log_grows_of_reaches run)] at stored
    exact stored
  constructor
  · rintro message (stored | done) inStream newer
    · exact Or.inr (replayed message stored inStream newer)
    · rcases handed.live_of_processed (traced_of_reaches reachedNode)
        (busyWithLast_of_reaches reachedNode) done inStream with
        earlier | live
      · exact Or.inr (replayed message
          (fanned_subset_log reached message earlier) inStream newer)
      · exact Or.inl live
  · intro later onward message done waiting inStream
    have reachedLater := reachedNode.extend onward
    have laterHanded :=
      handedOver_of_reaches reached begunHanded (run.trans onward)
    rcases laterHanded.live_of_processed (traced_of_reaches reachedLater)
      (busyWithLast_of_reaches reachedLater) done inStream with
      earlier | live
    · exact absurd
        (handed.processed_of_before (traced_of_reaches reachedNode)
          (busyWithLast_of_reaches reachedNode) earlier inStream) waiting
    · exact live

end Runs

/-- One message is stored and processed before the client subscribes. -/
def handOverStart : Node :=
  (newsRun (fun _ _ => True)
    ([newsPublish, .fanNext true] ++ newsConnect ++ newsAsk)).get (by decide)

def handOverBegun : Node :=
  (handOverStart.step newsEnv (.advance 1)).get (by decide)

/-- A second one arrives before the replay task is started, and is fanned out,
replayed, and fanned out again. -/
def handOverNode : Node :=
  (execute (step newsEnv) (Undisturbed newsEnv 1 "news") handOverBegun
    ([.advance 1, newsPublish] ++ newsFanOut ++ [.effect 1 true] ++
      newsOpen 0 ++ [newsFetch 0 1, newsFetch 0 2] ++ newsConfirm ++
      [.seek 1] ++ newsFanOut)).get
    (by decide)

theorem no_gap_at_handOver_news :
    handOverNode.processed.length = 3 ∧
      (∀ message,
        message ∈ handOverBegun.log.messages ∨
            message ∈ handOverNode.processed →
          message.stream = "news" → 0 < message.seq →
            liveFrame newsEnv.decodePayload message ∈
                handOverNode.liveSent 1 ∨
              catchUpFrame newsEnv message ∈
                (handOverNode.sessions 1).out.replay.sent) ∧
      ∀ later,
        Reaches (step newsEnv) (Undisturbed newsEnv 1 "news") handOverNode
            later →
          ∀ message, message ∈ later.processed →
            message ∉ handOverNode.processed → message.stream = "news" →
              liveFrame newsEnv.decodePayload message ∈
                later.liveSent 1 := by
  have started :
      Reaches (step newsEnv) (fun _ _ => True) (initial newsEnv .empty 0)
        handOverStart :=
    reaches_execute_get _
  have begins :
      handOverStart.step newsEnv (.advance 1) = some handOverBegun :=
    (Option.some_get _).symm
  have present :
      (handOverNode.sessions 1).tasks[0]? =
        some ⟨"news", 0, .ended true⟩ := by
    decide
  have kept : handOverNode.KeptAbove 0 "news" := by
    intro message member
    cases member
  exact ⟨by decide, no_gap_at_handOver started (by decide) begins
    (reaches_execute_get _) (by decide) present rfl rfl kept⟩

/-- The message leaves the stream before the client connects. -/
def expiredStart : Node :=
  (newsRun (fun _ _ => True)
    ([newsPublish, .fanNext true, .expire] ++ newsConnect ++ newsAsk)).get
    (by decide)

def expiredBegun : Node :=
  (expiredStart.step newsEnv (.advance 1)).get (by decide)

/-- The replay finds an empty stream, and confirms. -/
def expiredNode : Node :=
  (execute (step newsEnv) (Undisturbed newsEnv 1 "news") expiredBegun
    ([.advance 1, .effect 1 true] ++ newsOpen 0 ++ newsConfirm)).get
    (by decide)

/-- A client at position 0 of a stream that was emptied is confirmed without the
message the fan-out loop has processed. -/
theorem expired_message_missed :
    Reaches (step newsEnv) (fun _ _ => True) (initial newsEnv .empty 0)
        expiredStart ∧
      expiredStart.sys.task 1 = .pushing "news" ∧
      expiredStart.step newsEnv (.advance 1) = some expiredBegun ∧
      Reaches (step newsEnv) (Undisturbed newsEnv 1 "news") expiredBegun
        expiredNode ∧
      (expiredBegun.sessions 1).tasks.length ≤ 0 ∧
      (expiredNode.sessions 1).tasks[0]? = some ⟨"news", 0, .ended true⟩ ∧
      ∃ message, message ∈ expiredNode.processed ∧
        message.stream = "news" ∧ 0 < message.seq ∧
        liveFrame newsEnv.decodePayload message ∉ expiredNode.liveSent 1 ∧
        catchUpFrame newsEnv message ∉
          (expiredNode.sessions 1).out.replay.sent := by
  have noLive : liveOf "news" (expiredNode.liveSent 1) = [] := rfl
  have onlyConfirm :
      (expiredNode.sessions 1).out.replay.sent =
        [.confirmSubscription "news"] :=
    rfl
  refine ⟨reaches_execute_get _, by decide, (Option.some_get _).symm,
    reaches_execute_get _, by decide, by decide,
    ⟨1, subjectOf "news", ByteArray.empty⟩, by decide, by decide, by decide,
    ?_, ?_⟩
  · intro member
    have isLive := List.mem_filter.mpr ⟨member, (by decide :
      isLiveOf "news" (liveFrame newsEnv.decodePayload
        ⟨1, subjectOf "news", ByteArray.empty⟩) = true)⟩
    rw [← liveOf, noLive] at isLive
    cases isLive
  · rw [onlyConfirm]
    simp [catchUpFrame, replayedFrame]

end TurbocableServer.Gateway.Node
