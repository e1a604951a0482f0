import TurbocableServer.Connection.ClientScript
import TurbocableServer.Connection.Resumption
import TurbocableServer.Gateway.HandOver

/-!
# Resuming a stream on one connection

A client that sends its position and one Subscribe gets the messages after the
position on its socket without a gap, replayed or live, provided that no live
frame of the stream is written before the confirmation.
-/

namespace TurbocableServer.Gateway.Node

open Foundations Protocol Pubsub Connection

variable {env : Environment} {node next begun : Node} {action : NodeAction}
variable {conn : ConnId} {stream : String} {since : Nat}

/-! ## Live frames after the confirmation -/

/-- The step puts a live frame of `stream` on the socket of `conn`. -/
def writesLive (env : Environment) (conn : ConnId) (stream : String)
    (node : Node) (action : NodeAction) : Bool :=
  match node.step env action with
  | some next =>
      ((next.sessions conn).out.socket.drop
        (node.sessions conn).out.socket.length).any (onData (isLiveOf stream))
  | none => false

/-- The confirmation of `stream` is on the socket of `conn`. -/
def confirmedOn (conn : ConnId) (stream : String) (node : Node) : Bool :=
  (node.sessions conn).out.socket.any (onData (isConfirmOf stream))

/-- A live frame of `stream` goes to the socket of `conn` only after the
confirmation. -/
def LiveAfterConfirm (env : Environment) (conn : ConnId) (stream : String)
    (node : Node) (action : NodeAction) : Prop :=
  writesLive env conn stream node action = true →
    confirmedOn conn stream node = true

instance (env : Environment) (conn : ConnId) (stream : String) (node : Node)
    (action : NodeAction) :
    Decidable (LiveAfterConfirm env conn stream node action) :=
  inferInstanceAs (Decidable (_ → _))

theorem LiveAfterConfirm.confirmed
    (ordered : LiveAfterConfirm env conn stream node action)
    (moved : node.step env action = some next) {frame : ServerMessage}
    (extended :
      (next.sessions conn).out.socket =
        (node.sessions conn).out.socket ++ [.data frame])
    (live : isLiveOf stream frame = true) :
    .data (.confirmSubscription stream) ∈
      (node.sessions conn).out.socket := by
  have confirmed : confirmedOn conn stream node = true := by
    apply ordered
    simp [writesLive, moved, extended, onData, live]
  obtain ⟨written, member, isConfirm⟩ := List.any_eq_true.mp confirmed
  cases written with
  | data message =>
      cases message with
      | confirmSubscription identifier =>
          rwa [eq_of_beq (show (identifier == stream) = true from isConfirm)]
            at member
      | _ => cases isConfirm
  | goingAway => cases isConfirm
  | closing => cases isConfirm

theorem liveAfterConfirm_of_same (moved : node.step env action = some next)
    (same :
      (next.sessions conn).out.socket = (node.sessions conn).out.socket) :
    LiveAfterConfirm env conn stream node action := by
  intro writes
  simp [writesLive, moved, same] at writes

/-! ## Before the subscription -/

/-- Nothing of `stream` has been or is being fanned out to `conn`. -/
structure Unlisted (conn : ConnId) (stream : String) (node : Node) :
    Prop where
  unlisted : conn ∉ node.sys.reg.subscribers stream
  unawaited : ¬ node.sys.Awaits conn stream
  unsent : liveOf stream (node.liveSent conn) = []

theorem Unlisted.unsent_step (unlisted : Unlisted conn stream node)
    (traced : node.Traced env) (steps : Steps env node action next) :
    liveOf stream (next.liveSent conn) = [] := by
  cases traced.serves steps conn with
  | delivered scanned todo evicted message scanning current _ _ _ extended =>
      obtain ⟨busyWith, isCurrent, isStream⟩ :=
        traced.scanned scanned _ evicted scanning
      obtain rfl : message = busyWith :=
        Option.some.inj (current.symm.trans isCurrent)
      have other : message.stream ≠ stream := by
        intro ofStream
        rw [isStream.symm.trans ofStream] at scanning
        exact unlisted.unawaited
          ⟨_, evicted, scanning, List.mem_cons_self ..⟩
      rw [extended, liveOf_append, unlisted.unsent, liveOf_liveFrame,
        feedOf_of_other other, List.append_nil]
  | passed _ _ _ _ _ _ _ same | taken _ _ _ _ _ same =>
      exact same ▸ unlisted.unsent
  | quiet added _ _ _ extended noMessages =>
      rw [extended, liveOf_append, unlisted.unsent, liveOf_eq_nil noMessages,
        List.append_nil]

theorem Unlisted.step (unlisted : Unlisted conn stream node)
    (traced : node.Traced env) (steps : Steps env node action next)
    (still : conn ∉ next.sys.reg.subscribers stream) :
    Unlisted conn stream next where
  unlisted := still
  unawaited := by
    intro awaits
    rcases steps.sysMove.access with same | ⟨call, accessed⟩
    · exact unlisted.unawaited (same ▸ awaits)
    · rcases RegSystem.Awaits.of_step (RegSystem.steps_of_step accessed)
        awaits with before | ⟨-, listed⟩
      · exact unlisted.unawaited before
      · exact unlisted.unlisted listed
  unsent := unlisted.unsent_step traced steps

/-! ## Since the subscription -/

/-- Since `begun`, when the subscription began, the live queue follows the
fan-out, and the replays cover what had been fanned out before. -/
structure Resuming (env : Environment) (conn : ConnId) (stream : String)
    (since : Nat) (begun node : Node) : Prop where
  unsent : liveOf stream (begun.liveSent conn) = []
  within : begun.cursor ≤ begun.log.messages.length
  following : Following env conn stream begun node
  passed : PassedAll begun node
  catching :
    (node.sessions conn).Catching env node.log begun.cursor stream since

/-- The messages fanned out before the subscription are the first of the
log. -/
theorem PassedAll.take_begun (passed : PassedAll begun node)
    (within : begun.cursor ≤ begun.log.messages.length) :
    node.log.messages.take begun.cursor =
        begun.log.messages.take begun.cursor ∧
      begun.cursor ≤ node.log.messages.length := by
  obtain ⟨messages, -, isPassed⟩ := passed
  have isLength :
      (begun.log.messages.take begun.cursor).length = begun.cursor :=
    List.length_take_of_le within
  have first :
      begun.log.messages.take begun.cursor <+: node.log.messages :=
    (isPassed ▸ List.prefix_append _ messages :
      _ <+: node.log.messages.take node.cursor).trans
      (List.take_prefix _ _)
  have shorter := first.length_le
  rw [isLength] at shorter
  refine ⟨?_, shorter⟩
  have isTake := List.prefix_iff_eq_take.mp first
  rw [isLength] at isTake
  exact isTake.symm

theorem catching_step {floor : Nat}
    (catching :
      (node.sessions conn).Catching env node.log floor stream since)
    (within : floor ≤ node.log.messages.length)
    (scripted : (node.sessions conn).Scripted stream since)
    (faithful : faithfulReplay conn stream node.log node action = true)
    (steps : Steps env node action next) :
    (next.sessions conn).Catching env next.log floor stream since := by
  apply steps.session_log_kept
    (motive := fun session log =>
      session.Catching env log floor stream since) catching
  · intro move after isMove moved
    have fed : (node.sessions conn).FedReplay node.log stream 0 move :=
      (isMove.faithful faithful).fed (fun _ member => member)
        (fun _ member _ _ => member)
    exact catching.step within
      (fun task member _ => scripted.tasks task member) fed moved
  · intro after subject payload onOldLog
    exact onOldLog.publish within subject payload

theorem staysSubscribed_of_scripted
    (scripted : (node.sessions conn).Scripted stream since) :
    StaysSubscribed conn stream node action := by
  intro _
  unfold unsubscribesNext
  split
  · rename_i wanted rest todo
    exact absurd (scripted.todo (.registryUnsubscribe wanted) (by simp [todo]))
      (by simp [Session.Resumes])
  · rfl

theorem Resuming.step (resuming : Resuming env conn stream since begun node)
    (traced : node.Traced env) (nodup : node.sys.ScanNodup)
    (onLog : node.OnLog)
    (scripted : (node.sessions conn).Scripted stream since)
    (inOrder : seeks action = false)
    (unlimited : dropsMessage action = false)
    (faithful : faithfulReplay conn stream node.log node action = true)
    (moved : node.step env action = some next) :
    Resuming env conn stream since begun next where
  unsent := resuming.unsent
  within := resuming.within
  following :=
    resuming.following.step traced nodup (staysSubscribed_of_scripted scripted)
      moved
  passed := by
    refine resuming.passed.step onLog (steps_of_step moved).logMove inOrder ?_
    rintro rfl
    cases unlimited
  catching :=
    catching_step resuming.catching
      (resuming.passed.take_begun resuming.within).2 scripted faithful
      (steps_of_step moved)

/-- In front of a frame of the feed are those of all older messages. -/
private theorem feedOf_split {messages : List StoredMessage}
    (increasing :
      messages.Pairwise (fun earlier later => earlier.seq < later.seq))
    {written : List ServerMessage} {frame : ServerMessage}
    (isPrefix : written ++ [frame] <+: feedOf env stream messages) :
    ∃ message,
      message ∈ messages ∧ message.stream = stream ∧
        frame = liveFrame env.decodePayload message ∧
        ∀ other, other ∈ messages → other.stream = stream →
          other.seq < message.seq →
            liveFrame env.decodePayload other ∈ written := by
  obtain ⟨rest, split⟩ := isPrefix
  obtain ⟨front, back, isFeed, isFront, -⟩ :=
    List.map_eq_append_iff.mp split.symm
  obtain ⟨earlier, last, rfl, isEarlier, isLast⟩ :=
    List.map_eq_append_iff.mp isFront
  obtain ⟨message, rfl, isFrame⟩ := List.map_eq_singleton_iff.mp isLast
  have inFeed :
      ∀ other, other ∈ earlier ++ [message] ++ back ↔
        other ∈ messages ∧ other.stream = stream := by
    intro other
    rw [← isFeed, List.mem_filter, decide_eq_true_eq]
  obtain ⟨isFanned, ofStream⟩ := (inFeed message).mp (by simp)
  refine ⟨message, isFanned, ofStream, isFrame.symm, ?_⟩
  intro other member inStream older
  have sorted := increasing.filter (fun message => message.stream = stream)
  rw [isFeed, List.pairwise_append] at sorted
  rw [← isEarlier]
  refine List.mem_map_of_mem ?_
  rcases List.mem_append.mp ((inFeed other).mpr ⟨member, inStream⟩) with
    inFront | inBack
  · rcases List.mem_append.mp inFront with inEarlier | isMessage
    · exact inEarlier
    · rw [List.mem_singleton.mp isMessage] at older
      exact absurd older (Nat.lt_irrefl _)
  · exact absurd (sorted.2.2 message (by simp) other inBack)
      (Nat.not_lt_of_lt older)

/-- In front of a live frame that is next to be written are those of all older
messages fanned out since the subscription. -/
theorem Resuming.live_preceded
    (resuming : Resuming env conn stream since begun node)
    {written : List ServerMessage} {frame : ServerMessage}
    (isPrefix : written ++ [frame] <+: liveOf stream (node.liveSent conn)) :
    ∃ message,
      message ∈ node.log.messages ∧ message.stream = stream ∧
        frame = liveFrame env.decodePayload message ∧
        ∀ other, other ∈ node.log.messages → other.stream = stream →
          other.seq < message.seq →
            other ∈ node.log.messages.take begun.cursor ∨
              liveFrame env.decodePayload other ∈ written := by
  obtain ⟨frames, messages, isSent, isFanned, state⟩ := resuming.following
  obtain ⟨passed, isFanned', isPassed⟩ := resuming.passed
  obtain rfl : passed = messages :=
    List.append_cancel_left (isFanned'.symm.trans isFanned)
  have owed : liveOf stream frames <+: feedOf env stream passed := by
    rcases state with inStep | stopped
    · exact inStep.isPrefix
    · exact stopped.isPrefix
  have increasing :=
    node.log.increasing.sublist (List.take_sublist node.cursor _)
  rw [isPassed, List.pairwise_append] at increasing
  rw [isSent, liveOf_append, resuming.unsent, List.nil_append] at isPrefix
  obtain ⟨message, inPassed, ofStream, isFrame, preceded⟩ :=
    feedOf_split increasing.2.1 (isPrefix.trans owed)
  have taken : message ∈ node.log.messages.take node.cursor := by
    rw [isPassed]
    exact List.mem_append_right _ inPassed
  refine ⟨message, List.mem_of_mem_take taken, ofStream, isFrame, ?_⟩
  intro other stored inStream older
  have takenBefore := node.log.mem_take_of_older taken stored older
  rw [isPassed] at takenBefore
  rcases List.mem_append.mp takenBefore with atBegin | sinceBegin
  · left
    rw [(resuming.passed.take_begun resuming.within).1]
    exact atBegin
  · exact Or.inr (preceded other sinceBegin inStream older)

/-! ## The order of the subscription and its replay -/

/-- The connection task starts no replay before it is free to. -/
private theorem noTasks_step (noTasks : (node.sessions conn).tasks = [])
    (notSpawning :
      node.sys.task conn = .ready →
        ∀ identifier position rest,
          (node.sessions conn).todo ≠
            .spawnReplay identifier position :: rest)
    (steps : Steps env node action next) :
    (next.sessions conn).tasks = [] := by
  rcases steps.session_cases conn with same | ⟨move, isMove, stepped⟩
  · rw [same]
    exact noTasks
  · rcases (Session.steps_of_step stepped).tasks_cases with
      same | ⟨index, _, _, _, _, -, present, -, -, -⟩ |
        ⟨identifier, position, rest, rfl, spawning, -⟩
    · exact same.trans noTasks
    · rw [noTasks] at present
      cases present
    · exfalso
      cases isMove with
      | onSession _ _ isLocal =>
          cases isLocal with
          | effect _ _ effect others todo here _ =>
              cases spawning.symm.trans todo
              exact notSpawning here identifier position _ spawning
      | call succeeds effect others call todo isCall =>
          cases spawning.symm.trans todo
          cases isCall
      | published name data others todo =>
          cases spawning.symm.trans todo

/-- When the connection is about to be put on the list, no replay has been
started. -/
private theorem waiting_step (sound : node.sys.Sound)
    (scripted : (node.sessions conn).Scripted stream since)
    (waiting :
      node.sys.task conn = .pushing stream →
        (node.sessions conn).tasks = [])
    (steps : Steps env node action next)
    (pushing : next.sys.task conn = .pushing stream) :
    (next.sessions conn).tasks = [] := by
  have still :
      node.sys.task conn = .pushing stream →
        (next.sessions conn).tasks = [] := by
    intro wasPushing
    refine noTasks_step (waiting wasPushing) ?_ steps
    intro ready
    cases ready.symm.trans wasPushing
  cases steps.sysMove with
  | same unchanged => exact still (unchanged ▸ pushing)
  | other call notCommand _ accessed =>
      rcases (RegSystem.steps_of_step accessed).pushing_cases sound pushing with
        wasPushing | rfl
      · exact still wasPushing
      · cases notCommand
  | call caller succeeds effect rest call _ todo isCall accessed =>
      rcases (RegSystem.steps_of_step accessed).pushing_cases sound pushing with
        wasPushing | rfl
      · exact still wasPushing
      · rcases registryCall_cases isCall with
          ⟨asked, rfl, isSubscribe⟩ | ⟨asked, -, isUnsubscribe⟩ |
            ⟨-, isDeregister⟩
        · cases isSubscribe
          obtain ⟨noTasks, -⟩ := scripted.first stream (by simp [todo])
          refine noTasks_step noTasks ?_ steps
          intro _ identifier position others spawning
          cases todo.symm.trans spawning
        · cases isUnsubscribe
        · cases isDeregister

/-- The subscription begins when the connection is put on the list. -/
private theorem resuming_of_listed (unlisted : Unlisted conn stream node)
    (waiting :
      node.sys.task conn = .pushing stream →
        (node.sessions conn).tasks = [])
    (traced : node.Traced env) (nextOnLog : next.OnLog)
    (scripted : (next.sessions conn).Scripted stream since)
    (steps : Steps env node action next)
    (listed : conn ∈ next.sys.reg.subscribers stream) :
    Resuming env conn stream since next next := by
  rcases steps.sysMove.access with same | ⟨call, accessed⟩
  · exact absurd (same ▸ listed) unlisted.unlisted
  · obtain ⟨pushing, unlocked, isNext⟩ :=
      (RegSystem.steps_of_step accessed).push_of_listed unlisted.unlisted listed
    have noTasks : (next.sessions conn).tasks = [] := by
      refine noTasks_step (waiting pushing) ?_ steps
      intro ready
      cases ready.symm.trans pushing
    exact
      { unsent := unlisted.unsent_step traced steps
        within := nextOnLog.within
        following :=
          (inStep_of_pushed traced pushing unlocked isNext).following
        passed :=
          ⟨[], (List.append_nil _).symm, (List.append_nil _).symm⟩
        catching :=
          Session.catching_of_no_tasks noTasks (scripted.unfed noTasks) }

/-! ## The invariant -/

/-- `conn` is not subscribed yet, or gets what it is owed since it is. -/
def Fed (env : Environment) (conn : ConnId) (stream : String) (since : Nat)
    (node : Node) : Prop :=
  (Unlisted conn stream node ∧
      (node.sessions conn).Catching env node.log 0 stream since) ∨
    ∃ begun, Resuming env conn stream since begun node

/-- The messages of `stream` after `since` get to the socket of `conn` without
a gap. -/
structure Resumed (env : Environment) (conn : ConnId) (stream : String)
    (since : Nat) (node : Node) : Prop where
  scripted : (node.sessions conn).Scripted stream since
  waiting :
    node.sys.task conn = .pushing stream → (node.sessions conn).tasks = []
  fed : Fed env conn stream since node
  gapFree :
    GapFree node.log stream since
      (seqsOn stream (node.sessions conn).out.socket)

theorem Fed.step (fed : Fed env conn stream since node)
    (waiting :
      node.sys.task conn = .pushing stream →
        (node.sessions conn).tasks = [])
    (traced : node.Traced env) (nodup : node.sys.ScanNodup)
    (onLog : node.OnLog) (nextOnLog : next.OnLog)
    (scripted : (node.sessions conn).Scripted stream since)
    (scriptedNext : (next.sessions conn).Scripted stream since)
    (inOrder : seeks action = false)
    (unlimited : dropsMessage action = false)
    (faithful : faithfulReplay conn stream node.log node action = true)
    (moved : node.step env action = some next) :
    Fed env conn stream since next := by
  have steps := steps_of_step moved
  rcases fed with ⟨unlisted, catching⟩ | ⟨begun, resuming⟩
  · by_cases listed : conn ∈ next.sys.reg.subscribers stream
    · exact Or.inr ⟨next, resuming_of_listed unlisted waiting traced nextOnLog
        scriptedNext steps listed⟩
    · exact Or.inl ⟨unlisted.step traced steps listed,
        catching_step catching (Nat.zero_le _) scripted faithful steps⟩
  · exact Or.inr ⟨begun, resuming.step traced nodup onLog scripted inOrder
      unlimited faithful moved⟩

/-- What was ever put into a live queue stays recorded. -/
theorem Steps.mem_liveSent {frame : ServerMessage}
    (steps : Steps env node action next) (member : frame ∈ node.liveSent conn) :
    frame ∈ next.liveSent conn := by
  rw [liveSent]
  rcases steps.session_cases conn with same | ⟨move, -, stepped⟩
  · rw [same]
    exact member
  · rcases (Session.steps_of_step stepped).live_sent with
      same | ⟨added, extended, -⟩
    · rw [same]
      exact member
    · rw [extended]
      exact List.mem_append_left _ member

theorem forwardsReplay_of_reaches {log : MessageLog} {cursor : Nat}
    {allowed : Node → NodeAction → Prop}
    (run : Reaches (step env) allowed (initial env log cursor) node)
    (unconfirmed : .confirmSubscription stream ∉ node.liveSent conn) :
    (node.sessions conn).ForwardsReplay (isCatchUpOf stream) := by
  induction run with
  | refl =>
      exact Session.forwardsReplay_unborn env
  | @tail before after earlier last ih =>
      obtain ⟨label, -, moved⟩ := last
      have steps := steps_of_step moved
      -- The confirmation is not withdrawn, so it was missing before as well.
      have unconfirmedBefore :
          .confirmSubscription stream ∉ before.liveSent conn :=
        fun member => unconfirmed (steps.mem_liveSent member)
      have forwards := ih unconfirmedBefore
      rcases steps.session_cases conn with same | ⟨move, -, stepped⟩
      · rw [same]
        exact forwards
      · have regular := regular_of_reaches earlier conn
        exact forwards.step regular.launched regular.separated
          (fun _ member =>
            Session.isCatchUpOf_live regular.separated unconfirmedBefore
              member)
          (fun _ _ => rfl) (Session.steps_of_step stepped)

/-- The live frame that is written next leaves no gap, once the confirmation is
on the socket. -/
theorem Resuming.gapFree_written
    (resuming : Resuming env conn stream since begun node)
    (forwards : (node.sessions conn).ForwardsReplay (isCatchUpOf stream))
    {socket : List (SocketFrame ServerMessage)} {frame : ServerMessage}
    (extended : (node.sessions conn).out.socket = socket ++ [.data frame])
    (live : isLiveOf stream frame = true)
    (confirmed : .data (.confirmSubscription stream) ∈ socket)
    (isPrefix :
      writtenOf (isLiveOf stream) (node.sessions conn).out.socket <+:
        liveOf stream (node.liveSent conn))
    (gapFree : GapFree node.log stream since (seqsOn stream socket)) :
    GapFree node.log stream since
      (seqsOn stream (node.sessions conn).out.socket) := by
  rw [extended, writtenOf_append, writtenOf_data, List.filter_singleton, live]
    at isPrefix
  obtain ⟨message, stored, ofStream, rfl, preceded⟩ :=
    resuming.live_preceded isPrefix
  have isSeq :
      messageSeq stream (liveFrame env.decodePayload message) =
        some message.seq := by
    simp [messageSeq, liveFrame, ofStream]
  rw [extended, seqsOn_append, seqsOn_of_seq isSeq]
  refine gapFree.snoc (node.log.bounded message stored) ?_
  intro other member inStream newer older
  rcases preceded other member inStream older with atBegin | isWritten
  · have onSocket :=
      resuming.catching.on_socket forwards
        (extended ▸ List.mem_append_left _ confirmed) atBegin inStream newer
    rw [extended, seqsOn_append, seqsOn_of_seq isSeq] at onSocket
    rcases List.mem_append.mp onSocket with before | isLast
    · exact before
    · exact absurd (List.mem_singleton.mp isLast) (Nat.ne_of_lt older)
  · refine mem_seqsOn_of_written (mem_seqsIn isWritten ?_)
    simp [messageSeq, liveFrame, inStream]

/-- What is written from the live queue leaves no gap. -/
private theorem gapFree_of_live (fed : Fed env conn stream since next)
    (separated : (node.sessions conn).Separated env)
    (forwards : (next.sessions conn).ForwardsReplay (isCatchUpOf stream))
    (ordered : LiveAfterConfirm env conn stream node action)
    (moved : node.step env action = some next) {frame : ServerMessage}
    (queued : frame ∈ node.liveSent conn)
    (extended :
      (next.sessions conn).out.socket =
        (node.sessions conn).out.socket ++ [.data frame])
    (isPrefix :
      writtenOf (isLiveOf stream) (next.sessions conn).out.socket <+:
        liveOf stream (next.liveSent conn))
    (gapFree :
      GapFree next.log stream since
        (seqsOn stream (node.sessions conn).out.socket)) :
    GapFree next.log stream since
      (seqsOn stream (next.sessions conn).out.socket) := by
  cases isSeq : messageSeq stream frame with
  | none =>
      rw [extended, seqsOn_append, seqsOn_of_no_seq isSeq, List.append_nil]
      exact gapFree
  | some seq =>
      have live := Session.isLiveOf_of_messageSeq separated queued isSeq
      rcases fed with ⟨unlisted, -⟩ | ⟨begun, resuming⟩
      · rw [unlisted.unsent, extended, writtenOf_append, writtenOf_data,
          List.filter_singleton, live] at isPrefix
        simp at isPrefix
      · exact resuming.gapFree_written forwards extended live
          (ordered.confirmed moved extended live) isPrefix gapFree

section Runs

variable {log : MessageLog} {cursor : Nat}

private theorem wrote_of_steps (separated : (node.sessions conn).Separated env)
    (steps : Steps env node action next) :
    Session.Wrote (node.sessions conn) (next.sessions conn) := by
  rcases steps.session_cases conn with same | ⟨move, -, stepped⟩
  · exact .nothing (by rw [same])
  · exact (Session.steps_of_step stepped).wrote separated

private theorem gapFree_step (resumed : Resumed env conn stream since node)
    (fed : Fed env conn stream since next)
    (separated : (node.sessions conn).Separated env)
    (forwards : (next.sessions conn).ForwardsReplay (isCatchUpOf stream))
    (ordered : LiveAfterConfirm env conn stream node action)
    (isPrefix :
      writtenOf (isLiveOf stream) (next.sessions conn).out.socket <+:
        liveOf stream (next.liveSent conn))
    (moved : node.step env action = some next) :
    GapFree next.log stream since
      (seqsOn stream (next.sessions conn).out.socket) := by
  have steps := steps_of_step moved
  have onNewLog :
      GapFree next.log stream since
        (seqsOn stream (node.sessions conn).out.socket) := by
    rcases steps.logMove.log_cases with same | ⟨subject, payload, isPublish⟩
    · exact same ▸ resumed.gapFree
    · rw [isPublish]
      exact resumed.gapFree.publish subject payload
  cases wrote_of_steps separated steps with
  | nothing same => exact same ▸ onNewLog
  | replay frame queued extended =>
      obtain ⟨floor, catching⟩ :
          ∃ floor,
            (next.sessions conn).Catching env next.log floor stream since := by
        rcases fed with ⟨-, catching⟩ | ⟨begun, resuming⟩
        · exact ⟨0, catching⟩
        · exact ⟨begun.cursor, resuming.catching⟩
      exact catching.gapFree_written separated forwards queued extended onNewLog
  | live frame queued extended =>
      exact gapFree_of_live fed separated forwards ordered moved queued extended
        isPrefix onNewLog
  | terminal last origin extended =>
      have noSeqs : seqsOn stream last = [] := by
        apply seqsOn_eq_nil
        intro message member
        obtain ⟨reason, reconnect, rfl⟩ := origin message member
        rfl
      rw [extended, seqsOn_append, noSeqs, List.append_nil]
      exact onNewLog

theorem Resumed.step (resumed : Resumed env conn stream since node)
    (within : cursor ≤ log.messages.length)
    (run : Reaches (step env) (fun _ _ => True) (initial env log cursor) node)
    (scripted : (next.sessions conn).Scripted stream since)
    (inOrder : seeks action = false)
    (unlimited : dropsMessage action = false)
    (faithful : faithfulReplay conn stream node.log node action = true)
    (ordered : LiveAfterConfirm env conn stream node action)
    (moved : node.step env action = some next) :
    Resumed env conn stream since next := by
  have runNext := run.tail trivial moved
  have traced := traced_of_reaches run
  have separated := (regular_of_reaches run conn).separated
  have fed : Fed env conn stream since next :=
    resumed.fed.step resumed.waiting traced (scanNodup_of_reaches run)
      (onLog_of_reaches within run) (onLog_of_reaches within runNext)
      resumed.scripted scripted inOrder unlimited faithful moved
  exact
    { scripted := scripted
      waiting :=
        waiting_step traced.sound resumed.scripted resumed.waiting
          (steps_of_step moved)
      fed := fed
      gapFree :=
        gapFree_step resumed fed separated
          (forwardsReplay_of_reaches runNext scripted.unconfirmed) ordered
          (written_prefix_liveSent runNext conn stream) moved }

/-! ## The beginning of a connection -/

theorem unsubscribed_of_reaches {allowed : Node → NodeAction → Prop}
    (run : Reaches (step env) allowed (initial env log cursor) node)
    (unborn : (node.sessions conn).phase = .unborn) :
    (node.sessions conn).Unsubscribed stream := by
  refine session_invariant
    (fun session => session.phase = .unborn → session.Unsubscribed stream)
    ?_ run (fun _ => Session.unsubscribed_unborn env stream) unborn
  intro source label move next _ _ isMove steps unsubscribed isUnborn
  have wasUnborn := steps.phase isUnborn
  exact (unsubscribed wasUnborn).step isMove.deliversLive
    (steps.not_frame wasUnborn) steps

/-- Nothing of `stream` is on the socket of a client that has not
subscribed. -/
structure Awaiting (conn : ConnId) (stream : String) (node : Node) :
    Prop where
  unsubscribed : (node.sessions conn).Unsubscribed stream
  noSeqs : seqsOn stream (node.sessions conn).out.socket = []
  noConfirm :
    .data (.confirmSubscription stream) ∉ (node.sessions conn).out.socket

theorem Awaiting.step (awaiting : Awaiting conn stream node)
    (separated : (node.sessions conn).Separated env)
    (unsubscribed : (next.sessions conn).Unsubscribed stream)
    (ordered : LiveAfterConfirm env conn stream node action)
    (moved : node.step env action = some next) :
    Awaiting conn stream next := by
  suffices quiet :
      seqsOn stream (next.sessions conn).out.socket = [] ∧
        .data (.confirmSubscription stream) ∉
          (next.sessions conn).out.socket from
    ⟨unsubscribed, quiet.1, quiet.2⟩
  cases wrote_of_steps separated (steps_of_step moved) with
  | nothing same =>
      rw [same]
      exact ⟨awaiting.noSeqs, awaiting.noConfirm⟩
  | replay frame queued _ =>
      rw [awaiting.unsubscribed.unfed] at queued
      cases queued
  | live frame queued extended =>
      have noSeq : messageSeq stream frame = none := by
        cases isSeq : messageSeq stream frame with
        | none => rfl
        | some seq =>
            have live := Session.isLiveOf_of_messageSeq separated queued isSeq
            exact absurd (ordered.confirmed moved extended live)
              awaiting.noConfirm
      rw [extended, seqsOn_append, seqsOn_of_no_seq noSeq, awaiting.noSeqs]
      refine ⟨rfl, ?_⟩
      intro member
      rcases List.mem_append.mp member with before | isLast
      · exact awaiting.noConfirm before
      · cases List.mem_singleton.mp isLast
        exact awaiting.unsubscribed.unconfirmed queued
  | terminal last origin extended =>
      have noSeqs : seqsOn stream last = [] := by
        apply seqsOn_eq_nil
        intro message member
        obtain ⟨reason, reconnect, rfl⟩ := origin message member
        rfl
      rw [extended, seqsOn_append, noSeqs, awaiting.noSeqs]
      refine ⟨rfl, ?_⟩
      intro member
      rcases List.mem_append.mp member with before | inLast
      · exact awaiting.noConfirm before
      · obtain ⟨reason, reconnect, isDisconnect⟩ := origin _ inLast
        cases isDisconnect

/-- A hello may set any position before the Subscribe. -/
theorem Resumed.rebase (resumed : Resumed env conn stream since node)
    (awaiting : Awaiting conn stream node) (position : Nat) :
    Resumed env conn stream position node := by
  have noTasks := awaiting.unsubscribed.tasks
  have catching :
      ∀ floor,
        (node.sessions conn).Catching env node.log floor stream position :=
    fun floor =>
      Session.catching_of_no_tasks noTasks awaiting.unsubscribed.unfed
  refine ⟨awaiting.unsubscribed.scripted position, fun _ => noTasks, ?_, ?_⟩
  · rcases resumed.fed with ⟨unlisted, -⟩ | ⟨begun, resuming⟩
    · exact Or.inl ⟨unlisted, catching 0⟩
    · exact Or.inr ⟨begun,
        { resuming with catching := catching begun.cursor }⟩
  · rw [awaiting.noSeqs]
    exact GapFree.nil

/-- A connection whose client has sent nothing. -/
theorem resumed_of_no_frames (traced : node.Traced env)
    (noFrames : (node.sessions conn).frames = [])
    (awaiting : Awaiting conn stream node) (position : Nat) :
    Resumed env conn stream position node := by
  have unasked : ¬ (node.sessions conn).Subscribed env stream := by
    rintro ⟨identifier, asked, -⟩
    rw [noFrames] at asked
    cases asked
  have unwanted : ¬ node.sys.Wants conn stream :=
    fun wants => unasked (traced.wanted conn stream wants)
  have unlisted : Unlisted conn stream node :=
    { unlisted := fun listed => unwanted (Or.inl (Or.inl listed))
      unawaited := fun awaits => unwanted (Or.inr awaits)
      unsent := by
        rw [liveOf, List.filter_eq_nil_iff]
        intro frame member live
        exact unasked ((traced.sessions conn).enqueued frame stream member
          (identifierField_of_isLiveOf live)) }
  have noTasks := awaiting.unsubscribed.tasks
  refine ⟨awaiting.unsubscribed.scripted position, fun _ => noTasks,
    Or.inl ⟨unlisted, Session.catching_of_no_tasks noTasks
      awaiting.unsubscribed.unfed⟩, ?_⟩
  rw [awaiting.noSeqs]
  exact GapFree.nil

/-- A connection that has just been accepted. -/
theorem resumed_of_accept {ctx : ConnContext}
    (run : Reaches (step env) (fun _ _ => True) (initial env log cursor) node)
    (accepted : node.step env (.accept conn ctx) = some next)
    (stream : String) (position : Nat) :
    Awaiting conn stream next ∧ Resumed env conn stream position next := by
  have regular := regular_of_reaches run conn
  have runNext := run.tail trivial accepted
  cases steps_of_step accepted with
  | onSession _ _ _ _ isLocal _ => cases isLocal
  | accept _ _ sys session registered stepped =>
      have isSession :
          ({ node with sys := sys }.setSession conn session).sessions conn =
            session :=
        setSession_sessions_self ..
      have steps := Session.steps_of_step stepped
      have accepts := steps
      cases accepts with
      | accept _ unborn =>
          have before : (node.sessions conn).Unsubscribed stream :=
            unsubscribed_of_reaches run unborn
          have unsubscribed :=
            before.step (by intro frame isDeliver; cases isDeliver)
              (by simp) steps
          have noSocket : (node.sessions conn).out.socket = [] :=
            regular.launched.silent (regular.launched.unborn unborn).1
          have awaiting :
              Awaiting conn stream
                ({ node with sys := sys }.setSession conn _) :=
            { unsubscribed := by
                rw [isSession]
                exact unsubscribed
              noSeqs := by
                rw [isSession]
                simp [noSocket, seqsOn, seqsIn, writtenOf]
              noConfirm := by
                rw [isSession]
                simp [noSocket] }
          refine ⟨awaiting,
            resumed_of_no_frames (traced_of_reaches runNext) ?_ awaiting
              position⟩
          rw [isSession]
          exact (traced_of_reaches run).sessions conn |>.fresh unborn

/-! ## The frames of the client -/

theorem SessionMove.not_frame {move : SessionAction}
    (isMove : SessionMove env node conn action move)
    (silent : ∀ frame, action ≠ .frame conn frame)
    (frame : Option ClientFrame) : move ≠ .frame frame := by
  rintro rfl
  cases isMove with
  | onSession _ _ isLocal =>
      cases isLocal
      exact silent frame rfl

/-- A step without a frame of the client keeps the script. -/
theorem scripted_of_silent
    (scripted : (node.sessions conn).Scripted stream since)
    (silent : ∀ frame, action ≠ .frame conn frame)
    (steps : Steps env node action next) :
    (next.sessions conn).Scripted stream since := by
  rcases steps.session_cases conn with same | ⟨move, isMove, stepped⟩
  · rw [same]
    exact scripted
  · exact scripted.step isMove.deliversLive (isMove.not_frame silent)
      (Session.steps_of_step stepped)

theorem unsubscribed_of_silent
    (unsubscribed : (node.sessions conn).Unsubscribed stream)
    (silent : ∀ frame, action ≠ .frame conn frame)
    (steps : Steps env node action next) :
    (next.sessions conn).Unsubscribed stream ∧
      (next.sessions conn).inbound = (node.sessions conn).inbound := by
  rcases steps.session_cases conn with same | ⟨move, isMove, stepped⟩
  · rw [same]
    exact ⟨unsubscribed, rfl⟩
  · have notFrame := isMove.not_frame silent
    have sessionSteps := Session.steps_of_step stepped
    exact ⟨unsubscribed.step isMove.deliversLive notFrame sessionSteps,
      sessionSteps.inbound notFrame⟩

theorem receive_of_step {frame : Option ClientFrame}
    (moved : node.step env (.frame conn frame) = some next) :
    next.sessions conn = (node.sessions conn).receive env frame := by
  cases steps_of_step moved with
  | onSession _ _ _ _ isLocal stepped =>
      cases isLocal
      cases Session.steps_of_step stepped
      exact setSession_sessions_self ..

/-- A frame of the client writes nothing. -/
theorem Resumed.frame (resumed : Resumed env conn stream since node)
    (within : cursor ≤ log.messages.length)
    (run : Reaches (Node.step env) (fun _ _ => True) (initial env log cursor)
      node)
    {frame : Option ClientFrame}
    (scripted :
      ((node.sessions conn).receive env frame).Scripted stream since)
    (moved : node.step env (.frame conn frame) = some next) :
    Resumed env conn stream since next := by
  have isReceive := receive_of_step moved
  refine resumed.step within run (isReceive ▸ scripted) rfl rfl rfl ?_ moved
  apply liveAfterConfirm_of_same moved
  rw [isReceive]
  rfl

/-- The hello sets the position from which the client resumes. -/
theorem Resumed.hello (resumed : Resumed env conn stream since node)
    (awaiting : Awaiting conn stream node)
    (within : cursor ≤ log.messages.length)
    (run : Reaches (Node.step env) (fun _ _ => True) (initial env log cursor)
      node)
    {hello : HelloCommand} {position : Nat}
    (isPosition : hello.lastSeq = some position)
    (moved : node.step env (.frame conn (some (.hello hello))) = some next) :
    Resumed env conn stream position next ∧ Awaiting conn stream next ∧
      (next.sessions conn).inbound.lastSeq = some position := by
  have isReceive := receive_of_step moved
  obtain ⟨unsubscribed, isLastSeq⟩ :=
    @Session.Unsubscribed.hello env _ _ awaiting.unsubscribed hello
  have awaitingNext : Awaiting conn stream next := by
    refine ⟨isReceive ▸ unsubscribed, ?_, ?_⟩ <;> rw [isReceive]
    · exact awaiting.noSeqs
    · exact awaiting.noConfirm
  refine ⟨?_, awaitingNext, ?_⟩
  · exact (resumed.frame within run (unsubscribed.scripted since)
      moved).rebase awaitingNext position
  · rw [isReceive, isLastSeq, isPosition]

end Runs

end TurbocableServer.Gateway.Node
