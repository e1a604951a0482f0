import TurbocableServer.Gateway.Backpressure

/-!
# At most one frame for each message

Whatever a client does, the live frames of a stream that are enqueued to its
connection from some moment on come from the message being fanned out at that
moment and from the messages fanned out later, in their order and at most one
for each.
-/

namespace TurbocableServer.Gateway.Node

open Foundations Protocol Pubsub Connection

variable {env : Environment} {node next begun : Node} {action : NodeAction}
variable {conn : ConnId} {stream : String}
variable {owed frames : List ServerMessage} {messages : List StoredMessage}

/-- The frame of the scan under way. -/
def scannedFrame (env : Environment) (node : Node) : List ServerMessage :=
  match node.sys.fan, node.current with
  | .scanning _ _ _, some message => [liveFrame env.decodePayload message]
  | _, _ => []

/-- `frames` is part of what the fan-out of `messages` offers the connection,
after `owed`.  A scan that has yet to come to the connection is not among
them. -/
structure Offered (env : Environment) (conn : ConnId) (stream : String)
    (owed : List ServerMessage) (node : Node) (frames : List ServerMessage)
    (messages : List StoredMessage) : Prop where
  served :
    (liveOf stream frames).Sublist (owed ++ feedOf env stream messages)
  awaited :
    node.sys.Awaits conn stream →
      ∃ message, node.current = some message ∧
        (liveOf stream frames ++ [liveFrame env.decodePayload message]).Sublist
          (owed ++ feedOf env stream messages)

private theorem Offered.delivered
    (offered : Offered env conn stream owed node frames messages)
    (traced : node.Traced env) (nodup : node.sys.ScanNodup)
    {scanned : String} {todo evicted : List ConnId} {message : StoredMessage}
    (scanning : node.sys.fan = .scanning scanned (conn :: todo) evicted)
    (current : node.current = some message)
    (isNext : next.sys =
      { node.sys with fan := .scanning scanned todo evicted }) :
    Offered env conn stream owed next
      (frames ++ [liveFrame env.decodePayload message]) messages := by
  have notInTodo : conn ∉ todo :=
    (List.nodup_cons.mp (nodup scanned _ evicted scanning)).1
  have notAwaited : ¬ next.sys.Awaits conn stream :=
    not_awaits_of_scanning (by rw [isNext]) (fun _ => notInTodo)
  refine ⟨?_, fun awaits => absurd awaits notAwaited⟩
  obtain ⟨busyWith, isCurrent, isStream⟩ :=
    traced.scanned scanned _ evicted scanning
  obtain rfl : message = busyWith :=
    Option.some.inj (current.symm.trans isCurrent)
  rw [liveOf_append, liveOf_liveFrame]
  by_cases ofStream : scanned = stream
  · obtain ⟨same, isSame, isOffer⟩ :=
      offered.awaited
        ⟨_, evicted, ofStream ▸ scanning, List.mem_cons_self ..⟩
    obtain rfl : message = same :=
      Option.some.inj (current.symm.trans isSame)
    rw [feedOf_of_stream (isStream.trans ofStream)]
    exact isOffer
  · rw [feedOf_of_other (isStream ▸ ofStream), List.append_nil]
    exact offered.served

private theorem Offered.taken
    (offered : Offered env conn stream owed node frames messages)
    {message : StoredMessage} (idle : node.sys.fan = .idle)
    (accessed : node.sys.step (.fanout message.stream) = some next.sys)
    (isCurrent : next.current = some message) :
    Offered env conn stream owed next frames (messages ++ [message]) := by
  refine ⟨?_, ?_⟩
  · rw [feedOf_append, ← List.append_assoc]
    exact offered.served.trans (List.sublist_append_left _ _)
  · intro awaits
    rcases RegSystem.Awaits.of_step (RegSystem.steps_of_step accessed)
        awaits with ⟨todo, evicted, scanning, -⟩ | ⟨isFanout, -⟩
    · rw [idle] at scanning
      cases scanning
    · refine ⟨message, isCurrent, ?_⟩
      rw [feedOf_append, feedOf_of_stream (RegAction.fanout.inj isFanout),
        ← List.append_assoc]
      exact offered.served.append (List.Sublist.refl _)

/-- A step that adds nothing for the connection. -/
private theorem Offered.unserved
    (offered : Offered env conn stream owed node frames messages)
    (stillAwaits :
      next.sys.Awaits conn stream →
        node.sys.Awaits conn stream ∧ next.current = node.current) :
    Offered env conn stream owed next frames messages := by
  refine ⟨offered.served, ?_⟩
  intro awaits
  obtain ⟨before, sameCurrent⟩ := stillAwaits awaits
  rw [sameCurrent]
  exact offered.awaited before

theorem Offered.step
    (offered : Offered env conn stream owed node frames messages)
    (traced : node.Traced env) (nodup : node.sys.ScanNodup)
    (moved : node.step env action = some next) :
    ∃ frames' messages',
      next.liveSent conn = node.liveSent conn ++ frames' ∧
        next.fanned = node.fanned ++ messages' ∧
        Offered env conn stream owed next (frames ++ frames')
          (messages ++ messages') := by
  have steps := steps_of_step moved
  cases traced.serves steps conn with
  | delivered scanned todo evicted message scanning current present isNext
      sameFanned extended =>
      refine ⟨_, [], extended, by rw [sameFanned, List.append_nil], ?_⟩
      rw [List.append_nil]
      exact offered.delivered traced nodup scanning current isNext
  | passed scanned todo evicted isDeliver scanning refusal sameFanned same =>
      refine ⟨[], [], by rw [same, List.append_nil],
        by rw [sameFanned, List.append_nil], ?_⟩
      rw [List.append_nil, List.append_nil]
      apply offered.unserved
      rintro ⟨waiting, refused, isScan, -⟩
      rcases steps.scanning isScan with
        ⟨before, given, was, sameCurrent, -⟩ | ⟨taken, -, -, -, -, -, extended⟩
      · rw [scanning] at was
        cases was
        exact ⟨⟨_, evicted, scanning, List.mem_cons_self ..⟩, sameCurrent⟩
      · rw [sameFanned] at extended
        exact absurd extended (by simp)
  | taken message idle accessed extended isCurrent same =>
      refine ⟨[], [message], by rw [same, List.append_nil], extended, ?_⟩
      rw [List.append_nil]
      exact offered.taken idle accessed isCurrent
  | quiet added sameAwaits sameFanned sameCurrent extended noMessages =>
      refine ⟨added, [], extended, by rw [sameFanned, List.append_nil], ?_⟩
      rw [List.append_nil]
      have same : liveOf stream (frames ++ added) = liveOf stream frames := by
        rw [liveOf_append, liveOf_eq_nil noMessages, List.append_nil]
      have unserved :=
        offered.unserved
          (fun awaits => ⟨(sameAwaits stream).mp awaits, sameCurrent⟩)
      exact ⟨by rw [same]; exact unserved.served,
        by rw [same]; exact unserved.awaited⟩

theorem offered_begun (traced : begun.Traced env) (conn : ConnId)
    (stream : String) :
    Offered env conn stream (scannedFrame env begun) begun [] [] := by
  refine ⟨List.nil_sublist _, ?_⟩
  rintro ⟨todo, evicted, scanning, -⟩
  obtain ⟨message, current, -⟩ := traced.scanned _ _ _ scanning
  refine ⟨message, current, ?_⟩
  rw [scannedFrame, scanning, current]
  exact List.sublist_append_left _ _

/-- The live frames of a stream that a connection gets after some moment, each
for a message of its own. -/
theorem live_sublist_of_reaches {log : MessageLog} {cursor : Nat}
    {allowed : Node → NodeAction → Prop}
    (before : Reaches (step env) (fun _ _ => True) (initial env log cursor)
      begun)
    (run : Reaches (step env) allowed begun node) (conn : ConnId)
    (stream : String) :
    ∃ frames messages,
      node.liveSent conn = begun.liveSent conn ++ frames ∧
        node.fanned = begun.fanned ++ messages ∧
        (liveOf stream frames).Sublist
          (scannedFrame env begun ++ feedOf env stream messages) := by
  have offered :
      ∃ frames messages,
        node.liveSent conn = begun.liveSent conn ++ frames ∧
          node.fanned = begun.fanned ++ messages ∧
          Offered env conn stream (scannedFrame env begun) node frames
            messages := by
    induction run with
    | refl =>
        exact ⟨[], [], by simp, by simp,
          offered_begun (traced_of_reaches before) conn stream⟩
    | tail earlier last ih =>
        obtain ⟨label, -, moved⟩ := last
        obtain ⟨frames, messages, isSent, isFanned, offered⟩ := ih
        have reached := before.extend earlier
        obtain ⟨frames', messages', isSent', isFanned', offered'⟩ :=
          offered.step (traced_of_reaches reached)
            (scanNodup_of_reaches reached) moved
        refine ⟨frames ++ frames', messages ++ messages', ?_, ?_, offered'⟩
        · rw [isSent', isSent, List.append_assoc]
        · rw [isFanned', isFanned, List.append_assoc]
  obtain ⟨frames, messages, isSent, isFanned, offered⟩ := offered
  exact ⟨frames, messages, isSent, isFanned, offered.served⟩

/-! ## The order of the log -/

theorem feedOf_sublist {messages more : List StoredMessage}
    (sublist : messages.Sublist more) :
    (feedOf env stream messages).Sublist (feedOf env stream more) :=
  (sublist.filter _).map _

/-- The frames of a log are distinct. -/
theorem nodup_feedOf (env : Environment) (stream : String)
    (log : MessageLog) : (feedOf env stream log.messages).Nodup := by
  rw [feedOf, List.Nodup, List.pairwise_map]
  refine (log.increasing.filter _).imp ?_
  intro earlier later older same
  simp only [liveFrame, ServerMessage.message.injEq, Option.some.injEq,
    true_and] at same
  omega

section

variable {log : MessageLog} {cursor : Nat}

theorem fanned_sublist_log
    (run : Reaches (step env) HandsOutOnce (initial env log cursor) node) :
    node.fanned.Sublist node.log.messages := by
  have kept :
      ∀ source label target, HandsOutOnce source label →
        step env source label = some target →
          source.fanned.Sublist (source.log.messages.take source.cursor) →
            target.fanned.Sublist (target.log.messages.take target.cursor) :=
    fun _ _ _ once moved sublist =>
      (steps_of_step moved).logMove.fanned_sublist once sublist
  exact (run.invariant kept (List.nil_sublist _)).trans (List.take_sublist _ _)

/-- The live frames of a stream on a socket are frames of what was fanned out,
in this order. -/
theorem written_sublist_fanned {allowed : Node → NodeAction → Prop}
    (run : Reaches (step env) allowed (initial env log cursor) node)
    (conn : ConnId) (stream : String) :
    (writtenOf (isLiveOf stream) (node.sessions conn).out.socket).Sublist
      (feedOf env stream node.fanned) := by
  obtain ⟨frames, messages, isSent, isFanned, sublist⟩ :=
    live_sublist_of_reaches (Reaches.refl (initial env log cursor)) run conn
      stream
  have sent : node.liveSent conn = frames := isSent
  have fanned : node.fanned = messages := isFanned
  rw [← sent, ← fanned] at sublist
  exact (written_prefix_liveSent run conn stream).sublist.trans sublist

/-- As long as nothing is handed out again, they are frames of the log, in its
order and without repetition. -/
theorem written_sublist_log
    (run : Reaches (step env) HandsOutOnce (initial env log cursor) node)
    (conn : ConnId) (stream : String) :
    (writtenOf (isLiveOf stream) (node.sessions conn).out.socket).Sublist
      (feedOf env stream node.log.messages) :=
  (written_sublist_fanned run conn stream).trans
    (feedOf_sublist (fanned_sublist_log run))

end

end TurbocableServer.Gateway.Node
