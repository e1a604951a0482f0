import TurbocableServer.Gateway.NodeRuns

/-!
# The fan-out loop on the log

The fan-out loop goes through the log message by message, as long as its durable
consumer hands out every message once.  What it has handed to the registry is
then a part of what it has passed, in the same order, and all of it when nothing
is dropped or passed over.
-/

namespace TurbocableServer.Gateway.Node

open Foundations Protocol Pubsub Connection

variable {env : Environment} {node next : Node} {action : NodeAction}

/-- What a step means for the log and the place of the fan-out loop in it. -/
inductive LogMove (node : Node) (action : NodeAction) (next : Node) : Prop
  | same :
      next.log = node.log → next.cursor = node.cursor →
      next.fanned = node.fanned → next.current = node.current →
      LogMove node action next
  | published (subject : String) (payload : ByteArray) :
      next.log = node.log.publish subject payload →
      next.cursor = node.cursor → next.fanned = node.fanned →
      next.current = node.current →
      LogMove node action next
  | sought (position : Nat) :
      action = .seek position → position ≤ node.log.messages.length →
      next.log = node.log → next.cursor = position →
      next.fanned = node.fanned →
      LogMove node action next
  | skipped (message : StoredMessage) :
      action = .fanNext false → node.sys.fan = .idle → next.sys = node.sys →
      node.log.messages[node.cursor]? = some message →
      next.log = node.log → next.cursor = node.cursor + 1 →
      next.fanned = node.fanned →
      LogMove node action next
  | taken (message : StoredMessage) :
      node.log.messages[node.cursor]? = some message →
      next.log = node.log → next.cursor = node.cursor + 1 →
      next.fanned = node.fanned ++ [message] →
      next.current = some message →
      LogMove node action next

theorem Steps.logMove (steps : Steps env node action next) :
    LogMove node action next := by
  cases steps with
  | publish subject payload => exact .published subject payload rfl rfl rfl rfl
  | published conn identifier data rest session todo ready stepped =>
      exact .published _ _ rfl rfl rfl rfl
  | seek position idle within => exact .sought position rfl within rfl rfl rfl
  | fanSkip message idle present =>
      exact .skipped message rfl idle rfl present rfl rfl rfl
  | fanNext message sys idle present accessed =>
      exact .taken message present rfl rfl rfl rfl
  | _ => exact .same rfl rfl rfl rfl

theorem LogMove.log_cases (move : LogMove node action next) :
    next.log = node.log ∨
      ∃ subject payload, next.log = node.log.publish subject payload := by
  cases move with
  | published subject payload isPublish _ _ _ =>
      exact Or.inr ⟨subject, payload, isPublish⟩
  | same sameLog _ _ _ | sought _ _ _ sameLog _ _
  | skipped _ _ _ _ _ sameLog _ _ | taken _ _ sameLog _ _ _ =>
      exact Or.inl sameLog

/-- A step leaves the stream alone, stores a message, or drops the oldest. -/
theorem Steps.stream_cases (steps : Steps env node action next) :
    next.log = node.log ∧ next.expired = node.expired ∨
      (∃ subject payload,
        next.log = node.log.publish subject payload ∧
          next.expired = node.expired) ∨
      node.expired < node.log.messages.length ∧ next.log = node.log ∧
        next.expired = node.expired + 1 := by
  cases steps with
  | publish subject payload =>
      exact Or.inr (Or.inl ⟨subject, payload, rfl, rfl⟩)
  | published conn identifier data rest session todo ready stepped =>
      exact Or.inr (Or.inl ⟨_, _, rfl, rfl⟩)
  | expire present => exact Or.inr (Or.inr ⟨present, rfl, rfl⟩)
  | _ => exact Or.inl ⟨rfl, rfl⟩

/-- The log only grows. -/
theorem LogMove.log_grows (move : LogMove node action next) :
    node.log.messages <+: next.log.messages := by
  rcases move.log_cases with same | ⟨subject, payload, isPublish⟩
  · rw [same]
  · obtain ⟨added, extended, -⟩ := node.log.publish_messages subject payload
    rw [isPublish, extended]
    exact List.prefix_append _ _

theorem take_succ_eq {messages : List StoredMessage} {count : Nat}
    {message : StoredMessage} (present : messages[count]? = some message) :
    messages.take (count + 1) = messages.take count ++ [message] := by
  rw [List.take_add_one, present, Option.toList_some]

/-- A longer log has more to take. -/
theorem take_sublist_of_grown {messages longer : List StoredMessage}
    (grown : messages <+: longer) (count : Nat) :
    (messages.take count).Sublist (longer.take count) := by
  obtain ⟨added, rfl⟩ := grown
  rw [List.take_append]
  exact List.sublist_append_left _ _

/-- The messages that have left the stream. -/
def gone (node : Node) : List StoredMessage :=
  node.log.messages.take node.expired

theorem mem_gone_step {message : StoredMessage} (member : message ∈ node.gone)
    (steps : Steps env node action next) : message ∈ next.gone := by
  have more : node.expired ≤ next.expired := by
    rcases steps.stream_cases with ⟨-, same⟩ | ⟨_, _, -, same⟩ | ⟨-, -, isNext⟩
    · exact same.ge
    · exact same.ge
    · exact isNext ▸ Nat.le_succ _
  have inLonger :=
    (take_sublist_of_grown steps.logMove.log_grows node.expired).subset member
  exact (List.take_prefix_take_left more).subset inLonger

theorem mem_gone_or_stock {message : StoredMessage}
    (member : message ∈ node.log.messages) :
    message ∈ node.gone ∨ message ∈ node.stock.messages := by
  rw [← List.take_append_drop node.expired node.log.messages] at member
  exact List.mem_append.mp member

/-- The durable consumer hands out no message that it has handed out or passed
over before. -/
def HandsOutOnce (node : Node) : NodeAction → Prop
  | .seek position => node.cursor ≤ position
  | _ => True

instance (node : Node) :
    ∀ action, Decidable (HandsOutOnce node action)
  | .seek position => inferInstanceAs (Decidable (node.cursor ≤ position))
  | .publish _ _ | .accept _ _ | .advance _ | .frame _ _ | .ping _ _
  | .hangup _ | .effect _ _ | .outbound _ _ | .replay _ _ _ | .expire
  | .fanNext _ | .fanDeliver | .fanRelease | .fanEvict | .shutdown =>
      inferInstanceAs (Decidable True)

/-- What was fanned out is a part of what the loop has passed. -/
theorem LogMove.fanned_sublist (move : LogMove node action next)
    (once : HandsOutOnce node action)
    (sublist :
      node.fanned.Sublist (node.log.messages.take node.cursor)) :
    next.fanned.Sublist (next.log.messages.take next.cursor) := by
  cases move with
  | same sameLog sameCursor sameFanned _ =>
      rw [sameLog, sameCursor, sameFanned]
      exact sublist
  | published subject payload isPublish sameCursor sameFanned _ =>
      obtain ⟨added, extended, -⟩ :=
        node.log.publish_messages subject payload
      rw [isPublish, sameCursor, sameFanned, extended]
      exact sublist.trans
        (take_sublist_of_grown (List.prefix_append _ _) _)
  | sought position isSeek _ sameLog isCursor sameFanned =>
      rw [isSeek] at once
      rw [sameLog, isCursor, sameFanned]
      exact sublist.trans (List.take_prefix_take_left once).sublist
  | skipped message _ _ _ present sameLog moved sameFanned =>
      rw [sameLog, moved, sameFanned, take_succ_eq present]
      exact sublist.trans (List.sublist_append_left _ _)
  | taken message present sameLog moved extended _ =>
      rw [sameLog, moved, extended, take_succ_eq present]
      exact sublist.append (List.Sublist.refl [message])

/-- The loop is within the log, and busy with the message it has taken last. -/
structure OnLog (node : Node) : Prop where
  within : node.cursor ≤ node.log.messages.length
  scanned :
    ∀ stream todo evicted, node.sys.fan = .scanning stream todo evicted →
      0 < node.cursor ∧
        ∃ message, node.current = some message ∧
          node.log.messages[node.cursor - 1]? = some message

theorem onLog_initial {log : MessageLog} {cursor : Nat}
    (within : cursor ≤ log.messages.length) :
    (initial env log cursor).OnLog where
  within := within
  scanned := by
    intro stream todo evicted scanning
    cases scanning

private theorem within_step (onLog : node.OnLog)
    (move : LogMove node action next) :
    next.cursor ≤ next.log.messages.length := by
  have room :
      ∀ {message : StoredMessage},
        node.log.messages[node.cursor]? = some message →
          node.cursor + 1 ≤ node.log.messages.length := by
    intro message present
    exact (List.getElem?_eq_some_iff.mp present).1
  cases move with
  | same sameLog sameCursor _ _ =>
      rw [sameLog, sameCursor]
      exact onLog.within
  | published subject payload isPublish sameCursor _ _ =>
      obtain ⟨added, extended, -⟩ :=
        node.log.publish_messages subject payload
      rw [isPublish, sameCursor, extended, List.length_append]
      exact Nat.le_trans onLog.within (Nat.le_add_right _ _)
  | sought position _ inLog sameLog isCursor _ =>
      rw [sameLog, isCursor]
      exact inLog
  | skipped message _ _ _ present sameLog moved _
  | taken message present sameLog moved _ _ =>
      rw [sameLog, moved]
      exact room present

theorem OnLog.step (onLog : node.OnLog)
    (steps : Steps env node action next) : next.OnLog where
  within := within_step onLog steps.logMove
  scanned := by
    intro stream todo evicted scanning
    rcases steps.scanning scanning with
      ⟨before, refused, was, sameCurrent, sameCursor⟩ |
        ⟨message, isCurrent, -, present, moved, sameLog, -⟩
    · obtain ⟨positive, message, isCurrent, present⟩ :=
        onLog.scanned stream before refused was
      obtain ⟨added, grown⟩ := steps.logMove.log_grows
      rw [sameCurrent, sameCursor, ← grown]
      refine ⟨positive, message, isCurrent, ?_⟩
      rw [List.getElem?_append_left
        (List.getElem?_eq_some_iff.mp present).1]
      exact present
    · rw [moved, sameLog]
      exact ⟨Nat.succ_pos _, message, isCurrent, present⟩

/-- The durable consumer goes back in the log, or passes over messages. -/
def seeks : NodeAction → Bool
  | .seek _ => true
  | _ => false

/-- Since `begun`, every message the loop has passed went to the registry. -/
def PassedAll (begun node : Node) : Prop :=
  ∃ messages,
    node.fanned = begun.fanned ++ messages ∧
      node.log.messages.take node.cursor =
        begun.log.messages.take begun.cursor ++ messages

theorem PassedAll.step {begun : Node} (passed : PassedAll begun node)
    (onLog : node.OnLog) (move : LogMove node action next)
    (noSeek : seeks action = false)
    (noLimit : action ≠ .fanNext false) : PassedAll begun next := by
  obtain ⟨messages, isFanned, isPassed⟩ := passed
  cases move with
  | same sameLog sameCursor sameFanned _ =>
      refine ⟨messages, sameFanned.trans isFanned, ?_⟩
      rw [sameLog, sameCursor, isPassed]
  | published subject payload isPublish sameCursor sameFanned _ =>
      obtain ⟨added, extended, -⟩ :=
        node.log.publish_messages subject payload
      refine ⟨messages, sameFanned.trans isFanned, ?_⟩
      rw [isPublish, sameCursor, extended,
        List.take_append_of_le_length onLog.within, isPassed]
  | sought position isSeek _ _ _ _ =>
      rw [isSeek] at noSeek
      cases noSeek
  | skipped message dropped _ _ _ _ _ _ => exact absurd dropped noLimit
  | taken message present sameLog moved extended _ =>
      refine ⟨messages ++ [message], ?_, ?_⟩
      · rw [extended, isFanned, List.append_assoc]
      · rw [sameLog, moved, take_succ_eq present, isPassed, List.append_assoc]

/-- During a scan, the message last handed to the registry is the one the loop
is busy with. -/
def BusyWithLast (node : Node) : Prop :=
  ∀ stream todo evicted, node.sys.fan = .scanning stream todo evicted →
    node.fanned.getLast? = node.current

theorem BusyWithLast.step (busy : node.BusyWithLast)
    (steps : Steps env node action next) : next.BusyWithLast := by
  intro stream todo evicted scanning
  rcases steps.scanning scanning with
    ⟨before, refused, was, sameCurrent, sameCursor⟩ |
      ⟨message, isCurrent, -, -, -, -, extended⟩
  · have sameFanned : next.fanned = node.fanned := by
      cases steps.logMove with
      | same _ _ isSame _ | published _ _ _ _ isSame _
      | sought _ _ _ _ _ isSame | skipped _ _ _ _ _ _ _ isSame => exact isSame
      | taken _ _ _ moved _ _ => omega
    rw [sameFanned, sameCurrent]
    exact busy stream before refused was
  · rw [extended, isCurrent, List.getLast?_concat]

/-- Only stored messages are fanned out. -/
theorem LogMove.fanned_subset (move : LogMove node action next)
    (stored : ∀ message, message ∈ node.fanned → message ∈ node.log.messages) :
    ∀ message, message ∈ next.fanned → message ∈ next.log.messages := by
  intro message member
  apply move.log_grows.subset
  cases move with
  | taken taken present _ _ extended _ =>
      rw [extended] at member
      rcases List.mem_append.mp member with before | isLast
      · exact stored message before
      · rw [List.mem_singleton.mp isLast]
        exact List.mem_of_getElem? present
  | same _ _ isSame _ | published _ _ _ _ isSame _ | sought _ _ _ _ _ isSame
  | skipped _ _ _ _ _ _ _ isSame => exact stored message (isSame ▸ member)

section Runs

variable {allowed : Node → NodeAction → Prop} {log : MessageLog} {cursor : Nat}

theorem busyWithLast_of_reaches
    (run : Reaches (step env) allowed (initial env log cursor) node) :
    node.BusyWithLast := by
  induction run with
  | refl =>
      intro stream todo evicted scanning
      cases scanning
  | tail before last ih =>
      obtain ⟨label, -, moved⟩ := last
      exact ih.step (steps_of_step moved)

theorem fanned_subset_log
    (run : Reaches (step env) allowed (initial env log cursor) node) :
    ∀ message, message ∈ node.fanned → message ∈ node.log.messages := by
  induction run with
  | refl =>
      intro message member
      cases member
  | tail before last ih =>
      obtain ⟨label, -, moved⟩ := last
      exact (steps_of_step moved).logMove.fanned_subset ih

theorem onLog_of_reaches (within : cursor ≤ log.messages.length)
    (run : Reaches (step env) allowed (initial env log cursor) node) :
    node.OnLog := by
  induction run with
  | refl =>
      exact onLog_initial within
  | tail before last ih =>
      obtain ⟨label, -, moved⟩ := last
      exact ih.step (steps_of_step moved)

end Runs

end TurbocableServer.Gateway.Node
