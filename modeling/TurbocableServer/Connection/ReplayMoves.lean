import TurbocableServer.Connection.Session

/-!
# The steps of a replay task

A replay task waits for a permit, calls `replay_since`, and enqueues an answer
to the client.  A step of the task waits for the permit, stays within the call,
returns from it with a result, or delivers the answer.
-/

namespace TurbocableServer.Connection

open Foundations Pubsub

/-- The task is in `replay_since`. -/
def ReplayPc.inReplay : ReplayPc → Bool
  | .checking => true
  | .opening => true
  | .streaming _ _ => true
  | _ => false

/-- The task has a permit and uses it. -/
def ReplayPc.holdsPermit : ReplayPc → Bool
  | .queued => false
  | .ended _ => false
  | _ => true

def ReplayPc.isQueued : ReplayPc → Bool
  | .queued => true
  | _ => false

def ReplayPc.isEnded : ReplayPc → Bool
  | .ended _ => true
  | _ => false

/-- The call of `replay_since` is over. -/
def ReplayPc.hasReturned : ReplayPc → Bool
  | .answering _ => true
  | .ended _ => true
  | _ => false

theorem ReplayPc.isEnded_of_inReplay {pc : ReplayPc}
    (inReplay : pc.inReplay = true) : pc.isEnded = false := by
  cases pc with
  | ended confirmed => cases inReplay
  | _ => rfl

/-- What `replay_since` returns with a step of its task, if it returns.
`alive` says whether the outbound task still receives. -/
def replayResult (env : Environment) (task : ReplayTask) (alive : Bool) :
    ReplayStimulus → Option (Except ReplayError ReplayDelivery)
  | .info (.error reason) => some (.error (.jetStream reason))
  | .info (.ok info) =>
      match checkWindow task.identifier task.lastSeq info with
      | .error refused => some (.error refused)
      | .ok () => none
  | .opened (.error reason) _ => some (.error (.jetStream reason))
  | .fetched event =>
      match task.pc with
      | .streaming _ cursor =>
          match replayTurn env.decodePayload task.identifier cursor event with
          | .again _ => none
          | .send _ _ => if alive then none else some (.ok ⟨cursor.count, true⟩)
          | .finish result => some result
      | _ => none
  | _ => none

/-- A step of a replay task, with what `replay_since` returns in it and where it
leads. -/
inductive ReplayMove (task : ReplayTask) :
    ReplayStimulus → Option (Except ReplayError ReplayDelivery) →
      ReplayPc → Prop
  | permit (granted : Bool) :
      task.pc = .queued →
      ReplayMove task (.permit granted) none
        (if granted then .checking else .ended false)
  | going (stimulus : ReplayStimulus) (pc : ReplayPc) :
      (∀ granted, stimulus ≠ .permit granted) →
      task.pc.inReplay = true → pc.inReplay = true →
      ReplayMove task stimulus none pc
  | returned (stimulus : ReplayStimulus)
      (result : Except ReplayError ReplayDelivery) :
      (∀ granted, stimulus ≠ .permit granted) →
      task.pc.inReplay = true →
      ReplayMove task stimulus (some result) (concludePc result)
  | answered (answer : ReplayAnswer) (confirmed : Bool) :
      task.pc = .answering answer →
      ReplayMove task .answer none (.ended confirmed)

/-- An awaited send is accepted as long as the receiver is there. -/
theorem receiverAlive_of_send {β : Type} {channel target : Channel β}
    {value : β} {accepted : Bool}
    (offered : channel.send value = some (target, accepted)) :
    channel.receiverAlive = accepted := by
  unfold Channel.send at offered
  split at offered
  · rename_i alive
    split at offered
    · rw [alive, ← (Prod.mk.inj (Option.some.inj offered)).2]
    · cases offered
  · rename_i gone
    rw [← (Prod.mk.inj (Option.some.inj offered)).2]
    simpa using gone

/-- Where a move leads when the receivers are there or gone. -/
def TaskMove.target (alive : Bool) : TaskMove → ReplayPc
  | .go pc => pc
  | .enqueue _ sent gone => if alive then sent else gone
  | .enqueueUrgent _ after => after

/-- The window check of `replay_since`. -/
private theorem replayMove_of_info {env : Environment} {task : ReplayTask}
    {answer : Except String StreamInfo} {move : TaskMove} (alive : Bool)
    (moved : taskMove env task (.info answer) = some move) :
    ReplayMove task (.info answer) (replayResult env task alive (.info answer))
      (move.target alive) := by
  simp only [taskMove] at moved
  split at moved
  · rename_i checking
    have inReplay : task.pc.inReplay = true := by
      rw [checking]
      rfl
    cases answer with
    | error reason =>
        obtain rfl := Option.some.inj moved
        exact .returned _ (.error (.jetStream reason)) (by simp) inReplay
    | ok info =>
        simp only at moved
        split at moved
        · rename_i refused isRefused
          obtain rfl := Option.some.inj moved
          have isResult :
              replayResult env task alive (.info (.ok info)) =
                some (.error refused) := by
            simp only [replayResult, isRefused]
          rw [isResult]
          exact .returned _ (.error refused) (by simp) inReplay
        · rename_i isOpen
          obtain rfl := Option.some.inj moved
          have isResult :
              replayResult env task alive (.info (.ok info)) = none := by
            simp only [replayResult, isOpen]
          rw [isResult]
          exact .going _ _ (by simp) inReplay rfl
  · cases moved

/-- A turn of the loop of `replay_since`. -/
private theorem replayMove_of_fetched {env : Environment} {task : ReplayTask}
    {event : FetchEvent} {move : TaskMove} (alive : Bool)
    (moved : taskMove env task (.fetched event) = some move) :
    ReplayMove task (.fetched event) (replayResult env task alive (.fetched event))
      (move.target alive) := by
  simp only [taskMove] at moved
  split at moved
  · rename_i stored cursor streaming
    have inReplay : task.pc.inReplay = true := by
      rw [streaming]
      rfl
    split at moved
    · rename_i next again
      obtain rfl := Option.some.inj moved
      have isResult :
          replayResult env task alive (.fetched event) = none := by
        simp only [replayResult, streaming, again]
      rw [isResult]
      exact .going _ _ (by simp) inReplay rfl
    · rename_i frame next sends
      obtain rfl := Option.some.inj moved
      have isResult :
          replayResult env task alive (.fetched event) =
            if alive then none else some (.ok ⟨cursor.count, true⟩) := by
        simp only [replayResult, streaming, sends]
      rw [isResult]
      cases alive with
      | true => exact .going _ _ (by simp) inReplay rfl
      | false =>
          exact .returned _ (.ok ⟨cursor.count, true⟩) (by simp) inReplay
    · rename_i result finishes
      obtain rfl := Option.some.inj moved
      have isResult :
          replayResult env task alive (.fetched event) = some result := by
        simp only [replayResult, streaming, finishes]
      rw [isResult]
      exact .returned _ result (by simp) inReplay
  · cases moved

theorem replayMove_of_taskMove {env : Environment} {task : ReplayTask}
    {stimulus : ReplayStimulus} {move : TaskMove} (alive : Bool)
    (moved : taskMove env task stimulus = some move) :
    ReplayMove task stimulus (replayResult env task alive stimulus)
      (move.target alive) := by
  cases stimulus with
  | permit granted =>
      simp only [taskMove] at moved
      split at moved
      · rename_i queued
        obtain rfl := Option.some.inj moved
        exact .permit granted queued
      · cases moved
  | info answer => exact replayMove_of_info alive moved
  | opened answer stored =>
      simp only [taskMove] at moved
      split at moved
      · rename_i opening
        have inReplay : task.pc.inReplay = true := by
          rw [opening]
          rfl
        cases answer with
        | error reason =>
            obtain rfl := Option.some.inj moved
            exact .returned _ (.error (.jetStream reason)) (by simp) inReplay
        | ok opened =>
            obtain rfl := Option.some.inj moved
            exact .going _ _ (by simp) inReplay rfl
      · cases moved
  | fetched event => exact replayMove_of_fetched alive moved
  | answer =>
      simp only [taskMove] at moved
      split at moved
      · rename_i answering
        obtain rfl := Option.some.inj moved
        cases alive with
        | true => exact .answered _ true answering
        | false => exact .answered _ false answering
      · rename_i reason answering
        obtain rfl := Option.some.inj moved
        exact .answered _ false answering
      · cases moved

/-- What a step of a replay task is for its session. -/
theorem Session.replayMove_of_step {env : Environment}
    {session next : Session} {index : Nat} {stimulus : ReplayStimulus}
    (moved : session.step env (.replay index stimulus) = some next) :
    ∃ task pc, session.tasks[index]? = some task ∧
      next.tasks = session.tasks.set index { task with pc := pc } ∧
      ReplayMove task stimulus
        (replayResult env task session.out.replay.receiverAlive stimulus)
        pc := by
  simp only [step, stepTask] at moved
  split at moved
  · cases moved
  · rename_i task present
    have isMove :=
      fun move => @replayMove_of_taskMove env task stimulus move
        session.out.replay.receiverAlive
    split at moved
    · cases moved
    · rename_i pc goes
      obtain rfl := Option.some.inj moved
      exact ⟨task, pc, present, rfl, isMove _ goes⟩
    · rename_i frame sent gone enqueues
      obtain ⟨⟨replay, accepted⟩, offered, rfl⟩ :=
        Option.map_eq_some_iff.mp moved
      have target := isMove _ enqueues
      rw [TaskMove.target, receiverAlive_of_send offered] at target
      rw [receiverAlive_of_send offered]
      exact ⟨task, _, present, rfl, target⟩
    · rename_i frame after enqueues
      obtain ⟨⟨urgent, accepted⟩, offered, rfl⟩ :=
        Option.map_eq_some_iff.mp moved
      exact ⟨task, after, present, rfl, isMove _ enqueues⟩

/-! ## Full queues -/

/-- The queue is full and has a receiver, so that an awaited send waits. -/
def Blocks {β : Type} (queue : Channel β) : Prop :=
  queue.receiverAlive = true ∧ queue.hasRoom = false

theorem send_of_blocks {β : Type} {queue : Channel β}
    (blocks : Blocks queue) (value : β) : queue.send value = none := by
  rw [Channel.send, blocks.1, blocks.2]
  rfl

/-- Only the outbound task makes room in the replay queue. -/
theorem Session.Steps.replay_blocks {env : Environment}
    {session next : Session} {action : SessionAction}
    (steps : Session.Steps env session action next)
    (notOutbound : ∀ ok shutdown, action ≠ .outbound ok shutdown)
    (blocks : Blocks session.out.replay) : Blocks next.out.replay := by
  have released :
      ∀ pc (out : Outbound), Blocks out.replay →
        Blocks (releaseTask pc out).replay := by
    intro pc out full
    cases pc <;> exact full
  cases steps with
  | outbound ok shutdown out stepped => exact absurd rfl (notOutbound _ _)
  | taskGo index stimulus task pc present moves => exact released pc _ blocks
  | taskEnqueue index stimulus task frame sent gone replay accepted present
      moves offered =>
      rw [send_of_blocks blocks] at offered
      cases offered
  | taskUrgent index stimulus task frame after urgent accepted present moves
      offered =>
      exact released after _ blocks
  | _ => exact blocks

/-- A task waits until there is room for its confirmation. -/
theorem Session.not_steps_of_blocks {env : Environment}
    {session next : Session} {index : Nat} {stimulus : ReplayStimulus}
    {task : ReplayTask} (present : session.tasks[index]? = some task)
    (answering : task.pc = .answering .confirm)
    (blocks : Blocks session.out.replay) :
    ¬ Session.Steps env session (.replay index stimulus) next := by
  intro steps
  cases steps with
  | taskGo _ _ found pc isFound moves =>
      obtain rfl := Option.some.inj (isFound.symm.trans present)
      cases moves <;> simp_all
  | taskEnqueue _ _ found frame sent gone replay accepted isFound moves
      offered =>
      rw [send_of_blocks blocks] at offered
      cases offered
  | taskUrgent _ _ found frame after urgent accepted isFound moves offered =>
      obtain rfl := Option.some.inj (isFound.symm.trans present)
      cases moves with
      | disconnected reason other =>
          rw [answering] at other
          cases other

end TurbocableServer.Connection
