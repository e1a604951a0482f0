import TurbocableServer.Connection.SessionQueues

/-!
# The script of a resuming client

A client that resumes a stream sends one hello with its position and then one
Subscribe.  Such a session starts replays from that position only, and starts
them after its call of the registry.
-/

namespace TurbocableServer.Connection.Session

open Foundations Protocol Pubsub

variable {env : Environment} {session next : Session}
variable {action : SessionAction} {since : Nat} {stream : String}

/-- A session whose client has not subscribed to anything yet. -/
structure Unsubscribed (stream : String) (session : Session) : Prop where
  tasks : session.tasks = []
  todo : ∀ effect, effect ∈ session.todo → IsRoutine effect
  unfed : session.out.replay.sent = []
  unconfirmed : .confirmSubscription stream ∉ session.out.live.sent

theorem unsubscribed_unborn (env : Environment) (stream : String) :
    (unborn env).Unsubscribed stream where
  tasks := rfl
  todo := by simp [unborn]
  unfed := rfl
  unconfirmed := by
    simp [unborn, freshOutbound, Channel.new, Channel.sent]

/-- The confirmation gets into the live queue only as an answer of the
connection task. -/
private theorem unconfirmed_step
    (unconfirmed : .confirmSubscription stream ∉ session.out.live.sent)
    (unanswered :
      .sendLive (.confirmSubscription stream) ∉ session.todo)
    (delivers : DeliversLive env action)
    (steps : Steps env session action next) :
    .confirmSubscription stream ∉ next.out.live.sent := by
  intro member
  rcases steps.mem_live_sent member with
    before | delivered | planned | ⟨timestamp, isPing⟩
  · exact unconfirmed before
  · obtain ⟨message, isLive⟩ := delivers _ delivered
    cases isLive
  · exact unanswered planned
  · cases isPing

theorem Unsubscribed.step (unsubscribed : session.Unsubscribed stream)
    (delivers : DeliversLive env action)
    (noFrame : ∀ frame, action ≠ .frame frame)
    (steps : Steps env session action next) : next.Unsubscribed stream where
  tasks := by
    rcases steps.tasks_cases with
      same | ⟨index, _, _, _, _, -, present, -, -, -⟩ |
        ⟨identifier, position, rest, -, todo, -⟩
    · exact same.trans unsubscribed.tasks
    · rw [unsubscribed.tasks] at present
      cases present
    · exact absurd
        (unsubscribed.todo (.spawnReplay identifier position) (by simp [todo]))
        (by simp [IsRoutine])
  todo := by
    intro effect member
    rcases steps.mem_todo member with before | ⟨frame, isFrame, -⟩ | routine
    · exact unsubscribed.todo effect before
    · exact absurd isFrame (noFrame frame)
    · exact routine
  unfed := by
    rcases steps.replay_sent with
      same | ⟨index, _, _, _, _, _, -, present, -, -, -⟩
    · exact same.trans unsubscribed.unfed
    · rw [unsubscribed.tasks] at present
      cases present
  unconfirmed := by
    refine unconfirmed_step unsubscribed.unconfirmed ?_ delivers steps
    intro answered
    have routine := unsubscribed.todo _ answered
    cases routine

/-- Only a frame changes what the connection task knows of its client. -/
theorem Steps.inbound (steps : Steps env session action next)
    (noFrame : ∀ frame, action ≠ .frame frame) :
    next.inbound = session.inbound := by
  cases steps with
  | frame frame idle => exact absurd rfl (noFrame frame)
  | _ => rfl

/-- No frame is handled before the connection is accepted. -/
theorem Steps.not_frame (steps : Steps env session action next)
    (unborn : session.phase = .unborn) (frame : Option ClientFrame) :
    action ≠ .frame frame := by
  rintro rfl
  cases steps with
  | frame _ idle => cases idle.1.symm.trans unborn

/-- A hello only sets the position. -/
theorem Unsubscribed.hello (unsubscribed : session.Unsubscribed stream)
    (hello : HelloCommand) :
    (session.receive env (some (.hello hello))).Unsubscribed stream ∧
      (session.receive env (some (.hello hello))).inbound.lastSeq =
        hello.lastSeq :=
  ⟨⟨unsubscribed.tasks, by simp [receive, handleClientFrame],
    unsubscribed.unfed, unsubscribed.unconfirmed⟩, rfl⟩

/-- What the connection task may still do when the client has subscribed to
`stream` after `since`. -/
def Resumes (stream : String) (since : Nat) : Effect → Prop
  | .spawnReplay _ lastSeq => lastSeq = since
  | .registryUnsubscribe _ => False
  | .sendLive frame => frame ≠ .confirmSubscription stream
  | _ => True

theorem resumes_of_isRoutine {effect : Effect} (routine : IsRoutine effect) :
    Resumes stream since effect := by
  cases effect with
  | sendLive frame =>
      obtain rfl : frame = .welcome := routine
      simp [Resumes]
  | spawnReplay identifier lastSeq => cases routine
  | registryUnsubscribe wanted => cases routine
  | _ => trivial

/-- A session whose client has subscribed to `stream` after `since` and does
nothing more. -/
structure Scripted (stream : String) (since : Nat) (session : Session) :
    Prop where
  tasks : ∀ task, task ∈ session.tasks → task.lastSeq = since
  todo : ∀ effect, effect ∈ session.todo → Resumes stream since effect
  first :
    ∀ wanted, .registrySubscribe wanted ∈ session.todo →
      session.tasks = [] ∧
        ∃ rest, session.todo = .registrySubscribe wanted :: rest ∧
          ∀ other, .registrySubscribe other ∉ rest
  unfed : session.tasks = [] → session.out.replay.sent = []
  unconfirmed : .confirmSubscription stream ∉ session.out.live.sent

theorem Unsubscribed.scripted (unsubscribed : session.Unsubscribed stream)
    (since : Nat) : session.Scripted stream since where
  tasks := by
    intro task member
    rw [unsubscribed.tasks] at member
    cases member
  todo := fun effect member =>
    resumes_of_isRoutine (unsubscribed.todo effect member)
  first := by
    intro wanted member
    cases unsubscribed.todo _ member
  unfed := fun _ => unsubscribed.unfed
  unconfirmed := unsubscribed.unconfirmed

private theorem scripted_of_todo (unsubscribed : session.Unsubscribed stream)
    (sameTasks : next.tasks = session.tasks)
    (sameOut : next.out = session.out)
    (resumes : ∀ effect, effect ∈ next.todo → Resumes stream since effect)
    (first :
      ∀ wanted, .registrySubscribe wanted ∈ next.todo →
        ∃ rest, next.todo = .registrySubscribe wanted :: rest ∧
          ∀ other, .registrySubscribe other ∉ rest) :
    next.Scripted stream since where
  tasks := by
    intro task member
    rw [sameTasks, unsubscribed.tasks] at member
    cases member
  todo := resumes
  first := fun wanted member =>
    ⟨sameTasks.trans unsubscribed.tasks, first wanted member⟩
  unfed := fun _ => sameOut ▸ unsubscribed.unfed
  unconfirmed := sameOut ▸ unsubscribed.unconfirmed

private theorem handled_subscribe {ctx : ConnContext} {after : Option Nat}
    {effects : List Effect} (available : env.natsAvailable = true)
    (handled :
      Handled env ctx (some since) (some (.command (.subscribe stream))) after
        effects) :
    (∀ effect, effect ∈ effects → Resumes stream since effect) ∧
      ∀ wanted, .registrySubscribe wanted ∈ effects →
        ∃ rest, effects = .registrySubscribe wanted :: rest ∧
          ∀ other, .registrySubscribe other ∉ rest := by
  cases handled with
  | rejected => simp [rejectEffect, Resumes]
  | ignored => simp
  | subscribed _ presence allowed isPresence =>
      have confirms :
          confirmEffect env (some since) stream =
            .spawnReplay stream since := by
        simp [confirmEffect, available]
      rw [List.all_eq_true] at isPresence
      have notSubscribe :
          ∀ other, .registrySubscribe other ∉
            presence ++ [Effect.spawnReplay stream since] := by
        intro other member
        rcases List.mem_append.mp member with inPresence | isLast
        · cases isPresence _ inPresence
        · cases List.mem_singleton.mp isLast
      rw [confirms]
      constructor
      · intro effect member
        simp only [List.mem_cons, List.mem_append, List.not_mem_nil,
          or_false] at member
        rcases member with rfl | inPresence | rfl
        · trivial
        · have only := isPresence effect inPresence
          cases effect <;> trivial
        · rfl
      · intro wanted member
        rcases List.mem_cons.mp member with same | inRest
        · exact ⟨_, by rw [same], notSubscribe⟩
        · exact absurd inRest (notSubscribe wanted)

/-- The Subscribe of a client whose position is known starts a replay. -/
theorem Unsubscribed.subscribe (unsubscribed : session.Unsubscribed stream)
    (available : env.natsAvailable = true)
    (position : session.inbound.lastSeq = some since) :
    (session.receive env (some (.command (.subscribe stream)))).Scripted stream
      since := by
  have handled :=
    handled_handleClientFrame env session.ctx session.inbound
      (some (.command (.subscribe stream)))
  rw [position] at handled
  obtain ⟨resumes, first⟩ := handled_subscribe available handled
  exact scripted_of_todo unsubscribed rfl rfl resumes first

private theorem scripted_first_step (scripted : session.Scripted stream since)
    (noFrame : ∀ frame, action ≠ .frame frame)
    (steps : Steps env session action next) {wanted : String}
    (member : .registrySubscribe wanted ∈ next.todo) :
    next.tasks = [] ∧
      ∃ rest, next.todo = .registrySubscribe wanted :: rest ∧
        ∀ other, .registrySubscribe other ∉ rest := by
  rcases steps.todo_cases with
    same | ⟨performed, popped⟩ | ⟨frame, isFrame, -⟩ | routine
  · rw [same] at member ⊢
    obtain ⟨noTasks, rest, isTodo, only⟩ := scripted.first wanted member
    refine ⟨?_, rest, isTodo, only⟩
    rcases steps.tasks_cases with
      unchanged | ⟨index, _, _, _, _, -, present, -, -, -⟩ |
        ⟨identifier, position, others, -, spawning, -⟩
    · exact unchanged.trans noTasks
    · rw [noTasks] at present
      cases present
    · cases isTodo.symm.trans spawning
  · -- The call was the first effect, and there is no other.
    obtain ⟨-, rest, isTodo, only⟩ :=
      scripted.first wanted (popped ▸ List.mem_cons_of_mem _ member)
    cases popped.symm.trans isTodo
    exact absurd member (only wanted)
  · exact absurd isFrame (noFrame frame)
  · exact absurd (routine _ member) (by simp [IsRoutine])

theorem Scripted.step (scripted : session.Scripted stream since)
    (delivers : DeliversLive env action)
    (noFrame : ∀ frame, action ≠ .frame frame)
    (steps : Steps env session action next) :
    next.Scripted stream since where
  tasks := by
    intro task member
    rcases steps.mem_tasks member with
      before | ⟨before, stimulus, move, present, -, -, sameSeq⟩ |
        ⟨rest, todo, -⟩
    · exact scripted.tasks task before
    · exact sameSeq.trans (scripted.tasks before present)
    · exact scripted.todo (.spawnReplay task.identifier task.lastSeq)
        (by simp [todo])
  todo := by
    intro effect member
    rcases steps.mem_todo member with before | ⟨frame, isFrame, -⟩ | routine
    · exact scripted.todo effect before
    · exact absurd isFrame (noFrame frame)
    · exact resumes_of_isRoutine routine
  first := fun _ => scripted_first_step scripted noFrame steps
  unfed := by
    intro noTasks
    have wasEmpty : session.tasks = [] := by
      rcases steps.tasks_cases with
        same | ⟨index, _, _, _, _, -, -, -, -, isSet⟩ |
          ⟨identifier, position, rest, -, -, extended⟩
      · exact same.symm.trans noTasks
      · rw [isSet] at noTasks
        simpa using noTasks
      · rw [extended] at noTasks
        simp at noTasks
    rcases steps.replay_sent with
      same | ⟨index, _, _, _, _, _, -, present, -, -, -⟩
    · exact same.trans (scripted.unfed wasEmpty)
    · rw [wasEmpty] at present
      cases present
  unconfirmed := by
    refine unconfirmed_step scripted.unconfirmed ?_ delivers steps
    intro answered
    exact scripted.todo _ answered rfl

end TurbocableServer.Connection.Session
