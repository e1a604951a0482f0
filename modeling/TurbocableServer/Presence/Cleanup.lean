import TurbocableServer.Presence.Tracking

/-!
# Presence after a disconnect

At the end of `inbound_loop` the keys of all heartbeats are deleted one by one,
and the heartbeat handles are dropped afterwards.  The keys are gone when
`inbound_loop` returns, unless a heartbeat refreshes its key between the delete
and the drop.
-/

namespace TurbocableServer.Presence.Tracking

open Foundations Connection

/-- `inbound_loop` has returned. -/
def returned (session : Session) : Bool :=
  match session.phase, session.todo with
  | .closed, _ => true
  | .leaving, [.dropSenders] => true
  | _, _ => false

/-- The keys of the heartbeats of a connection. -/
def ownKeys (env : Environment) (session : Session) : List String :=
  match presenceUser env session.ctx with
  | some user =>
      session.inbound.heartbeats.map
        (fun stream => presenceKey stream user)
  | none => []

/-- From the beginning of the clean-up on, nobody else puts a key of the
connection. -/
def Undisturbed (env : Environment) (conn : ConnId) (sys : Tracking)
    (action : TrackingAction) : Prop :=
  ∀ writer stream user,
    sys.writeOf action = some (writer, (stream, user), true) →
      writer ≠ conn → (sys.sessions conn).phase ≠ .serving →
        presenceKey stream user ∉ ownKeys env (sys.sessions conn)

variable {env : Environment} {sys next : Tracking} {action : TrackingAction}
variable {conn : ConnId} {user : String}

/-- Every key of a heartbeat has still to be deleted, or is not there. -/
def CleansUp (conn : ConnId) (user : String) (sys : Tracking) : Prop :=
  (sys.sessions conn).phase ≠ .unborn →
    (sys.sessions conn).phase ≠ .serving →
      ∀ stream, stream ∈ (sys.sessions conn).inbound.heartbeats →
        ((stream, user), false) ∈ (sys.sessions conn).pendingWrites ∨
          presenceKey stream user ∉ sys.bucket

private theorem CleansUp.elsewhere (sound : sys.Sound env)
    (cleansUp : CleansUp conn user sys)
    (steps : Steps env sys action next)
    (isUser : presenceUser env (sys.sessions conn).ctx = some user)
    (undisturbed : Undisturbed env conn sys action)
    (inTime : InTime conn sys action)
    (same : next.sessions conn = sys.sessions conn)
    (notOwn : ∀ move, action ≠ .session conn move) :
    CleansUp conn user next := by
  intro born left stream member
  rw [same] at born left member ⊢
  rcases steps.mem_bucket (presenceKey stream user) with
    unchanged | ⟨writer, written, writerUser, on, writes, isKey, inBucket⟩
  · rw [unchanged]
    exact cleansUp born left stream member
  · rw [inBucket]
    cases on with
    | false => simp
    | true =>
        left
        by_cases own : writer = conn
        · subst own
          rcases writeOf_cases writes with
            ⟨move, effect, isOwn, -, -⟩ | ⟨rfl, present, -⟩
          · exact absurd isOwn (notOwn move)
          · obtain ⟨rfl, ⟨serving, -⟩ | pending⟩ :=
              sound.tick_cases isUser present inTime
            · exact absurd serving left
            · rwa [presenceKey_left_inj.mp isKey] at pending
        · refine absurd ?_ (undisturbed writer _ _ writes own left)
          rw [isKey, ownKeys, isUser]
          exact List.mem_map_of_mem member

/-- The next delete of the clean-up. -/
private theorem CleansUp.performed (sound : sys.Sound env)
    (cleansUp : CleansUp conn user sys)
    (steps : Steps env sys (.session conn .effect) next)
    (isUser : presenceUser env (sys.sessions conn).ctx = some user)
    {effect : Effect}
    (todo : (sys.sessions conn).todo = effect :: (next.sessions conn).todo)
    (same : (sys.sessions conn).SamePresence (next.sessions conn)) :
    CleansUp conn user next := by
  intro born left stream member
  rw [same.phase] at born left
  rw [same.inbound] at member
  have works := (sound.attends conn).works user isUser
  have isEffect : (sys.sessions conn).performs .effect = some effect := by
    rw [Session.performs, todo]
    rfl
  rcases cleansUp born left stream member with pending | absent
  · rw [Session.pendingWrites_of_todo todo, List.mem_append,
      Option.mem_toList] at pending
    rcases pending with isFirst | later
    · right
      have writes :
          sys.writeOf (.session conn .effect) =
            some (conn, (stream, user), false) := by
        simp only [writeOf, isEffect, Option.bind_some]
        rw [Option.mem_def.mp isFirst]
        rfl
      rw [steps.bucket, writes]
      simp [mem_written]
    · exact Or.inl later
  · right
    rcases steps.mem_bucket (presenceKey stream user) with
      unchanged | ⟨writer, written, writerUser, on, writes, -, inBucket⟩
    · rwa [unchanged]
    · rw [inBucket]
      cases on with
      | false => simp
      | true =>
          -- The clean-up puts nothing.
          rcases writeOf_cases writes with
            ⟨move, put, isOwn, isPut, isWrite⟩ | ⟨isTick, -, -⟩
          · cases isOwn
            rw [isEffect] at isPut
            cases isPut
            have member : effect ∈ (sys.sessions conn).todo := by
              rw [todo]
              exact List.mem_cons_self
            cases works.planned member with
            | put _ serving _ => exact absurd serving left
            | quiet _ isQuiet =>
                cases (Effect.write_of_isQuiet isQuiet).symm.trans isWrite
            | _ => cases isWrite
          · cases isTick

/-- A step that writes nothing and plans nothing. -/
private theorem CleansUp.kept (cleansUp : CleansUp conn user sys)
    (steps : Steps env sys action next)
    (noWrite : sys.writeOf action = none)
    (born : (sys.sessions conn).phase ≠ .unborn)
    (left : (sys.sessions conn).phase ≠ .serving)
    (sameInbound :
      (next.sessions conn).inbound = (sys.sessions conn).inbound)
    (samePending :
      (next.sessions conn).pendingWrites =
        (sys.sessions conn).pendingWrites) :
    CleansUp conn user next := by
  intro _ _ stream member
  rw [sameInbound] at member
  rw [samePending, steps.bucket, noWrite]
  exact cleansUp born left stream member

theorem CleansUp.step (sound : sys.Sound env)
    (cleansUp :
      ∀ user, presenceUser env (sys.sessions conn).ctx = some user →
        CleansUp conn user sys)
    (steps : Steps env sys action next)
    (undisturbed : Undisturbed env conn sys action)
    (inTime : InTime conn sys action)
    (isUser : presenceUser env (next.sessions conn).ctx = some user) :
    CleansUp conn user next := by
  cases steps.connMove conn with
  | elsewhere same _ notOwn =>
      rw [same] at isUser
      exact (cleansUp user isUser).elsewhere sound steps isUser undisturbed
        inTime same notOwn
  | own move isMove stepped _ =>
      subst isMove
      intro born left
      have moves := (Session.steps_of_step stepped).presenceMove
      rcases moves.left_cases left with
        ⟨notEffect, same, sameTodo⟩ | ⟨effect, rfl, todo, same⟩ |
          ⟨sameCtx, isTodo⟩ | ⟨rfl, todo, sameCtx, sameInbound⟩
      · rw [same.ctx] at isUser
        have noWrite : sys.writeOf (.session conn move) = none := by
          rw [writeOf, Session.performs_eq_none notEffect]
          rfl
        refine (cleansUp user isUser).kept steps noWrite ?_ ?_ same.inbound ?_
          born left
        · rwa [← same.phase]
        · rwa [← same.phase]
        · rw [Session.pendingWrites, sameTodo, Session.pendingWrites]
      · rw [same.ctx] at isUser
        exact (cleansUp user isUser).performed sound steps isUser todo same
          born left
      · intro stream member
        left
        refine Session.mem_pendingWrites.mpr
          ⟨.presenceDelete stream user, ?_, rfl⟩
        rw [isTodo, leaveEffects, isUser]
        exact List.mem_append_left _
          (List.mem_map_of_mem (KeyOrder.mem_list.mpr member))
      · rw [sameCtx] at isUser
        have isLeaving :=
          ((sound.attends conn).works user isUser).leaving_of_dropSenders todo
        have noWrite : sys.writeOf (.session conn .effect) = none := by
          rw [writeOf, Session.performs, todo]
          rfl
        refine (cleansUp user isUser).kept steps noWrite ?_ ?_ sameInbound ?_
          born left
        · simp [isLeaving]
        · simp [isLeaving]
        · exact (Session.pendingWrites_of_todo todo).symm

/-- The runs in which nobody else puts the keys of the connection, and its
heartbeats tick in time. -/
theorem cleansUp_of_reaches
    (run :
      Reaches (step env)
        (fun sys action =>
          Undisturbed env conn sys action ∧ InTime conn sys action)
        (initial env) sys)
    (isUser : presenceUser env (sys.sessions conn).ctx = some user) :
    CleansUp conn user sys := by
  induction run generalizing user with
  | refl =>
      intro born
      exact absurd rfl born
  | tail before last ih =>
      obtain ⟨label, ⟨undisturbed, inTime⟩, moved⟩ := last
      exact CleansUp.step (sound_of_reaches before)
        (fun _ => ih) (steps_of_step moved) undisturbed
        inTime isUser

/-- When `inbound_loop` returns, nothing is left to be deleted. -/
theorem pendingWrites_of_returned {session : Session}
    (attends : session.Attends env)
    (isUser : presenceUser env session.ctx = some user)
    (isReturned : returned session = true) :
    session.pendingWrites = [] ∧ session.phase ≠ .unborn ∧
      session.phase ≠ .serving := by
  unfold returned at isReturned
  split at isReturned
  · rename_i isClosed
    have noTodo := (attends.works user isUser).todo_of_closed isClosed
    simp [Session.pendingWrites, noTodo, isClosed]
  · rename_i isLeaving isTodo
    simp [Session.pendingWrites, isTodo, isLeaving, Effect.write]
  · cases isReturned

/-- After `inbound_loop` has returned, no key of the connection is in the
bucket. -/
theorem disconnect_leaves_no_presence (conn : ConnId)
    (run :
      Reaches (step env)
        (fun sys action =>
          Undisturbed env conn sys action ∧ InTime conn sys action)
        (initial env) sys)
    (isReturned : returned (sys.sessions conn) = true) :
    ∀ key, key ∈ ownKeys env (sys.sessions conn) → key ∉ sys.bucket := by
  have sound := sound_of_reaches run
  intro key member
  unfold ownKeys at member
  split at member
  · rename_i user isUser
    obtain ⟨stream, isBeat, rfl⟩ := List.mem_map.mp member
    obtain ⟨noPending, born, left⟩ :=
      pendingWrites_of_returned (sound.attends conn) isUser isReturned
    have deleted := cleansUp_of_reaches run isUser born left stream isBeat
    rw [noPending] at deleted
    simpa using deleted
  · cases member

/-! ## One connection -/

theorem undisturbed_of_conn (isConn : action.conn = conn) :
    Undisturbed env conn sys action := by
  intro writer stream user writes different
  exact absurd ((conn_of_writeOf writes).symm.trans isConn) different

/-- The heartbeat ticks while the connection is served and while the key is
about to be deleted. -/
def timely : Tracking :=
  (execute (step newsEnv)
    (fun sys action => action.conn = 0 ∧ InTime 0 sys action)
    (initial newsEnv)
    (joinNews 0 "alice" ++
      [.tick 0 "news", .session 0 .hangup, .tick 0 "news",
        .session 0 .effect, .session 0 .effect])).get (by decide)

theorem timely_disconnect_leaves_no_presence :
    returned (timely.sessions 0) = true ∧
      ownKeys newsEnv (timely.sessions 0) = ["news.alice"] ∧
      "news.alice" ∉ timely.bucket := by
  have isKeys :
      ownKeys newsEnv (timely.sessions 0) = ["news.alice"] := by
    decide
  have run :
      Reaches (step newsEnv)
        (fun sys action =>
          Undisturbed newsEnv 0 sys action ∧ InTime 0 sys action)
        (initial newsEnv) timely :=
    (reaches_execute_get _).weaken
      (fun _ _ ⟨isConn, inTime⟩ => ⟨undisturbed_of_conn isConn, inTime⟩)
  exact ⟨by decide, isKeys,
    disconnect_leaves_no_presence 0 run (by decide) "news.alice"
      (by simp [isKeys])⟩

/-- The heartbeat ticks once more when its key has been deleted. -/
def ghost : Tracking :=
  (execute (step newsEnv) (fun _ action => action.conn = 0)
    (initial newsEnv)
    (joinNews 0 "alice" ++
      [.session 0 .hangup, .session 0 .effect, .tick 0 "news",
        .session 0 .effect])).get (by decide)

theorem late_tick_leaves_presence :
    Reaches (step newsEnv) (Undisturbed newsEnv 0) (initial newsEnv) ghost ∧
      returned (ghost.sessions 0) = true ∧
      ∃ key, key ∈ ownKeys newsEnv (ghost.sessions 0) ∧
        key ∈ ghost.bucket :=
  ⟨(reaches_execute_get _).weaken (fun _ _ => undisturbed_of_conn),
    by decide, "news.alice", by decide, by decide⟩

end TurbocableServer.Presence.Tracking
